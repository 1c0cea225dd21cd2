import TableSchema.Command.Response
import TableSchema.Proofs.Json.Lines

/-!
Responses to a sink that runs full.

A sink takes bytes in their order as long as it has room, so it matters how many bytes a line has
and not in how many pieces it comes. Main result: what a sink of limited room gets of a response is
the beginning of the line, and the byte at which it runs full tells how the failure is worded.
-/

set_option autoImplicit false

namespace TableSchema

def Response.line (response : Response) : List UInt8 :=
  Sink.bytesOf (response.text ++ "\n")

namespace Sink

theorem bytesOf_append (first second : String) :
    bytesOf (first ++ second) = bytesOf first ++ bytesOf second := by
  simp [bytesOf]

def lineEnd : UInt8 := 10

theorem lineEnd_not_mem_text (response : Response) : lineEnd ∉ bytesOf response.text :=
  Json.lineEnd_not_mem_utf8_render _

theorem write_unlimited (response : Response) (before : List UInt8) (failure : String) :
    (Sink.mk before none failure none).write response =
      (.ok (), ⟨before ++ bytesOf response.text ++ [lineEnd], none, failure, none⟩) :=
  rfl

section Take

variable {written bytes : List UInt8} {room : Nat} {failure : String} {flushed : Option String}

theorem take_of_le (fits : bytes.length ≤ room) :
    (Sink.mk written (some room) failure flushed).take bytes =
      (.ok (), ⟨written ++ bytes, some (room - bytes.length), failure, flushed⟩) := by
  simp only [take, if_pos fits, List.take_of_length_le fits]

theorem take_of_lt (short : room < bytes.length) :
    (Sink.mk written (some room) failure flushed).take bytes =
      (.error failure, ⟨written ++ bytes.take room, some 0, failure, flushed⟩) := by
  have beyond : ¬ bytes.length ≤ room := by omega
  have nothing : room - bytes.length = 0 := by omega
  simp only [take, if_neg beyond, nothing]

end Take

/-- Hands over pieces one after another, up to the first that is not taken whole. -/
def takeEach (sink : Sink) : List (List UInt8) → Except String Unit × Sink
  | [] => (.ok (), sink)
  | piece :: rest =>
    match sink.take piece with
    | (.ok (), next) => next.takeEach rest
    | (.error failure, next) => (.error failure, next)

theorem take_append (sink : Sink) (piece rest : List UInt8) :
    sink.take (piece ++ rest) =
      match sink.take piece with
      | (.ok (), next) => next.take rest
      | (.error failure, next) => (.error failure, next) := by
  obtain ⟨written, room, failure, flushed⟩ := sink
  cases room with
  | none => simp only [take, List.append_assoc]
  | some room =>
    have length : (piece ++ rest).length = piece.length + rest.length := List.length_append
    by_cases fits : piece.length ≤ room
    · rw [take_of_le fits]
      dsimp only
      by_cases whole : rest.length ≤ room - piece.length
      · have all : (piece ++ rest).length ≤ room := by omega
        have left : room - (piece ++ rest).length = room - piece.length - rest.length := by omega
        rw [take_of_le whole, take_of_le all, left, List.append_assoc]
      · have short : room < (piece ++ rest).length := by omega
        have cut : room - piece.length < rest.length := by omega
        rw [take_of_lt short, take_of_lt cut, List.take_append, List.take_of_length_le fits,
          List.append_assoc]
    · have beyond : room < piece.length := by omega
      have short : room < (piece ++ rest).length := by omega
      rw [take_of_lt beyond, take_of_lt short, List.take_append_of_le_length (Nat.le_of_lt beyond)]

theorem takeEach_eq_take (sink : Sink) (pieces : List (List UInt8)) :
    sink.takeEach pieces = sink.take pieces.flatten := by
  induction pieces generalizing sink with
  | nil =>
    obtain ⟨written, room, failure, flushed⟩ := sink
    cases room <;> simp [takeEach, take]
  | cons piece rest ih =>
    rw [List.flatten_cons, take_append, takeEach]
    rcases sink.take piece with ⟨_ | _, next⟩
    · rfl
    · exact ih next

def writePieces (sink : Sink) (pieces : List (List UInt8)) : Except CommandError Unit × Sink :=
  match sink.takeEach pieces with
  | (.error failure, sink) => (.error (.output ("JSON error: " ++ failure)), sink)
  | (.ok (), sink) =>
    match sink.take (bytesOf "\n") with
    | (.error failure, sink) => (.error (.output failure), sink)
    | (.ok (), sink) =>
      match sink.flush with
      | .error failure => (.error (.output failure), sink)
      | .ok () => (.ok (), sink)

theorem writePieces_eq_write (sink : Sink) {response : Response} {pieces : List (List UInt8)}
    (whole : pieces.flatten = bytesOf response.text) :
    sink.writePieces pieces = sink.write response := by
  have taken := sink.takeEach_eq_take pieces
  rw [whole] at taken
  rw [writePieces, taken]
  rfl

/-- The ways in which the writing of a line to a sink of limited room can end: the line fits, and is
flushed or not; only its end does not fit; or its text does not. -/
inductive WriteCase (written : List UInt8) (room : Nat) (failure : String)
    (flushed : Option String) (line : List UInt8) : Except CommandError Unit × Sink → Prop
  | whole (fits : line.length ≤ room) (done : flushed = none) :
      WriteCase written room failure flushed line
        (.ok (), ⟨written ++ line, some (room - line.length), failure, flushed⟩)
  | unflushed {stuck : String} (fits : line.length ≤ room) (fails : flushed = some stuck) :
      WriteCase written room failure flushed line
        (.error (.output stuck), ⟨written ++ line, some (room - line.length), failure, flushed⟩)
  | unended (short : room + 1 = line.length) : WriteCase written room failure flushed line
      (.error (.output failure), ⟨written ++ line.take room, some 0, failure, flushed⟩)
  | broken (short : room + 1 < line.length) : WriteCase written room failure flushed line
      (.error (.output ("JSON error: " ++ failure)),
        ⟨written ++ line.take room, some 0, failure, flushed⟩)

theorem writeCase (written : List UInt8) (room : Nat) (failure : String)
    (flushed : Option String) (response : Response) :
    WriteCase written room failure flushed response.line
      ((Sink.mk written (some room) failure flushed).write response) := by
  have line : response.line = bytesOf response.text ++ bytesOf "\n" := bytesOf_append _ _
  have ending : (bytesOf "\n").length = 1 := rfl
  have length : response.line.length = (bytesOf response.text).length + 1 := by
    rw [line, List.length_append, ending]
  rw [write]
  by_cases text : (bytesOf response.text).length ≤ room
  · rw [take_of_le text]
    dsimp only
    by_cases fits : response.line.length ≤ room
    · have left : room - (bytesOf response.text).length - (bytesOf "\n").length =
          room - response.line.length := by omega
      rw [take_of_le (by omega), left, List.append_assoc, ← line]
      cases flushed with
      | none => exact .whole fits rfl
      | some stuck => exact .unflushed fits rfl
    · have none_left : room - (bytesOf response.text).length = 0 := by omega
      have all_text : response.line.take room = bytesOf response.text := by
        have exactly : room = (bytesOf response.text).length := by omega
        rw [line, exactly, List.take_left]
      rw [none_left, take_of_lt (by omega), List.take_zero, List.append_nil, ← all_text]
      exact .unended (by omega)
  · have short : room < (bytesOf response.text).length := by omega
    have begun : response.line.take room = (bytesOf response.text).take room := by
      rw [line, List.take_append_of_le_length (Nat.le_of_lt short)]
    rw [take_of_lt short, ← begun]
    exact .broken (by omega)

structure WritesUpTo (written : List UInt8) (room : Nat) (failure : String) (line : List UInt8)
    (answer : Except CommandError Unit × Sink) : Prop where
  succeeds : answer.1 = .ok () ↔ line.length ≤ room
  whole : line.length ≤ room → answer.2.written = written ++ line
  beginning : room < line.length → answer.2.written = written ++ line.take room
  told : room < line.length → ∃ e, answer.1 = .error e ∧ e.code = "WORLDSCHEMA_CLI_IO_ERROR" ∧
    e.message = if room < line.length - 1 then "JSON error: " ++ failure else failure

theorem WriteCase.writesUpTo {written line : List UInt8} {room : Nat} {failure : String}
    {answer : Except CommandError Unit × Sink}
    (outcome : WriteCase written room failure none line answer) :
    WritesUpTo written room failure line answer := by
  cases outcome with
  | whole fits =>
    have inside : ¬ room < line.length := by omega
    exact ⟨iff_of_true rfl fits, fun _ => rfl, fun short => absurd short inside,
      fun short => absurd short inside⟩
  | unflushed fits fails => cases fails
  | unended short =>
    have beyond : ¬ line.length ≤ room := by omega
    have all_text : ¬ room < line.length - 1 := by omega
    refine ⟨iff_of_false nofun beyond, fun fits => absurd fits beyond, fun _ => rfl, ?_⟩
    intro _
    exact ⟨_, rfl, rfl, (if_neg all_text).symm⟩
  | broken short =>
    have beyond : ¬ line.length ≤ room := by omega
    have in_text : room < line.length - 1 := by omega
    refine ⟨iff_of_false nofun beyond, fun fits => absurd fits beyond, fun _ => rfl, ?_⟩
    intro _
    exact ⟨_, rfl, rfl, (if_pos in_text).symm⟩

/-- A response to a sink with room for some bytes is written whole where its line has no more. Else
the sink gets as many bytes of the line, and the failure is told as one of the text or of the line
end, according to where it came. In whatever pieces the text is handed over, the end is the same. -/
theorem write_limited (response : Response) (written : List UInt8) (room : Nat)
    (failure : String) :
    WritesUpTo written room failure response.line
        ((Sink.mk written (some room) failure none).write response) ∧
      ∀ pieces : List (List UInt8), pieces.flatten = bytesOf response.text →
        (Sink.mk written (some room) failure none).writePieces pieces =
          (Sink.mk written (some room) failure none).write response :=
  ⟨(writeCase written room failure none response).writesUpTo, fun _ => writePieces_eq_write _⟩

theorem write_limited_at_lineEnd :
    (Response.ok .null).line.length = 28 ∧
      [bytesOf "\x7b\"data\":null,", bytesOf "\"status\":\"ok\"\x7d"].flatten =
        bytesOf (Response.ok .null).text ∧
      (Sink.limited 27 "full").writePieces
          [bytesOf "\x7b\"data\":null,", bytesOf "\"status\":\"ok\"\x7d"] =
        (Sink.limited 27 "full").write (.ok .null) ∧
      ∃ e, ((Sink.limited 27 "full").write (.ok .null)).1 = .error e ∧
        e.code = "WORLDSCHEMA_CLI_IO_ERROR" ∧ e.message = "full" := by
  have length : (Response.ok .null).line.length = 28 := by decide +kernel
  have whole : [bytesOf "\x7b\"data\":null,", bytesOf "\"status\":\"ok\"\x7d"].flatten =
      bytesOf (Response.ok .null).text := by decide +kernel
  obtain ⟨upTo, pieces⟩ := write_limited (.ok .null) [] 27 "full"
  have told := upTo.told (by omega)
  rw [length] at told
  exact ⟨length, whole, pieces _ whole, told⟩

/-- A line that fits has been taken whole when the flush fails. -/
theorem write_of_flushFailure {response : Response} {room : Nat}
    (fits : response.line.length ≤ room) (written : List UInt8) (failure stuck : String) :
    (Sink.mk written (some room) failure (some stuck)).write response =
      (.error (.output stuck),
        ⟨written ++ response.line, some (room - response.line.length), failure, some stuck⟩) := by
  generalize answered : (Sink.mk written (some room) failure (some stuck)).write response = answer
  have outcome := writeCase written room failure (some stuck) response
  rw [answered] at outcome
  cases outcome with
  | whole fits done => cases done
  | unflushed fits fails => rw [Option.some.inj fails]
  | unended short => omega
  | broken short => omega

end Sink

end TableSchema
