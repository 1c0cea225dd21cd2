import TableSchema.Command.Error
import TableSchema.Json.Printer

/-!
Responses: the one line that a command writes, and where it goes.

A response is written as its compact text, with the keys of all objects in ascending order, and a
line end. A sink may run full at any byte; what it has taken stays written.
-/

set_option autoImplicit false

namespace TableSchema

inductive Response where
  | ok (data : Json)
  | error (code : String) (details : Json)
  deriving DecidableEq

namespace Response

def toJson : Response → Json
  | .ok data => .object [("status", .text "ok"), ("data", data)]
  | .error code details =>
    .object [("status", .text "error"), ("code", .text code), ("details", details)]

def text (response : Response) : String :=
  response.toJson.normalize.render

end Response

/-- Where bytes go: those taken so far, how many more will be taken if there is a limit, and the
texts of the failures that come then and, if one does, when the bytes are flushed. -/
structure Sink where
  written : List UInt8
  room : Option Nat
  failure : String
  flushFailure : Option String
  deriving DecidableEq, Repr

namespace Sink

def unlimited : Sink := ⟨[], none, "", none⟩

def limited (room : Nat) (failure : String) : Sink := ⟨[], some room, failure, none⟩

/-- Takes bytes as far as there is room. The result tells whether all of them were taken. -/
def take (sink : Sink) (bytes : List UInt8) : Except String Unit × Sink :=
  match sink.room with
  | none => (.ok (), { sink with written := sink.written ++ bytes })
  | some room =>
    (if bytes.length ≤ room then .ok () else .error sink.failure,
      { sink with
        written := sink.written ++ bytes.take room
        room := some (room - bytes.length) })

def flush (sink : Sink) : Except String Unit :=
  match sink.flushFailure with
  | none => .ok ()
  | some failure => .error failure

def bytesOf (text : String) : List UInt8 :=
  text.toUTF8.data.toList

/-- Writes a response as a line and flushes it. A failure within the text is told apart from one at
the line end and from one of the flush. -/
def write (sink : Sink) (response : Response) : Except CommandError Unit × Sink :=
  match sink.take (bytesOf response.text) with
  | (.error failure, sink) => (.error (.output ("JSON error: " ++ failure)), sink)
  | (.ok (), sink) =>
    match sink.take (bytesOf "\n") with
    | (.error failure, sink) => (.error (.output failure), sink)
    | (.ok (), sink) =>
      match sink.flush with
      | .error failure => (.error (.output failure), sink)
      | .ok () => (.ok (), sink)

end Sink

end TableSchema
