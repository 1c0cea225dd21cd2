import TableSchema.Build
import TableSchema.Declaration.Reader
import TableSchema.Proofs.Json.Levels
import TableSchema.Proofs.Json.Opening

/-!
Documents of several declarations.

Whether a document holds one declaration or an array of them is told by its first character. An
array of documents, each of one object, holds what the documents hold one after the other.
-/

set_option autoImplicit false

namespace TableSchema

section Levels

open Reader (AnyDepth)

theorem FullTable.anyDepth_fields : ∀ field ∈ FullTable.shape.fields, field.AnyDepth := by
  simp only [FullTable.shape, List.forall_mem_cons, List.not_mem_nil, false_implies, implies_true,
    and_true]
  exact ⟨Field.anyDepth_of (Reader.anyDepth_text.membersOf "a JSON object") ..,
    Field.anyDepth_of Reader.anyDepth_text.listOf ..,
    Field.anyDepth_of Reader.anyDepth_text.optional ..,
    Field.anyDepth_of Options.anyDepth_reader ..⟩

theorem TableDeclaration.anyDepth_reader : AnyDepth TableDeclaration.reader := by
  intro depth other node declaration found shallow
  cases node with
  | text content => cases content <;> exact found
  | object members ending =>
    obtain ⟨body, inner, rfl⟩ := exists_of_map_eq_ok found
    have again := RecordShape.anyDepth_readObject FullTable.anyDepth_fields inner shallow
    rw [TableDeclaration.reader, again]
    rfl
  | _ => cases found

theorem Declaration.anyDepth_reader : AnyDepth Declaration.shape.reader := by
  refine RecordShape.anyDepth_reader ?_
  simp only [Declaration.shape, List.forall_mem_cons, List.not_mem_nil, false_implies,
    implies_true, and_true]
  exact ⟨Field.anyDepth_of Reader.anyDepth_text ..,
    Field.anyDepth_of (TableDeclaration.anyDepth_reader.membersOf "a JSON object") ..,
    Field.anyDepth_of Options.anyDepth_reader ..,
    Field.anyDepth_of Reader.anyDepth_text.listOf.optional ..⟩

end Levels

theorem RecordShape.closed_of_readObject {σ α : Type} {shape : RecordShape σ α} {depth : Nat}
    {members : List (Option String × Node)} {ending : ObjectEnd} {value : α}
    (read : shape.readObject depth members ending = .ok value) : ending = .closed := by
  obtain ⟨_, read⟩ := Reader.descend_eq_ok read
  obtain ⟨_, _, read⟩ := exists_of_bind_eq_ok read
  obtain ⟨_, sound, _⟩ := exists_of_bind_eq_ok read
  exact ObjectEnd.fault?_eq_none_iff.1 (Reader.orFault_eq_ok sound).1

namespace Declaration

/-- The first character that is no blank in any script. -/
def opening? (text : String) : Option Char :=
  text.toList.find? fun c => !Text.isBlank c

private theorem isBlank_of_scanner {c : Char} (blank : Scanner.isBlank c = true) :
    Text.isBlank c = true := by
  simp only [Scanner.isBlank, Bool.or_eq_true, beq_iff_eq] at blank
  rcases blank with ((rfl | rfl) | rfl) | rfl <;> decide

private theorem opening?_eq {text : String} {c : Char} (opens : Document.opening? text = some c)
    (shown : Text.isBlank c = false) : opening? text = some c := by
  obtain ⟨_, blanks, rest, chars, blank⟩ := List.find?_eq_some_iff_append.1 opens
  refine List.find?_eq_some_iff_append.2 ⟨by simp [shown], blanks, rest, chars, ?_⟩
  intro d member
  simpa using isBlank_of_scanner (by simpa using blank d member)

private theorem isArray_of_opening? {text : String} (opens : opening? text = some '[') :
    (Document.ofText text).root.isArray = true ∨
      Document.ofText text = ⟨.fault .malformed, false⟩ := by
  -- The two notions of a blank differ, so the bracket may come after one that no document has.
  cases first : Document.opening? text with
  | none =>
    have blank := List.find?_eq_none.1 first '[' (List.mem_of_find?_eq_some opens)
    exact absurd rfl blank
  | some c =>
    cases shown : Text.isBlank c with
    | true => exact .inr (Document.ofText_of_foreign_blank first shown)
    | false =>
      obtain rfl : c = '[' := Option.some.inj ((opening?_eq first shown).symm.trans opens)
      exact .inl ((Document.isArray_ofText text).2 first)

private theorem run_documentReader {read : Reader (List Declaration)} {text : String}
    (alike : documentReader Reader.maxDepth (Document.ofText text).root =
      read Reader.maxDepth (Document.ofText text).root) :
    ofText text = Reader.run read text := by
  rw [ofText, Reader.run, Reader.run, alike]

theorem ofText_eq_of_opening (text : String) :
    ofText text =
      if opening? text = some '[' then Reader.run (Reader.listOf shape.reader) text
      else Reader.run (Reader.map (fun one => [one]) shape.reader) text := by
  split
  · rename_i opens
    refine run_documentReader ?_
    rcases isArray_of_opening? opens with isArray | broken
    · cases root : (Document.ofText text).root with
      | array items ending => rfl
      | _ => simp [root, Node.isArray] at isArray
    · rw [broken]
      rfl
  · rename_i other
    refine run_documentReader ?_
    cases root : (Document.ofText text).root with
    | array items ending =>
      have first := (Document.isArray_ofText text).1 (by rw [root]; rfl)
      exact absurd (opening?_eq first (by decide)) other
    | _ => rfl

private theorem exists_node_of_ofText {text : String} {declarations : List Declaration}
    (read : ofText text = .ok declarations) (opens : opening? text = some '\x7b') :
    ∃ declaration root, declarations = [declaration] ∧ Document.ofText text = ⟨root, false⟩ ∧
      root.IsClosed ∧
      ∀ depth, root.nesting ≤ depth → shape.reader depth root = .ok declaration := by
  have other : opening? text ≠ some '[' := by
    rw [opens]
    decide
  rw [ofText_eq_of_opening, if_neg other] at read
  obtain ⟨found, alone⟩ := Reader.run_eq_ok_iff.1 read
  obtain ⟨declaration, inner, rfl⟩ := exists_of_map_eq_ok found
  have notArray : (Document.ofText text).root.isArray ≠ true :=
    fun isArray => other (opening?_eq ((Document.isArray_ofText text).1 isArray) (by decide))
  refine ⟨declaration, (Document.ofText text).root, rfl, ?_, ?_, ?_⟩
  · rw [← alone]
  · cases root : (Document.ofText text).root with
    | object members ending =>
      rw [root] at inner
      exact RecordShape.closed_of_readObject inner
    | array items ending => exact absurd (by rw [root]; rfl) notArray
    | _ =>
      rw [root] at inner
      cases inner
  · exact fun depth shallow => anyDepth_reader inner shallow

/-- A document of one object that leaves one level of containers to spare, and what is read from
it. -/
structure HoldsObject (text : String) (part : List Declaration) : Prop where
  read : ofText text = .ok part
  opens : opening? text = some '\x7b'
  shallow : (Document.ofText text).root.nesting < Reader.maxDepth

private theorem exists_nodes_of_holdsObject {texts : List String}
    {parts : List (List Declaration)} (each : List.Forall₂ HoldsObject texts parts) :
    ∃ roots : List Node,
      List.Forall₂ (fun text root => Document.ofText text = ⟨root, false⟩ ∧ root.IsClosed)
        texts roots ∧
      roots.mapM (shape.reader (Reader.maxDepth - 1)) = .ok parts.flatten := by
  induction each with
  | nil => exact ⟨[], .nil, rfl⟩
  | @cons text part texts parts first _ ih =>
    obtain ⟨read, opens, shallow⟩ := first
    obtain ⟨declaration, root, rfl, spelled, closed, anyDepth⟩ := exists_node_of_ofText read opens
    obtain ⟨roots, others, later⟩ := ih
    rw [spelled] at shallow
    have deeper := anyDepth (Reader.maxDepth - 1) (Nat.le_sub_one_of_lt shallow)
    refine ⟨root :: roots, .cons ⟨spelled, closed⟩ others, ?_⟩
    rw [List.mapM_cons, deeper, later]
    rfl

/-- An array of documents of one object each holds the declarations of the documents in their
order, and a build of it is a build of these. -/
theorem ofText_array_of_documents {blanks : String}
    (blank : ∀ c ∈ blanks.toList, Scanner.isBlank c = true) {texts : List String}
    {parts : List (List Declaration)} (each : List.Forall₂ HoldsObject texts parts) :
    ofText (blanks ++ "[" ++ ",".intercalate texts ++ "]") = .ok parts.flatten ∧
      ∀ (options : BuildOptions) (defaultHints : HintSet),
        (ofText (blanks ++ "[" ++ ",".intercalate texts ++ "]")).map
            (fun declarations => Build.ofDeclarations options declarations defaultHints) =
          (texts.mapM ofText).map
            fun parts => Build.ofDeclarations options parts.flatten defaultHints := by
  obtain ⟨roots, spelled, read⟩ := exists_nodes_of_holdsObject each
  have together : ofText (blanks ++ "[" ++ ",".intercalate texts ++ "]") = .ok parts.flatten := by
    have document := Document.ofText_array blank spelled
    have items : documentReader Reader.maxDepth (.array roots .closed) = .ok parts.flatten := by
      change roots.mapM (shape.reader (Reader.maxDepth - 1)) >>= Reader.orFault none = _
      rw [read]
      rfl
    exact Reader.run_eq_ok_iff.2 (document ▸ ⟨items, rfl⟩)
  have apart : texts.mapM ofText = .ok parts :=
    mapM_eq_ok_iff.2 (each.imp fun _ _ part => part.read)
  refine ⟨together, fun options defaultHints => ?_⟩
  rw [together, apart]
  rfl

def sparseText : String :=
  "\x7b\"namespace\":\"a\"\x7d"

def spacedText : String :=
  "\n \x7b \"namespace\" : \"b\", \"codegenHints\": [ \"x\" ] \x7d "

theorem ofText_sparse_and_spaced :
    ofText ("\t " ++ "[" ++ ",".intercalate [sparseText, spacedText] ++ "]") =
      .ok [⟨"a", [], Options.empty, none⟩, ⟨"b", [], Options.empty, some ["x"]⟩] := by
  have blank : ∀ c ∈ "\t ".toList, Scanner.isBlank c = true := by simp [Scanner.isBlank]
  have sparse : HoldsObject sparseText [⟨"a", [], Options.empty, none⟩] :=
    ⟨by decide +kernel, by decide +kernel, by decide +kernel⟩
  have spaced : HoldsObject spacedText [⟨"b", [], Options.empty, some ["x"]⟩] :=
    ⟨by decide +kernel, by decide +kernel, by decide +kernel⟩
  exact (ofText_array_of_documents blank (.cons sparse (.cons spaced .nil))).1

end Declaration

end TableSchema
