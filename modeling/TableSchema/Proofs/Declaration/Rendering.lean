import TableSchema.Declaration.Reader
import TableSchema.Proofs.Json.Options
import TableSchema.Proofs.Json.Printing
import TableSchema.Proofs.Json.Record

set_option autoImplicit false

namespace TableSchema

open RecordShape (WrittenField)

namespace FullTable

inductive Written (body : FullTable) : Json → Prop
  | object {members schema key tableType codegen : List (String × Json)}
      (schemaField : WrittenField "schema"
        (· = .object (body.schema.map fun column => (column.1, .text column.2))) False schema)
      (keyField : WrittenField "key" (· = Json.ofTexts body.key) False key)
      (typeField : WrittenField "type" (· = Json.ofText? body.tableType)
        (body.tableType = none) tableType)
      (codegenField : WrittenField "codegen" (Json.Arranges · body.codegen.toJson)
        (body.codegen = Options.empty) codegen)
      (order : members.Perm [schema, key, tableType, codegen].flatten) :
      Written body (.object members)

theorem separate_shape : shape.Separate where
  marks := by
    intro field member
    simp only [shape, List.mem_cons, List.not_mem_nil, or_false] at member
    rcases member with rfl | rfl | rfl | rfl
    all_goals exact Field.marks_of fun _ _ => rfl
  apart := by
    simp only [shape, List.pairwise_cons, List.mem_cons, List.not_mem_nil, or_false,
      forall_eq_or_imp, forall_eq, false_implies, implies_true, List.Pairwise.nil, and_true]
    refine ⟨⟨?_, ?_, ?_⟩, ⟨?_, ?_⟩, ?_⟩
    all_goals exact Field.independent_of (fun _ _ => rfl) (fun _ _ => rfl) fun _ _ _ => rfl

private theorem reads_columns (columns : List (String × String)) :
    (Reader.membersOf "a JSON object" Reader.text).Reads
      (.object (columns.map fun column => (column.1, .text column.2))) columns :=
  Reader.reads_membersOf (List.forall₂_map_left_iff.2
    (List.forall₂_same.2 fun column _ => ⟨rfl, Reader.reads_text column.2⟩))

private theorem reads_type (type : Option String) :
    (Reader.optional Reader.text).Reads (Json.ofText? type) type := by
  cases type with
  | none => exact Reader.reads_optional_null
  | some name => exact (Reader.reads_text name).optional Json.noConfusion

theorem reads_shape {body : FullTable} {written : Json} (writes : body.Written written) :
    shape.reader.Reads written body := by
  cases writes with
  | object schemaField keyField typeField codegenField order =>
    -- The order of the members does not matter: take them as the fields are declared, each read
    -- into the draft that the ones before it have left.
    refine separate_shape.reads order fun depth shallow => ?_
    simp only [List.flatten_cons, List.flatten_nil, Json.nestingOfMembers_append, Nat.max_le]
      at shallow
    obtain ⟨schemaShallow, keyShallow, typeShallow, codegenShallow, _⟩ := shallow
    simp only [List.flatten_cons, List.flatten_nil, Json.nodesOfMembers_append]
    obtain ⟨_, rfl | ⟨_, ⟨⟩⟩, schemaRead⟩ := RecordShape.readMembers_written shape schemaField rfl
      (fun slot => ⟨slot, none, none, none⟩) rfl (fun _ => rfl)
      (by rintro _ rfl; exact reads_columns body.schema) schemaShallow _
    obtain ⟨_, rfl | ⟨_, ⟨⟩⟩, keyRead⟩ := RecordShape.readMembers_written shape keyField rfl
      (fun slot => ⟨some body.schema, slot, none, none⟩) rfl (fun _ => rfl)
      (by rintro _ rfl; exact Reader.reads_texts body.key) keyShallow _
    obtain ⟨type, typeKept, typeRead⟩ := RecordShape.readMembers_written shape typeField rfl
      (fun slot => ⟨some body.schema, some body.key, slot, none⟩) rfl (fun _ => rfl)
      (by rintro _ rfl; exact reads_type body.tableType) typeShallow _
    obtain ⟨codegen, codegenKept, codegenRead⟩ := RecordShape.readMembers_written shape
      codegenField rfl (fun slot => ⟨some body.schema, some body.key, type, slot⟩) rfl
      (fun _ => rfl) (fun _ => Options.reads_reader) codegenShallow _
    refine ⟨⟨some body.schema, some body.key, type, codegen⟩, ?_, ?_⟩
    · exact schemaRead.trans (keyRead.trans (typeRead.trans codegenRead))
    · have finished : shape.finish ⟨some body.schema, some body.key, type, codegen⟩ =
          .ok ⟨body.schema, body.key, type.getD none, codegen.getD Options.empty⟩ := rfl
      rw [finished, RecordShape.getD_slot typeKept, RecordShape.getD_slot codegenKept]

end FullTable

namespace TableDeclaration

inductive Written : TableDeclaration → Json → Prop
  | shorthand (valueType : String) : Written (.shorthand valueType) (.text valueType)
  | full {body : FullTable} {written : Json} (writes : body.Written written) :
      Written (.full body) written

theorem reads_reader {declaration : TableDeclaration} {written : Json}
    (writes : declaration.Written written) : reader.Reads written declaration := by
  cases writes with
  | shorthand valueType => exact fun _ _ => rfl
  | @full body _ writes =>
    intro depth shallow
    have read := FullTable.reads_shape writes shallow
    cases writes
    exact congrArg (Except.map full) read

end TableDeclaration

namespace Declaration

def TablesWritten (tables : List (String × TableDeclaration)) (written : Json) : Prop :=
  ∃ entries, written = .object entries ∧
    List.Forall₂ (fun entry table => entry.1 = table.1 ∧ table.2.Written entry.2) entries tables

inductive Written (declaration : Declaration) : Json → Prop
  | object {members namespaceName tables deploy codegenHints : List (String × Json)}
      (nameField : WrittenField "namespace" (· = .text declaration.namespaceName) False
        namespaceName)
      (tablesField : WrittenField "tables" (TablesWritten declaration.tables)
        (declaration.tables = []) tables)
      (deployField : WrittenField "deploy" (Json.Arranges · declaration.deploy.toJson)
        (declaration.deploy = Options.empty) deploy)
      (hintsField : WrittenField "codegenHints"
        (· = (declaration.codegenHints.map Json.ofTexts).getD .null)
        (declaration.codegenHints = none) codegenHints)
      (order : members.Perm [namespaceName, tables, deploy, codegenHints].flatten) :
      Written declaration (.object members)

/-- The ways to write a document: an array of declarations, or one declaration alone. -/
inductive WrittenTogether : List Declaration → Json → Prop
  | array {declarations : List Declaration} {items : List Json}
      (each : List.Forall₂ (fun item declaration => declaration.Written item) items declarations) :
      WrittenTogether declarations (.array items)
  | alone {declaration : Declaration} {written : Json} (writes : declaration.Written written) :
      WrittenTogether [declaration] written

theorem separate_shape : shape.Separate where
  marks := by
    intro field member
    simp only [shape, List.mem_cons, List.not_mem_nil, or_false] at member
    rcases member with rfl | rfl | rfl | rfl
    all_goals exact Field.marks_of fun _ _ => rfl
  apart := by
    simp only [shape, List.pairwise_cons, List.mem_cons, List.not_mem_nil, or_false,
      forall_eq_or_imp, forall_eq, false_implies, implies_true, List.Pairwise.nil, and_true]
    refine ⟨⟨?_, ?_, ?_⟩, ⟨?_, ?_⟩, ?_⟩
    all_goals exact Field.independent_of (fun _ _ => rfl) (fun _ _ => rfl) fun _ _ _ => rfl

private theorem reads_tables {tables : List (String × TableDeclaration)} {written : Json}
    (writes : TablesWritten tables written) :
    (Reader.membersOf "a JSON object" TableDeclaration.reader).Reads written tables := by
  obtain ⟨entries, rfl, each⟩ := writes
  refine Reader.reads_membersOf (each.imp ?_)
  rintro entry table ⟨named, writes⟩
  exact ⟨named, TableDeclaration.reads_reader writes⟩

private theorem reads_hints (hints : Option (List String)) :
    (Reader.optional (Reader.listOf Reader.text)).Reads ((hints.map Json.ofTexts).getD .null)
      hints := by
  cases hints with
  | none => exact Reader.reads_optional_null
  | some names => exact (Reader.reads_texts names).optional Json.noConfusion

theorem reads_shape {declaration : Declaration} {written : Json}
    (writes : declaration.Written written) : shape.reader.Reads written declaration := by
  obtain ⟨name, tables, deploy, codegenHints⟩ := declaration
  cases writes with
  | object nameField tablesField deployField hintsField order =>
    refine separate_shape.reads order fun depth shallow => ?_
    simp only [List.flatten_cons, List.flatten_nil, Json.nestingOfMembers_append, Nat.max_le]
      at shallow
    obtain ⟨nameShallow, tablesShallow, deployShallow, hintsShallow, _⟩ := shallow
    simp only [List.flatten_cons, List.flatten_nil, Json.nodesOfMembers_append]
    obtain ⟨_, rfl | ⟨_, ⟨⟩⟩, nameRead⟩ := RecordShape.readMembers_written shape nameField rfl
      (fun slot => ⟨slot, none, none, none⟩) rfl (fun _ => rfl)
      (by rintro _ rfl; exact Reader.reads_text name) nameShallow _
    obtain ⟨tables?, tablesKept, tablesRead⟩ := RecordShape.readMembers_written shape tablesField
      rfl (fun slot => ⟨some name, slot, none, none⟩) rfl (fun _ => rfl)
      (fun _ => reads_tables) tablesShallow _
    obtain ⟨deploy?, deployKept, deployRead⟩ := RecordShape.readMembers_written shape deployField
      rfl (fun slot => ⟨some name, tables?, slot, none⟩) rfl (fun _ => rfl)
      (fun _ => Options.reads_reader) deployShallow _
    obtain ⟨hints?, hintsKept, hintsRead⟩ := RecordShape.readMembers_written shape hintsField rfl
      (fun slot => ⟨some name, tables?, deploy?, slot⟩) rfl (fun _ => rfl)
      (by rintro _ rfl; exact reads_hints codegenHints) hintsShallow _
    refine ⟨⟨some name, tables?, deploy?, hints?⟩, ?_, ?_⟩
    · exact nameRead.trans (tablesRead.trans (deployRead.trans hintsRead))
    · have finished : shape.finish ⟨some name, tables?, deploy?, hints?⟩ =
          .ok ⟨name, tables?.getD [], deploy?.getD Options.empty, hints?.getD none⟩ := rfl
      rw [finished, RecordShape.getD_slot tablesKept, RecordShape.getD_slot deployKept,
        RecordShape.getD_slot hintsKept]

theorem reads_documentReader {declarations : List Declaration} {written : Json}
    (writes : WrittenTogether declarations written) :
    documentReader.Reads written declarations := by
  cases writes with
  | array each => exact Reader.reads_listOf (each.imp fun _ _ => reads_shape)
  | alone writes =>
    intro depth shallow
    have read := reads_shape writes shallow
    cases writes
    exact congrArg (Except.map fun one => [one]) read

/-- Declarations are read back from every text that writes them. -/
theorem ofText_of_written {declarations : List Declaration} {written : Json}
    (writes : WrittenTogether declarations written)
    (shallow : written.nesting ≤ Reader.maxDepth) {text : String}
    (spells : Spells written.tokens text.toList) : ofText text = .ok declarations :=
  (reads_documentReader writes).run shallow spells

def twofold : Declaration where
  namespaceName := "n"
  tables := [("A", .full ⟨[("b", "bool"), ("b", "int8")], [], none, Options.empty⟩),
    ("A", .shorthand "uint8")]
  deploy := ⟨[("x", .ofNat 8), ("y", .null)],
    List.pairwise_pair.2 (by decide), trivial, trivial, trivial⟩
  codegenHints := none

def twofoldTables : Json :=
  .object [
    ("A", .object [("type", .null), ("key", .array []),
      ("schema", .object [("b", .text "bool"), ("b", .text "int8")])]),
    ("A", .text "uint8")]

def twofoldObject : Json :=
  .object [("deploy", .object [("y", .null), ("x", .ofNat 8)]), ("tables", twofoldTables),
    ("namespace", .text "n")]

private theorem twofoldObject_writes : twofold.Written twofoldObject := by
  have deploy : Json.Arranges (.object [("y", .null), ("x", .ofNat 8)]) twofold.deploy.toJson :=
    .object (.swap _ _ []) (.cons (.number _) (.cons .null .nil))
  have first : FullTable.Written ⟨[("b", "bool"), ("b", "int8")], [], none, Options.empty⟩ _ :=
    .object (.given rfl) (.given rfl) (.given rfl) (.omitted rfl)
      (List.reverse_perm [("schema", _), ("key", _), ("type", _)])
  have tables : TablesWritten twofold.tables twofoldTables :=
    ⟨_, rfl, .cons ⟨rfl, .full first⟩ (.cons ⟨rfl, .shorthand "uint8"⟩ .nil)⟩
  exact .object (.given rfl) (.given tables) (.given deploy) (.omitted rfl)
    (List.reverse_perm [("namespace", _), ("tables", _), ("deploy", _)])

set_option maxRecDepth 4000 in
theorem ofText_twofold : ofText ("\x7b\"deploy\":\x7b\"y\":null,\"x\":8\x7d,\"tables\":\x7b" ++
      "\"A\":\x7b\"type\":null,\"key\":[],\"schema\":\x7b\"b\":\"bool\",\"b\":\"int8\"\x7d\x7d," ++
      "\"A\":\"uint8\"\x7d,\"namespace\":\"n\"\x7d") = .ok [twofold] := by
  have floatFree : twofoldObject.FloatFree := by
    simp [twofoldObject, twofoldTables, Json.FloatFree, Json.FloatFreeMembers,
      Json.FloatFreeItems, Json.ofNat, Number.ofNat]
  have spells := twofoldObject.spells_render floatFree
  have read := ofText_of_written (.alone twofoldObject_writes) (by decide) spells
  exact read

end Declaration

end TableSchema
