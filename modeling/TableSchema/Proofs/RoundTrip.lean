import TableSchema.Proofs.Catalog.Rendering
import TableSchema.Proofs.Definition.Rendering
import TableSchema.Proofs.Violation.Rendering

set_option autoImplicit false

namespace TableSchema

namespace Reader

variable {α : Type} {read : Reader α} {ways : Node → Prop} {value : α}

/-- The value is read from every text that holds one of the ways to write it, and nothing else. -/
def Recovers (read : Reader α) (ways : Node → Prop) (value : α) : Prop :=
  ∀ ⦃text : String⦄ ⦃written : Node⦄,
    Document.ofText text = ⟨written, false⟩ → ways written → run read text = .ok value

theorem recovers_of_reads
    (reads : ∀ {written : Node}, ways written → read.ReadsNode maxDepth written value) :
    read.Recovers ways value := by
  intro text written document writes
  rw [run_eq_ok_iff, document]
  exact ⟨reads writes le_rfl, rfl⟩

theorem Recovers.run_render {own : Json} (recovers : read.Recovers ways value)
    (writes : ways own.node) (plain : own.Plain maxDepth) : run read own.render = .ok value :=
  recovers (run_json_eq_ok_iff.1 plain.run_render).1 writes

theorem reads_back {own : Json}
    (reads : ∀ {written : Node}, ways written → read.ReadsNode maxDepth written value)
    (writes : ways own.node) (plain : own.Plain maxDepth) :
    run read own.render = .ok value ∧ read.Recovers ways value := by
  have recovers := recovers_of_reads reads
  exact ⟨recovers.run_render writes plain, recovers⟩

end Reader

/-- Every value is read from its compact text, options as far as they have no doubles and fit into
the containers around them, and sizes whether the catalog has them or not. Every value is also read
from all texts that write it with the members of objects in any order and with others among them. -/
theorem values_are_read_back :
    (∀ column : Column,
      Reader.run Column.shape.reader column.toJson.render = .ok column ∧
        Column.shape.reader.Recovers column.Written column) ∧
    (∀ table : Table,
      (table.codegen.toJson.Plain (Reader.maxDepth - 1) →
        Reader.run Table.shape.reader table.toJson.render = .ok table) ∧
      Table.shape.reader.Recovers (table.Written (Reader.maxDepth - 1)) table) ∧
    (∀ ns : Namespace,
      (ns.deploy.toJson.Plain (Reader.maxDepth - 1) →
        (∀ table ∈ ns.tables, table.codegen.toJson.Plain (Reader.maxDepth - 3)) →
        Reader.run Namespace.shape.reader ns.toJson.render = .ok ns) ∧
      Namespace.shape.reader.Recovers (ns.Written (Reader.maxDepth - 3)) ns) ∧
    (∀ kind : Scalar,
      Reader.run Scalar.reader kind.toJson.render = .ok kind ∧
        Scalar.reader.Recovers kind.Written kind) ∧
    (∀ type : ColumnType,
      Reader.run ColumnType.reader type.toJson.render = .ok type ∧
        ColumnType.reader.Recovers (type.Written (Reader.maxDepth - 1)) type) ∧
    (∀ rule : Rule,
      Reader.run Rule.reader rule.toJson.render = .ok rule ∧
        Rule.reader.Recovers (· = rule.toJson.node) rule) ∧
    ∀ v : Violation,
      Reader.run Violation.shape.reader v.toJson.render = .ok v ∧
        Violation.shape.reader.Recovers v.Written v := by
  refine ⟨?_, ?_, ?_, ?_, ?_, ?_, ?_⟩
  · intro column
    have reads {written : Node} (writes : column.Written written) :=
      (Column.reads_shape writes).mono (by decide : 1 ≤ Reader.maxDepth)
    exact Reader.reads_back reads column.written_toJson (column.plain_toJson 126)
  · intro table
    have recovers : Table.shape.reader.Recovers (table.Written 126) table :=
      Reader.recovers_of_reads Table.reads_shape
    refine ⟨fun codegen => ?_, recovers⟩
    exact recovers.run_render (Table.written_toJson codegen.shallow) (Table.plain_toJson codegen)
  · intro ns
    have recovers : Namespace.shape.reader.Recovers (ns.Written 124) ns :=
      Reader.recovers_of_reads Namespace.reads_shape
    refine ⟨fun deploy codegen => ?_, recovers⟩
    have writes := Namespace.written_toJson deploy.shallow fun table member =>
      (codegen table member).shallow
    exact recovers.run_render writes (Namespace.plain_toJson deploy codegen)
  · intro kind
    have reads {written : Node} (writes : kind.Written written) :=
      (Scalar.reads_shape writes false).mono (by decide : 1 ≤ Reader.maxDepth)
    exact Reader.reads_back reads kind.written_toJson (kind.plain_toJson 126)
  · intro type
    have reads {written : Node} (writes : type.Written 126 written) :
        ColumnType.reader.ReadsNode Reader.maxDepth written type :=
      ColumnType.reads_shape writes false
    exact Reader.reads_back reads (type.written_toJson 125) (type.plain_toJson 125)
  · intro rule
    have reads {written : Node} (same : written = rule.toJson.node) :
        Rule.reader.ReadsNode Reader.maxDepth written rule := by
      rw [same]
      exact rule.reads_reader.node (Nat.zero_le _)
    exact Reader.reads_back reads rfl (Json.plain_text _ rule.code)
  · intro v
    have reads {written : Node} (writes : v.Written written) :=
      (Violation.reads_shape writes).mono (by decide : 1 ≤ Reader.maxDepth)
    exact Reader.reads_back reads v.written_toJson (v.plain_toJson 126)

private theorem canonical_harbourDeploy :
    (Json.object [("x", .ofNat 8), ("y", .null)]).Canonical :=
  ⟨List.pairwise_pair.2 (by decide), trivial, trivial, trivial⟩

def ship : Table :=
  ⟨"Ship", [⟨"id", "bytes32"⟩, ⟨"open", "bool"⟩], ["id"], true,
    Options.ofMembers [("dataStruct", .bool true)]⟩

def harbour : Namespace where
  name := "harbour"
  tables := [ship]
  deploy := ⟨_, canonical_harbourDeploy⟩
  recognizedHints := .ofList ["dataStruct"]

def shipObject : Json :=
  .object [
    ("codegen", .object [("dataStruct", .bool true)]),
    ("persisted", .bool true),
    ("key", .array [.text "id"]),
    ("columns", .array [
      .object [("type", .text "bytes32"), ("name", .text "id")],
      .object [("comment", .object []), ("type", .text "bool"), ("name", .text "open")]]),
    ("name", .text "Ship")]

def harbourObject : Json :=
  .object [
    ("remark", .array [.null]),
    ("recognized_hints", .array [.text "dataStruct"]),
    ("deploy", .object [("y", .null), ("x", .ofNat 8)]),
    ("tables", .array [shipObject]),
    ("name", .text "harbour")]

private theorem shipObject_writes : ship.Written 124 shipObject.node := by
  have id : Column.Written ⟨"id", "bytes32"⟩ _ :=
    @Node.Extends.of_json _ _ [] _ (by simp) (List.reverse_perm [("name", _), ("type", _)])
  have opened : Column.Written ⟨"open", "bool"⟩ _ :=
    @Node.Extends.of_json _ _ [("comment", .object [])] _ (by decide)
      (List.reverse_perm [("name", _), ("type", _), ("comment", _)])
  have extended : Node.Extends Table.shape.fieldNames
      (ship.members
        [(Json.object [("type", .text "bytes32"), ("name", .text "id")]).node,
          (Json.object [("comment", .object []), ("type", .text "bool"),
            ("name", .text "open")]).node] ship.codegen.toJson) _ :=
    @Node.Extends.object _ _ [] _ (by simp) (by simp) (List.reverse_perm _)
  exact .object (.cons id (.cons opened .nil)) (.refl _) (by decide) extended

private theorem harbourObject_writes : harbour.Written 124 harbourObject.node := by
  have deploy : Json.Arranges (.object [("y", .null), ("x", .ofNat 8)]) harbour.deploy.toJson :=
    .object (.swap _ _ []) (.cons (.number _) (.cons .null .nil))
  have extended : Node.Extends Namespace.shape.fieldNames
      (harbour.members [shipObject.node] (.object [("y", .null), ("x", .ofNat 8)])) _ :=
    @Node.Extends.object _ _ [("remark", .array [.null] .closed)] _ (by decide)
      (List.forall_mem_singleton.2 rfl) (List.reverse_perm _)
  exact .object (.cons shipObject_writes .nil) deploy (by decide) extended

private theorem harbourObject_plain : harbourObject.Plain Reader.maxDepth := by
  refine ⟨?_, by decide⟩
  simp [harbourObject, shipObject, Json.FloatFree, Json.FloatFreeMembers, Json.FloatFreeItems,
    Json.ofNat, Number.ofNat]

def buoyText : String :=
  "\x7b\"more\":1e999,\"type\":\"bool\",\"name\":\"open\"\x7d"

private theorem document_buoyText : Document.ofText buoyText =
    ⟨.object [(some "more", .number none), (some "type", .text (some "bool")),
      (some "name", .text (some "open"))] .closed, false⟩ := by
  have tokens : Token.scan buoyText.toList =
      [.openBrace, .text (some "more"), .colon, .number none, .comma, .text (some "type"), .colon,
        .text (some "bool"), .comma, .text (some "name"), .colon, .text (some "open"),
        .closeBrace] := by
    decide +kernel
  rw [Document.ofText, tokens]
  rfl

private theorem buoyText_writes : Column.Written ⟨"open", "bool"⟩
    (.object [(some "more", .number none), (some "type", .text (some "bool")),
      (some "name", .text (some "open"))] .closed) :=
  @Node.Extends.object _ _ [("more", .number none)]
    [("more", .number none), ("type", .text (some "bool")), ("name", .text (some "open"))]
    (by decide) (by simp [Node.passedFault?])
    (List.reverse_perm [("name", _), ("type", _), ("more", _)])

theorem harbour_is_read_back :
    Reader.run Namespace.shape.reader harbour.toJson.render = .ok harbour ∧
      Reader.run Namespace.shape.reader harbourObject.render = .ok harbour ∧
      Reader.run Column.shape.reader buoyText = .ok ⟨"open", "bool"⟩ := by
  obtain ⟨own, every⟩ := values_are_read_back.2.2.1 harbour
  obtain ⟨document, _⟩ := Reader.run_json_eq_ok_iff.1 harbourObject_plain.run_render
  refine ⟨own ?_ ?_, every document harbourObject_writes, ?_⟩
  · refine ⟨?_, by decide⟩
    simp [harbour, Options.toJson, Json.FloatFree, Json.FloatFreeMembers, Json.ofNat, Number.ofNat]
  · refine List.forall_mem_singleton.2 ⟨⟨trivial, trivial⟩, by decide⟩
  · exact (values_are_read_back.1 ⟨"open", "bool"⟩).2 document_buoyText buoyText_writes

end TableSchema
