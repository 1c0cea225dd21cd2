import TableSchema.Definition.Json
import TableSchema.Proofs.Json.Canonical
import TableSchema.Proofs.Json.Extended
import TableSchema.Proofs.Json.Options

set_option autoImplicit false

namespace TableSchema

namespace Column

def members (column : Column) : List (String × Json) :=
  [("name", .text column.name), ("type", .text column.typeName)]

def Written (column : Column) (written : Node) : Prop :=
  written.Extends shape.fieldNames (Json.nodes column.members)

theorem written_toJson (column : Column) : column.Written column.toJson.node :=
  .of_json (List.forall_mem_nil _) (by rw [List.append_nil]; rfl)

theorem separate_shape : shape.Separate where
  marks := by
    intro field member
    simp only [shape, List.mem_cons, List.not_mem_nil, or_false] at member
    rcases member with rfl | rfl
    all_goals exact Field.marks_of fun _ _ => rfl
  apart := by
    refine List.pairwise_pair.2 ?_
    exact Field.independent_of (fun _ _ => rfl) (fun _ _ => rfl) fun _ _ _ => rfl

theorem reads_shape {column : Column} {written : Node} (writes : column.Written written) :
    shape.reader.ReadsNode 1 written column := by
  have name := (Reader.reads_text column.name).node le_rfl
  have typeName := (Reader.reads_text column.typeName).node le_rfl
  have fills : shape.Fills 0 shape.blank (Json.nodes column.members)
      ⟨some column.name, some column.typeName⟩ :=
    .of rfl rfl name (.of rfl rfl typeName (.nil _))
  exact separate_shape.reads_extended rfl fills rfl writes

theorem plain_toJson (column : Column) (levels : Nat) : column.toJson.Plain (levels + 1) := by
  refine Json.plain_object ?_
  simp only [List.forall_mem_cons]
  exact ⟨Json.plain_text _ column.name, Json.plain_text _ column.typeName, List.forall_mem_nil _⟩

end Column

namespace Table

def members (table : Table) (columns : List Node) (codegen : Json) : List (String × Node) :=
  [("name", .text (some table.name)), ("columns", .array columns .closed),
    ("key", (Json.ofTexts table.key).node), ("persisted", .bool table.persisted),
    ("codegen", codegen.node)]

inductive Written (table : Table) (levels : Nat) : Node → Prop
  | object {columns : List Node} {codegen : Json} {written : Node}
      (each : List.Forall₂ (fun item column => column.Written item) columns table.columns)
      (arranges : Json.Arranges codegen table.codegen.toJson) (fits : codegen.nesting ≤ levels)
      (extended : written.Extends shape.fieldNames (table.members columns codegen)) :
      Written table levels written

theorem written_toJson {table : Table} {levels : Nat}
    (codegen : table.codegen.toJson.nesting ≤ levels) :
    table.Written levels table.toJson.node := by
  have each : List.Forall₂ (fun item column => column.Written item)
      ((table.columns.map Column.toJson).map Json.node) table.columns := by
    rw [List.map_map, List.forall₂_map_left_iff]
    exact List.forall₂_same.2 fun column _ => column.written_toJson
  rw [← Json.nodesOfItems_eq_map] at each
  exact .object each (.refl _) codegen (.refl _ _)

theorem separate_shape : shape.Separate where
  marks := by
    intro field member
    simp only [shape, List.mem_cons, List.not_mem_nil, or_false] at member
    rcases member with rfl | rfl | rfl | rfl | rfl
    all_goals exact Field.marks_of fun _ _ => rfl
  apart := by
    simp only [shape, List.pairwise_cons, List.mem_cons, List.not_mem_nil, or_false,
      forall_eq_or_imp, forall_eq, false_implies, implies_true, List.Pairwise.nil, and_true]
    refine ⟨⟨?_, ?_, ?_, ?_⟩, ⟨?_, ?_, ?_⟩, ⟨?_, ?_⟩, ?_⟩
    all_goals exact Field.independent_of (fun _ _ => rfl) (fun _ _ => rfl) fun _ _ _ => rfl

theorem reads_shape {table : Table} {levels : Nat} {written : Node}
    (writes : table.Written (levels + 2) written) :
    shape.reader.ReadsNode (levels + 3) written table := by
  cases writes with
  | @object items options _ each arranges fits extended =>
    have name := (Reader.reads_text table.name).node (Nat.zero_le (levels + 2))
    have column {item : Node} {column : Column} (writes : column.Written item) :
        Column.shape.reader.ReadsNode (levels + 1) item column :=
      (Column.reads_shape writes).mono (Nat.le_add_left 1 levels)
    have columns := Reader.readsNode_listOf (each.imp fun _ _ => column)
    have key := (Reader.reads_texts table.key).node
      (Json.plain_ofTexts (levels + 1) table.key).shallow
    have persisted := (Reader.reads_bool table.persisted).node (Nat.zero_le (levels + 2))
    have codegen := (Options.reads_reader arranges).node fits
    have fills : shape.Fills (levels + 2) shape.blank (table.members items options)
        ⟨some table.name, some table.columns, some table.key, some table.persisted,
          some table.codegen⟩ :=
      .of rfl rfl name (.of rfl rfl columns (.of rfl rfl key
        (.of rfl rfl persisted (.of rfl rfl codegen (.nil _)))))
    exact separate_shape.reads_extended rfl fills rfl extended

theorem plain_toJson {table : Table} {levels : Nat}
    (codegen : table.codegen.toJson.Plain (levels + 2)) : table.toJson.Plain (levels + 3) := by
  have columns : (Json.array (table.columns.map Column.toJson)).Plain (levels + 2) :=
    Json.plain_array (List.forall_mem_map.2 fun column _ => column.plain_toJson levels)
  refine Json.plain_object ?_
  simp only [List.forall_mem_cons]
  exact ⟨Json.plain_text _ table.name, columns, Json.plain_ofTexts _ table.key,
    Json.plain_bool _ table.persisted, codegen, List.forall_mem_nil _⟩

end Table

namespace Namespace

def members (ns : Namespace) (tables : List Node) (deploy : Json) : List (String × Node) :=
  [("name", .text (some ns.name)), ("tables", .array tables .closed), ("deploy", deploy.node),
    ("recognized_hints", ns.recognizedHints.toJson.node)]

inductive Written (ns : Namespace) (levels : Nat) : Node → Prop
  | object {tables : List Node} {deploy : Json} {written : Node}
      (each : List.Forall₂ (fun item table => table.Written levels item) tables ns.tables)
      (arranges : Json.Arranges deploy ns.deploy.toJson) (fits : deploy.nesting ≤ levels + 2)
      (extended : written.Extends shape.fieldNames (ns.members tables deploy)) :
      Written ns levels written

theorem written_toJson {ns : Namespace} {levels : Nat}
    (deploy : ns.deploy.toJson.nesting ≤ levels + 2)
    (codegen : ∀ table ∈ ns.tables, table.codegen.toJson.nesting ≤ levels) :
    ns.Written levels ns.toJson.node := by
  have each : List.Forall₂ (fun item table => table.Written levels item)
      ((ns.tables.map Table.toJson).map Json.node) ns.tables := by
    rw [List.map_map, List.forall₂_map_left_iff]
    exact List.forall₂_same.2 fun table member => Table.written_toJson (codegen table member)
  rw [← Json.nodesOfItems_eq_map] at each
  exact .object each (.refl _) deploy (.refl _ _)

theorem separate_shape : shape.Separate where
  marks := by
    intro field member
    simp only [shape, List.mem_cons, List.not_mem_nil, or_false] at member
    rcases member with rfl | rfl | rfl | rfl
    all_goals exact Field.marks_of fun _ _ => rfl
  apart := by
    simp only [shape, List.pairwise_cons, List.mem_cons, List.not_mem_nil, or_false,
      forall_eq_or_imp, forall_eq, false_implies, implies_true, List.Pairwise.nil, and_true]
    refine ⟨⟨?_, ?_, ?_⟩, ⟨?_, ?_⟩, ?_⟩
    all_goals exact Field.independent_of (fun _ _ => rfl) (fun _ _ => rfl) fun _ _ _ => rfl

theorem reads_shape {ns : Namespace} {levels : Nat} {written : Node}
    (writes : ns.Written (levels + 2) written) :
    shape.reader.ReadsNode (levels + 5) written ns := by
  cases writes with
  | @object items options _ each arranges fits extended =>
    have name := (Reader.reads_text ns.name).node (Nat.zero_le (levels + 4))
    have tables := Reader.readsNode_listOf (each.imp fun _ _ => Table.reads_shape)
    have deploy := (Options.reads_reader arranges).node fits
    have hints := ns.recognizedHints.reads_reader.node
      (Json.plain_ofTexts (levels + 3) ns.recognizedHints.names).shallow
    have fills : shape.Fills (levels + 4) shape.blank (ns.members items options)
        ⟨some ns.name, some ns.tables, some ns.deploy, some ns.recognizedHints⟩ :=
      .of rfl rfl name (.of rfl rfl tables (.of rfl rfl deploy (.of rfl rfl hints (.nil _))))
    exact separate_shape.reads_extended rfl fills rfl extended

theorem plain_toJson {ns : Namespace} {levels : Nat} (deploy : ns.deploy.toJson.Plain (levels + 4))
    (codegen : ∀ table ∈ ns.tables, table.codegen.toJson.Plain (levels + 2)) :
    ns.toJson.Plain (levels + 5) := by
  have tables : (Json.array (ns.tables.map Table.toJson)).Plain (levels + 4) :=
    Json.plain_array (List.forall_mem_map.2 fun table member =>
      Table.plain_toJson (codegen table member))
  refine Json.plain_object ?_
  simp only [List.forall_mem_cons]
  exact ⟨Json.plain_text _ ns.name, tables, deploy, Json.plain_ofTexts _ ns.recognizedHints.names,
    List.forall_mem_nil _⟩

end Namespace

end TableSchema
