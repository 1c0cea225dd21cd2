import TableSchema.Proofs.Json.Canonical
import TableSchema.Proofs.Json.Extended
import TableSchema.Violation.Json

set_option autoImplicit false

namespace TableSchema

theorem Rule.reads_reader (rule : Rule) : reader.Reads rule.toJson rule := by
  cases rule <;> exact fun _ _ => rfl

namespace Violation

def members (v : Violation) : List (String × Json) :=
  [("kind", v.rule.toJson), ("namespace", .text v.namespaceName)] ++
    v.table.toList.map (fun name => ("table", .text name)) ++
    v.column.toList.map (fun name => ("column", .text name)) ++
    [("message", .text v.message)]

def Written (v : Violation) (written : Node) : Prop :=
  written.Extends shape.fieldNames (Json.nodes v.members)

theorem written_toJson (v : Violation) : v.Written v.toJson.node :=
  .of_json (List.forall_mem_nil _) (by rw [List.append_nil]; rfl)

theorem separate_shape : shape.Separate where
  marks := by
    intro field member
    simp only [shape, List.mem_cons, List.not_mem_nil, or_false] at member
    rcases member with rfl | rfl | rfl | rfl | rfl
    all_goals exact Field.marks_of fun _ _ => rfl
  apart := by
    simp only [shape, List.pairwise_cons, List.mem_cons, List.not_mem_nil, or_false,
      forall_eq_or_imp, forall_eq, false_implies, implies_true, List.Pairwise.nil, and_true]
    refine ⟨⟨?_, ?_, ?_, ?_⟩, ⟨?_, ?_, ?_⟩, ⟨?_, ?_⟩, ?_⟩
    all_goals exact Field.independent_of (fun _ _ => rfl) (fun _ _ => rfl) fun _ _ _ => rfl

private theorem fills_members (v : Violation) :
    shape.Fills 0 shape.blank (Json.nodes v.members)
      ⟨some v.rule, some v.namespaceName, v.table.map some, v.column.map some, some v.message⟩ := by
  obtain ⟨rule, namespaceName, table, column, message⟩ := v
  have given (text : String) : Reader.text.ReadsNode 0 (Json.text text).node text :=
    (Reader.reads_text text).node le_rfl
  have place (name : String) :
      (Reader.optional Reader.text).ReadsNode 0 (Json.text name).node (some name) :=
    ((Reader.reads_text name).optional Json.noConfusion).node le_rfl
  refine .of rfl rfl (rule.reads_reader.node le_rfl) (.of rfl rfl (given namespaceName) ?_)
  cases table with
  | none =>
    cases column with
    | none => exact .of rfl rfl (given message) (.nil _)
    | some column => exact .of rfl rfl (place column) (.of rfl rfl (given message) (.nil _))
  | some table =>
    refine .of rfl rfl (place table) ?_
    cases column with
    | none => exact .of rfl rfl (given message) (.nil _)
    | some column => exact .of rfl rfl (place column) (.of rfl rfl (given message) (.nil _))

theorem reads_shape {v : Violation} {written : Node} (writes : v.Written written) :
    shape.reader.ReadsNode 1 written v := by
  have same (place : Option String) : (place.map some).getD none = place := by
    cases place <;> rfl
  have finished : shape.finish ⟨some v.rule, some v.namespaceName, v.table.map some,
      v.column.map some, some v.message⟩ = .ok ⟨v.rule, v.namespaceName,
        (v.table.map some).getD none, (v.column.map some).getD none, v.message⟩ := rfl
  rw [same, same] at finished
  exact separate_shape.reads_extended rfl v.fills_members finished writes

theorem plain_toJson (v : Violation) (levels : Nat) : v.toJson.Plain (levels + 1) := by
  refine Json.plain_object fun m member => ?_
  simp only [List.mem_append, List.mem_cons, List.not_mem_nil, or_false, List.mem_map] at member
  rcases member with (((rfl | rfl) | ⟨_, _, rfl⟩) | ⟨_, _, rfl⟩) | rfl
  all_goals exact Json.plain_text levels _

end Violation

end TableSchema
