import TableSchema.Catalog.Json
import TableSchema.Proofs.Json.Canonical
import TableSchema.Proofs.Json.Extended

set_option autoImplicit false

namespace TableSchema

namespace Scalar

def members (kind : Scalar) : List (String × Json) :=
  ("kind", .text kind.tag) :: (kind.size?.toList.map fun n => ("size", .ofNat n))

def Written (kind : Scalar) (written : Node) : Prop :=
  written.Extends [shape.tag, shape.content] (Json.nodes kind.members)

theorem written_toJson (kind : Scalar) : kind.Written kind.toJson.node :=
  .of_json (List.forall_mem_nil _) (by rw [List.append_nil]; rfl)

private theorem reads_size {limit n : Nat} {expected : String} {α : Type} {ofNat : Nat → α}
    {size : α} (make : α → Scalar) (below : n < limit) (word : limit ≤ UInt64.size)
    (same : ofNat n = size) :
    (((Reader.natural limit expected).map fun n => ofNat n.val).map make).ReadsNode 0
      (Json.ofNat n).node (make size) := by
  subst same
  have reads := (Reader.reads_natural below word expected).map fun n => ofNat n.val
  exact (reads.map make).node le_rfl

theorem tells_members (kind : Scalar) : shape.Tells 0 kind (Json.nodes kind.members) := by
  cases kind with
  | uint bits =>
    exact .holding rfl fun _ => reads_size uint bits.toNat_lt (by decide) bits.ofNat_toNat
  | int bits =>
    exact .holding rfl fun _ => reads_size int bits.toNat_lt (by decide) bits.ofNat_toNat
  | fixedBytes length =>
    exact .holding rfl fun _ =>
      reads_size fixedBytes length.toNat_lt (by decide) length.ofNat_toNat
  | bool | address | bytes | string => exact .alone rfl

theorem reads_shape {kind : Scalar} {written : Node} (writes : kind.Written written)
    (later : Bool) : (shape.reader later).ReadsNode 1 written kind := by
  refine kind.tells_members.reads_extended (by decide) writes (fun _ => ?_) later
  -- A size is a whole value, so it may come before the name.
  simp only [Json.nodes, members, List.forall_mem_map, List.forall_mem_cons]
  exact ⟨fun _ => ⟨.text kind.tag, rfl, le_rfl⟩, fun n _ _ => ⟨.ofNat n, rfl, le_rfl⟩⟩

theorem plain_toJson (kind : Scalar) (levels : Nat) : kind.toJson.Plain (levels + 1) := by
  refine Json.plain_object ?_
  simp only [List.forall_mem_cons, List.forall_mem_map]
  exact ⟨Json.plain_text _ kind.tag, fun n _ => Json.plain_ofNat _ n⟩

end Scalar

namespace ColumnType

/-- The ways to write a column type, with so many levels for an element that comes before its
shape. Such an element is kept to be read later, so it must be a whole value. -/
inductive Written (type : ColumnType) (levels : Nat) : Node → Prop
  | object {element written : Node} (inner : type.kind.Written element)
      (extended : written.Extends [shape.tag, shape.content]
        [("shape", .text (some type.tag)), ("element", element)])
      (kept : written.Precedes shape.content shape.tag → element.Whole levels) :
      Written type levels written

theorem written_toJson (type : ColumnType) (levels : Nat) :
    type.Written (levels + 1) type.toJson.node := by
  have whole : type.kind.toJson.node.Whole (levels + 1) :=
    ⟨_, rfl, (type.kind.plain_toJson levels).shallow⟩
  exact .object type.kind.written_toJson (.refl _ _) fun _ => whole

theorem reads_shape {type : ColumnType} {levels : Nat} {written : Node}
    (writes : type.Written (levels + 1) written) (later : Bool) :
    (shape.reader later).ReadsNode (levels + 2) written type := by
  cases writes with
  | @object element _ inner extended kept =>
    have reads (later : Bool) :
        (Scalar.shape.reader later).ReadsNode (levels + 1) element type.kind :=
      (Scalar.reads_shape inner later).mono (Nat.le_add_left 1 levels)
    have held : written.Precedes shape.content shape.tag →
        ∀ m ∈ [("shape", Node.text (some type.tag)), ("element", element)],
          m.1 = shape.content → m.2.Whole (levels + 1) := by
      intro first
      simp only [List.forall_mem_cons]
      exact ⟨fun named => absurd named (by decide), fun _ => kept first, List.forall_mem_nil _⟩
    cases type with
    | scalar kind =>
      have tells : shape.Tells (levels + 1) (.scalar kind)
          [("shape", .text (some "scalar")), ("element", element)] :=
        .holding rfl fun later => (reads later).map scalar
      exact tells.reads_extended (by decide) extended held later
    | array kind =>
      have tells : shape.Tells (levels + 1) (.array kind)
          [("shape", .text (some "array")), ("element", element)] :=
        .holding rfl fun later => (reads later).map array
      exact tells.reads_extended (by decide) extended held later

theorem plain_toJson (type : ColumnType) (levels : Nat) : type.toJson.Plain (levels + 2) := by
  refine Json.plain_object ?_
  simp only [List.forall_mem_cons]
  exact ⟨Json.plain_text _ type.tag, type.kind.plain_toJson levels, List.forall_mem_nil _⟩

end ColumnType

end TableSchema
