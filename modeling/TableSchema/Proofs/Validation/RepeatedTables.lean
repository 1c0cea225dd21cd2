import Mathlib.Order.Fin.Basic
import Mathlib.Order.WellFounded
import TableSchema.Proofs.ResourceId
import TableSchema.Proofs.Validation.Order

/-!
Which tables are reported because their name or their id is taken.

A table is reported once at most. It is reported if a table before it has its name or its id, with
one exception: a table that repeats a name leaves no id, so an id that was met only at tables of
this kind passes for new. Such a table is of another kind than the first one of its name.
-/

set_option autoImplicit false

namespace TableSchema

namespace Namespace

theorem idOf_eq_iff {ns : Namespace} {table other : Table} :
    ns.idOf table = ns.idOf other ↔
      table.persisted = other.persisted ∧
        nameSlot tableSlotBytes table.name = nameSlot tableSlotBytes other.name := by
  rw [idOf, idOf, ResourceId.ofTable_eq_iff]
  simp

theorem length_nameFindings_le_one (ns : Namespace) (earlier : List Table) (table : Table) :
    (ns.nameFindings earlier table).length ≤ 1 := by
  rw [nameFindings]
  split_ifs
  · exact le_rfl
  · split <;> simp

theorem countP_duplicateTable (ns : Namespace) (earlier : List Table) (table : Table) :
    (ns.tableFindings earlier table).countP (·.rule = .duplicateTable) =
      (ns.nameFindings earlier table).length := by
  have columns : ((table.columns.mapIdx fun i column =>
      Table.columnFindings ns.name table.name
        ((table.columns.take i).map (·.name)) column).flatten).countP
        (·.rule = .duplicateTable) = 0 := by
    apply countP_flatten_mapIdx_eq_zero
    intro i item found member
    obtain ⟨_, rfl⟩ | ⟨_, rfl⟩ := Table.mem_columnFindings_iff.1 member
    all_goals exact Bool.false_ne_true
  have key : ((table.key.mapIdx fun i entry =>
      Table.keyFindings ns.name table (table.key.take i) entry).flatten).countP
        (·.rule = .duplicateTable) = 0 := by
    apply countP_flatten_mapIdx_eq_zero
    intro i item found member
    obtain rfl | ⟨_, rfl⟩ | ⟨_, _, _, _, _, rfl⟩ := Table.mem_keyFindings_cases member
    all_goals exact Bool.false_ne_true
  have name : (ns.nameFindings earlier table).countP (·.rule = .duplicateTable) =
      (ns.nameFindings earlier table).length := by
    rw [List.countP_eq_length]
    intro found member
    obtain rfl | ⟨_, _, _, rfl⟩ := mem_nameFindings_cases member <;> rfl
  have hints : (ns.hintFindings table).countP (·.rule = .duplicateTable) = 0 := by
    rw [List.countP_eq_zero]
    intro found member
    obtain ⟨hint, _, rfl⟩ := List.mem_map.1 member
    exact Bool.false_ne_true
  rw [tableFindings, List.countP_append, List.countP_append, List.countP_append, columns, key,
    name, hints]
  simp

/-- The violations that are found in the table at a position, after those before it. -/
def violationsAt (ns : Namespace) (i : Fin ns.tables.length) : List Violation :=
  ns.tableViolations (SeenTables.after ns (ns.tables.take i)) ns.tables[i]

/-- A table before the position has the name or the id of the table there. -/
def ClashesAt (ns : Namespace) (i : Fin ns.tables.length) : Prop :=
  ∃ j < i, ns.tables[j].name = ns.tables[i].name ∨ ns.idOf ns.tables[j] = ns.idOf ns.tables[i]

/-- The id of the table at the position was met before, but only at tables that repeat a name
which was first that of a table of the other kind. Its own name is new. -/
def OverlookedAt (ns : Namespace) (i : Fin ns.tables.length) : Prop :=
  (∀ j < i, ns.tables[j].name ≠ ns.tables[i].name) ∧
    (∃ j < i, ns.idOf ns.tables[j] = ns.idOf ns.tables[i]) ∧
    ∀ j < i, ns.idOf ns.tables[j] = ns.idOf ns.tables[i] →
      ∃ k < j, ns.tables[k].name = ns.tables[j].name ∧
        ns.tables[k].persisted ≠ ns.tables[j].persisted

theorem violations_eq_flatten_violationsAt (ns : Namespace) :
    ns.violations = (List.ofFn ns.violationsAt).flatten := by
  rw [violations_eq_findings, findings]
  congr 1
  refine List.ext_getElem (by simp) fun i h _ => ?_
  simp [violationsAt, tableViolations_after]

private theorem mem_map_take_iff {α β : Type} {items : List α} {key : α → β} {k : β}
    {i : Fin items.length} :
    k ∈ (items.take i).map key ↔ ∃ j < i, key items[j] = k := by
  simp only [List.mem_map, List.mem_take_iff_getElem]
  constructor
  · rintro ⟨_, ⟨j, h, rfl⟩, rfl⟩
    exact ⟨⟨j, by omega⟩, by simp [Fin.lt_def]; omega, rfl⟩
  · rintro ⟨j, below, rfl⟩
    exact ⟨_, ⟨j, by have := i.isLt; omega, rfl⟩, rfl⟩

private theorem exists_firstOccurrence_iff {ns : Namespace} {i : Fin ns.tables.length} :
    (∃ other ∈ Table.firstOccurrences (ns.tables.take i), ns.idOf other = ns.idOf ns.tables[i]) ↔
      ∃ j < i, ns.idOf ns.tables[j] = ns.idOf ns.tables[i] ∧
        ∀ k < j, ns.tables[k].name ≠ ns.tables[j].name := by
  constructor
  · rintro ⟨_, member, same⟩
    obtain ⟨j, h, rfl, fresh⟩ := Table.mem_firstOccurrences_iff.1 member
    rw [List.length_take, lt_min_iff] at h
    rw [List.getElem_take] at same fresh
    rw [List.take_take, min_eq_left h.1.le] at fresh
    refine ⟨⟨j, h.2⟩, h.1, same, fun k below repeated => ?_⟩
    exact fresh ((mem_map_take_iff (i := ⟨j, h.2⟩)).2 ⟨k, below, repeated⟩)
  · rintro ⟨j, below, same, first⟩
    have h : j.val < (ns.tables.take i).length := by
      rw [List.length_take, lt_min_iff]
      exact ⟨below, j.isLt⟩
    refine ⟨ns.tables[j], Table.mem_firstOccurrences_iff.2 ⟨j, h, List.getElem_take, ?_⟩, same⟩
    rw [List.take_take, min_eq_left (Fin.lt_def.1 below).le, mem_map_take_iff]
    rintro ⟨k, before, repeated⟩
    exact first k before repeated

private theorem exists_first_of_name (ns : Namespace) (j : Fin ns.tables.length) :
    ∃ k ≤ j, ns.tables[k].name = ns.tables[j].name ∧
      ∀ m < k, ns.tables[m].name ≠ ns.tables[k].name := by
  obtain ⟨k, same, least⟩ :=
    wellFounded_lt.has_min {k : Fin ns.tables.length | ns.tables[k].name = ns.tables[j].name}
      ⟨j, rfl⟩
  refine ⟨k, not_lt.1 (least j rfl), same, fun m below repeated => ?_⟩
  exact least m (repeated.trans same) below

private theorem reported_iff {ns : Namespace} {i : Fin ns.tables.length} :
    ((∃ j < i, ns.tables[j].name = ns.tables[i].name) ∨
      ∃ j < i, ns.idOf ns.tables[j] = ns.idOf ns.tables[i] ∧
        ∀ k < j, ns.tables[k].name ≠ ns.tables[j].name) ↔
      ns.ClashesAt i ∧ ¬ ns.OverlookedAt i := by
  constructor
  · rintro (⟨j, below, same⟩ | ⟨j, below, same, first⟩)
    · exact ⟨⟨j, below, Or.inl same⟩, fun overlooked => overlooked.1 j below same⟩
    · refine ⟨⟨j, below, Or.inr same⟩, fun overlooked => ?_⟩
      obtain ⟨k, before, repeated, _⟩ := overlooked.2.2 j below same
      exact first k before repeated
  · rintro ⟨⟨j, below, clash⟩, noticed⟩
    by_cases known : ∃ j < i, ns.tables[j].name = ns.tables[i].name
    · exact Or.inl known
    · refine Or.inr ?_
      have fresh : ∀ j < i, ns.tables[j].name ≠ ns.tables[i].name :=
        fun j below same => known ⟨j, below, same⟩
      have twin := clash.resolve_left (fresh j below)
      -- Some table with the id is of the kind of every table of its name before it, so the first
      -- table of its name has the id as well.
      have witness : ∃ j < i, ns.idOf ns.tables[j] = ns.idOf ns.tables[i] ∧
          ∀ k < j, ns.tables[k].name = ns.tables[j].name →
            ns.tables[k].persisted = ns.tables[j].persisted := by
        by_contra none
        refine noticed ⟨fresh, ⟨j, below, twin⟩, fun j below same => ?_⟩
        by_contra kinds
        refine none ⟨j, below, same, fun k before repeated => ?_⟩
        by_contra differ
        exact kinds ⟨k, before, repeated, differ⟩
      obtain ⟨j, below, same, kinds⟩ := witness
      obtain ⟨k, atMost, name, first⟩ := ns.exists_first_of_name j
      refine ⟨k, lt_of_le_of_lt atMost below, ?_, first⟩
      rcases atMost.lt_or_eq with before | rfl
      · rw [← same, idOf, idOf, name, kinds k before name]
      · exact same

/-- A table is reported once at most for its name or its id, and it is reported exactly if a table
before it has its name or its id, unless it is overlooked. -/
theorem duplicateTable_reported_iff (ns : Namespace) :
    (∀ found, ns.validate = .error found ↔
      found = (List.ofFn ns.violationsAt).flatten ∧ found ≠ []) ∧
      ∀ i, (ns.violationsAt i).countP (·.rule = .duplicateTable) ≤ 1 ∧
        ((ns.violationsAt i).countP (·.rule = .duplicateTable) = 1 ↔
          ns.ClashesAt i ∧ ¬ ns.OverlookedAt i) := by
  refine ⟨fun found => ?_, fun i => ?_⟩
  · rw [← violations_eq_flatten_violationsAt]
    exact validate_eq_error_iff
  · have atMost := ns.length_nameFindings_le_one (ns.tables.take i) ns.tables[i]
    have one_iff : (ns.nameFindings (ns.tables.take i) ns.tables[i]).length = 1 ↔
        ns.nameFindings (ns.tables.take i) ns.tables[i] ≠ [] := by
      rw [← List.length_pos_iff_ne_nil]
      omega
    rw [violationsAt, tableViolations_after, countP_duplicateTable]
    refine ⟨atMost, one_iff.trans ?_⟩
    rw [← reported_iff, ← exists_firstOccurrence_iff, Ne, nameFindings_eq_nil_iff,
      mem_map_take_iff]
    simp only [not_and_or, not_not, not_forall, exists_prop, Ne]

/-- Two tables of one name but of two kinds, and a table with the id of the second of them. -/
def hiddenTwin : Namespace where
  name := "app"
  tables :=
    [⟨"PlayerInventorySlotA", [⟨"a", "uint8"⟩], [], true, .empty⟩,
      ⟨"PlayerInventorySlotA", [⟨"a", "uint8"⟩], [], false, .empty⟩,
      ⟨"PlayerInventorySlotB", [⟨"a", "uint8"⟩], [], false, .empty⟩]
  deploy := .empty
  recognizedHints := .default

theorem hiddenTwin_unreported :
    hiddenTwin.ClashesAt ⟨2, by decide⟩ ∧
      (hiddenTwin.violationsAt ⟨2, by decide⟩).countP (·.rule = .duplicateTable) = 0 := by
  refine ⟨⟨⟨1, by decide⟩, by decide, Or.inr ?_⟩, ?_⟩
  · exact idOf_eq_iff.2 ⟨rfl, by decide +kernel⟩
  · rw [violationsAt, tableViolations_after, countP_duplicateTable, List.length_eq_zero_iff,
      nameFindings_eq_nil_iff]
    refine ⟨by decide, fun other member same => ?_⟩
    have first : Table.firstOccurrences (hiddenTwin.tables.take 2) = hiddenTwin.tables.take 1 := by
      decide +kernel
    obtain rfl := List.mem_singleton.1 (first ▸ member)
    exact absurd (idOf_eq_iff.1 same).1 (by decide)

end Namespace

end TableSchema
