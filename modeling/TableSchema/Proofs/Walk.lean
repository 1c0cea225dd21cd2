import Mathlib.Data.List.Nodup

/-!
Walks over lists that remember what they have met, and lists whose items are told apart by a key.

A walk reports on each item with what it remembers of the items before it. Its report is a
concatenation by position, in which the item at position `i` stands beside the first `i` items.
Where no key occurs twice, an item is found by its key, and no other item is.
-/

set_option autoImplicit false

namespace TableSchema

variable {α β κ σ : Type}

/-- A walk that reports on each item and then takes it into its memory is a concatenation of
reports, each on an item with the memory of the items before it. -/
theorem walk_eq_flatten (walk : σ → List α → List β) (report : σ → α → List β)
    (remember : σ → α → σ) (nil : ∀ memory, walk memory [] = [])
    (cons : ∀ memory item rest,
      walk memory (item :: rest) = report memory item ++ walk (remember memory item) rest)
    (memory : σ) (items : List α) :
    walk memory items =
      (items.mapIdx fun i item => report ((items.take i).foldl remember memory) item).flatten := by
  induction items generalizing memory with
  | nil => simp [nil]
  | cons item rest ih =>
    rw [cons, ih, List.mapIdx_cons]
    simp

theorem flatten_mapIdx_eq_nil_iff {report : Nat → α → List β} {items : List α} :
    (items.mapIdx report).flatten = [] ↔
      ∀ i, (h : i < items.length) → report i items[i] = [] := by
  simp only [List.flatten_eq_nil_iff, List.mem_mapIdx]
  constructor
  · intro empty i h
    exact empty _ ⟨i, h, rfl⟩
  · rintro empty report ⟨i, h, rfl⟩
    exact empty i h

theorem mem_flatten_mapIdx_iff {report : Nat → α → List β} {items : List α} {found : β} :
    found ∈ (items.mapIdx report).flatten ↔
      ∃ i, ∃ h : i < items.length, found ∈ report i items[i] := by
  simp only [List.mem_flatten, List.mem_mapIdx]
  constructor
  · rintro ⟨_, ⟨i, h, rfl⟩, member⟩
    exact ⟨i, h, member⟩
  · rintro ⟨i, h, member⟩
    exact ⟨_, ⟨i, h, rfl⟩, member⟩

theorem exists_mem_take_of_sublist {first second : α} {items : List α}
    (twice : [first, second].Sublist items) :
    ∃ i, ∃ h : i < items.length, items[i] = second ∧ first ∈ items.take i := by
  obtain ⟨before, later, rfl, earlier, single⟩ := List.cons_sublist_iff.1 twice
  obtain ⟨i, h, there⟩ := List.getElem_of_mem (List.singleton_sublist.1 single)
  refine ⟨before.length + i, by rw [List.length_append]; omega, ?_, ?_⟩
  · rw [List.getElem_append_right (Nat.le_add_right _ _)]
    simpa using there
  · rw [List.take_length_add_append]
    exact List.mem_append_left _ earlier

theorem countP_flatten_mapIdx_eq_zero {report : Nat → α → List β} {items : List α} {p : β → Bool}
    (silent : ∀ i item, ∀ found ∈ report i item, ¬ p found) :
    (items.mapIdx report).flatten.countP p = 0 := by
  rw [List.countP_eq_zero]
  intro found member
  obtain ⟨i, h, member⟩ := mem_flatten_mapIdx_iff.1 member
  exact silent i items[i] found member

theorem nodup_iff_not_mem_take {items : List α} :
    items.Nodup ↔ ∀ i, (h : i < items.length) → items[i] ∉ items.take i := by
  rw [List.Nodup, List.pairwise_iff_getElem]
  simp only [List.mem_take_iff_getElem]
  constructor
  · rintro differ i h ⟨j, hj, same⟩
    exact differ j i (by omega) h (by omega) same
  · intro fresh j i hj hi below same
    exact fresh i hi ⟨j, by omega, same⟩

theorem nodup_map_iff_not_mem_take {key : α → κ} {items : List α} :
    (items.map key).Nodup ↔
      ∀ i, (h : i < items.length) → key items[i] ∉ (items.take i).map key := by
  simp only [nodup_iff_not_mem_take, List.length_map, List.getElem_map, List.map_take]

theorem filter_key_eq_singleton_iff [DecidableEq κ] {key : α → κ} {items : List α}
    (differ : (items.map key).Nodup) {k : κ} {item : α} :
    items.filter (key · = k) = [item] ↔ item ∈ items ∧ key item = k := by
  constructor
  · intro only
    have member : item ∈ items.filter (key · = k) := by simp [only]
    simpa using List.mem_filter.1 member
  · rintro ⟨member, rfl⟩
    obtain ⟨before, after, rfl⟩ := List.append_of_mem member
    rw [List.map_append, List.map_cons, List.nodup_middle, List.nodup_cons, List.mem_append,
      not_or] at differ
    have none_of {others : List α} (away : key item ∉ others.map key) :
        others.filter (key · = key item) = [] := by
      rw [List.filter_eq_nil_iff]
      intro other there same
      exact away (List.mem_map.2 ⟨other, there, by simpa using same⟩)
    rw [List.filter_append, List.filter_cons_of_pos (by simp), none_of differ.1.1,
      none_of differ.1.2, List.nil_append]

theorem find?_key_eq_some_iff [BEq κ] [LawfulBEq κ] {key : α → κ} {items : List α}
    (differ : (items.map key).Nodup) {k : κ} {item : α} :
    items.find? (key · == k) = some item ↔ item ∈ items ∧ key item = k := by
  constructor
  · intro found
    exact ⟨List.mem_of_find?_eq_some found, by simpa using List.find?_some found⟩
  · rintro ⟨member, rfl⟩
    have known : (items.find? (key · == key item)).isSome := by
      rw [List.find?_isSome]
      exact ⟨item, member, beq_self_eq_true (key item)⟩
    obtain ⟨first, found⟩ := Option.isSome_iff_exists.1 known
    have same : key first = key item := by simpa using List.find?_some found
    rw [found, List.inj_on_of_nodup_map differ (List.mem_of_find?_eq_some found) member same]

theorem lookup_map [BEq κ] [LawfulBEq κ] [DecidableEq κ] (key : α → κ) (value : α → β)
    (items : List α) (k : κ) :
    (items.map fun item => (key item, value item)).lookup k =
      (items.find? fun item => key item = k).map value := by
  induction items with
  | nil => rfl
  | cons item rest ih =>
    by_cases same : key item = k
    · simp [same]
    · have other : (k == key item) = false := by simpa using Ne.symm same
      simp [List.lookup_cons, same, other, ih]

end TableSchema
