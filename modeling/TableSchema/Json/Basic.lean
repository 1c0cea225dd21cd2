import TableSchema.Json.Number

set_option autoImplicit false

namespace TableSchema

/-- A document value. Members of an object stand in the order in which they were written. -/
inductive Json where
  | null
  | bool (value : Bool)
  | number (value : Number)
  | text (value : String)
  | array (items : List Json)
  | object (members : List (String × Json))
  deriving Repr, Inhabited

namespace Json

mutual

private def decEq : (a b : Json) → Decidable (a = b)
  | .null, .null => isTrue rfl
  | .bool x, .bool y =>
    if h : x = y then isTrue (h ▸ rfl) else isFalse fun e => h (Json.bool.inj e)
  | .number x, .number y =>
    if h : x = y then isTrue (h ▸ rfl) else isFalse fun e => h (Json.number.inj e)
  | .text x, .text y =>
    if h : x = y then isTrue (h ▸ rfl) else isFalse fun e => h (Json.text.inj e)
  | .array xs, .array ys =>
    match decEqItems xs ys with
    | isTrue h => isTrue (h ▸ rfl)
    | isFalse h => isFalse fun e => h (Json.array.inj e)
  | .object xs, .object ys =>
    match decEqMembers xs ys with
    | isTrue h => isTrue (h ▸ rfl)
    | isFalse h => isFalse fun e => h (Json.object.inj e)
  | .null, .bool _ | .null, .number _ | .null, .text _ | .null, .array _ | .null, .object _
  | .bool _, .null | .bool _, .number _ | .bool _, .text _ | .bool _, .array _
  | .bool _, .object _
  | .number _, .null | .number _, .bool _ | .number _, .text _ | .number _, .array _
  | .number _, .object _
  | .text _, .null | .text _, .bool _ | .text _, .number _ | .text _, .array _
  | .text _, .object _
  | .array _, .null | .array _, .bool _ | .array _, .number _ | .array _, .text _
  | .array _, .object _
  | .object _, .null | .object _, .bool _ | .object _, .number _ | .object _, .text _
  | .object _, .array _ => isFalse (fun e => by cases e)

private def decEqItems : (a b : List Json) → Decidable (a = b)
  | [], [] => isTrue rfl
  | [], _ :: _ | _ :: _, [] => isFalse (fun e => by cases e)
  | x :: xs, y :: ys =>
    match decEq x y, decEqItems xs ys with
    | isTrue h, isTrue t => isTrue (h ▸ t ▸ rfl)
    | isFalse h, _ => isFalse fun e => h (List.cons.inj e).1
    | _, isFalse t => isFalse fun e => t (List.cons.inj e).2

private def decEqMembers : (a b : List (String × Json)) → Decidable (a = b)
  | [], [] => isTrue rfl
  | [], _ :: _ | _ :: _, [] => isFalse (fun e => by cases e)
  | (k, x) :: xs, (l, y) :: ys =>
    if hk : k = l then
      match decEq x y, decEqMembers xs ys with
      | isTrue h, isTrue t => isTrue (hk ▸ h ▸ t ▸ rfl)
      | isFalse h, _ => isFalse fun e => h (Prod.mk.inj (List.cons.inj e).1).2
      | _, isFalse t => isFalse fun e => t (List.cons.inj e).2
    else isFalse fun e => hk (Prod.mk.inj (List.cons.inj e).1).1

end

instance : DecidableEq Json := decEq

def ofNat (n : Nat) : Json :=
  .number (.ofNat n)

def ofText? : Option String → Json
  | some value => .text value
  | none => .null

def ofTexts (texts : List String) : Json :=
  .array (texts.map .text)

end Json

/-- Puts a member into ascending members unless its key is there already. -/
def insertNew {α : Type} (key : String) (value : α) : List (String × α) → List (String × α)
  | [] => [(key, value)]
  | (k, v) :: rest =>
    if key < k then (key, value) :: (k, v) :: rest
    else if k < key then (k, v) :: insertNew key value rest
    else (k, v) :: rest

theorem mem_insertNew {α : Type} {key : String} {value : α} {members : List (String × α)}
    {m : String × α} (h : m ∈ insertNew key value members) : m = (key, value) ∨ m ∈ members := by
  induction members with
  | nil => simpa [insertNew] using h
  | cons head rest ih =>
    obtain ⟨k, v⟩ := head
    simp only [insertNew] at h
    split at h
    · simpa using h
    · split at h
      · rcases List.mem_cons.1 h with rfl | h
        · simp
        · rcases ih h with rfl | h
          · simp
          · simp [h]
      · exact Or.inr h

theorem mem_keys_insertNew_iff {α : Type} {key name : String} {value : α}
    {members : List (String × α)} :
    name ∈ (insertNew key value members).map (·.1) ↔ name = key ∨ name ∈ members.map (·.1) := by
  induction members with
  | nil => simp [insertNew]
  | cons head rest ih =>
    obtain ⟨k, v⟩ := head
    rw [insertNew]
    split
    · simp
    · rename_i above
      split
      · simp only [List.map_cons, List.mem_cons, ih]
        exact or_left_comm
      · rename_i below
        have same : k = key := String.le_antisymm (String.not_lt.1 above) (String.not_lt.1 below)
        simp [same]

def Ascending {α : Type} (members : List (String × α)) : Prop :=
  members.Pairwise fun a b => a.1 < b.1

theorem Ascending.insertNew {α : Type} {key : String} {value : α} {members : List (String × α)}
    (h : Ascending members) : Ascending (insertNew key value members) := by
  induction members with
  | nil => simp [TableSchema.insertNew, Ascending]
  | cons head rest ih =>
    obtain ⟨k, v⟩ := head
    obtain ⟨first, rest_ascending⟩ := List.pairwise_cons.1 h
    simp only [TableSchema.insertNew]
    split
    · rename_i below
      refine List.pairwise_cons.2 ⟨?_, h⟩
      intro m hm
      rcases List.mem_cons.1 hm with rfl | hm
      · exact below
      · exact String.lt_trans below (first m hm)
    · split
      · rename_i above
        refine List.pairwise_cons.2 ⟨?_, ih rest_ascending⟩
        intro m hm
        rcases mem_insertNew hm with rfl | hm
        · exact above
        · exact first m hm
      · exact h

namespace Json

mutual

/-- Sorts the members of every object by key; of members with one key the last one stays. -/
def normalize : Json → Json
  | .array items => .array (normalizeItems items)
  | .object members => .object (normalizeMembers members)
  | .null => .null
  | .bool value => .bool value
  | .number value => .number value
  | .text value => .text value

def normalizeItems : List Json → List Json
  | [] => []
  | item :: rest => item.normalize :: normalizeItems rest

def normalizeMembers : List (String × Json) → List (String × Json)
  | [] => []
  | (key, value) :: rest => insertNew key value.normalize (normalizeMembers rest)

end

mutual

/-- In every object of the value the keys ascend. -/
def Canonical : Json → Prop
  | .array items => CanonicalItems items
  | .object members => Ascending members ∧ CanonicalMembers members
  | .null | .bool _ | .number _ | .text _ => True

def CanonicalItems : List Json → Prop
  | [] => True
  | item :: rest => item.Canonical ∧ CanonicalItems rest

def CanonicalMembers : List (String × Json) → Prop
  | [] => True
  | (_, value) :: rest => value.Canonical ∧ CanonicalMembers rest

end

theorem canonicalMembers_iff (members : List (String × Json)) :
    CanonicalMembers members ↔ ∀ m ∈ members, m.2.Canonical := by
  induction members with
  | nil => simp [CanonicalMembers]
  | cons head rest ih =>
    obtain ⟨key, value⟩ := head
    simp [CanonicalMembers, ih]

theorem ascending_normalizeMembers (members : List (String × Json)) :
    Ascending (normalizeMembers members) := by
  induction members with
  | nil => simp [normalizeMembers, Ascending]
  | cons head rest ih =>
    obtain ⟨key, value⟩ := head
    simpa [normalizeMembers] using ih.insertNew

mutual

theorem canonical_normalize : (value : Json) → value.normalize.Canonical
  | .null | .bool _ | .number _ | .text _ => by simp [normalize, Canonical]
  | .array items => by
    simpa [normalize, Canonical] using canonicalItems_normalizeItems items
  | .object members => by
    simpa [normalize, Canonical] using
      ⟨ascending_normalizeMembers members, canonicalMembers_normalizeMembers members⟩

theorem canonicalItems_normalizeItems :
    (items : List Json) → CanonicalItems (normalizeItems items)
  | [] => by simp [normalizeItems, CanonicalItems]
  | item :: rest => by
    simpa [normalizeItems, CanonicalItems] using
      ⟨canonical_normalize item, canonicalItems_normalizeItems rest⟩

theorem canonicalMembers_normalizeMembers :
    (members : List (String × Json)) → CanonicalMembers (normalizeMembers members)
  | [] => by simp [normalizeMembers, CanonicalMembers]
  | (key, value) :: rest => by
    rw [normalizeMembers, canonicalMembers_iff]
    intro m hm
    rcases mem_insertNew hm with rfl | hm
    · exact canonical_normalize value
    · exact (canonicalMembers_iff _).1 (canonicalMembers_normalizeMembers rest) m hm

end

end Json

end TableSchema
