import Mathlib.Data.List.DropRight
import TableSchema.Proofs.ResourceId
import TableSchema.Proofs.Text.Bytes

set_option autoImplicit false

namespace TableSchema

section Padding

variable {α : Type} [DecidableEq α] {zero : α} {items others : List α} {width : Nat}

theorem rdropWhile_append_replicate (items : List α) (count : Nat) :
    (items ++ List.replicate count zero).rdropWhile (· = zero) =
      items.rdropWhile (· = zero) := by
  induction count with
  | zero => simp
  | succ count ih =>
    rw [List.replicate_succ', ← List.append_assoc, List.rdropWhile_concat_pos _ _ _ (by simp), ih]

private theorem exists_eq_rdropWhile_append (zero : α) (items : List α) :
    ∃ count, items = items.rdropWhile (· = zero) ++ List.replicate count zero := by
  refine ⟨(items.rtakeWhile (· = zero)).length, ?_⟩
  have zeros : items.rtakeWhile (· = zero) =
      List.replicate (items.rtakeWhile (· = zero)).length zero := by
    refine List.eq_replicate_iff.2 ⟨rfl, fun item member => ?_⟩
    simpa using List.mem_rtakeWhile_imp member
  rw [← zeros, List.rdropWhile_append_rtakeWhile]

theorem append_replicate_eq_iff (fits : items.length ≤ width) (fits' : others.length ≤ width) :
    items ++ List.replicate (width - items.length) zero =
        others ++ List.replicate (width - others.length) zero ↔
      items.rdropWhile (· = zero) = others.rdropWhile (· = zero) := by
  constructor
  · intro same
    have kept := congrArg (List.rdropWhile (· = zero)) same
    rwa [rdropWhile_append_replicate, rdropWhile_append_replicate] at kept
  · intro same
    obtain ⟨count, whole⟩ := exists_eq_rdropWhile_append zero items
    obtain ⟨count', whole'⟩ := exists_eq_rdropWhile_append zero others
    have length := congrArg List.length whole
    have length' := congrArg List.length whole'
    rw [List.length_append, List.length_replicate] at length length'
    rw [whole, whole', same, List.append_assoc, List.append_assoc, List.replicate_append_replicate,
      List.replicate_append_replicate]
    congr 2
    simp only [List.length_append, List.length_replicate]
    rw [same] at length
    omega

end Padding

/-- The bytes of a name that its slot can hold. -/
def slotBytes (width : Nat) (name : String) : List UInt8 :=
  (Text.utf8 name).take width

theorem length_slotBytes_le (width : Nat) (name : String) : (slotBytes width name).length ≤ width :=
  List.length_take_le width (Text.utf8 name)

theorem toList_nameSlot (width : Nat) (name : String) :
    (nameSlot width name).toList =
      slotBytes width name ++ List.replicate (width - (Text.utf8 name).length) 0 := by
  have byte (i : Nat) : name.toUTF8.data[i]? = (Text.utf8 name)[i]? := Array.getElem?_toList.symm
  rw [nameSlot, Vector.toList_ofFn, slotBytes]
  apply List.ext_getElem
  · simp only [List.length_ofFn, List.length_append, List.length_take, List.length_replicate]
    omega
  · intro i below _
    have inside : i < width := by simpa using below
    rw [List.getElem_ofFn, byte, List.getElem_append]
    split_ifs with held
    · rw [List.length_take, lt_min_iff] at held
      rw [List.getElem_take, List.getElem?_eq_getElem held.2, Option.getD_some]
    · rw [List.length_take, lt_min_iff, not_and_or] at held
      have beyond : (Text.utf8 name).length ≤ i := by omega
      rw [List.getElem?_eq_none beyond, List.getElem_replicate, Option.getD_none]

/-- Names share a slot exactly if they agree once they are cut to its width and freed from the
zeros at their end. -/
theorem nameSlot_eq_iff {width : Nat} {name other : String} :
    nameSlot width name = nameSlot width other ↔
      (slotBytes width name).rdropWhile (· = 0) = (slotBytes width other).rdropWhile (· = 0) := by
  have room (name : String) :
      width - (Text.utf8 name).length = width - (slotBytes width name).length := by
    rw [slotBytes, List.length_take]
    omega
  rw [← append_replicate_eq_iff (length_slotBytes_le width name) (length_slotBytes_le width other),
    ← room name, ← room other, ← toList_nameSlot, ← toList_nameSlot, Vector.toList_inj]

theorem rdropWhile_slotBytes {name : String} (visible : '\x00' ∉ name.toList) (width : Nat) :
    (slotBytes width name).rdropWhile (· = 0) = slotBytes width name := by
  have nonzero : (0 : UInt8) ∉ Text.utf8 name :=
    fun zero => visible ((Text.mem_utf8_iff (a := '\x00') (by decide)).1 zero)
  rw [List.rdropWhile_eq_self_iff]
  intro nonempty last
  have member := List.mem_of_mem_take (List.getLast_mem nonempty)
  rw [of_decide_eq_true last] at member
  exact nonzero member

theorem take_eq_take_iff_or {α : Type} {width : Nat} {items others : List α} :
    items.take width = others.take width ↔
      items = others ∨ width ≤ items.length ∧ width ≤ others.length ∧
        items.take width = others.take width := by
  constructor
  · intro same
    have lengths := congrArg List.length same
    rw [List.length_take, List.length_take] at lengths
    by_cases long : width ≤ items.length
    · exact Or.inr ⟨long, by omega, same⟩
    · rw [List.take_of_length_le (by omega), List.take_of_length_le (by omega)] at same
      exact Or.inl same
  · rintro (rfl | ⟨_, _, same⟩)
    · rfl
    · exact same

theorem nameSlot_eq_iff_of_visible {width : Nat} {name other : String}
    (visible : '\x00' ∉ name.toList) (visible' : '\x00' ∉ other.toList) :
    nameSlot width name = nameSlot width other ↔
      name = other ∨ width ≤ (Text.utf8 name).length ∧ width ≤ (Text.utf8 other).length ∧
        (Text.utf8 name).take width = (Text.utf8 other).take width := by
  rw [nameSlot_eq_iff, rdropWhile_slotBytes visible, rdropWhile_slotBytes visible',
    ← Text.utf8_injective.eq_iff (a := name)]
  exact take_eq_take_iff_or

theorem mem_hexBytes {bytes : List UInt8} {c : Char} (member : c ∈ hexBytes bytes) :
    '0' ≤ c ∧ c ≤ '9' ∨ 'a' ≤ c ∧ c ≤ 'f' := by
  have digits : ∀ n : Fin 16, '0' ≤ Text.hexDigit n ∧ Text.hexDigit n ≤ '9' ∨
      'a' ≤ Text.hexDigit n ∧ Text.hexDigit n ≤ 'f' := by decide
  obtain ⟨byte, _, digit⟩ := List.mem_flatMap.1 member
  have size := byte.toNat_lt
  simp only [List.mem_cons, List.not_mem_nil, or_false] at digit
  rcases digit with rfl | rfl
  · exact digits ⟨byte.toNat / 16, by omega⟩
  · exact digits ⟨byte.toNat % 16, by omega⟩

theorem length_hexBytes (bytes : List UInt8) : (hexBytes bytes).length = 2 * bytes.length := by
  simp [hexBytes, List.length_flatMap, Nat.mul_comm]

namespace ResourceId

theorem exists_toHex_eq (id : ResourceId) :
    ∃ digits : List Char, id.toHex = String.ofList ('0' :: 'x' :: digits) ∧ digits.length = 64 ∧
      ∀ c ∈ digits, '0' ≤ c ∧ c ≤ '9' ∨ 'a' ≤ c ∧ c ≤ 'f' := by
  refine ⟨hexBytes id.bytes.toList, rfl, ?_, fun c => mem_hexBytes⟩
  rw [length_hexBytes, Vector.length_toList]

/-- Two tables have one id exactly if they are of one kind and share both slots. A slot holds the
first bytes of the name and then zeros, so names without NUL share it exactly if they are equal or
both fill it with the same bytes, and any names exactly if they agree up to zeros at the end of what
it holds. The digits of an id tell as much as its bytes. -/
theorem ids_and_slots_agree :
    (∀ (ns ns' table table' : String) (persisted persisted' : Bool),
      ofTable ns table persisted = ofTable ns' table' persisted' ↔
        persisted = persisted' ∧ nameSlot 14 ns = nameSlot 14 ns' ∧
          nameSlot 16 table = nameSlot 16 table') ∧
      (∀ (width : Nat) (name : String),
        (nameSlot width name).toList = (Text.utf8 name).take width ++
          List.replicate (width - (Text.utf8 name).length) 0) ∧
      (∀ (width : Nat) (name other : String), '\x00' ∉ name.toList → '\x00' ∉ other.toList →
        (nameSlot width name = nameSlot width other ↔
          name = other ∨ width ≤ (Text.utf8 name).length ∧ width ≤ (Text.utf8 other).length ∧
            (Text.utf8 name).take width = (Text.utf8 other).take width)) ∧
      (∀ (width : Nat) (name other : String), nameSlot width name = nameSlot width other ↔
        ((Text.utf8 name).take width).rdropWhile (· = 0) =
          ((Text.utf8 other).take width).rdropWhile (· = 0)) ∧
      Function.Injective toHex ∧
      ∀ id : ResourceId, ∃ digits : List Char,
        id.toHex = String.ofList ('0' :: 'x' :: digits) ∧ digits.length = 64 ∧
          ∀ c ∈ digits, '0' ≤ c ∧ c ≤ '9' ∨ 'a' ≤ c ∧ c ≤ 'f' := by
  refine ⟨?_, toList_nameSlot, ?_, ?_, toHex_injective, exists_toHex_eq⟩
  · intro ns ns' table table' persisted persisted'
    exact ofTable_eq_iff
  · intro width name other visible visible'
    exact nameSlot_eq_iff_of_visible visible visible'
  · intro width name other
    exact nameSlot_eq_iff

theorem accented_names_share_slot :
    '\x00' ∉ "PlayerInventoryé".toList ∧ '\x00' ∉ "PlayerInventoryè".toList ∧
      ofTable "app" "PlayerInventoryé" true = ofTable "app" "PlayerInventoryè" true := by
  have visible : '\x00' ∉ "PlayerInventoryé".toList := by decide
  have visible' : '\x00' ∉ "PlayerInventoryè".toList := by decide
  obtain ⟨ids, _, slots, _⟩ := ids_and_slots_agree
  have filled : nameSlot 16 "PlayerInventoryé" = nameSlot 16 "PlayerInventoryè" :=
    (slots 16 _ _ visible visible').2
      (Or.inr ⟨by decide +kernel, by decide +kernel, by decide +kernel⟩)
  exact ⟨visible, visible', (ids _ _ _ _ _ _).2 ⟨rfl, rfl, filled⟩⟩

end ResourceId

end TableSchema
