import TableSchema.ResourceId
import Mathlib.Logic.Function.Basic

set_option autoImplicit false

namespace TableSchema

private theorem hexDigit_inj {m n : Nat} (hm : m < 16) (hn : n < 16)
    (h : Text.hexDigit m = Text.hexDigit n) : m = n := by
  have read := Text.hexDigit?_hexDigit hm
  rw [h, Text.hexDigit?_hexDigit hn] at read
  exact (Option.some.inj read).symm

theorem hexBytes_injective : Function.Injective hexBytes := by
  intro a b h
  induction a generalizing b with
  | nil =>
    cases b with
    | nil => rfl
    | cons y b => simp [hexBytes] at h
  | cons x a ih =>
    cases b with
    | nil => simp [hexBytes] at h
    | cons y b =>
      simp only [hexBytes, List.flatMap_cons, List.cons_append, List.nil_append,
        List.cons.injEq] at h
      obtain ⟨high, low, rest⟩ := h
      have hx := x.toNat_lt
      have hy := y.toNat_lt
      have highs := hexDigit_inj (by omega) (by omega) high
      have lows := hexDigit_inj (by omega) (by omega) low
      have same : x = y := UInt8.toNat_inj.1 (by omega)
      rw [same, ih rest]

namespace ResourceId

theorem kindBytes_injective : Function.Injective kindBytes := by
  have all : ∀ p q : Bool, kindBytes p = kindBytes q → p = q := by decide
  exact fun p q h => all p q h

theorem toHex_injective : Function.Injective toHex := by
  intro id other h
  have digits := String.ofList_injective h
  simp only [List.cons.injEq, true_and] at digits
  have bytes := Vector.toList_inj.1 (hexBytes_injective digits)
  cases id
  cases other
  exact congrArg ResourceId.mk bytes

theorem ofTable_eq_iff {ns ns' table table' : String} {persisted persisted' : Bool} :
    ofTable ns table persisted = ofTable ns' table' persisted' ↔
      persisted = persisted' ∧ namespaceSlot ns = namespaceSlot ns' ∧
        nameSlot tableSlotBytes table = nameSlot tableSlotBytes table' := by
  constructor
  · intro h
    have bytes := ResourceId.mk.inj h
    obtain ⟨front, name⟩ := Vector.append_inj bytes
    obtain ⟨kind, slot⟩ := Vector.append_inj front
    exact ⟨kindBytes_injective kind, slot, name⟩
  · rintro ⟨rfl, slot, name⟩
    rw [ofTable, ofTable, slot, name]

end ResourceId

end TableSchema
