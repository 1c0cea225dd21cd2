import TableSchema.FilePath
import TableSchema.Proofs.Text.Bytes
import TableSchema.Proofs.Text.Lossy

set_option autoImplicit false

namespace TableSchema.FilePath

theorem display_ofText (text : String) : (ofText text).display = text := by
  have bytes : (ofText text).bytes = Text.utf8 text := rfl
  rw [display, bytes, Text.decodeLossy_utf8, String.ofList_toList]

theorem ofText_joinText (base path : String) :
    ofText (joinText base path) = (ofText base).join (ofText path) := by
  have absolute : (Text.utf8 path).head? = some slash ↔ path.toList.head? = some '/' :=
    @Text.head?_utf8_eq_iff '/' (by decide) path
  have ended : (Text.utf8 base).getLast? = some slash ↔ base.toList.getLast? = some '/' :=
    @Text.getLast?_utf8_eq_iff '/' (by decide) base
  have blank : Text.utf8 base = [] ↔ base.toList = [] := by
    rw [String.toList_eq_nil_iff, ← Text.utf8_injective.eq_iff (b := "")]
    rfl
  have bytes : Text.utf8 (joinText base path) =
      joinAt slash (Text.utf8 base) (Text.utf8 path) := by
    simp only [joinText, joinAt, Bool.or_eq_true, beq_iff_eq, List.isEmpty_iff, absolute, ended,
      blank]
    split
    · rw [String.ofList_toList]
    · split
      · simp only [Text.utf8_eq_flatMap, String.toList_ofList, List.flatMap_append]
      · simp only [Text.utf8_eq_flatMap, String.toList_ofList, List.flatMap_append,
          List.flatMap_cons]
        rfl
  exact congrArg FilePath.mk bytes

end TableSchema.FilePath
