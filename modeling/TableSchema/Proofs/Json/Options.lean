import TableSchema.Json.Options
import TableSchema.Proofs.Declaration.Hints
import TableSchema.Proofs.Json.Arrangement
import TableSchema.Proofs.Json.Reading

set_option autoImplicit false

namespace TableSchema

theorem Options.reads_reader {options : Options} {written : Json}
    (arranges : Json.Arranges written options.toJson) : reader.Reads written options := by
  cases arranges with
  | @object members sorted entries order each =>
    have same := ofMembers_of_arranges (.object order each)
    have read : (Reader.membersOf "a map" Reader.json).Reads (.object members) members :=
      Reader.reads_membersOf (List.forall₂_same.2 fun m _ => ⟨rfl, Reader.reads_json m.2⟩)
    have all := read.map ofMembers
    rw [same] at all
    exact all

theorem HintSet.reads_reader (hints : HintSet) : reader.Reads hints.toJson hints := by
  have same : ofList hints.names = hints := ofList_eq_iff.2 fun _ => Iff.rfl
  have read := (Reader.reads_texts hints.names).map ofList
  rw [same] at read
  exact read

end TableSchema
