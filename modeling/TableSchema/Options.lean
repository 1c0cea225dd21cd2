import TableSchema.Json.Basic

set_option autoImplicit false

namespace TableSchema

/-- Values by name. Names ascend, and inside every value the keys of objects ascend too, so two
option sets are equal when they hold the same values. -/
structure Options where
  entries : List (String × Json)
  canonical : (Json.object entries).Canonical
  deriving DecidableEq

namespace Options

def empty : Options :=
  ⟨[], by simp [Json.Canonical, Json.CanonicalMembers, Ascending]⟩

instance : Inhabited Options := ⟨empty⟩

def ofMembers (members : List (String × Json)) : Options :=
  ⟨Json.normalizeMembers members, by
    simpa [Json.normalize] using Json.canonical_normalize (.object members)⟩

def names (options : Options) : List String :=
  options.entries.map (·.1)

theorem ascending_names (options : Options) : options.names.Pairwise (· < ·) := by
  have canonical := options.canonical
  rw [Json.Canonical] at canonical
  exact List.pairwise_map.2 canonical.1

def toJson (options : Options) : Json :=
  .object options.entries

end Options

end TableSchema
