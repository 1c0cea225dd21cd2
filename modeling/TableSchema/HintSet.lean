import TableSchema.Json.Basic

set_option autoImplicit false

namespace TableSchema

/-- A set of names; the ascending list makes equal sets equal values. -/
structure HintSet where
  names : List String
  ascending : names.Pairwise (· < ·)
  deriving DecidableEq

namespace HintSet

private theorem pairwise_map_fst {members : List (String × Unit)} (h : Ascending members) :
    (members.map (·.1)).Pairwise (· < ·) :=
  List.pairwise_map.2 h

private def collect : List String → List (String × Unit)
  | [] => []
  | name :: rest => insertNew name () (collect rest)

private theorem ascending_collect (names : List String) : Ascending (collect names) := by
  induction names with
  | nil => simp [collect, Ascending]
  | cons name rest ih => exact ih.insertNew

/-- The set of the listed names, in any order and with any repeats. -/
def ofList (names : List String) : HintSet :=
  ⟨(collect names).map (·.1), pairwise_map_fst (ascending_collect names)⟩

def empty : HintSet :=
  ⟨[], .nil⟩

instance : Inhabited HintSet := ⟨empty⟩

def contains (hints : HintSet) (name : String) : Bool :=
  hints.names.contains name

instance : Membership String HintSet where
  mem hints name := name ∈ hints.names

instance (hints : HintSet) (name : String) : Decidable (name ∈ hints) :=
  inferInstanceAs (Decidable (name ∈ hints.names))

theorem contains_iff_mem {hints : HintSet} {name : String} :
    hints.contains name = true ↔ name ∈ hints :=
  List.contains_iff_mem

theorem mem_ofList_iff {names : List String} {name : String} :
    name ∈ ofList names ↔ name ∈ names := by
  change name ∈ (collect names).map (·.1) ↔ name ∈ names
  induction names with
  | nil => simp [collect]
  | cons first rest ih => rw [collect, mem_keys_insertNew_iff, ih, List.mem_cons]

/-- The set from which a namespace starts, in the order in which its names are documented. -/
def defaultNames : List String :=
  ["outputDirectory", "tableIdArgument", "storeArgument", "dataStruct"]

def default : HintSet :=
  ofList defaultNames

def toJson (hints : HintSet) : Json :=
  .ofTexts hints.names

end HintSet

end TableSchema
