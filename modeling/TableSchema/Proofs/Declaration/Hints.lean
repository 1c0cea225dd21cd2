import Mathlib.Data.List.Sort
import TableSchema.Build

set_option autoImplicit false

namespace TableSchema

namespace HintSet

theorem eq_of_mem_iff {a b : HintSet} (same : ∀ name, name ∈ a ↔ name ∈ b) : a = b := by
  obtain ⟨names, ascending⟩ := a
  obtain ⟨others, ascending'⟩ := b
  obtain rfl : names = others := ascending.eq_of_mem_iff ascending' same
  rfl

theorem ofList_eq_iff {names : List String} {hints : HintSet} :
    ofList names = hints ↔ ∀ name, name ∈ names ↔ name ∈ hints := by
  constructor
  · rintro rfl name
    exact mem_ofList_iff.symm
  · intro same
    exact eq_of_mem_iff fun name => mem_ofList_iff.trans (same name)

end HintSet

namespace Declaration

/-- The hint is one that the declaration lists or, where it lists none, one of the default. -/
def Understands (declaration : Declaration) (defaultHints : HintSet) (name : String) : Prop :=
  match declaration.codegenHints with
  | some own => name ∈ own
  | none => name ∈ defaultHints

theorem mem_recognizedHints_lower (declaration : Declaration) (defaultHints : HintSet)
    (name : String) :
    name ∈ (declaration.lower defaultHints).definition.recognizedHints ↔
      declaration.Understands defaultHints name := by
  obtain ⟨namespaceName, tables, deploy, hints⟩ := declaration
  cases hints with
  | none => exact Iff.rfl
  | some own => exact HintSet.mem_ofList_iff

/-- The declaration with the given hints as its own. -/
def listing (declaration : Declaration) (names : List String) : Declaration :=
  { declaration with codegenHints := some names }

/-- The second declaration lists what the first one understands: the default hints where that one
lists none, and otherwise the same names. -/
inductive MakesExplicit (defaultHints : HintSet) : Declaration → Declaration → Prop
  | absent {declaration : Declaration} {names : List String}
      (silent : declaration.codegenHints = none)
      (same : ∀ name, name ∈ names ↔ name ∈ defaultHints) :
      MakesExplicit defaultHints declaration (declaration.listing names)
  | listed {declaration : Declaration} {own names : List String}
      (lists : declaration.codegenHints = some own) (same : ∀ name, name ∈ names ↔ name ∈ own) :
      MakesExplicit defaultHints declaration (declaration.listing names)

theorem lower_listing (declaration : Declaration) (names : List String) (defaultHints : HintSet) :
    (declaration.listing names).lower defaultHints =
      let lowered := lowerTables declaration.namespaceName declaration.tables
      ⟨(Namespace.ofTables declaration.namespaceName lowered.1 declaration.deploy).recognizing
        (.ofList names), lowered.2⟩ :=
  rfl

theorem lower_of_absent {declaration : Declaration} (silent : declaration.codegenHints = none)
    {names : List String} {defaultHints : HintSet}
    (same : ∀ name, name ∈ names ↔ name ∈ defaultHints) (other : HintSet) :
    declaration.lower defaultHints = (declaration.listing names).lower other := by
  rw [lower_listing, HintSet.ofList_eq_iff.2 same, lower, silent]

theorem lower_of_same_names (declaration : Declaration) {names own : List String}
    (same : ∀ name, name ∈ names ↔ name ∈ own) (defaultHints other : HintSet) :
    (declaration.listing own).lower defaultHints = (declaration.listing names).lower other := by
  have equal : HintSet.ofList names = .ofList own :=
    HintSet.ofList_eq_iff.2 fun name => (same name).trans HintSet.mem_ofList_iff.symm
  rw [lower_listing, lower_listing, equal]

theorem MakesExplicit.lower_eq {defaultHints : HintSet} {declaration explicit : Declaration}
    (makes : MakesExplicit defaultHints declaration explicit) (other : HintSet) :
    declaration.lower defaultHints = explicit.lower other := by
  cases makes with
  | absent silent same => exact lower_of_absent silent same other
  | @listed own names lists same =>
    obtain ⟨namespaceName, tables, deploy, hints⟩ := declaration
    obtain rfl : hints = some own := lists
    exact lower_of_same_names ⟨namespaceName, tables, deploy, some own⟩ same defaultHints other

end Declaration

namespace Build

open Declaration (MakesExplicit)

section Congruence

variable (options : BuildOptions) {declarations others : List Declaration}
  {defaultHints otherHints : HintSet}

theorem ofLoaded_congr
    (each : List.Forall₂ (fun one other => one.lower defaultHints = other.lower otherHints)
      declarations others) (errors : List DeclarationError) :
    ofLoaded options ⟨declarations, errors⟩ defaultHints =
      ofLoaded options ⟨others, errors⟩ otherHints := by
  have lowered : declarations.map (·.lower defaultHints) = others.map (·.lower otherHints) := by
    induction each with
    | nil => rfl
    | cons first _ ih => rw [List.map_cons, List.map_cons, first, ih]
  rw [ofLoaded, ofLoaded, lowered]

theorem ofDeclarations_congr
    (each : List.Forall₂ (fun one other => one.lower defaultHints = other.lower otherHints)
      declarations others) :
    ofDeclarations options declarations defaultHints =
      ofDeclarations options others otherHints :=
  ofLoaded_congr options each []

end Congruence

/-- Default hints act as a list of them that is put wherever declarations list none, and then the
default does not matter any more. What a declaration that lists its hints lowers to depends
neither on the default nor on the order and the repeats of its list, and no more does a build. -/
theorem defaultHints_act_as_listed (options : BuildOptions) :
    (∀ (declaration : Declaration) (defaultHints : HintSet) (name : String),
      name ∈ (declaration.lower defaultHints).definition.recognizedHints ↔
        declaration.Understands defaultHints name) ∧
    (∀ (defaultHints other : HintSet) (declarations explicit : List Declaration),
      List.Forall₂ (MakesExplicit defaultHints) declarations explicit →
      ofDeclarations options declarations defaultHints =
        ofDeclarations options explicit other) ∧
    ∀ (declaration : Declaration) (own names : List String),
      (∀ name, name ∈ names ↔ name ∈ own) →
      (∀ defaultHints other : HintSet,
        (declaration.listing own).lower defaultHints = (declaration.listing names).lower other ∧
        ofDeclarations options [declaration.listing own] defaultHints =
          ofDeclarations options [declaration.listing names] other) ∧
      ∀ (defaultHints : HintSet) (before after : List Declaration),
        ofDeclarations options (before ++ declaration.listing own :: after) defaultHints =
          ofDeclarations options (before ++ declaration.listing names :: after) defaultHints := by
  refine ⟨Declaration.mem_recognizedHints_lower, ?_, ?_⟩
  · intro defaultHints other declarations explicit each
    exact ofDeclarations_congr options (each.imp fun _ _ makes => makes.lower_eq other)
  · intro declaration own names same
    have lowers := declaration.lower_of_same_names same
    refine ⟨fun defaultHints other => ⟨lowers defaultHints other, ?_⟩, ?_⟩
    · exact ofDeclarations_congr options (.cons (lowers defaultHints other) .nil)
    · intro defaultHints before after
      refine ofDeclarations_congr options (List.rel_append ?_ (.cons (lowers _ _) ?_))
      all_goals exact List.forall₂_same.2 fun _ _ => rfl

def silentDeclaration : Declaration where
  namespaceName := "a"
  tables := [("t", .full ⟨[("id", "bytes32"), ("value", "bool")], ["id"], none,
    Options.ofMembers [("zoom", .null)]⟩)]
  deploy := Options.empty
  codegenHints := none

def emptyHanded : Declaration where
  namespaceName := "b"
  tables := []
  deploy := Options.empty
  codegenHints := some []

theorem zoom_listed_for_default :
    ofDeclarations .default [silentDeclaration, emptyHanded] (.ofList ["zoom", "dataStruct"]) =
      ofDeclarations .default
        [silentDeclaration.listing ["dataStruct", "zoom", "dataStruct"], emptyHanded.listing []]
        (.ofList []) := by
  have each : List.Forall₂ (MakesExplicit (.ofList ["zoom", "dataStruct"]))
      [silentDeclaration, emptyHanded]
      [silentDeclaration.listing ["dataStruct", "zoom", "dataStruct"], emptyHanded.listing []] := by
    refine .cons (.absent rfl fun name => ?_) (.cons (.listed rfl fun _ => Iff.rfl) .nil)
    simp [HintSet.mem_ofList_iff, or_comm]
  exact (defaultHints_act_as_listed .default).2.1 _ _ _ _ each

end Build

end TableSchema
