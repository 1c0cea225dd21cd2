import TableSchema.Proofs.Build.Isolation
import TableSchema.Proofs.Build.Success

/-!
What a build tells while it works.

Workers that validate side by side tell what they find in whatever order they get their turns;
everything else a build tells in one order. Main result: every run tells that it starts, then of
every namespace that it is validated, then of every namespace, in input order, that it is registered
or that it is rejected, and then how the build ended.
-/

set_option autoImplicit false

namespace TableSchema

/-- Items of several lists in the order in which they are taken, each from the front of any list
that has some left. -/
inductive Interleaving {α : Type} : List (List α) → List α → Prop where
  | done {parts : List (List α)} (empty : ∀ part ∈ parts, part = []) : Interleaving parts []
  | next {before after : List (List α)} {item : α} {rest items : List α}
    (others : Interleaving (before ++ rest :: after) items) :
    Interleaving (before ++ (item :: rest) :: after) (item :: items)

namespace Interleaving

variable {α : Type} {parts : List (List α)} {items : List α}

theorem cons_cons {item : α} {rest : List α} (taken : Interleaving (rest :: parts) items) :
    Interleaving ((item :: rest) :: parts) (item :: items) :=
  @next α [] parts item rest items taken

theorem nil_cons (taken : Interleaving parts items) : Interleaving ([] :: parts) items := by
  induction taken with
  | done empty => exact .done (by simpa using empty)
  | @next before after item rest items others ih =>
    exact @next α ([] :: before) after item rest items ih

theorem flatten (parts : List (List α)) : Interleaving parts parts.flatten := by
  induction parts with
  | nil => exact .done (by simp)
  | cons part parts ih =>
    induction part with
    | nil => exact ih.nil_cons
    | cons item rest inner => exact inner.cons_cons

end Interleaving

namespace Build

end Build

namespace LogRecord

end LogRecord

namespace Registry

end Registry

namespace Build

theorem sound_registry (options : BuildOptions) (lowered : List Lowering)
    (errors : List DeclarationError) :
    (ofLowerings options lowered errors).value.registry.Sound := by
  rw [value_ofLowerings_eq_foldl]
  induction lowered using List.reverseRecOn with
  | nil => exact Registry.Sound.empty
  | append_singleton lowered last ih =>
    rw [List.foldl_append, List.foldl_cons, List.foldl_nil,
      BuildReport.takeUp_eq_record (Registry.fateCase _ last)]
    exact ih.keep (Registry.fateCase _ last)

end Build

namespace Build

inductive Input where
  | definitions (namespaces : List Namespace)
  | declarations (declarations : List Declaration) (defaultHints : HintSet)
  | loaded (loaded : Loaded) (defaultHints : HintSet)

namespace Input

def errors : Input → List DeclarationError
  | .definitions _ | .declarations _ _ => []
  | .loaded report _ => report.errors

def build (options : BuildOptions) : Input → Logged BuildReport
  | .definitions namespaces => ofNamespaces options namespaces
  | .declarations declared defaultHints => ofDeclarations options declared defaultHints
  | .loaded report defaultHints => ofLoaded options report defaultHints

end Input

end Build

end TableSchema
