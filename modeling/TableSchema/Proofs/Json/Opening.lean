import TableSchema.Proofs.Json.Embedding
import TableSchema.Text.CharacterClass

set_option autoImplicit false

namespace TableSchema

section FirstToken

namespace Scanner

theorem exists_tokensFrom_amid {scanner : Scanner} (amid : scanner.Amid) (chars : List Char) :
    ∃ token rest, scanner.tokensFrom chars = token :: rest ∧ token.IsScalar := by
  induction chars generalizing scanner with
  | nil =>
    obtain ⟨token, finish, scalar⟩ := finish_amid amid
    exact ⟨token, [], finish, scalar⟩
  | cons c rest ih =>
    rw [tokensFrom]
    rcases continues_step amid c with ⟨nothing, further⟩ | ⟨_, token, later, completed, scalar⟩
    · rw [nothing]
      exact ih further
    · rw [completed]
      exact ⟨token, _, rfl, scalar⟩

private theorem start_cases {c : Char} (shown : isBlank c = false) (other : c ≠ '[') :
    (start c).2 = [] ∧ (start c).1.Amid ∨
      ∃ token, (start c).2 = [token] ∧ token ≠ .openBracket := by
  unfold start
  rw [if_neg (by simp [shown])]
  repeat' split
  all_goals first
    | exact absurd rfl other
    | exact .inl ⟨rfl, trivial⟩
    | exact .inr ⟨_, rfl, nofun⟩

theorem head_tokensFrom_start {c : Char} (shown : isBlank c = false) (rest : List Char) :
    (between.tokensFrom (c :: rest)).head? = some .openBracket ↔ c = '[' := by
  constructor
  · intro first
    by_contra other
    rw [tokensFrom, step] at first
    rcases start_cases shown other with ⟨nothing, amid⟩ | ⟨token, completed, different⟩
    · obtain ⟨token, later, tokens, scalar⟩ := exists_tokensFrom_amid amid rest
      rw [nothing, List.nil_append, tokens] at first
      cases first
      exact scalar
    · rw [completed] at first
      exact different (Option.some.inj first)
  · rintro rfl
    rfl

private theorem tokensFrom_stopped (chars : List Char) : stopped.tokensFrom chars = [] := by
  induction chars with
  | nil => rfl
  | cons c rest ih => exact ih

private theorem start_of_foreign_blank {c : Char} (foreign : isBlank c = false)
    (blank : Text.isBlank c = true) :
    start c = (.stopped, [.bad .malformed .malformed false]) := by
  have digit : digit? c = none := by
    refine if_neg fun decimal => ?_
    have low : 48 ≤ c.toNat := decimal.1
    have high : c.toNat ≤ 57 := decimal.2
    simp only [Text.isBlank, Text.blankRanges, List.any_cons, List.any_nil, Bool.or_false,
      Bool.or_eq_true, Bool.and_eq_true, decide_eq_true_eq] at blank
    omega
  unfold start
  rw [if_neg (by simp [foreign])]
  split
  all_goals first
    | exact absurd blank (by decide)
    | rw [digit]
  rfl

end Scanner

end FirstToken

namespace Node

def isArray : Node → Bool
  | .array _ _ => true
  | _ => false

end Node

namespace Assembly

section Sorts

/-- Whether the outermost of the containers is an array; the given value stands in the innermost. -/
private def sort (inner : Bool) : List Frame → Bool
  | [] => inner
  | .array _ :: frames => sort true frames
  | .object _ _ :: frames => sort false frames

private theorem isArray_enclose (value : Node) (frames : List Frame) :
    (enclose value frames).isArray = sort value.isArray frames := by
  induction frames generalizing value with
  | nil => rfl
  | cons frame frames ih => cases frame <;> exact ih _

private theorem isArray_within (frame : Frame) (frames : List Frame) (next : Expected) :
    (finish (.within (frame :: frames) next)).root.isArray = sort false (frame :: frames) := by
  cases frame <;> cases next <;> exact isArray_enclose _ _

private theorem isArray_place (value : Node) (frames : List Frame) :
    (finish (place value frames)).root.isArray = sort value.isArray frames := by
  match frames with
  | [] => rfl
  | .array _ :: frames | .object _ _ :: frames => exact isArray_within _ frames .separator

private theorem isArray_startValue (token : Token) (frame : Frame) (frames : List Frame) :
    (finish (startValue token (frame :: frames))).root.isArray =
      sort false (frame :: frames) := by
  cases token with
  | openBracket | openBrace => cases frame <;> exact isArray_within _ _ _
  | null | bool | number | text => exact isArray_place _ _
  | bad | closeBracket | closeBrace | comma | colon => exact isArray_enclose _ _

private theorem isArray_stepWithin (token : Token) (frame : Frame) (frames : List Frame)
    (next : Expected) :
    (finish (stepWithin token (frame :: frames) next)).root.isArray =
      sort false (frame :: frames) := by
  cases frame <;> cases next
  all_goals
    unfold stepWithin
    dsimp only
    repeat' split
  all_goals first
    | exact isArray_startValue _ _ _
    | exact isArray_within _ _ _
    | exact isArray_place _ _
    | exact isArray_enclose _ _

private def Begun : Assembly → Prop
  | .within [] _ => False
  | _ => True

private theorem begun_step (assembly : Assembly) (token : Token) : (assembly.step token).Begun := by
  cases assembly with
  | within frames next =>
    rw [step]
    cases stepCase token frames next with
    | goesOn stepped =>
      rw [stepWithin_alone stepped]
      trivial
    | completes stepped =>
      rw [stepWithin_alone stepped]
      trivial
    | breaksOff stepped =>
      rw [stepped]
      trivial
  | complete root => trivial
  | ended document => trivial

private theorem isArray_step {assembly : Assembly} (begun : assembly.Begun) (token : Token) :
    (assembly.step token).finish.root.isArray = assembly.finish.root.isArray := by
  cases assembly with
  | within frames next =>
    cases frames with
    | nil => exact absurd begun id
    | cons frame frames => exact (isArray_stepWithin _ _ _ _).trans (isArray_within _ _ _).symm
  | complete root => rfl
  | ended document => rfl

private theorem isArray_foldl {assembly : Assembly} (begun : assembly.Begun)
    (tokens : List Token) :
    (tokens.foldl step assembly).finish.root.isArray = assembly.finish.root.isArray := by
  induction tokens generalizing assembly with
  | nil => rfl
  | cons token rest ih => exact (ih (begun_step assembly token)).trans (isArray_step begun token)

end Sorts

end Assembly

namespace Document

private theorem isArray_ofTokens (tokens : List Token) :
    (ofTokens tokens).root.isArray = true ↔ tokens.head? = some .openBracket := by
  cases tokens with
  | nil => decide
  | cons token rest =>
    have first := Assembly.isArray_foldl (Assembly.begun_step (.within [] .value) token) rest
    have known : (ofTokens (token :: rest)).root.isArray =
        ((Assembly.within [] .value).step token).finish.root.isArray := first
    rw [known]
    cases token <;> simp [Assembly.step, Assembly.stepWithin, Assembly.startValue,
      Assembly.place, Assembly.breakOff, Assembly.enclose, Assembly.finish, Node.isArray,
      Node.fault]

def opening? (text : String) : Option Char :=
  text.toList.find? fun c => !Scanner.isBlank c

private theorem scan_of_opening? {text : String} {c : Char} (opens : opening? text = some c) :
    Scanner.isBlank c = false ∧
      ∃ rest, Token.scan text.toList = Scanner.between.tokensFrom (c :: rest) := by
  obtain ⟨shown, blanks, rest, chars, blank⟩ := List.find?_eq_some_iff_append.1 opens
  refine ⟨by simpa using shown, rest, ?_⟩
  rw [Token.scan_eq_tokensFrom, chars]
  exact Scanner.tokensFrom_blanks (fun c member => by simpa using blank c member) _

theorem isArray_ofText (text : String) :
    (ofText text).root.isArray = true ↔ opening? text = some '[' := by
  rw [ofText, isArray_ofTokens]
  cases opens : opening? text with
  | none =>
    have blank : ∀ c ∈ text.toList, Scanner.isBlank c = true := by
      simpa [opening?] using opens
    have tokens : Token.scan text.toList = [] := by
      have none_left := Scanner.tokensFrom_blanks blank []
      rwa [List.append_nil, ← Token.scan_eq_tokensFrom] at none_left
    simp [tokens]
  | some c =>
    obtain ⟨shown, rest, tokens⟩ := scan_of_opening? opens
    rw [tokens, Scanner.head_tokensFrom_start shown, Option.some.injEq]

/-- A text that begins with a blank of another script is no document at all. -/
theorem ofText_of_foreign_blank {text : String} {c : Char} (opens : opening? text = some c)
    (blank : Text.isBlank c = true) : ofText text = ⟨.fault .malformed, false⟩ := by
  obtain ⟨foreign, rest, tokens⟩ := scan_of_opening? opens
  have stepped : Scanner.between.step c = (.stopped, [.bad .malformed .malformed false]) :=
    Scanner.start_of_foreign_blank foreign blank
  rw [ofText, tokens, Scanner.tokensFrom_cons stepped, Scanner.tokensFrom_stopped]
  rfl

end Document

end TableSchema
