import Mathlib.Data.List.Forall2
import TableSchema.Json.Node
import TableSchema.Proofs.Json.Spelling

/-!
Documents as the items of an array.

A text that spells a closed container leaves the scanner between tokens, and no token of it looks
beyond the container. So the text can stand wherever a value may stand, and its tokens put the same
node there.
-/

set_option autoImplicit false

namespace TableSchema

namespace Token

/-- The token closes a container. -/
def Closes : Token → Prop
  | .closeBracket | .closeBrace => True
  | _ => False

theorem Closes.not_isScalar {token : Token} (closes : token.Closes) : ¬ token.IsScalar := by
  cases token with
  | closeBracket | closeBrace => exact id
  | _ => cases closes

end Token

section Scanning

namespace Scanner

/-- Where the characters lead the scanner, with the tokens that they complete. -/
def run : Scanner → List Char → Scanner × List Token
  | scanner, [] => (scanner, [])
  | scanner, c :: rest =>
    (((scanner.step c).1.run rest).1, (scanner.step c).2 ++ ((scanner.step c).1.run rest).2)

theorem tokensFrom_append (scanner : Scanner) (chars rest : List Char) :
    scanner.tokensFrom (chars ++ rest) =
      (scanner.run chars).2 ++ (scanner.run chars).1.tokensFrom rest := by
  induction chars generalizing scanner with
  | nil => rfl
  | cons c others ih => rw [List.cons_append, tokensFrom, ih, run, List.append_assoc]

private theorem run_stopped (chars : List Char) : stopped.run chars = (.stopped, []) := by
  induction chars with
  | nil => rfl
  | cons c rest ih => rw [run, step, ih, List.append_nil]

theorem proceeds_run {scanner : Scanner} (going : scanner = .between ∨ scanner.Amid)
    (chars : List Char) : Proceeds (scanner.run chars) := by
  induction chars generalizing scanner with
  | nil => exact going.imp_right .inl
  | cons c rest ih =>
    have stepped : Proceeds (scanner.step c) := by
      rcases going with rfl | amid
      · exact proceeds_start c
      · exact (continues_step amid c).proceeds
    rw [run]
    rcases stepped with between | amid | ⟨stops, bad⟩
    · exact (ih (.inl between)).after _
    · exact (ih (.inr amid)).after _
    · rw [stops, run_stopped, List.append_nil]
      exact .inr (.inr ⟨rfl, bad⟩)

end Scanner

end Scanning

namespace Node

def IsClosed : Node → Prop
  | .array _ ending => ending = .closed
  | .object _ ending => ending = .closed
  | _ => False

end Node

namespace Assembly

section Steps

/-- What a token does inside containers, whatever others are around them: nothing goes on after a
bad token, and only a token that closes completes a closed container. -/
inductive StepCase (token : Token) (frames : List Frame) (next : Expected) : Prop
  | goesOn {frame : Frame} {inner : List Frame} {further : Expected}
      (stepped : ∀ outer, stepWithin token (frames ++ outer) next =
        .within (frame :: (inner ++ outer)) further)
      (sound : ¬ token.IsBad)
  | completes {value : Node}
      (stepped : ∀ outer, stepWithin token (frames ++ outer) next = place value outer)
      (sound : ¬ token.IsBad) (closing : value.IsClosed → token.Closes)
  | breaksOff {value : Node} {inner : List Frame}
      (stepped : stepWithin token frames next = breakOff value inner) (unclosed : ¬ value.IsClosed)

private theorem StepCase.of_place {token : Token} {frames inner : List Frame} {next : Expected}
    {value : Node}
    (stepped : ∀ outer, stepWithin token (frames ++ outer) next = place value (inner ++ outer))
    (sound : ¬ token.IsBad) (closing : value.IsClosed → token.Closes) :
    StepCase token frames next := by
  cases inner with
  | nil => exact .completes stepped sound closing
  | cons frame inner => cases frame <;> exact .goesOn stepped sound

private theorem stepCase_startValue {token : Token} {frames : List Frame} {next : Expected}
    (starts : ∀ outer,
      stepWithin token (frames ++ outer) next = startValue token (frames ++ outer)) :
    StepCase token frames next := by
  cases token with
  | openBracket | openBrace => exact .goesOn starts id
  | null | bool | number | text => exact .of_place starts id id
  | bad | closeBracket | closeBrace | comma | colon =>
    have here := starts []
    rw [List.append_nil] at here
    exact .breaksOff here id

theorem stepCase (token : Token) (frames : List Frame) (next : Expected) :
    StepCase token frames next := by
  match frames, next with
  | frames, .value => exact stepCase_startValue fun _ => rfl
  | .array before :: frames, .itemOrClose =>
    cases token with
    | closeBracket => exact .of_place (fun _ => rfl) id fun _ => trivial
    | _ => exact stepCase_startValue fun _ => rfl
  | .array before :: frames, .separator =>
    cases token with
    | comma => exact .goesOn (fun _ => rfl) id
    | closeBracket => exact .of_place (fun _ => rfl) id fun _ => trivial
    | _ => exact .breaksOff rfl nofun
  | .object before key :: frames, .separator =>
    cases token with
    | comma => exact .goesOn (fun _ => rfl) id
    | closeBrace => exact .of_place (fun _ => rfl) id fun _ => trivial
    | _ => exact .breaksOff rfl nofun
  | .object before key :: frames, .keyOrClose =>
    cases token with
    | text => exact .goesOn (fun _ => rfl) id
    | closeBrace => exact .of_place (fun _ => rfl) id fun _ => trivial
    | bad wanted passed quoted => cases quoted <;> exact .breaksOff rfl nofun
    | _ => exact .breaksOff rfl nofun
  | .object before key :: frames, .key =>
    cases token with
    | text => exact .goesOn (fun _ => rfl) id
    | bad wanted passed quoted => cases quoted <;> exact .breaksOff rfl nofun
    | _ => exact .breaksOff rfl nofun
  | .object before key :: frames, .colon name =>
    cases token with
    | colon => exact .goesOn (fun _ => rfl) id
    | _ => exact .breaksOff rfl nofun
  -- No container expects this next.
  | [], .itemOrClose | [], .separator | [], .keyOrClose | [], .key | [], .colon _
  | .array _ :: _, .keyOrClose | .array _ :: _, .key | .array _ :: _, .colon _
  | .object _ _ :: _, .itemOrClose => exact .breaksOff rfl nofun

theorem stepWithin_alone {token : Token} {frames : List Frame} {next : Expected}
    {result : List Frame → Assembly}
    (stepped : ∀ outer, stepWithin token (frames ++ outer) next = result outer) :
    stepWithin token frames next = result [] := by
  rw [← stepped, List.append_nil]

theorem closes_of_step {assembly : Assembly} {token : Token} {root : Node}
    (completes : assembly.step token = .complete root) (closed : root.IsClosed) :
    token.Closes := by
  cases assembly with
  | within frames next =>
    rw [step] at completes
    cases stepCase token frames next with
    | goesOn stepped =>
      rw [stepWithin_alone stepped] at completes
      cases completes
    | completes stepped _ closing =>
      rw [stepWithin_alone stepped] at completes
      cases completes
      exact closing closed
    | breaksOff stepped =>
      rw [stepped] at completes
      cases completes
  | complete value => cases completes
  | ended document => cases completes

theorem foldl_step_ended (tokens : List Token) (document : Document) :
    tokens.foldl step (.ended document) = .ended document := by
  induction tokens with
  | nil => rfl
  | cons token rest ih => exact ih

theorem exists_foldl_bad {tokens : List Token} {token : Token} (bad : token.IsBad)
    (found : token ∈ tokens) (assembly : Assembly) :
    ∃ document, tokens.foldl step assembly = .ended document := by
  obtain ⟨before, after, rfl⟩ := List.append_of_mem found
  have ended : ∃ document, (before.foldl step assembly).step token = .ended document := by
    cases before.foldl step assembly with
    | within frames next =>
      cases stepCase token frames next with
      | goesOn _ sound => exact absurd bad sound
      | completes _ sound => exact absurd bad sound
      | breaksOff stepped => exact ⟨_, stepped⟩
    | complete root => exact ⟨_, rfl⟩
    | ended document => exact ⟨_, rfl⟩
  obtain ⟨document, ended⟩ := ended
  exact ⟨document, by rw [List.foldl_append, List.foldl_cons, ended, foldl_step_ended]⟩

theorem foldl_step_append {tokens : List Token} {frames : List Frame} {next : Expected}
    {root : Node} (built : tokens.foldl step (.within frames next) = .complete root)
    (outer : List Frame) :
    tokens.foldl step (.within (frames ++ outer) next) = place root outer := by
  induction tokens generalizing frames next with
  | nil => cases built
  | cons token rest ih =>
    rw [List.foldl_cons, step] at built ⊢
    cases stepCase token frames next with
    | goesOn stepped =>
      rw [stepWithin_alone stepped, List.append_nil] at built
      rw [stepped outer]
      exact ih built
    | completes stepped =>
      rw [stepWithin_alone stepped] at built
      rw [stepped outer]
      cases rest with
      | nil =>
        cases built
        rfl
      | cons further rest =>
        have ended := foldl_step_ended rest
        rw [List.foldl_cons, place, step, ended] at built
        cases built
    | breaksOff stepped =>
      rw [stepped, breakOff, foldl_step_ended] at built
      cases built

end Steps

section Ends

/-- A document that ended early has no closed root, unless more follows its root. -/
def EndsOpen : Assembly → Prop
  | .ended document => document.trailing = false → ¬ document.root.IsClosed
  | _ => True

private theorem not_isClosed_enclose {value : Node} (unclosed : ¬ value.IsClosed)
    (frames : List Frame) : ¬ (enclose value frames).IsClosed := by
  induction frames generalizing value with
  | nil => exact unclosed
  | cons frame frames ih => cases frame <;> exact ih nofun

private theorem endsOpen_stepWithin (token : Token) (frames : List Frame) (next : Expected) :
    (stepWithin token frames next).EndsOpen := by
  cases stepCase token frames next with
  | goesOn stepped =>
    rw [stepWithin_alone stepped]
    trivial
  | completes stepped =>
    rw [stepWithin_alone stepped]
    trivial
  | breaksOff stepped unclosed =>
    rw [stepped]
    exact fun _ => not_isClosed_enclose unclosed _

theorem endsOpen_step {assembly : Assembly} (ends : assembly.EndsOpen) (token : Token) :
    (assembly.step token).EndsOpen := by
  cases assembly with
  | within frames next => exact endsOpen_stepWithin token frames next
  | complete root => exact nofun
  | ended document => exact ends

theorem endsOpen_foldl {assembly : Assembly} (ends : assembly.EndsOpen) (tokens : List Token) :
    (tokens.foldl step assembly).EndsOpen := by
  induction tokens generalizing assembly with
  | nil => exact ends
  | cons token rest ih => exact ih (endsOpen_step ends token)

private theorem not_isClosed_finish (frames : List Frame) (next : Expected) :
    ¬ (finish (.within frames next)).root.IsClosed := by
  unfold finish
  dsimp only
  split
  all_goals exact not_isClosed_enclose (by simp [Node.IsClosed, Node.fault]) _

theorem foldl_step_eq_complete {tokens : List Token} {root : Node}
    (spelled : Document.ofTokens tokens = ⟨root, false⟩) (closed : root.IsClosed) :
    tokens.foldl step (.within [] .value) = .complete root := by
  have begins : EndsOpen (.within [] .value) := trivial
  have ends := endsOpen_foldl begins tokens
  rw [Document.ofTokens] at spelled
  cases built : tokens.foldl step (.within [] .value) with
  | within frames next =>
    rw [built] at spelled
    have unclosed := not_isClosed_finish frames next
    rw [spelled] at unclosed
    exact absurd closed unclosed
  | complete value =>
    rw [built] at spelled
    exact congrArg Assembly.complete (congrArg Document.root spelled)
  | ended document =>
    rw [built] at spelled ends
    obtain rfl : document = ⟨root, false⟩ := spelled
    exact absurd closed (ends rfl)

end Ends

end Assembly

/-- Characters whose tokens build a closed container, and then leave the scanner between tokens. -/
structure SpellsClosed (chars : List Char) (root : Node) : Prop where
  scanned : (Scanner.between.run chars).1 = .between
  built : (Scanner.between.run chars).2.foldl Assembly.step (.within [] .value) = .complete root

theorem spellsClosed_of_ofText {text : String} {root : Node}
    (spelled : Document.ofText text = ⟨root, false⟩) (closed : root.IsClosed) :
    SpellsClosed text.toList root := by
  have tokens : Token.scan text.toList = (Scanner.between.run text.toList).2 ++
      (Scanner.between.run text.toList).1.finish := by
    have split := Scanner.tokensFrom_append .between text.toList []
    rwa [List.append_nil, ← Token.scan_eq_tokensFrom] at split
  have built := Assembly.foldl_step_eq_complete spelled closed
  rw [tokens, List.foldl_append] at built
  rcases Scanner.proceeds_run (.inl rfl) text.toList with between | amid | ⟨_, bad⟩
  · rw [between] at built
    exact ⟨between, built⟩
  · obtain ⟨token, finish, scalar⟩ := Scanner.finish_amid amid
    rw [finish] at built
    exact absurd scalar (Assembly.closes_of_step built closed).not_isScalar
  · obtain ⟨token, found, isBad⟩ := bad
    obtain ⟨document, ended⟩ := Assembly.exists_foldl_bad isBad found (.within [] .value)
    rw [ended, Assembly.foldl_step_ended] at built
    cases built

section Arrays

private theorem foldl_step_items {texts : List (List Char)} {roots : List Node}
    (each : List.Forall₂ SpellsClosed texts roots) (before : List Node) (frames : List Frame) :
    (Scanner.between.tokensFrom (texts.flatMap (',' :: ·) ++ [']'])).foldl Assembly.step
        (.within (.array before :: frames) .separator) =
      Assembly.place (.array (before.reverse ++ roots) .closed) frames := by
  induction each generalizing before with
  | nil =>
    rw [List.append_nil]
    rfl
  | @cons text root texts roots first _ ih =>
    have comma : Scanner.between.step ',' = (.between, [.comma]) := rfl
    have placed := Assembly.foldl_step_append first.built (.array before :: frames)
    have further := ih (root :: before)
    rw [List.reverse_cons, List.append_assoc] at further
    rw [List.flatMap_cons, List.append_assoc, List.cons_append, Scanner.tokensFrom_cons comma,
      Scanner.tokensFrom_append, first.scanned, List.singleton_append, List.foldl_cons,
      List.foldl_append]
    exact (congrArg (List.foldl _ · _) placed).trans further

private theorem foldl_step_opened {tokens : List Token} {root : Node}
    (built : tokens.foldl Assembly.step (.within [] .value) = .complete root)
    (frames : List Frame) :
    tokens.foldl Assembly.step (.within (.array [] :: frames) .itemOrClose) =
      Assembly.place root (.array [] :: frames) := by
  cases tokens with
  | nil => cases built
  | cons token rest =>
    have placed := Assembly.foldl_step_append built (.array [] :: frames)
    cases token with
    | closeBracket =>
      have ended := Assembly.foldl_step_ended rest ⟨.fault .malformed, false⟩
      cases ended.symm.trans built
    | _ => exact placed

private theorem intercalate_cons (text : List Char) (texts : List (List Char)) :
    [','].intercalate (text :: texts) = text ++ texts.flatMap (',' :: ·) := by
  induction texts generalizing text with
  | nil => simp
  | cons next texts ih =>
    rw [List.intercalate_cons_cons, ih, List.flatMap_cons, List.append_assoc]
    rfl

/-- Documents of closed containers, with commas between them, are the items of an array. -/
theorem Document.ofText_array {blanks : String}
    (blank : ∀ c ∈ blanks.toList, Scanner.isBlank c = true) {texts : List String}
    {roots : List Node} (each : List.Forall₂ (fun text root =>
      Document.ofText text = ⟨root, false⟩ ∧ root.IsClosed) texts roots) :
    Document.ofText (blanks ++ "[" ++ ",".intercalate texts ++ "]") =
      ⟨.array roots .closed, false⟩ := by
  have spelled : List.Forall₂ SpellsClosed (texts.map String.toList) roots :=
    List.forall₂_map_left_iff.2
      (each.imp fun _ _ alone => spellsClosed_of_ofText alone.1 alone.2)
  have chars : (blanks ++ "[" ++ ",".intercalate texts ++ "]").toList =
      blanks.toList ++ ('[' :: ([','].intercalate (texts.map String.toList) ++ [']'])) := by
    simp [String.toList_intercalate]
  have bracket : Scanner.between.step '[' = (.between, [.openBracket]) := rfl
  have opened : Assembly.step (.within [] .value) .openBracket =
    .within [.array []] .itemOrClose := rfl
  rw [Document.ofText, Token.scan_eq_tokensFrom, chars, Scanner.tokensFrom_blanks blank,
    Scanner.tokensFrom_cons bracket, Document.ofTokens, List.singleton_append, List.foldl_cons,
    opened]
  generalize texts.map String.toList = items at spelled ⊢
  cases spelled with
  | nil => rfl
  | @cons text root texts roots first others =>
    have placed := foldl_step_opened first.built []
    have further := foldl_step_items others [root] []
    rw [intercalate_cons, List.append_assoc, Scanner.tokensFrom_append, first.scanned,
      List.foldl_append, placed]
    exact congrArg Assembly.finish further

end Arrays

end TableSchema
