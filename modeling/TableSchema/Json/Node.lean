import TableSchema.Json.Token

/-!
The tree of a document as far as its text goes.

A `Node` has every fault of the text at the place where a reader that goes through the text from
its start would meet it. So what a reader reports first, a fault of the text or a value of a wrong
kind, is what comes first in the tree.
-/

set_option autoImplicit false

namespace TableSchema

inductive ArrayEnd where
  | closed
  | unclosed (fault : Fault)
  deriving DecidableEq, Repr

/-- How an object ends: closed; with a fault where a comma or its brace must stand; with a comma
that no key follows; or in a key that is not a readable text. -/
inductive ObjectEnd where
  | closed
  | unclosed (fault : Fault)
  | dangling (fault : Fault)
  | brokenKey (wanted : Fault) (passed : Fault)
  deriving DecidableEq, Repr

/-- A value of the text, or the fault that stands in its place: as met by a reader that wants the
value, by one that passes over it, and by one that wants the name of a variant. -/
inductive Node where
  | broken (wanted : Fault) (passed : Fault) (named : Fault)
  | null
  | bool (value : Bool)
  | number (value : Option Number)
  | text (content : Option String)
  | array (items : List Node) (ending : ArrayEnd)
  | object (members : List (Option String × Node)) (ending : ObjectEnd)

instance : Inhabited Node := ⟨.null⟩

/-- The root value of a text, and whether anything follows it. -/
structure Document where
  root : Node
  trailing : Bool

namespace ArrayEnd

/-- The fault met after the last item. -/
def fault? : ArrayEnd → Option Fault
  | .closed => none
  | .unclosed fault => some fault

theorem fault?_eq_none_iff {ending : ArrayEnd} : ending.fault? = none ↔ ending = .closed := by
  cases ending <;> simp [fault?]

end ArrayEnd

namespace ObjectEnd

/-- The fault met after the last member by a reader that wants the members. -/
def fault? : ObjectEnd → Option Fault
  | .closed => none
  | .unclosed fault | .dangling fault => some fault
  | .brokenKey wanted _ => some wanted

theorem fault?_eq_none_iff {ending : ObjectEnd} : ending.fault? = none ↔ ending = .closed := by
  cases ending <;> simp [fault?]

/-- The fault met after the last member by a reader that passes over the object. -/
def passedFault? : ObjectEnd → Option Fault
  | .closed => none
  | .unclosed fault | .dangling fault => some fault
  | .brokenKey _ passed => some passed

end ObjectEnd

namespace Node

mutual

/-- The first fault met by a reader that passes over the value. -/
def passedFault? : Node → Option Fault
  | .broken _ passed _ => some passed
  | .null | .bool _ | .number _ | .text _ => none
  | .array items ending =>
    match itemsPassedFault? items with
    | some fault => some fault
    | none => ending.fault?
  | .object members ending =>
    match membersPassedFault? members with
    | some fault => some fault
    | none => ending.passedFault?

def itemsPassedFault? : List Node → Option Fault
  | [] => none
  | item :: rest =>
    match item.passedFault? with
    | some fault => some fault
    | none => itemsPassedFault? rest

def membersPassedFault? : List (Option String × Node) → Option Fault
  | [] => none
  | (_, value) :: rest =>
    match value.passedFault? with
    | some fault => some fault
    | none => membersPassedFault? rest

end

def fault (fault : Fault) : Node :=
  .broken fault fault fault

end Node

/-- A container that is not closed yet: what it holds so far, latest first, and for an object the
key of the member whose value is being read. -/
inductive Frame where
  | array (before : List Node)
  | object (before : List (Option String × Node)) (key : Option String)

inductive Expected where
  | value
  | itemOrClose
  | separator
  | keyOrClose
  | key
  | colon (key : Option String)

/-- A document under construction: within containers, the innermost first; with its root complete;
or ended, whatever follows. -/
inductive Assembly where
  | within (frames : List Frame) (next : Expected)
  | complete (root : Node)
  | ended (document : Document)

namespace Assembly

/-- The value closes; it is the root or goes into the innermost container. -/
def place (value : Node) : List Frame → Assembly
  | [] => .complete value
  | .array before :: frames => .within (.array (value :: before) :: frames) .separator
  | .object before key :: frames =>
    .within (.object ((key, value) :: before) none :: frames) .separator

/-- The root, when the text breaks off in the given value inside the given containers. -/
def enclose (value : Node) : List Frame → Node
  | [] => value
  | .array before :: frames =>
    enclose (.array (value :: before).reverse (.unclosed .truncated)) frames
  | .object before key :: frames =>
    enclose (.object ((key, value) :: before).reverse (.unclosed .truncated)) frames

/-- Nothing that follows a broken value is looked at. -/
def breakOff (value : Node) (frames : List Frame) : Assembly :=
  .ended ⟨enclose value frames, false⟩

def startValue (token : Token) (frames : List Frame) : Assembly :=
  match token with
  | .openBracket => .within (.array [] :: frames) .itemOrClose
  | .openBrace => .within (.object [] none :: frames) .keyOrClose
  | .null => place .null frames
  | .bool value => place (.bool value) frames
  | .number value => place (.number value) frames
  | .text content => place (.text content) frames
  | .bad wanted passed quoted =>
    breakOff (.broken wanted passed (if quoted then wanted else .malformed)) frames
  | .closeBracket | .closeBrace | .comma | .colon => breakOff (.fault .malformed) frames

def stepWithin (token : Token) : List Frame → Expected → Assembly
  | frames, .value => startValue token frames
  | .array before :: frames, .itemOrClose =>
    match token with
    | .closeBracket => place (.array before.reverse .closed) frames
    | token => startValue token (.array before :: frames)
  | .array before :: frames, .separator =>
    match token with
    | .comma => .within (.array before :: frames) .value
    | .closeBracket => place (.array before.reverse .closed) frames
    | _ => breakOff (.array before.reverse (.unclosed .malformed)) frames
  | .object before _ :: frames, .separator =>
    match token with
    | .comma => .within (.object before none :: frames) .key
    | .closeBrace => place (.object before.reverse .closed) frames
    | _ => breakOff (.object before.reverse (.unclosed .malformed)) frames
  | .object before _ :: frames, .keyOrClose =>
    match token with
    | .text key => .within (.object before none :: frames) (.colon key)
    | .closeBrace => place (.object before.reverse .closed) frames
    | .bad wanted passed true =>
      breakOff (.object before.reverse (.brokenKey wanted passed)) frames
    | _ => breakOff (.object before.reverse (.unclosed .malformed)) frames
  | .object before _ :: frames, .key =>
    match token with
    | .text key => .within (.object before none :: frames) (.colon key)
    | .bad wanted passed true =>
      breakOff (.object before.reverse (.brokenKey wanted passed)) frames
    | _ => breakOff (.object before.reverse (.dangling .malformed)) frames
  | .object before _ :: frames, .colon key =>
    match token with
    | .colon => .within (.object before key :: frames) .value
    | _ => breakOff (.fault .malformed) (.object before key :: frames)
  | frames, _ => breakOff (.fault .malformed) frames

def step (assembly : Assembly) (token : Token) : Assembly :=
  match assembly with
  | .within frames next => stepWithin token frames next
  | .complete root => .ended ⟨root, true⟩
  | .ended document => .ended document

def finish : Assembly → Document
  | .within frames next =>
    match frames, next with
    | .array before :: frames, .itemOrClose
    | .array before :: frames, .separator =>
      ⟨enclose (.array before.reverse (.unclosed .truncated)) frames, false⟩
    | .object before _ :: frames, .keyOrClose
    | .object before _ :: frames, .separator =>
      ⟨enclose (.object before.reverse (.unclosed .truncated)) frames, false⟩
    | .object before _ :: frames, .key =>
      ⟨enclose (.object before.reverse (.dangling .truncated)) frames, false⟩
    | .object before _ :: frames, .colon key =>
      ⟨enclose (.fault .truncated) (.object before key :: frames), false⟩
    | frames, _ => ⟨enclose (.fault .truncated) frames, false⟩
  | .complete root => ⟨root, false⟩
  | .ended document => document

end Assembly

namespace Document

def ofTokens (tokens : List Token) : Document :=
  (tokens.foldl Assembly.step (.within [] .value)).finish

def ofText (text : String) : Document :=
  ofTokens (Token.scan text.toList)

end Document

end TableSchema
