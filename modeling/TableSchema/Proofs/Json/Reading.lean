import Mathlib.Data.List.Forall2
import TableSchema.Json.Reader
import TableSchema.Proofs.Json.Tree

set_option autoImplicit false

namespace TableSchema

namespace Json

mutual

theorem passedFault?_node (value : Json) : value.node.passedFault? = none := by
  match value with
  | .null | .bool _ | .number _ | .text _ => rfl
  | .array items =>
    rw [node, Node.passedFault?, itemsPassedFault?_nodes items]
    rfl
  | .object members =>
    rw [node, Node.passedFault?, membersPassedFault?_nodes members]
    rfl

theorem itemsPassedFault?_nodes (items : List Json) :
    Node.itemsPassedFault? (nodesOfItems items) = none := by
  match items with
  | [] => rfl
  | item :: rest =>
    rw [nodesOfItems, Node.itemsPassedFault?, passedFault?_node item]
    exact itemsPassedFault?_nodes rest

theorem membersPassedFault?_nodes (members : List (String × Json)) :
    Node.membersPassedFault? (nodesOfMembers members) = none := by
  match members with
  | [] => rfl
  | (key, value) :: rest =>
    rw [nodesOfMembers, Node.membersPassedFault?, passedFault?_node value]
    exact membersPassedFault?_nodes rest

end

mutual

/-- How many containers stand inside one another. -/
def nesting : Json → Nat
  | .null | .bool _ | .number _ | .text _ => 0
  | .array items => nestingOfItems items + 1
  | .object members => nestingOfMembers members + 1

def nestingOfItems : List Json → Nat
  | [] => 0
  | item :: rest => max item.nesting (nestingOfItems rest)

def nestingOfMembers : List (String × Json) → Nat
  | [] => 0
  | (_, value) :: rest => max value.nesting (nestingOfMembers rest)

end

theorem nestingOfItems_le_iff {items : List Json} {depth : Nat} :
    nestingOfItems items ≤ depth ↔ ∀ item ∈ items, item.nesting ≤ depth := by
  induction items with
  | nil => simp [nestingOfItems]
  | cons item rest ih =>
    simp only [nestingOfItems, Nat.max_le, ih, List.mem_cons, forall_eq_or_imp]

theorem nestingOfMembers_le_iff {members : List (String × Json)} {depth : Nat} :
    nestingOfMembers members ≤ depth ↔ ∀ m ∈ members, m.2.nesting ≤ depth := by
  induction members with
  | nil => simp [nestingOfMembers]
  | cons m rest ih =>
    simp only [nestingOfMembers, Nat.max_le, ih, List.mem_cons, forall_eq_or_imp]

theorem nestingOfMembers_append (members others : List (String × Json)) :
    nestingOfMembers (members ++ others) =
      max (nestingOfMembers members) (nestingOfMembers others) := by
  induction members with
  | nil => simp [nestingOfMembers]
  | cons m rest ih => rw [List.cons_append, nestingOfMembers, nestingOfMembers, ih, Nat.max_assoc]

end Json

theorem mapM_eq_ok_iff {ε α β : Type} {f : α → Except ε β} {items : List α} {values : List β} :
    items.mapM f = .ok values ↔
      List.Forall₂ (fun item value => f item = .ok value) items values := by
  constructor
  · intro read
    induction items generalizing values with
    | nil =>
      obtain rfl := Except.ok.inj read
      exact .nil
    | cons item rest ih =>
      rw [List.mapM_cons] at read
      obtain ⟨value, first, read⟩ := exists_of_bind_eq_ok read
      obtain ⟨others, later, read⟩ := exists_of_bind_eq_ok read
      obtain rfl := Except.ok.inj read
      exact .cons first (ih later)
  · intro each
    induction each with
    | nil => rfl
    | cons first _ ih =>
      rw [List.mapM_cons, first, ih]
      rfl

namespace Reader

theorem exists_below {levels depth : Nat} (shallow : levels + 1 ≤ depth) :
    ∃ below, depth = below + 1 ∧ levels ≤ below :=
  ⟨depth - 1, by omega, by omega⟩

open Json (nestingOfItems nestingOfMembers nodesOfItems nodesOfMembers)

mutual

theorem json_node (value : Json) {depth : Nat} (shallow : value.nesting ≤ depth) :
    json depth value.node = .ok value := by
  match value with
  | .null | .bool _ | .number _ | .text _ => simp only [Json.node, json]
  | .array items =>
    obtain ⟨below, rfl, inside⟩ := exists_below shallow
    rw [Json.node, json, jsonItems_nodes items inside]
    rfl
  | .object members =>
    obtain ⟨below, rfl, inside⟩ := exists_below shallow
    rw [Json.node, json, jsonMembers_nodes members inside]
    rfl

theorem jsonItems_nodes (items : List Json) {depth : Nat}
    (shallow : nestingOfItems items ≤ depth) :
    jsonItems depth (nodesOfItems items) = .ok items := by
  match items with
  | [] => rw [nodesOfItems, jsonItems]
  | item :: rest =>
    rw [nestingOfItems, Nat.max_le] at shallow
    rw [nodesOfItems, jsonItems, json_node item shallow.1, jsonItems_nodes rest shallow.2]
    rfl

theorem jsonMembers_nodes (members : List (String × Json)) {depth : Nat}
    (shallow : nestingOfMembers members ≤ depth) :
    jsonMembers depth (nodesOfMembers members) = .ok members := by
  match members with
  | [] => rw [nodesOfMembers, jsonMembers]
  | (key, value) :: rest =>
    rw [nestingOfMembers, Nat.max_le] at shallow
    rw [nodesOfMembers, jsonMembers, json_node value shallow.1,
      jsonMembers_nodes rest shallow.2]
    rfl

end

mutual

theorem eq_node_of_json {depth : Nat} (node : Node) {value : Json}
    (found : json depth node = .ok value) : node = value.node ∧ value.nesting ≤ depth := by
  match node with
  | .broken .. | .number none | .text none => simp [json] at found
  | .null | .bool _ | .number (some _) | .text (some _) =>
    simp only [json, Except.ok.injEq] at found
    subst found
    exact ⟨rfl, Nat.zero_le depth⟩
  | .array items ending =>
    cases depth with
    | zero => simp [json] at found
    | succ below =>
      rw [json] at found
      obtain ⟨values, all, sound⟩ := exists_of_bind_eq_ok found
      obtain ⟨closed, rfl⟩ := orFault_eq_ok sound
      obtain rfl := ArrayEnd.fault?_eq_none_iff.1 closed
      obtain ⟨rfl, inside⟩ := eq_nodes_of_jsonItems items all
      exact ⟨rfl, Nat.succ_le_succ inside⟩
  | .object members ending =>
    cases depth with
    | zero => simp [json] at found
    | succ below =>
      rw [json] at found
      obtain ⟨entries, all, sound⟩ := exists_of_bind_eq_ok found
      obtain ⟨closed, rfl⟩ := orFault_eq_ok sound
      obtain rfl := ObjectEnd.fault?_eq_none_iff.1 closed
      obtain ⟨rfl, inside⟩ := eq_nodes_of_jsonMembers members all
      exact ⟨rfl, Nat.succ_le_succ inside⟩

theorem eq_nodes_of_jsonItems {depth : Nat} (items : List Node) {values : List Json}
    (found : jsonItems depth items = .ok values) :
    items = nodesOfItems values ∧ nestingOfItems values ≤ depth := by
  match items with
  | [] =>
    obtain rfl := Except.ok.inj found
    exact ⟨rfl, Nat.zero_le depth⟩
  | item :: rest =>
    rw [jsonItems] at found
    obtain ⟨value, first, found⟩ := exists_of_bind_eq_ok found
    obtain ⟨others, later, found⟩ := exists_of_bind_eq_ok found
    obtain rfl := Except.ok.inj found
    obtain ⟨rfl, shallow⟩ := eq_node_of_json item first
    obtain ⟨rfl, shallows⟩ := eq_nodes_of_jsonItems rest later
    exact ⟨rfl, Nat.max_le.2 ⟨shallow, shallows⟩⟩

theorem eq_nodes_of_jsonMembers {depth : Nat} (members : List (Option String × Node))
    {entries : List (String × Json)} (found : jsonMembers depth members = .ok entries) :
    members = nodesOfMembers entries ∧ nestingOfMembers entries ≤ depth := by
  match members with
  | [] =>
    obtain rfl := Except.ok.inj found
    exact ⟨rfl, Nat.zero_le depth⟩
  | (none, _) :: _ => simp [jsonMembers] at found
  | (some key, node) :: rest =>
    rw [jsonMembers] at found
    obtain ⟨value, first, found⟩ := exists_of_bind_eq_ok found
    obtain ⟨others, later, found⟩ := exists_of_bind_eq_ok found
    obtain rfl := Except.ok.inj found
    obtain ⟨rfl, shallow⟩ := eq_node_of_json node first
    obtain ⟨rfl, shallows⟩ := eq_nodes_of_jsonMembers rest later
    exact ⟨rfl, Nat.max_le.2 ⟨shallow, shallows⟩⟩

end

theorem passOver_eq_ok {node : Node} (passed : node.passedFault? = none) (depth : Nat) :
    passOver depth node = .ok () := by
  rw [passOver, passed]
  rfl

/-- From the node the content is read, wherever so many containers may be opened one inside the
other. -/
def ReadsNode {α : Type} (read : Reader α) (levels : Nat) (node : Node) (content : α) : Prop :=
  ∀ ⦃depth : Nat⦄, levels ≤ depth → read depth node = .ok content

/-- From the node of the written value the content is read, wherever containers may be nested as
deep as they are in it. -/
def Reads {α : Type} (read : Reader α) (written : Json) (content : α) : Prop :=
  ∀ ⦃depth : Nat⦄, written.nesting ≤ depth → read depth written.node = .ok content

variable {α β : Type} {read : Reader α}

theorem reads_json (value : Json) : Reads json value value :=
  fun _ shallow => json_node value shallow

theorem reads_text (content : String) : Reads text (.text content) content :=
  fun _ _ => rfl

theorem reads_bool (value : Bool) : Reads bool (.bool value) value :=
  fun _ _ => rfl

theorem reads_natural {limit n : Nat} (below : n < limit) (word : limit ≤ UInt64.size)
    (expected : String) : Reads (natural limit expected) (.ofNat n) ⟨n, below⟩ := by
  intro depth _
  have whole : min n 0xffffffffffffffff = n := by
    have size : UInt64.size = 0xffffffffffffffff + 1 := rfl
    omega
  simp only [Json.ofNat, Number.ofNat, Json.node, natural, whole, Int.toNat_natCast]
  exact dif_pos ⟨Int.natCast_nonneg n, below⟩

theorem Reads.node {written : Json} {content : α} (reads : Reads read written content)
    {levels : Nat} (fits : written.nesting ≤ levels) :
    ReadsNode read levels written.node content :=
  fun _ deep => reads (fits.trans deep)

theorem ReadsNode.mono {levels more : Nat} {node : Node} {content : α}
    (reads : ReadsNode read levels node content) (le : levels ≤ more) :
    ReadsNode read more node content :=
  fun _ deep => reads (le.trans deep)

theorem ReadsNode.map {levels : Nat} {node : Node} {content : α}
    (reads : ReadsNode read levels node content) (f : α → β) :
    ReadsNode (Reader.map f read) levels node (f content) := by
  intro depth deep
  rw [Reader.map, reads deep]
  rfl

theorem Reads.map {written : Json} {content : α} (reads : Reads read written content)
    (f : α → β) : Reads (Reader.map f read) written (f content) :=
  ReadsNode.map reads f

theorem reads_optional_null : Reads (optional read) .null none :=
  fun _ _ => rfl

theorem Reads.optional {written : Json} {content : α} (reads : Reads read written content)
    (given : written ≠ .null) : Reads (Reader.optional read) written (some content) := by
  intro depth shallow
  have known := reads shallow
  cases written with
  | null => exact absurd rfl given
  | _ => exact congrArg (Except.map some) known

theorem readsNode_listOf {levels : Nat} {items : List Node} {values : List α}
    (each : List.Forall₂ (ReadsNode read levels) items values) :
    ReadsNode (listOf read) (levels + 1) (.array items .closed) values := by
  intro depth deep
  obtain ⟨below, rfl, inside⟩ := exists_below deep
  have all : items.mapM (read below) = .ok values :=
    mapM_eq_ok_iff.2 (each.imp fun _ _ reads => reads inside)
  simp only [listOf, descend, all]
  rfl

theorem reads_listOf {items : List Json} {values : List α}
    (each : List.Forall₂ (Reads read) items values) :
    Reads (listOf read) (.array items) values := by
  have fits := Json.nestingOfItems_le_iff.1 (le_refl (nestingOfItems items))
  have nodes :
      List.Forall₂ (ReadsNode read (nestingOfItems items)) (nodesOfItems items) values := by
    rw [Json.nodesOfItems_eq_map, List.forall₂_map_left_iff]
    exact ((List.forall₂_and_left _ _).2 ⟨fits, each⟩).imp fun _ _ item => item.2.node item.1
  exact readsNode_listOf nodes

theorem reads_texts (texts : List String) : Reads (listOf text) (Json.ofTexts texts) texts :=
  reads_listOf (List.forall₂_map_left_iff.2 (List.forall₂_same.2 fun text _ => reads_text text))

theorem reads_membersOf {expected : String} {members : List (String × Json)}
    {entries : List (String × α)}
    (each : List.Forall₂ (fun m entry => m.1 = entry.1 ∧ Reads read m.2 entry.2) members entries) :
    Reads (membersOf expected read) (.object members) entries := by
  intro depth shallow
  obtain ⟨below, rfl, inside⟩ := exists_below shallow
  have each_inside := Json.nestingOfMembers_le_iff.1 inside
  have all : (members.map fun m => (some m.1, m.2.node)).mapM (member read below) =
      .ok entries := by
    refine mapM_eq_ok_iff.2 (List.forall₂_map_left_iff.2 ?_)
    refine ((List.forall₂_and_left _ _).2 ⟨each_inside, each⟩).imp ?_
    rintro ⟨key, value⟩ ⟨name, content⟩ ⟨shallow, rfl, reads⟩
    simp only [member, reads shallow]
    rfl
  simp only [Json.node, Json.nodesOfMembers_eq_map, membersOf, descend, all]
  rfl

theorem run_eq_ok_iff {text : String} {value : α} :
    run read text = .ok value ↔
      read maxDepth (Document.ofText text).root = .ok value ∧
        (Document.ofText text).trailing = false := by
  unfold run
  dsimp only
  cases read maxDepth (Document.ofText text).root with
  | error problem => simp
  | ok found => cases (Document.ofText text).trailing <;> simp

theorem Reads.run {written : Json} {content : α} (reads : Reads read written content)
    (shallow : written.nesting ≤ maxDepth) {text : String}
    (spells : Spells written.tokens text.toList) : run read text = .ok content := by
  simp only [Reader.run, Document.ofText_of_spells spells, reads shallow]
  rfl

theorem run_json_eq_ok_iff {text : String} {written : Json} :
    Reader.run json text = .ok written ↔
      Document.ofText text = ⟨written.node, false⟩ ∧ written.nesting ≤ maxDepth := by
  rw [run_eq_ok_iff]
  constructor
  · rintro ⟨found, alone⟩
    obtain ⟨root, shallow⟩ := eq_node_of_json _ found
    generalize Document.ofText text = document at root alone
    obtain ⟨_, _⟩ := document
    obtain rfl : _ = written.node := root
    obtain rfl : _ = false := alone
    exact ⟨rfl, shallow⟩
  · rintro ⟨document, shallow⟩
    rw [document]
    exact ⟨json_node written shallow, rfl⟩

theorem ReadsNode.run_of_json {written : Json} {content : α}
    (reads : ReadsNode read maxDepth written.node content) {text : String}
    (found : Reader.run json text = .ok written) : Reader.run read text = .ok content := by
  rw [run_eq_ok_iff, (run_json_eq_ok_iff.1 found).1]
  exact ⟨reads le_rfl, rfl⟩

theorem Reads.run_of_json {written : Json} {content : α} (reads : Reads read written content)
    {text : String} (found : Reader.run json text = .ok written) :
    Reader.run read text = .ok content :=
  (reads.node (run_json_eq_ok_iff.1 found).2).run_of_json found

end Reader

theorem Json.ofText_of_spells {value : Json} (shallow : value.nesting ≤ Reader.maxDepth)
    {text : String} (spells : Spells value.tokens text.toList) :
    Json.ofText text = .ok value.normalize := by
  rw [Json.ofText, (Reader.reads_json value).run shallow spells]
  rfl

end TableSchema
