import TableSchema.Declaration.Reader
import TableSchema.Proofs.Json.Fields

set_option autoImplicit false

namespace TableSchema

/-- An object that lists entries: one member for each, with the key of the entry, in their order. -/
def Node.Lists {α : Type} (each : Node → α → Prop) (node : Node) (entries : List (String × α)) :
    Prop :=
  ∃ members, node = .object members .closed ∧
    List.Forall₂ (fun m entry => m.1 = some entry.1 ∧ each m.2 entry.2) members entries

theorem Node.Lists.imp {α : Type} {each other : Node → α → Prop} {node : Node}
    {entries : List (String × α)} (lists : node.Lists each entries)
    (weaker : ∀ value content, each value content → other value content) :
    node.Lists other entries := by
  obtain ⟨members, rfl, listed⟩ := lists
  exact ⟨members, rfl, listed.imp fun _ _ entry => ⟨entry.1, weaker _ _ entry.2⟩⟩

namespace Reader

variable {α : Type} {depth : Nat} {node : Node}

theorem text_eq_ok {content : String} (read : text depth node = .ok content) :
    node = .text (some content) := by
  unfold text textOf at read
  split at read
  · rw [Except.ok.inj read]
  · cases read

theorem lists_of_membersOf {expected : String} {reader : Reader α} {entries : List (String × α)}
    (read : membersOf expected reader depth node = .ok entries) :
    ∃ below, node.Lists (fun value content => reader below value = .ok content) entries := by
  cases node with
  | object members ending =>
    obtain ⟨below, read⟩ := descend_eq_ok read
    obtain ⟨found, listed, read⟩ := exists_of_bind_eq_ok read
    obtain ⟨closed, rfl⟩ := orFault_eq_ok read
    refine ⟨below, members, by rw [ObjectEnd.fault?_eq_none_iff.1 closed],
      (mapM_eq_ok_iff.1 listed).imp ?_⟩
    rintro ⟨key | key, value⟩ entry member
    · cases member
    · obtain ⟨content, known, rfl⟩ := exists_of_map_eq_ok member
      exact ⟨rfl, known⟩
  | _ => cases read

theorem forall₂_of_listOf {reader : Reader α} {items : List Node} {ending : ArrayEnd}
    {values : List α} (read : listOf reader depth (.array items ending) = .ok values) :
    ending = .closed ∧
      ∃ below, List.Forall₂ (fun item value => reader below item = .ok value) items values := by
  obtain ⟨below, read⟩ := descend_eq_ok read
  obtain ⟨found, listed, read⟩ := exists_of_bind_eq_ok read
  obtain ⟨closed, rfl⟩ := orFault_eq_ok read
  exact ⟨ArrayEnd.fault?_eq_none_iff.1 closed, below, mapM_eq_ok_iff.1 listed⟩

end Reader

namespace FullTable

theorem holds_schema :
    shape.Holds "schema" Draft.schema (Reader.membersOf "a JSON object" Reader.text) := by
  refine .of_field true (fun d v => { d with schema := some v }) (by decide)
    List.mem_cons_self (fun _ _ => rfl) ?_ rfl
  simp only [shape, List.forall_mem_cons]
  refine ⟨fun other => absurd rfl other, ?_, ?_, ?_, List.forall_mem_nil _⟩
  all_goals exact fun _ => Field.keeps_of fun _ _ => rfl

/-- The columns of a table are listed by its field `schema`. -/
def ReadFrom (node : Node) (body : FullTable) : Prop :=
  ∃ schema, shape.Gives "schema" node schema ∧
    schema.Lists (fun value type => value = .text (some type)) body.schema

theorem schema_of_finish {draft : Draft} {body : FullTable}
    (finished : shape.finish draft = .ok body) : draft.schema = some body.schema := by
  obtain ⟨schema, given, rest⟩ := exists_of_bind_eq_ok finished
  obtain ⟨key, _, whole⟩ := exists_of_bind_eq_ok rest
  rw [← Except.ok.inj whole]
  exact RecordShape.need_eq_ok_iff.1 given

theorem readFrom_of_reader {depth : Nat} {node : Node} {body : FullTable}
    (read : shape.reader depth node = .ok body) : ReadFrom node body := by
  obtain ⟨draft, finished, outcome⟩ := holds_schema.exists_draft_of_reader read
  rw [schema_of_finish finished] at outcome
  rcases outcome with ⟨⟨⟩, _⟩ | ⟨below, schema, columns, gives, listed, ⟨⟩⟩
  obtain ⟨_, lists⟩ := Reader.lists_of_membersOf listed
  exact ⟨schema, gives, lists.imp fun _ _ => Reader.text_eq_ok⟩

end FullTable

namespace TableDeclaration

/-- A table is a text, the type of its value column, or a body. -/
inductive ReadFrom : Node → TableDeclaration → Prop
  | shorthand {valueType : String} : ReadFrom (.text (some valueType)) (.shorthand valueType)
  | full {members : List (Option String × Node)} {ending : ObjectEnd} {body : FullTable}
      (read : body.ReadFrom (.object members ending)) :
      ReadFrom (.object members ending) (.full body)

theorem readFrom_of_reader {depth : Nat} {node : Node} {declaration : TableDeclaration}
    (read : reader depth node = .ok declaration) : declaration.ReadFrom node := by
  unfold reader at read
  split at read
  · rw [← Except.ok.inj read]
    exact .shorthand
  · obtain ⟨body, whole, rfl⟩ := exists_of_map_eq_ok read
    exact .full (FullTable.readFrom_of_reader whole)
  · cases read

end TableDeclaration

namespace Declaration

theorem holds_namespace :
    shape.Holds "namespace" Draft.namespaceName Reader.text := by
  refine .of_field true (fun d v => { d with namespaceName := some v }) (by decide)
    List.mem_cons_self (fun _ _ => rfl) ?_ rfl
  simp only [shape, List.forall_mem_cons]
  refine ⟨fun other => absurd rfl other, ?_, ?_, ?_, List.forall_mem_nil _⟩
  all_goals exact fun _ => Field.keeps_of fun _ _ => rfl

theorem holds_tables :
    shape.Holds "tables" Draft.tables
      (Reader.membersOf "a JSON object" TableDeclaration.reader) := by
  refine .of_field false (fun d v => { d with tables := some v }) (by decide)
    (List.mem_cons_of_mem _ List.mem_cons_self) (fun _ _ => rfl) ?_ rfl
  simp only [shape, List.forall_mem_cons]
  refine ⟨?_, fun other => absurd rfl other, ?_, ?_, List.forall_mem_nil _⟩
  all_goals exact fun _ => Field.keeps_of fun _ _ => rfl

/-- The name of a declaration is that of its field `namespace`, and its tables are listed by its
field `tables`. Without that field it has no tables. -/
structure ReadFrom (node : Node) (declaration : Declaration) : Prop where
  named : shape.Gives "namespace" node (.text (some declaration.namespaceName))
  tables : (∃ tables, shape.Gives "tables" node tables ∧
      tables.Lists (fun value table => table.ReadFrom value) declaration.tables) ∨
    (∀ tables, ¬ shape.Gives "tables" node tables) ∧ declaration.tables = []

theorem eq_of_finish {draft : Draft} {declaration : Declaration}
    (finished : shape.finish draft = .ok declaration) :
    draft.namespaceName = some declaration.namespaceName ∧
      declaration.tables = draft.tables.getD [] := by
  obtain ⟨name, given, whole⟩ := exists_of_bind_eq_ok finished
  rw [← Except.ok.inj whole]
  exact ⟨RecordShape.need_eq_ok_iff.1 given, rfl⟩

theorem readFrom_of_reader {depth : Nat} {node : Node} {declaration : Declaration}
    (read : shape.reader depth node = .ok declaration) : ReadFrom node declaration := by
  constructor
  · obtain ⟨draft, finished, outcome⟩ := holds_namespace.exists_draft_of_reader read
    rw [(eq_of_finish finished).1] at outcome
    rcases outcome with ⟨⟨⟩, _⟩ | ⟨below, given, name, gives, known, ⟨⟩⟩
    rwa [Reader.text_eq_ok known] at gives
  · obtain ⟨draft, finished, outcome⟩ := holds_tables.exists_draft_of_reader read
    rw [(eq_of_finish finished).2]
    rcases outcome with ⟨missing, none_given⟩ | ⟨below, tables, entries, gives, listed, there⟩
    · exact Or.inr ⟨none_given, by rw [missing]; rfl⟩
    · obtain ⟨_, lists⟩ := Reader.lists_of_membersOf listed
      refine Or.inl ⟨tables, gives, ?_⟩
      rw [there]
      exact lists.imp fun _ _ => TableDeclaration.readFrom_of_reader

/-- The declarations of a document are the items of an array, or there is one alone. -/
inductive ReadTogether : Node → List Declaration → Prop
  | array {items : List Node} {declarations : List Declaration}
      (each : List.Forall₂ ReadFrom items declarations) :
      ReadTogether (.array items .closed) declarations
  | single {members : List (Option String × Node)} {ending : ObjectEnd} {declaration : Declaration}
      (alone : declaration.ReadFrom (.object members ending)) :
      ReadTogether (.object members ending) [declaration]

/-- What a document declares is what stands in it: every table and every column that it holds is
an entry of its own, in the order of the document. -/
theorem readTogether_of_ofText {text : String} {declarations : List Declaration}
    (read : ofText text = .ok declarations) :
    ReadTogether (Document.ofText text).root declarations := by
  have whole := (Reader.run_eq_ok_iff.1 read).1
  generalize (Document.ofText text).root = root at whole
  cases root with
  | array items ending =>
    rw [documentReader] at whole
    obtain ⟨rfl, _, each⟩ := Reader.forall₂_of_listOf whole
    exact .array (each.imp fun _ _ => readFrom_of_reader)
  | object members ending =>
    obtain ⟨declaration, known, rfl⟩ := exists_of_map_eq_ok whole
    exact .single (readFrom_of_reader known)
  | _ => cases whole

end Declaration

end TableSchema
