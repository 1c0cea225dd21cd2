import Mathlib.Data.List.Nodup
import Mathlib.Data.List.Perm.Basic
import TableSchema.Command.Basic
import TableSchema.Proofs.Command.Output
import TableSchema.Proofs.Json.Canonical

set_option autoImplicit false

namespace TableSchema

namespace ColumnType

/-- The types of the catalog, for each kind the scalar and the array. -/
def catalog : List ColumnType :=
  Scalar.all.flatMap fun kind => [.scalar kind, .array kind]

theorem mem_catalog_iff {type : ColumnType} : type ∈ catalog ↔ type.kind ∈ Scalar.all := by
  cases type <;> simp [catalog, kind]

theorem name_injOn_catalog {type other : ColumnType} (member : type ∈ catalog)
    (otherMember : other ∈ catalog) (same : type.name = other.name) : type = other := by
  have found := ofName?_eq_some_iff.2 ⟨mem_catalog_iff.1 member, rfl⟩
  have otherFound := ofName?_eq_some_iff.2 ⟨mem_catalog_iff.1 otherMember, same⟩
  exact Option.some.inj (found.symm.trans otherFound)

theorem nodup_catalog : catalog.Nodup := by
  have kinds : Scalar.all.Nodup := by decide +kernel
  rw [catalog, List.nodup_flatMap]
  refine ⟨fun kind _ => by simp, kinds.imp ?_⟩
  intro kind other differ
  simp [List.disjoint_left, differ]

theorem nodup_map_name_catalog : (catalog.map name).Nodup :=
  nodup_catalog.map_on fun _ member _ otherMember => name_injOn_catalog member otherMember

end ColumnType

namespace Json

/-- The values of the members of the given key. -/
def valuesUnder (key : String) : Json → List Json
  | .object members => (members.filter (·.1 == key)).map (·.2)
  | _ => []

def items : Json → List Json
  | .array items => items
  | _ => []

end Json

namespace Command

/-- The type names in the data of a response, entry by entry. -/
def listedNames (data : Json) : List Json :=
  ((data.valuesUnder "types").flatMap Json.items).flatMap fun entry =>
    entry.valuesUnder "type" ++ entry.valuesUnder "array_type"

theorem listedNames_types {names : Scalar → Json}
    (both : ∀ kind, (names kind).valuesUnder "type" ++ (names kind).valuesUnder "array_type" =
      [.text (ColumnType.scalar kind).name, .text (ColumnType.array kind).name]) :
    listedNames (.object [("types", .array (Scalar.all.map names))]) =
      (ColumnType.catalog.map ColumnType.name).map Json.text := by
  have types : (Json.object [("types", .array (Scalar.all.map names))]).valuesUnder "types" =
      [.array (Scalar.all.map names)] := rfl
  rw [listedNames, types, List.flatMap_singleton, Json.items, List.flatMap_map]
  simp [both, ColumnType.catalog, List.map_flatMap]

theorem listedNames_catalogData :
    listedNames catalogData = (ColumnType.catalog.map ColumnType.name).map Json.text :=
  listedNames_types fun _ => rfl

theorem listedNames_normalize_catalogData :
    listedNames catalogData.normalize = (ColumnType.catalog.map ColumnType.name).map Json.text := by
  have entries : catalogData.normalize = .object [("types", .array (Scalar.all.map _))] :=
    congrArg (fun items => Json.object [("types", items)])
      (Json.normalize_array_map _ Scalar.all)
  rw [entries]
  exact listedNames_types fun _ => rfl

theorem plain_catalogData : catalogData.Plain 3 := by
  refine Json.plain_object (List.forall_mem_singleton.2 ?_)
  refine Json.plain_array (List.forall_mem_map.2 fun kind _ => Json.plain_object ?_)
  have width : (width (.scalar kind)).Plain 0 := by
    unfold Command.width
    split
    · exact Json.plain_ofNat 0 _
    · exact ⟨trivial, Nat.zero_le 0⟩
  simp only [List.forall_mem_cons]
  exact ⟨Json.plain_text 0 _, Json.plain_text 0 _, width, Json.plain_bool 0 _,
    List.forall_mem_nil _⟩

/-- The line that the catalog command writes where the output never fails. It can be read back, and
the names in its data are the given ones. -/
structure CatalogLine (names : List String) (line : Json) : Prop where
  written : ∀ (before : List UInt8) (failure : String),
    runCatalog ⟨before, none, failure, none⟩ =
      (.ok (), ⟨before ++ Sink.bytesOf line.render ++ [Sink.lineEnd], none, failure, none⟩)
  single : Sink.lineEnd ∉ Sink.bytesOf line.render
  read : Json.ofText line.render = .ok line
  status : line.follow? ["status"] = some (.text "ok")
  names : (line.follow? ["data"]).map listedNames = some (names.map Json.text)

theorem catalogLine : CatalogLine (ColumnType.catalog.map ColumnType.name)
    (Response.ok catalogData).toJson.normalize := by
  have plain : (Response.ok catalogData).toJson.Plain 4 := by
    refine Json.plain_object ?_
    simp only [List.forall_mem_cons]
    exact ⟨Json.plain_text 3 "ok", plain_catalogData, List.forall_mem_nil _⟩
  exact ⟨Sink.write_unlimited _, Sink.lineEnd_not_mem_text _,
    plain.ofText_render_normalize (by decide), rfl,
    congrArg some listedNames_normalize_catalogData⟩

end Command

namespace ColumnType

/-- A name is accepted as a type exactly if it is that type's name and the type is of a listed
kind; any other name is refused and handed back. So the names that stand in the line which the
catalog command writes are those that are accepted, each once. -/
theorem ofName_accepts_catalog_names :
    (∀ (name : String) (type : ColumnType),
      ofName name = .ok type ↔
        (∃ kind ∈ Scalar.all, type = .scalar kind ∨ type = .array kind) ∧ name = type.name) ∧
      (∀ (name : String) (unknown : UnknownType),
        ofName name = .error unknown ↔
          unknown.name = name ∧ ¬ ∃ kind ∈ Scalar.all,
            name = (ColumnType.scalar kind).name ∨ name = (ColumnType.array kind).name) ∧
      ∃ (data : Json) (names : List String),
        (∀ sink : Sink, Command.runCatalog sink = sink.write (.ok data)) ∧
          Command.listedNames data = names.map Json.text ∧ names.Nodup ∧
          (∀ name, name ∈ names ↔ ∃ type, ofName name = .ok type) ∧
          ∃ line, Command.CatalogLine names line := by
  have listed (type : ColumnType) :
      type.kind ∈ Scalar.all ↔ ∃ kind ∈ Scalar.all, type = .scalar kind ∨ type = .array kind := by
    cases type <;> simp [kind]
  refine ⟨?_, ?_, Command.catalogData, catalog.map name, fun _ => rfl,
    Command.listedNames_catalogData, nodup_map_name_catalog, ?_, _,
    Command.catalogLine⟩
  · intro name type
    rw [ofName_eq_ok_iff, listed]
  · intro text unknown
    rw [ofName_eq_error_iff]
    refine and_congr ⟨fun same => by rw [same], fun same => by rw [← same]⟩ ?_
    constructor
    · rintro unlisted ⟨kind, member, named | named⟩
      · exact unlisted (.scalar kind) member named
      · exact unlisted (.array kind) member named
    · rintro unlisted (kind | kind) member named
      · exact unlisted ⟨kind, member, .inl named⟩
      · exact unlisted ⟨kind, member, .inr named⟩
  · intro text
    constructor
    · intro member
      obtain ⟨type, there, rfl⟩ := List.mem_map.1 member
      exact ⟨type, ofName_eq_ok_iff.2 ⟨mem_catalog_iff.1 there, rfl⟩⟩
    · rintro ⟨type, accepted⟩
      obtain ⟨there, rfl⟩ := ofName_eq_ok_iff.1 accepted
      exact List.mem_map.2 ⟨type, mem_catalog_iff.2 there, rfl⟩

end ColumnType

end TableSchema
