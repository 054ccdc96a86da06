import Registry.Cleanup.Json
import Registry.Dataset.Json
import Registry.Proofs.Dataset.View
import Registry.Proofs.Json.Fields
import Registry.Tables.Json
import Mathlib.Algebra.Group.Nat.Defs

/-! # Records that read back

Reader and writer agree for every record: what a writer leaves out is what the reader fills in, and
no two states of a facet are written alike.
-/

namespace Registry

open Json

variable {α : Type} {write : α → Json} {read : Json → Option α}

theorem readsBack_id : ReadsBack idJson asInt64? :=
  asInt64?_int

theorem idJson_ne_null (id : Int64) : idJson id ≠ .null :=
  int_ne_null _

theorem TextMap.place_of_last {key : String} {value : α} {l : List (String × α)}
    (last : ∀ e ∈ l, e.1 < key) : place key value l = l ++ [(key, value)] := by
  induction l with
  | nil => rfl
  | cons head rest ih =>
      have below : head.1 < key := last head List.mem_cons_self
      rw [place, if_neg (String.lt_asymm below), if_pos below,
        ih fun e member => last e (List.mem_cons_of_mem _ member), List.cons_append]

/-- The entries of a map make it up again. -/
theorem TextMap.entries_ofList {l : List (String × α)}
    (ascending : l.Pairwise fun a b => a.1 < b.1) : (ofList l).entries = l := by
  induction l using List.reverseRecOn with
  | nil => rfl
  | append_singleton front e ih =>
      obtain ⟨ascending, -, below⟩ := List.pairwise_append.1 ascending
      have last : ∀ a ∈ front, a.1 < e.1 :=
        fun a member => below a member e (List.mem_singleton_self e)
      have grown : (ofList (front ++ [e])).entries = place e.1 e.2 (ofList front).entries := by
        simp [ofList, insert]
      rw [grown, ih ascending, place_of_last last]

theorem TextMap.readsBack (back : ReadsBack write read) :
    ReadsBack (toJson write) (mapOf? read) := by
  intro map
  have entry (e : String × α) :
      (do return (← some e.1, ← read (write e.2)) : Option (String × α)) = some e := by
    simp [back e.2]
  have entries : (map.entries.map fun e => (some e.1, write e.2)).mapM
      (fun m => do return (← m.1, ← read m.2)) = some map.entries := by
    rw [List.mapM_map, Function.comp_def, funext entry]
    simpa using List.mapM_pure (m := Option) (l := map.entries) (f := id)
  simp only [toJson, obj, mapOf?, List.map_map, Function.comp_def, entries]
  exact congrArg some (ext_entries (entries_ofList map.ascending))

theorem TextSet.ofList_toList (set : TextSet) : ofList set.toList = set := by
  have same : (ofList set.toList).toList = set.toList :=
    toList_ofList set.ascending fun _ => Iff.rfl
  calc ofList set.toList
      = ⟨(ofList set.toList).toList, (ofList set.toList).ascending⟩ := rfl
    _ = ⟨set.toList, set.ascending⟩ := by simp only [same]

theorem TextSet.readsBack : ReadsBack toJson ofJson? := by
  intro set
  have members : listOf? asText? set.toJson = some set.toList := readsBack_text.list set.toList
  rw [ofJson?, members]
  exact congrArg some set.ofList_toList

theorem Facet.readsBack (back : ReadsBack write read) (depth : Nat) (default : Option α) :
    ReadsBack (toJson write) (ofJson? depth default read) := by
  intro facet
  cases facet with
  | unfetched => rfl
  | fetched a =>
      calc ofJson? depth default read (toJson write (.fetched a))
          = .fetched <$> read (write a) := rfl
        _ = some (.fetched a) := by rw [back a]; rfl
  | failed reason => rfl

theorem Property.readsBack : ReadsBack toJson ofJson? := by
  intro p
  rw [toJson, ofJson?, slots?_obj (by decide) (by simp)]
  simp [TextMap.lookup_cons, Slot.required_write readsBack_text]

theorem PropertyGroup.readsBack (depth : Nat) : ReadsBack toJson (ofJson? depth) := by
  intro group
  have properties := Facet.readsBack Property.readsBack.list (depth + 1) none
  rw [toJson, ofJson?, slots?_obj (by decide) (by simp)]
  simp [TextMap.lookup_cons, Slot.required_write properties]

theorem Attributes.readsBack (depth : Nat) : ReadsBack toJson (ofJson? depth) := by
  intro attributes
  have groups := TextMap.readsBack (PropertyGroup.readsBack (depth + 3))
  rw [toJson, ofJson?, slots?_obj (by decide) (by simp)]
  simp [TextMap.lookup_cons, Slot.required_write (Facet.readsBack groups (depth + 1) none)]

theorem Link.readsBack : ReadsBack toJson ofJson? := by
  intro link
  have source := Slot.required_write readsBack_id link.source
  have target := Slot.required_write readsBack_id link.target
  rw [idJson] at source target
  rw [toJson, ofJson?, slots?_obj (by decide)]
  · simp [TextMap.lookup_cons, lookup_memberIf, source, target, Slot.required_write readsBack_text,
      Slot.optional_memberIf readsBack_text str_ne_null]
  · rw [List.map_append]
    exact .append (.refl _) (keys_memberIf ..)

theorem Permission.readsBack : ReadsBack toJson ofJson? := by
  intro p
  rw [toJson, ofJson?, slots?_obj (by decide) (by simp)]
  simp [TextMap.lookup_cons, Slot.required_write readsBack_text, Slot.required_write readsBack_bool]

theorem Element.readsBack (depth : Nat) : ReadsBack toJson (ofJson? depth) := by
  intro e
  have attributes := Facet.readsBack (Attributes.readsBack (depth + 2)) (depth + 1) none
  have parent := Facet.readsBack (readsBack_id.nullable idJson_ne_null) (depth + 1) (some none)
  have children := Facet.readsBack readsBack_id.list (depth + 1) none
  have permissions := Facet.readsBack Permission.readsBack.list (depth + 1) none
  have links := Facet.readsBack Link.readsBack.list (depth + 1) none
  rw [toJson, ofJson?, slots?_obj (by decide)]
  · simp [TextMap.lookup_cons, List.lookup_append, lookup_memberIf, parentOfJson?, idsOfJson?,
      Slot.required_write readsBack_id, Slot.required_write readsBack_text,
      Slot.optional_memberIf readsBack_id idJson_ne_null, Slot.orDefault_write attributes,
      Slot.orDefault_write parent, Slot.orDefault_write children, Slot.orDefault_write permissions,
      Slot.orDefault_write links]
  · simp only [List.map_append]
    exact .append (.append (.refl _) (keys_memberIf ..)) (.refl _)

theorem NewElement.readsBack : ReadsBack toJson ofJson? := by
  intro e
  rw [toJson, ofJson?, slots?_obj (by decide) (by simp)]
  simp [TextMap.lookup_cons, Slot.required_write readsBack_id, Slot.required_write readsBack_text,
    Slot.optional_orNull readsBack_id idJson_ne_null]

theorem Loader.readsBack : ReadsBack toJson ofJson? := by
  intro loader
  rw [toJson, ofJson?, slots?_obj (by decide) (by simp)]
  simp [TextMap.lookup_cons, Slot.required_write TextSet.readsBack,
    Slot.optional_orNull readsBack_id idJson_ne_null]

theorem RelationFilter.readsBack : ReadsBack toJson ofJson? := by
  intro filter
  cases filter with
  | nodesOnly => rfl
  | all => rfl
  | only relations =>
      calc ofJson? (toJson (.only relations))
          = .only <$> TextSet.ofJson? relations.toJson := rfl
        _ = some (.only relations) := by rw [TextSet.readsBack relations]; rfl

theorem GraphSpec.readsBack : ReadsBack toJson ofJson? := by
  intro spec
  rw [toJson, ofJson?, slots?_obj (by decide) (by simp)]
  simp [TextMap.lookup_cons, Slot.required_write Loader.readsBack.list,
    Slot.required_write readsBack_bool, Slot.required_write readsBack_text.list]

/-- A number of at most twenty digits is no infinite floating point number. -/
theorem not_overflows_of_lt {n : Nat} (small : n < 10 ^ 20) : Text.overflows n 0 = false := by
  have digits : (Nat.toDigits 10 n).length ≤ 20 :=
    (Nat.length_toDigits_le_iff (by decide) (by decide)).2 small
  have short : ((Nat.toDigits 10 n).length : Int) + 0 < 300 := by omega
  unfold Text.overflows
  exact if_pos (by simp only [Bool.or_eq_true, decide_eq_true_eq]; exact .inr short)

theorem holdable_id (depth : Nat) (id : Int64) : holdable depth (idJson id) = true := by
  have lower : -2 ^ 63 ≤ id.toInt := id.le_toInt
  have upper : id.toInt < 2 ^ 63 := id.toInt_lt
  have small : id.toInt.natAbs < 10 ^ 20 := by omega
  simp only [idJson, int, holdable, Number.overflows, not_overflows_of_lt small, Bool.not_false]

theorem holdable_count (depth : Nat) {n : Nat} (small : n < UInt64.size) :
    holdable depth (nat n) = true := by
  have : n < 10 ^ 20 := Nat.lt_trans small (by decide)
  simp only [nat, int, holdable, Number.overflows, Int.natAbs_natCast, not_overflows_of_lt this,
    Bool.not_false]

namespace Mutation

/-- The members besides the tag. -/
def fields (m : Mutation) : List (String × Json) :=
  [("element_id", idJson m.element), ("type_id", .str m.typeId), ("title", .str m.title)] ++
    memberIf "removed" .nat m.removed

theorem ofFields?_fields {m : Mutation} (small : ∀ n ∈ m.removed, n < UInt64.size) :
    ofFields? (obj m.fields) = some m := by
  have removed : (Slot.ofMember (m.removed.map Json.nat)).orDefault none (nullable asCount?) =
      some m.removed := by
    cases counted : m.removed with
    | none => rfl
    | some n => exact nullable_of_read (asCount?_nat (small n counted)) (int_ne_null _)
  rw [ofFields?, fields, slots?_obj (by decide)]
  · simp [TextMap.lookup_cons, lookup_memberIf, Slot.required_write readsBack_id,
      Slot.required_write readsBack_text, removed]
  · rw [List.map_append]
    exact .append (.refl _) (keys_memberIf ..)

theorem holdable_fields {m : Mutation} (small : ∀ n ∈ m.removed, n < UInt64.size) :
    holdableMembers 1 (m.fields.map fun m => (some m.1, m.2)) = true := by
  obtain ⟨element, typeId, title, _ | removed⟩ := m
  · simp [fields, memberIf, holdableMembers, holdable_id, holdable, str]
  · simp [fields, memberIf, holdableMembers, holdable_id, holdable, str,
      holdable_count 1 (small removed rfl)]

theorem name_ne_command {m : Mutation} :
    ∀ member ∈ m.fields.map fun member => (some member.1, member.2),
      member.1 ≠ some "command" := by
  obtain ⟨element, typeId, title, _ | removed⟩ := m
  · simp [fields, memberIf]
  · simp [fields, memberIf]

/-- A request is read back, its count being one of 64 bits. -/
theorem readsBack {m : Mutation} (small : ∀ n ∈ m.removed, n < UInt64.size) :
    ofJson? m.toJson = some m := by
  have read := ofFields?_fields small
  have held := holdable_fields small
  have others := name_ne_command (m := m)
  have written : m.toJson =
      .object ((some "command", .str tag) ::
        m.fields.map fun member => (some member.1, member.2)) :=
    rfl
  rw [obj] at read
  rw [written]
  generalize (m.fields.map fun member => (some member.1, member.2)) = rest at *
  have command : membersNamed "command" ((some "command", .str tag) :: rest) = [.str tag] := by
    have none : rest.filterMap (fun m => if m.1 = some "command" then some m.2 else none) = [] :=
      List.filterMap_eq_nil_iff.2 fun member listed => if_neg (others member listed)
    simp [membersNamed, none]
  have kept : ((some "command", Json.str tag) :: rest).filter (·.1 != some "command") = rest := by
    simpa [List.filter_eq_self] using others
  simp only [ofJson?, command, kept, held]
  simp [asText?, str, read]

end Mutation

theorem Cleanup.Schema.readsBack : ReadsBack toJson ofJson? := by
  intro schema
  rw [toJson, ofJson?, slots?_obj (by decide) (by simp)]
  simp [TextMap.lookup_cons, Slot.required_write readsBack_text]

theorem DatasetElement.readsBack : ReadsBack toJson ofJson? := by
  intro e
  have properties := Slot.orDefault_unless (TextMap.readsBack (TextMap.readsBack readsBack_text))
    e.properties.isEmpty .empty e.properties
    fun empty => TextMap.ext_entries (List.isEmpty_iff.1 empty)
  have permissions := Slot.orDefault_unless Permission.readsBack.list
    e.permissions.isEmpty [] e.permissions List.isEmpty_iff.1
  rw [toJson, ofJson?, slots?_obj (by decide)]
  · simp only [List.map_cons, List.lookup_append, TextMap.lookup_cons, lookup_memberIf,
      lookup_unless]
    simp [-List.isEmpty_iff, properties, permissions, Slot.required_write readsBack_id,
      Slot.required_write readsBack_text, Slot.orDefault_write readsBack_text,
      Slot.orDefault_memberIf readsBack_id idJson_ne_null,
      Slot.orDefault_memberIf readsBack_text str_ne_null]
  · simp only [List.map_append]
    exact .append (.append (.append (.append (.append (.append (.append (.refl _)
      (keys_memberIf ..)) (.refl _)) (keys_memberIf ..)) (keys_memberIf ..)) (.refl _))
      (keys_unless ..)) (keys_unless ..)

theorem Dataset.readsBack_link : ReadsBack linkToJson linkOfJson? := by
  intro link
  rw [linkToJson, linkOfJson?, slots?_obj (by decide)]
  · simp [TextMap.lookup_cons, lookup_memberIf, Slot.required_write readsBack_id,
      Slot.required_write readsBack_text, Slot.orDefault_memberIf readsBack_text str_ne_null]
  · rw [List.map_append]
    exact .append (.refl _) (keys_memberIf ..)

theorem Dataset.readsBack : ReadsBack toJson ofJson? := by
  intro dataset
  rw [toJson, ofJson?, slots?_obj (by decide) (by simp)]
  simp [TextMap.lookup_cons, Slot.orDefault_write DatasetElement.readsBack.list,
    Slot.orDefault_write readsBack_link.list]

/-! ## The data model -/

/-- Every value of the data model is read back as it was, so that no two facets are written alike.
    The `depth` of the containers around an element plays no part in it. -/
structure DataModelReadsBack : Prop where
  element : ∀ depth, ReadsBack Element.toJson (Element.ofJson? depth)
  link : ReadsBack Link.toJson Link.ofJson?
  permission : ReadsBack Permission.toJson Permission.ofJson?
  newElement : ReadsBack NewElement.toJson NewElement.ofJson?
  loader : ReadsBack Loader.toJson Loader.ofJson?
  relationFilter : ReadsBack RelationFilter.toJson RelationFilter.ofJson?
  graphSpec : ReadsBack GraphSpec.toJson GraphSpec.ofJson?
  /-- A count has 64 bits. -/
  mutation : ∀ m : Mutation, (∀ n ∈ m.removed, n < UInt64.size) → Mutation.ofJson? m.toJson = some m
  schema : ReadsBack Cleanup.Schema.toJson Cleanup.Schema.ofJson?
  dataset : ReadsBack Dataset.toJson Dataset.ofJson?
  attributesFacet : Function.Injective (Facet.toJson Attributes.toJson)
  groupsFacet : Function.Injective (Facet.toJson (TextMap.toJson PropertyGroup.toJson))
  propertiesFacet :
    Function.Injective (Facet.toJson fun ps : List Property => .array (ps.map Property.toJson))
  parentFacet : Function.Injective (Facet.toJson (orNull idJson))
  childrenFacet :
    Function.Injective (Facet.toJson fun ids : List ElementId => .array (ids.map idJson))
  permissionsFacet :
    Function.Injective (Facet.toJson fun ps : List Permission => .array (ps.map Permission.toJson))
  linksFacet : Function.Injective (Facet.toJson fun ls : List Link => .array (ls.map Link.toJson))

/-- Facets whose values are read back are told apart, in whatever state they are. -/
theorem Facet.injective_toJson (back : ReadsBack write read) : Function.Injective (toJson write) :=
  (readsBack back 0 none).injective

theorem dataModel_readsBack : DataModelReadsBack where
  element := Element.readsBack
  link := Link.readsBack
  permission := Permission.readsBack
  newElement := NewElement.readsBack
  loader := Loader.readsBack
  relationFilter := RelationFilter.readsBack
  graphSpec := GraphSpec.readsBack
  mutation _ := Mutation.readsBack
  schema := Cleanup.Schema.readsBack
  dataset := Dataset.readsBack
  attributesFacet := Facet.injective_toJson (Attributes.readsBack 0)
  groupsFacet := Facet.injective_toJson (TextMap.readsBack (PropertyGroup.readsBack 0))
  propertiesFacet := Facet.injective_toJson Property.readsBack.list
  parentFacet := Facet.injective_toJson (readsBack_id.nullable idJson_ne_null)
  childrenFacet := Facet.injective_toJson readsBack_id.list
  permissionsFacet := Facet.injective_toJson Permission.readsBack.list
  linksFacet := Facet.injective_toJson Link.readsBack.list

/-- The largest count of 64 bits is read back. -/
theorem dataModel_readsBack_largestCount :
    let m : Mutation := ⟨-1, "asset", "Server", some (UInt64.size - 1)⟩
    (∀ n ∈ m.removed, n < UInt64.size) ∧ Mutation.ofJson? m.toJson = some m := by
  intro m
  have small : ∀ n ∈ m.removed, n < UInt64.size := by
    rintro n ⟨⟩
    decide
  exact ⟨small, dataModel_readsBack.mutation m small⟩

end Registry
