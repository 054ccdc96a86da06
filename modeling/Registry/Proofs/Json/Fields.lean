import Mathlib.Data.List.Basic
import Registry.Json.Record

/-! # Fields that read back

What is written to JSON is read again as what it was: the law for single values, and how it passes
to lists, to values that may be missing, and to the fields of a record.
-/

namespace Registry.Json

variable {α : Type} {write : α → Json} {read : Json → Option α}

/-- Whatever is written is read as what it was. -/
def ReadsBack (write : α → Json) (read : Json → Option α) : Prop :=
  ∀ a, read (write a) = some a

/-- Different values are written differently. -/
theorem ReadsBack.injective (back : ReadsBack write read) : Function.Injective write := by
  intro a b same
  have : some a = some b := by rw [← back a, ← back b, same]
  exact Option.some.inj this

theorem readsBack_text : ReadsBack str asText? :=
  fun _ => rfl

theorem readsBack_bool : ReadsBack bool asBool? :=
  fun _ => rfl

theorem asInt64?_int (i : Int64) : asInt64? (int i.toInt) = some i := by
  have bounds : Int64.minValue.toInt ≤ i.toInt ∧ i.toInt ≤ Int64.maxValue.toInt :=
    ⟨i.minValue_le_toInt, i.toInt_le⟩
  simp only [int, asInt64?, if_pos bounds, Int64.ofInt_toInt]

theorem asCount?_nat {n : Nat} (small : n < UInt64.size) : asCount? (nat n) = some n := by
  simp [nat, int, asCount?, small]

theorem mapM_write (back : ReadsBack write read) (items : List α) :
    (items.map write).mapM read = some items := by
  induction items with
  | nil => rfl
  | cons a rest ih => simp [back a, ih]

theorem ReadsBack.list (back : ReadsBack write read) :
    ReadsBack (fun items => array (items.map write)) (listOf? read) :=
  mapM_write back

theorem nullable_of_read {j : Json} {a : α} (given : read j = some a) (present : j ≠ null) :
    nullable read j = some (some a) := by
  unfold nullable
  split
  · contradiction
  · rw [given]
    rfl

/-- A value that may be missing can be told from null, which is how a missing one is written. -/
theorem ReadsBack.nullable (back : ReadsBack write read) (present : ∀ a, write a ≠ null) :
    ReadsBack (orNull write) (Json.nullable read) := by
  rintro (_ | a)
  · rfl
  · exact nullable_of_read (back a) (present a)

theorem str_ne_null (s : String) : str s ≠ null :=
  nofun

theorem int_ne_null (i : Int) : int i ≠ null :=
  nofun

/-- What an object offers under a name. -/
def Slot.ofMember : Option Json → Slot
  | some j => .given j
  | none => .absent

theorem membersNamed_obj {name : String} {members : List (String × Json)}
    (once : (members.map (·.1)).Nodup) :
    membersNamed name (members.map fun m => (some m.1, m.2)) = (members.lookup name).toList := by
  induction members with
  | nil => rfl
  | cons m rest ih =>
      obtain ⟨key, j⟩ := m
      obtain ⟨fresh, once⟩ := List.nodup_cons.1 once
      have others := ih once
      simp only [membersNamed, List.map_cons, List.filterMap_cons, Option.some.injEq] at others ⊢
      rw [TextMap.lookup_cons, others]
      by_cases same : key = name
      · subst same
        have absent : rest.lookup key = none :=
          List.lookup_eq_none_iff.2 fun m member => by
            have listed : m.1 ∈ rest.map (·.1) := List.mem_map_of_mem member
            simpa using fun same : key = m.1 => fresh (same ▸ listed)
        simp [absent]
      · simp [same, Ne.symm same]

/-- An object of fields of a record, each once, offers for each field the member of its name. -/
theorem slots?_obj {names : List String} {members : List (String × Json)} (once : names.Nodup)
    (within : (members.map (·.1)).Sublist names) :
    (obj members).slots? names =
      some (names.map fun name => Slot.ofMember (members.lookup name)) := by
  have slot (name : String) : memberSlot? (members.map fun m => (some m.1, m.2)) name =
      some (Slot.ofMember (members.lookup name)) := by
    rw [memberSlot?, membersNamed_obj (within.nodup once)]
    cases members.lookup name <;> rfl
  have named : (members.map fun m => (some m.1, m.2)).all (·.1.isSome) = true := by simp
  simp only [obj, slots?, if_pos named]
  rw [funext slot]
  exact List.mapM_pure (m := Option)

theorem lookup_memberIf (name key : String) (value : Option α) :
    (memberIf name write value).lookup key = if key = name then value.map write else none := by
  cases value with
  | none => simp [memberIf]
  | some a => simp [memberIf, TextMap.lookup_cons]

theorem keys_memberIf (name : String) (value : Option α) :
    ((memberIf name write value).map (·.1)).Sublist [name] := by
  cases value with
  | none => simp [memberIf]
  | some a => simp [memberIf]

/-- A member that is left out when its value is empty. -/
theorem lookup_unless (empty : Bool) (name key : String) (j : Json) :
    (if empty then [] else [(name, j)]).lookup key =
      if key = name then (if empty then none else some j) else none := by
  cases empty with
  | true => simp
  | false => simp [TextMap.lookup_cons]

theorem keys_unless (empty : Bool) (name : String) (j : Json) :
    ((if empty then [] else [(name, j)]).map (·.1)).Sublist [name] := by
  cases empty with
  | true => simp
  | false => simp

namespace Slot

theorem required_write (back : ReadsBack write read) (a : α) :
    (ofMember (some (write a))).required read = some a :=
  back a

theorem orDefault_write (back : ReadsBack write read) (default a : α) :
    (ofMember (some (write a))).orDefault default read = some a :=
  back a

theorem optional_orNull (back : ReadsBack write read) (present : ∀ a, write a ≠ null)
    (value : Option α) :
    (ofMember (some (orNull write value))).optional (nullable read) = some value :=
  back.nullable present value

/-- A field that is left out without a value, read with and without a default. -/
theorem optional_memberIf (back : ReadsBack write read) (present : ∀ a, write a ≠ null)
    (value : Option α) :
    (ofMember (value.map write)).optional (nullable read) = some value := by
  cases value with
  | none => rfl
  | some a => exact back.nullable present (some a)

theorem orDefault_memberIf (back : ReadsBack write read) (present : ∀ a, write a ≠ null)
    (value : Option α) :
    (ofMember (value.map write)).orDefault none (nullable read) = some value := by
  cases value with
  | none => rfl
  | some a => exact back.nullable present (some a)

/-- A field that is left out when its value is empty, the empty value being the default. -/
theorem orDefault_unless (back : ReadsBack write read) (empty : Bool) (default a : α)
    (isDefault : empty = true → a = default) :
    (ofMember (if empty then none else some (write a))).orDefault default read = some a := by
  cases empty with
  | true => simp [isDefault rfl, ofMember, orDefault]
  | false => exact back a

end Slot
end Registry.Json
