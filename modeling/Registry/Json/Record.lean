import Registry.Json.Value
import Registry.Text.Decimal
import Registry.TextMap

/-! # Reading records out of JSON

A record is an object with its fields as members, or an array with its fields in declared order.
Members that are no field are skipped, whatever they hold; a field given twice is refused. In an
array, only fields with a default may be missing, and only at the end.
-/

namespace Registry.Json

/-- What a record offers for one of its fields. -/
inductive Slot where
  | given (value : Json)
  /-- The object has no such member. -/
  | absent
  /-- The array ends before the field. -/
  | beyond

namespace Slot

variable {α : Type}

def required (read : Json → Option α) : Slot → Option α
  | .given j => read j
  | _ => none

def orDefault (default : α) (read : Json → Option α) : Slot → Option α
  | .given j => read j
  | _ => some default

/-- An optional field without default: an object may leave it out, an array may not. -/
def optional (read : Json → Option (Option α)) : Slot → Option (Option α)
  | .given j => read j
  | .absent => some none
  | .beyond => none

end Slot

/-- Values of the members named `name`. -/
def membersNamed (name : String) (members : List (Option String × Json)) : List Json :=
  members.filterMap fun m => if m.1 = some name then some m.2 else none

/-- What an object offers for the field `name`, unless it is given twice. -/
def memberSlot? (members : List (Option String × Json)) (name : String) : Option Slot :=
  match membersNamed name members with
  | [] => some .absent
  | [j] => some (.given j)
  | _ => none

/-- What a record offers for its fields, in the order of `names`. -/
def slots? (names : List String) : Json → Option (List Slot)
  | .object members =>
      if members.all (·.1.isSome) then names.mapM (memberSlot? members) else none
  | .array items =>
      if items.length ≤ names.length then
        some (items.map .given ++ List.replicate (names.length - items.length) .beyond)
      else none
  | _ => none

def asBool? : Json → Option Bool
  | .bool b => some b
  | _ => none

def asText? : Json → Option String
  | .string s => s
  | _ => none

/-- A signed number of 64 bits, written without fraction and exponent. -/
def asInt64? : Json → Option Int64
  | .number (.integer i) =>
      if Int64.minValue.toInt ≤ i ∧ i ≤ Int64.maxValue.toInt then some (Int64.ofInt i) else none
  | _ => none

/-- A count of 64 bits, written without fraction and exponent. -/
def asCount? : Json → Option Nat
  | .number (.integer i) => if 0 ≤ i ∧ i.toNat < UInt64.size then some i.toNat else none
  | _ => none

def nullable {α : Type} (read : Json → Option α) : Json → Option (Option α)
  | .null => some none
  | j => some <$> read j

def listOf? {α : Type} (read : Json → Option α) : Json → Option (List α)
  | .array items => items.mapM read
  | _ => none

/-- A map from texts; of several members with one key the last stays. -/
def mapOf? {α : Type} (read : Json → Option α) : Json → Option (TextMap α)
  | .object members =>
      TextMap.ofList <$> members.mapM fun m => do return (← m.1, ← read m.2)
  | _ => none

/-- A variant without data: its name, or an object that gives the name null. -/
def bareName? : Json → Option String
  | .string s => s
  | .object [(name, .null)] => name
  | _ => none

/-- The magnitude is beyond every finite binary floating point number of 64 bits. -/
def Number.overflows : Number → Bool
  | .integer i => Text.overflows i.natAbs 0
  | .decimal _ mantissa exponent => Text.overflows mantissa exponent

/-- How many containers may be open at once in a value that is put aside. -/
def heldDepth : Nat := 127

mutual

/-- A value can be put aside until it is known what it is: all its literals are texts, its numbers
    are finite, and together with the `depth` containers around it it is not nested too deep. -/
def holdable (depth : Nat) : Json → Bool
  | .number n => !n.overflows
  | .string s => s.isSome
  | .array items => depth < heldDepth && holdableItems (depth + 1) items
  | .object members => depth < heldDepth && holdableMembers (depth + 1) members
  | _ => true

def holdableItems (depth : Nat) : List Json → Bool
  | [] => true
  | item :: rest => holdable depth item && holdableItems depth rest

def holdableMembers (depth : Nat) : List (Option String × Json) → Bool
  | [] => true
  | (key, value) :: rest => key.isSome && holdable depth value && holdableMembers depth rest

end
end Registry.Json
