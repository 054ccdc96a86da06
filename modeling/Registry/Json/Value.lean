/-! # JSON values

A value as it stands in a text: members of an object keep their order and their repetitions,
numbers keep the difference between an integer and a decimal fraction.
-/

namespace Registry

/-- A number as written. A fraction part, an exponent or the sign of a negative zero make it a
    decimal, `±mantissa · 10 ^ exponent`. -/
inductive Json.Number where
  | integer (value : Int)
  | decimal (negative : Bool) (mantissa : Nat) (exponent : Int)
  deriving DecidableEq, Repr

/-- A JSON value. A string literal is `none` when its escapes leave one half of a surrogate pair
    alone: it fits the grammar but stands for no text. -/
inductive Json where
  | null
  | bool (value : Bool)
  | number (value : Json.Number)
  | string (value : Option String)
  | array (items : List Json)
  | object (members : List (Option String × Json))
  deriving Inhabited

namespace Json

def str (s : String) : Json := .string (some s)

def int (i : Int) : Json := .number (.integer i)

def nat (n : Nat) : Json := .int n

/-- An object with texts as keys. -/
def obj (members : List (String × Json)) : Json :=
  .object (members.map fun m => (some m.1, m.2))

/-- The value of a given text, or null. -/
def orNull {α : Type} (write : α → Json) : Option α → Json
  | none => .null
  | some a => write a

/-- A member that is left out when it has no value. -/
def memberIf {α : Type} (name : String) (write : α → Json) : Option α → List (String × Json)
  | none => []
  | some a => [(name, write a)]

/-- The first member of a name; null if there is none. -/
def member (name : String) : Json → Json
  | .object members => (members.lookup (some name)).getD .null
  | _ => .null

mutual

def same : Json → Json → Bool
  | .null, .null => true
  | .bool a, .bool b => a = b
  | .number a, .number b => a = b
  | .string a, .string b => a = b
  | .array a, .array b => sameItems a b
  | .object a, .object b => sameMembers a b
  | _, _ => false

def sameItems : List Json → List Json → Bool
  | [], [] => true
  | a :: as, b :: bs => same a b && sameItems as bs
  | _, _ => false

def sameMembers : List (Option String × Json) → List (Option String × Json) → Bool
  | [], [] => true
  | (name, a) :: as, (name', b) :: bs => name = name' && same a b && sameMembers as bs
  | _, _ => false

end

mutual

theorem same_iff (a b : Json) : same a b = true ↔ a = b := by
  cases a with
  | null | bool | number | string => cases b <;> simp [same]
  | array items =>
      cases b with
      | array items' => simp [same, sameItems_iff items items']
      | _ => simp [same]
  | object members =>
      cases b with
      | object members' => simp [same, sameMembers_iff members members']
      | _ => simp [same]

theorem sameItems_iff (as bs : List Json) : sameItems as bs = true ↔ as = bs := by
  cases as with
  | nil => cases bs <;> simp [sameItems]
  | cons a as =>
      cases bs with
      | nil => simp [sameItems]
      | cons b bs => simp [sameItems, same_iff a b, sameItems_iff as bs]

theorem sameMembers_iff (as bs : List (Option String × Json)) :
    sameMembers as bs = true ↔ as = bs := by
  cases as with
  | nil => cases bs <;> simp [sameMembers]
  | cons a as =>
      obtain ⟨name, a⟩ := a
      cases bs with
      | nil => simp [sameMembers]
      | cons b bs =>
          simp [sameMembers, same_iff a b.2, sameMembers_iff as bs, Prod.ext_iff, and_assoc]

end

instance : DecidableEq Json := fun a b => decidable_of_iff _ (same_iff a b)

end Json
end Registry
