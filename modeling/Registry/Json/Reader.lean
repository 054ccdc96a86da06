import Registry.Json.Token

/-! # Reading JSON

A value is read token by token; the containers still open are kept on a stack, so that nesting
has no limit.
-/

namespace Registry.Json

/-- A container being read. Its contents so far stand in reverse; an object also has the key of
    the member being read. -/
inductive Frame where
  | array (items : List Json)
  | object (members : List (Option String × Json)) (key : Option String)

mutual

/-- A value starts here. -/
def readValue (stack : List Frame) : List Token → Option Json
  | .scalar v :: rest => readAfter stack v rest
  | .text s :: rest => readAfter stack (.string s) rest
  | .openArray :: .closeArray :: rest => readAfter stack (.array []) rest
  | .openArray :: rest => readValue (.array [] :: stack) rest
  | .openObject :: .closeObject :: rest => readAfter stack (.object []) rest
  | .openObject :: .text key :: .colon :: rest => readValue (.object [] key :: stack) rest
  | _ => none

/-- The value `v` has ended here. -/
def readAfter (stack : List Frame) (v : Json) : List Token → Option Json
  | [] => match stack with
      | [] => some v
      | _ :: _ => none
  | .closeArray :: rest => match stack with
      | .array items :: stack => readAfter stack (.array (v :: items).reverse) rest
      | _ => none
  | .closeObject :: rest => match stack with
      | .object members key :: stack =>
          readAfter stack (.object ((key, v) :: members).reverse) rest
      | _ => none
  | .comma :: .text next :: .colon :: rest => match stack with
      | .object members key :: stack => readValue (.object ((key, v) :: members) next :: stack) rest
      | _ => none
  | .comma :: rest => match stack with
      | .array items :: stack => readValue (.array (v :: items) :: stack) rest
      | _ => none
  | _ => none

end

/-- The value that a text holds, with nothing after it. -/
def parse? (text : String) : Option Json :=
  (Token.ofText? text.toList).bind (readValue [])

end Registry.Json
