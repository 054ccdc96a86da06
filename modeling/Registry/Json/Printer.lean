import Registry.Json.Value
import Registry.Text.Hex

/-! # Writing JSON

One line without blanks, or indented by two blanks per level with a member or item on each line.
-/

namespace Registry.Json

/-- A character inside a string literal. -/
def escapeChar (c : Char) : List Char :=
  match c with
  | '"' => ['\\', '"']
  | '\\' => ['\\', '\\']
  | '\x08' => ['\\', 'b']
  | '\x0c' => ['\\', 'f']
  | '\n' => ['\\', 'n']
  | '\r' => ['\\', 'r']
  | '\t' => ['\\', 't']
  | c =>
      if c.toNat < 0x20 then
        ['\\', 'u', '0', '0', Text.hexDigit 'a' (c.toNat / 16), Text.hexDigit 'a' (c.toNat % 16)]
      else [c]

/-- A string literal. -/
def quote (s : String) : String :=
  "\"" ++ String.ofList (s.toList.flatMap escapeChar) ++ "\""

/-- A literal without text is written as half a surrogate pair. -/
def quoteLiteral : Option String → String
  | some s => quote s
  | none => "\"\\ud800\""

def Number.toText : Number → String
  | .integer value => toString value
  | .decimal negative mantissa exponent =>
      (if negative then "-" else "") ++ toString mantissa ++ "e" ++ toString exponent

mutual

/-- The value on one line. -/
def compact : Json → String
  | .null => "null"
  | .bool b => if b then "true" else "false"
  | .number n => n.toText
  | .string s => quoteLiteral s
  | .array items => "[" ++ ",".intercalate (compactItems items) ++ "]"
  | .object members => "\x7b" ++ ",".intercalate (compactMembers members) ++ "\x7d"

def compactItems : List Json → List String
  | [] => []
  | item :: rest => compact item :: compactItems rest

def compactMembers : List (Option String × Json) → List String
  | [] => []
  | (key, value) :: rest => (quoteLiteral key ++ ":" ++ compact value) :: compactMembers rest

end

/-- The parts of a container, each on a line one level deeper than the closing bracket. -/
def layOut (level : Nat) (first last : String) : List String → String
  | [] => first ++ last
  | parts =>
      let line := "\n" ++ String.ofList (List.replicate (2 * (level + 1)) ' ')
      first ++ line ++ ("," ++ line).intercalate parts ++
        "\n" ++ String.ofList (List.replicate (2 * level) ' ') ++ last

mutual

/-- The value over several lines, its first line standing at `level`. -/
def prettyAt (level : Nat) : Json → String
  | .null => "null"
  | .bool b => if b then "true" else "false"
  | .number n => n.toText
  | .string s => quoteLiteral s
  | .array items => layOut level "[" "]" (prettyItems (level + 1) items)
  | .object members => layOut level "\x7b" "\x7d" (prettyMembers (level + 1) members)

def prettyItems (level : Nat) : List Json → List String
  | [] => []
  | item :: rest => prettyAt level item :: prettyItems level rest

def prettyMembers (level : Nat) : List (Option String × Json) → List String
  | [] => []
  | (key, value) :: rest =>
      (quoteLiteral key ++ ": " ++ prettyAt level value) :: prettyMembers level rest

end

def pretty (j : Json) : String :=
  prettyAt 0 j

end Registry.Json
