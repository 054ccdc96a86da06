import Registry.Json.Value
import Registry.Text.Decimal
import Registry.Text.Hex

/-! # Tokens of JSON

Brackets, separators, string literals and scalars. Blanks between tokens are the four of the
grammar; a string literal holds no raw control character.
-/

namespace Registry.Json

inductive Token where
  | openArray
  | closeArray
  | openObject
  | closeObject
  | comma
  | colon
  | text (value : Option String)
  | scalar (value : Json)

namespace Token

/-- The character that a one-letter escape stands for. -/
def escaped? : Char → Option Char
  | '"' => some '"'
  | '\\' => some '\\'
  | '/' => some '/'
  | 'b' => some '\x08'
  | 'f' => some '\x0c'
  | 'n' => some '\n'
  | 'r' => some '\r'
  | 't' => some '\t'
  | _ => none

/-- Code units of a string literal up to its closing quote, and what follows. A raw character is
    a unit of its own. -/
def units : List Char → Option (List Nat × List Char)
  | [] => none
  | '"' :: rest => some ([], rest)
  | '\\' :: 'u' :: a :: b :: c :: d :: rest => do
      let u ← Text.hexValue? [a, b, c, d]
      let (us, rest) ← units rest
      return (u :: us, rest)
  | '\\' :: e :: rest => do
      let c ← escaped? e
      let (us, rest) ← units rest
      return (c.toNat :: us, rest)
  | c :: rest =>
      if c.toNat < 0x20 then none
      else do
        let (us, rest) ← units rest
        return (c.toNat :: us, rest)

def isHigh (u : Nat) : Bool := 0xD800 ≤ u && u < 0xDC00

def isLow (u : Nat) : Bool := 0xDC00 ≤ u && u < 0xE000

/-- The text of code units, if the halves of surrogate pairs follow each other. -/
def joinUnits : List Nat → Option (List Char)
  | [] => some []
  | u :: v :: rest =>
      if isHigh u then
        if isLow v then
          (Char.ofNat (0x10000 + (u - 0xD800) * 0x400 + (v - 0xDC00)) :: ·) <$> joinUnits rest
        else none
      else if isLow u then none
      else (Char.ofNat u :: ·) <$> joinUnits (v :: rest)
  | [u] => if isHigh u || isLow u then none else some [Char.ofNat u]

/-- A number at the start of a text, and what follows. -/
def number? (cs : List Char) : Option (Number × List Char) := do
  let (negative, cs) := match cs with
    | '-' :: rest => (true, rest)
    | _ => (false, cs)
  let whole := cs.takeWhile Char.isDigit
  if whole.isEmpty || (whole.length > 1 && whole.head? == some '0') then none
  let (fraction, cs) ← match cs.dropWhile Char.isDigit with
    | '.' :: rest =>
        let digits := rest.takeWhile Char.isDigit
        if digits.isEmpty then none else some (some digits, rest.dropWhile Char.isDigit)
    | rest => some (none, rest)
  let (exponent, cs) ← match cs with
    | e :: rest =>
        if e == 'e' || e == 'E' then
          let (down, rest) := match rest with
            | '-' :: rest => (true, rest)
            | '+' :: rest => (false, rest)
            | _ => (false, rest)
          let digits := rest.takeWhile Char.isDigit
          if digits.isEmpty then none
          else
            let n : Int := Text.digitsValue digits
            some (some (if down then -n else n), rest.dropWhile Char.isDigit)
        else some (none, cs)
    | [] => some (none, cs)
  match fraction, exponent with
  | none, none =>
      let n := Text.digitsValue whole
      if negative && n == 0 then some (.decimal true 0 0, cs)
      else some (.integer (if negative then -n else n), cs)
  | _, _ =>
      let digits := fraction.getD []
      let value := Text.digitsValue (whole ++ digits)
      some (.decimal negative value (exponent.getD 0 - digits.length), cs)

/-- Tokens of a text. `fuel` bounds their number by the length of the text. -/
def lex : (fuel : Nat) → List Char → Option (List Token)
  | _, [] => some []
  | 0, _ => none
  | fuel + 1, c :: rest =>
      match c with
      | ' ' | '\n' | '\t' | '\r' => lex fuel rest
      | '[' => (.openArray :: ·) <$> lex fuel rest
      | ']' => (.closeArray :: ·) <$> lex fuel rest
      | '{' => (.openObject :: ·) <$> lex fuel rest
      | '}' => (.closeObject :: ·) <$> lex fuel rest
      | ',' => (.comma :: ·) <$> lex fuel rest
      | ':' => (.colon :: ·) <$> lex fuel rest
      | '"' => do
          let (us, rest) ← units rest
          (.text ((joinUnits us).map String.ofList) :: ·) <$> lex fuel rest
      | 'n' => match rest with
          | 'u' :: 'l' :: 'l' :: rest => (.scalar .null :: ·) <$> lex fuel rest
          | _ => none
      | 't' => match rest with
          | 'r' :: 'u' :: 'e' :: rest => (.scalar (.bool true) :: ·) <$> lex fuel rest
          | _ => none
      | 'f' => match rest with
          | 'a' :: 'l' :: 's' :: 'e' :: rest => (.scalar (.bool false) :: ·) <$> lex fuel rest
          | _ => none
      | _ => do
          let (n, rest) ← number? (c :: rest)
          (.scalar (.number n) :: ·) <$> lex fuel rest

/-- Tokens of a text, if every part of it belongs to one. -/
def ofText? (cs : List Char) : Option (List Token) :=
  lex cs.length cs

end Token
end Registry.Json
