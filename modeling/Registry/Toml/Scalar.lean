import Registry.Text.Decimal
import Registry.Text.Hex

/-! # Numbers, truth values, dates and times of TOML

A configuration has no use for their values, but a text that writes one badly is no TOML. Each
stands in one run of letters, digits and a few signs; only between a date and a time there may be a
space.
-/

namespace Registry.Toml

inductive Scalar where
  | number
  | truth
  /-- A date, a time of day, or both. -/
  | moment
  deriving DecidableEq, Repr

namespace Scalar

def isTokenChar (c : Char) : Bool :=
  c.isAlphanum || c = '_' || c = '+' || c = '-' || c = '.' || c = ':'

/-- One digit or more, with single underscores between digits. -/
def isDigitRun (digit : Char → Bool) : List Char → Bool
  | [] => false
  | [c] => digit c
  | c :: '_' :: rest => digit c && isDigitRun digit rest
  | c :: rest => digit c && isDigitRun digit rest

/-- A sign, if there is one, and what it stands before. -/
def sign : List Char → Option Char × List Char
  | '+' :: rest => (some '+', rest)
  | '-' :: rest => (some '-', rest)
  | cs => (none, cs)

def withoutUnderscores (cs : List Char) : List Char :=
  cs.filter (· ≠ '_')

/-- A whole number in decimal digits without needless zeros in front. -/
def isWhole (cs : List Char) : Bool :=
  isDigitRun Char.isDigit cs && (cs.length = 1 || cs.head? ≠ some '0')

/-- A number in digits of a base, at most `2 ^ 63 - 1`. -/
def isBased (base : Nat) (cs : List Char) : Bool :=
  let isDigit := fun c => match Text.hexDigit? c with
    | some d => d < base
    | none => false
  let digits := (withoutUnderscores cs).filterMap Text.hexDigit?
  isDigitRun isDigit cs && digits.foldl (fun n d => base * n + d) 0 < Nat.pow 2 63

def isInteger (cs : List Char) : Bool :=
  match cs with
  | '0' :: 'x' :: rest => isBased 16 rest
  | '0' :: 'o' :: rest => isBased 8 rest
  | '0' :: 'b' :: rest => isBased 2 rest
  | cs =>
      let (sign, digits) := sign cs
      let n := Text.digitsValue (withoutUnderscores digits)
      isWhole digits && (n < Nat.pow 2 63 || (sign = some '-' && n = Nat.pow 2 63))

/-- A number with a fraction, an exponent or both. One that rounds to positive infinity is
    refused. -/
def isFloat (cs : List Char) : Bool :=
  let (sign, body) := sign cs
  if body = "inf".toList || body = "nan".toList then true
  else
    let isMark := fun c => c = 'e' || c = 'E'
    let significand := body.takeWhile (!isMark ·)
    let exponent := (body.dropWhile (!isMark ·)).tail
    let whole := significand.takeWhile (· ≠ '.')
    let fraction := (significand.dropWhile (· ≠ '.')).tail
    let (down, exponentDigits) := Scalar.sign exponent
    let hasFraction := significand.contains '.'
    let hasExponent := body.any isMark
    let digits := withoutUnderscores (whole ++ fraction)
    let n : Int := Text.digitsValue (withoutUnderscores exponentDigits)
    let shift := (if down = some '-' then -n else n) - (withoutUnderscores fraction).length
    isWhole whole && (hasFraction || hasExponent) &&
      (!hasFraction || isDigitRun Char.isDigit fraction) &&
      (!hasExponent || isDigitRun Char.isDigit exponentDigits) &&
      (sign = some '-' || !Text.overflows (Text.digitsValue digits) shift)

/-- Two digits with a value within bounds. -/
def isPair (low high : Nat) (a b : Char) : Bool :=
  let n := Text.digitsValue [a, b]
  a.isDigit && b.isDigit && low ≤ n && n ≤ high

def daysOfMonth (year month : Nat) : Nat :=
  if month = 2 then
    if year % 4 = 0 && (year % 100 ≠ 0 || year % 400 = 0) then 29 else 28
  else if month = 4 || month = 6 || month = 9 || month = 11 then 30
  else 31

/-- A date, and what follows. -/
def date? : List Char → Option (List Char)
  | y₁ :: y₂ :: y₃ :: y₄ :: '-' :: m₁ :: m₂ :: '-' :: d₁ :: d₂ :: rest =>
      let year := [y₁, y₂, y₃, y₄]
      let days := daysOfMonth (Text.digitsValue year) (Text.digitsValue [m₁, m₂])
      if year.all Char.isDigit && isPair 1 12 m₁ m₂ && isPair 1 days d₁ d₂ then some rest else none
  | _ => none

/-- A time of day, and what follows. -/
def time? : List Char → Option (List Char)
  | h₁ :: h₂ :: ':' :: m₁ :: m₂ :: ':' :: s₁ :: s₂ :: rest =>
      if isPair 0 23 h₁ h₂ && isPair 0 59 m₁ m₂ && isPair 0 60 s₁ s₂ then
        match rest with
        | '.' :: digit :: more =>
            if digit.isDigit then some (more.dropWhile Char.isDigit) else none
        | rest => some rest
      else none
  | _ => none

/-- The distance of a time zone. -/
def isOffset : List Char → Bool
  | ['Z'] | ['z'] => true
  | [mark, h₁, h₂, ':', m₁, m₂] =>
      (mark = '+' || mark = '-') && isPair 0 23 h₁ h₂ && isPair 0 59 m₁ m₂
  | _ => false

/-- A time of day that a date precedes, with or without time zone. -/
def isTimeOfDate (cs : List Char) : Bool :=
  match time? cs with
  | some [] => true
  | some rest => isOffset rest
  | none => false

def isMoment (cs : List Char) : Bool :=
  match date? cs with
  | some [] => true
  | some (mark :: rest) => (mark = 'T' || mark = 't') && isTimeOfDate rest
  | none => time? cs == some []

def isDate (cs : List Char) : Bool :=
  date? cs == some []

/-- What a run of token characters writes. -/
def ofToken? (token : List Char) : Option Scalar :=
  if token = "true".toList || token = "false".toList then some .truth
  else if isMoment token then some .moment
  else if isFloat token || isInteger token then some .number
  else none

/-- The scalar at the start of a text, and what follows. -/
def read (cs : List Char) : Option (Scalar × List Char) := do
  let token := cs.takeWhile isTokenChar
  let rest := cs.dropWhile isTokenChar
  let scalar ← ofToken? token
  match rest with
  | ' ' :: more =>
      if isDate token && isTimeOfDate (more.takeWhile isTokenChar) then
        some (.moment, more.dropWhile isTokenChar)
      else some (scalar, rest)
  | _ => some (scalar, rest)

end Scalar
end Registry.Toml
