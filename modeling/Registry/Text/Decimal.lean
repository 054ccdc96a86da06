/-! # Decimals

Numbers written in decimal digits.
-/

namespace Registry.Text

/-- The number written by decimal digits. -/
def digitsValue (cs : List Char) : Nat :=
  cs.foldl (fun n c => 10 * n + (c.toNat - '0'.toNat)) 0

/-- A number of 64 bits in decimal digits, with or without a sign. -/
def int64? (s : String) : Option Int64 :=
  let (negative, digits) := match s.toList with
    | '-' :: rest => (true, rest)
    | '+' :: rest => (false, rest)
    | cs => (false, cs)
  let n : Int := digitsValue digits
  let n := if negative then -n else n
  if !digits.isEmpty && digits.all Char.isDigit && Int64.minValue.toInt ≤ n &&
      n ≤ Int64.maxValue.toInt then
    some (Int64.ofInt n)
  else none

/-- The magnitude `mantissa · 10 ^ exponent` is beyond every finite binary floating point number of
    64 bits. -/
def overflows (mantissa : Nat) (exponent : Int) : Bool :=
  let size : Int := (Nat.toDigits 10 mantissa).length + exponent
  let limit := Nat.pow 2 1024 - Nat.pow 2 970
  let scale := Nat.pow 10 exponent.natAbs
  if mantissa = 0 || size < 300 then false
  else if size > 310 then true
  else if exponent < 0 then decide (limit * scale ≤ mantissa)
  else decide (limit ≤ mantissa * scale)

end Registry.Text
