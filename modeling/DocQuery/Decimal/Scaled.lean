/-!
# Reading decimals in doubles

A decimal is read in two steps. As many of its digits as 64 bits hold become a
double, which is then multiplied or divided by a power of ten. Either step
rounds, so that a decimal with many digits or a large exponent may be read as a
neighbour of the double nearest to it.
-/

namespace DocQuery.Decimal

/-! ### Digits -/

/-- The value of a decimal digit. -/
def digitValue (c : Char) : Nat := c.toNat - 0x30

/-- The number `n` with the digits of the text behind it, as long as it stays within 64 bits, and
the digits that are left over. -/
def takeDigits (n : Nat) : List Char → Nat × List Char
  | [] => (n, [])
  | c :: cs =>
    let m := 10 * n + digitValue c
    if m < UInt64.size then takeDigits m cs else (n, c :: cs)

/-! ### Powers of ten -/

/-- The exponent of the largest power of ten among the doubles. -/
def maxPower : Nat := 308

/-- The double nearest to a power of ten. -/
def powerOfTen (exponent : Nat) : Float := Float.ofScientific 1 false exponent

/-- The double `x * 10 ^ exponent`, `none` beyond the largest. A division by more than the largest
power is done in two, after which nothing is left of the number of 64 bits that `x` comes from. -/
def scale? (x : Float) (exponent : Int) : Option Float :=
  if x == 0 then some x
  else if maxPower < exponent then none
  else if 0 ≤ exponent then
    let y := x * powerOfTen exponent.toNat
    if y.isInf then none else some y
  else
    let divisor := exponent.natAbs
    if divisor ≤ maxPower then some (x / powerOfTen divisor)
    else if divisor ≤ 2 * maxPower then
      some (x / powerOfTen maxPower / powerOfTen (divisor - maxPower))
    else some 0

end DocQuery.Decimal
