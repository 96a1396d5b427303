import DocQuery.Decimal.Shortest
/-!
# Writing decimals

How the digits of a number are set down: positionally, or with an exponent
outside a given range. A format is a value of `Layout`.
-/

namespace DocQuery.Decimal

/-- The decisions of a number format. -/
structure Layout where
  /-- Which of two equally near shortest decimals is written. -/
  tie : Tie
  /-- The exponents of the leading digit, from the first up to but not including the second, for
  which the number is written positionally; all of them if absent. -/
  positional : Option (Int × Int)
  /-- A whole number is written with `.0`. -/
  pointZero : Bool

def digitChars (n : Nat) : List Char := Nat.toDigits 10 n

/-- The digits with the point in its place. -/
def Layout.positionalText (l : Layout) (d : Digits) : List Char :=
  let digits := digitChars d.digits
  let point := digits.length + d.exponent
  if 0 ≤ d.exponent then
    digits ++ List.replicate d.exponent.toNat '0' ++ (if l.pointZero then ['.', '0'] else [])
  else if 0 < point then
    digits.take point.toNat ++ '.' :: digits.drop point.toNat
  else
    '0' :: '.' :: List.replicate (-point).toNat '0' ++ digits

/-- One digit before the point, and the exponent behind `e` with its sign. -/
def scientificText (d : Digits) : List Char :=
  let digits := digitChars d.digits
  let exponent := digits.length + d.exponent - 1
  let fraction := match digits.tail with
    | [] => []
    | ds => '.' :: ds
  digits.take 1 ++ fraction ++ 'e' :: (if exponent < 0 then '-' else '+') :: digitChars exponent.natAbs

def Layout.text (l : Layout) (negative : Bool) (d : Digits) : String :=
  let leading := digitCount d.digits + d.exponent - 1
  let body :=
    match l.positional with
    | none => l.positionalText d
    | some (first, last) =>
      if d.digits = 0 ∨ (first ≤ leading ∧ leading < last) then l.positionalText d
      else scientificText d
  String.ofList (if negative then '-' :: body else body)

end DocQuery.Decimal
