/-!
# The shortest decimal of a double

A finite double is `mantissa * 2 ^ exponent`. The reals that round to it form an
interval around it, and its shortest decimal is the one with the fewest digits
in that interval, the nearest of those to the double. Everything is exact
arithmetic on naturals, scaled by a power of ten.
-/

namespace DocQuery.Decimal

/-- The absolute value of a finite double. -/
structure Dyadic where
  mantissa : Nat
  exponent : Int
  /-- The double below lies only half as far away as the one above. -/
  closeBelow : Bool

/-- What the bits of a double stand for. -/
inductive Double where
  | finite (negative : Bool) (magnitude : Dyadic)
  | infinite (negative : Bool)
  | nan

/-- Decodes the bits of a double. -/
def Double.ofBits (bits : UInt64) : Double :=
  let negative := bits >>> 63 == 1
  let exponent := ((bits >>> 52) &&& 0x7FF).toNat
  let fraction := (bits &&& 0xFFFFFFFFFFFFF).toNat
  if exponent = 0x7FF then
    if fraction = 0 then .infinite negative else .nan
  else if exponent = 0 then .finite negative ⟨fraction, -1074, false⟩
  else .finite negative ⟨0x10000000000000 + fraction, (exponent : Int) - 1075, fraction = 0 && exponent > 1⟩

/-- What a double stands for. -/
def Double.ofFloat (x : Float) : Double := .ofBits x.toBits

/-- The number `digits * 10 ^ exponent`. -/
structure Digits where
  digits : Nat
  exponent : Int
deriving DecidableEq

/-- Which of two equally near decimals is taken. -/
inductive Tie where
  | even
  | up

/-- The number of decimal digits of `n`. -/
def digitCount (n : Nat) : Nat := (Nat.toDigits 10 n).length

/-- The double and its rounding interval in units of `10 ^ exponent`: it is `value`, and the
decimals from `low / 4` to `high / 4` round to it, the ends included if `closed`. -/
structure Interval where
  exponent : Int
  value : Nat
  low : Nat
  high : Nat
  closed : Bool

/-- The rounding interval of a double. -/
def Dyadic.interval (x : Dyadic) : Interval :=
  let unit := if 0 ≤ x.exponent then Nat.pow 2 x.exponent.toNat else Nat.pow 5 (-x.exponent).toNat
  let value := x.mantissa * unit
  { exponent := min x.exponent 0
    value := value
    low := 4 * value - (if x.closeBelow then unit else 2 * unit)
    high := 4 * value + 2 * unit
    closed := x.mantissa % 2 == 0 }

/-- Whether `n` units read back as the double. -/
def Interval.contains (i : Interval) (n : Nat) : Bool :=
  if i.closed then i.low ≤ 4 * n && 4 * n ≤ i.high else i.low < 4 * n && 4 * n < i.high

/-- The neighbour of the double among the multiples of `grid` that reads back, the nearer of two. -/
def Interval.onGrid? (tie : Tie) (i : Interval) (grid : Nat) : Option Nat :=
  let below := i.value / grid * grid
  let above := below + grid
  match i.contains below, i.contains above with
  | true, false => some below
  | false, true => some above
  | false, false => none
  | true, true =>
    if i.value - below < above - i.value then some below
    else if above - i.value < i.value - below then some above
    else match tie with
      | .even => if i.value / grid % 2 = 0 then some below else some above
      | .up => some above

/-- The number without the zeros that end it. -/
def stripZeros : Nat → Digits → Digits
  | 0, d => d
  | fuel + 1, d =>
    if d.digits ≠ 0 ∧ d.digits % 10 = 0 then stripZeros fuel ⟨d.digits / 10, d.exponent + 1⟩ else d

/-- The shortest decimal of a double. Seventeen digits always suffice. -/
def Dyadic.shortest (tie : Tie) (x : Dyadic) : Digits :=
  if x.mantissa = 0 then ⟨0, 0⟩ else
  let i := x.interval
  let length := digitCount i.value
  let found := (List.range 17).findSome? fun n => i.onGrid? tie (Nat.pow 10 (length - (n + 1)))
  let digits := found.getD i.value
  stripZeros (digitCount digits) ⟨digits, i.exponent⟩

end DocQuery.Decimal
