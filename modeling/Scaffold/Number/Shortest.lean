import Scaffold.Number.Binary64

/-!
# Shortest decimal form

The decimal form of a binary floating-point number with the fewest digits that still read back as
the same number; of two such forms, the nearer one. How the digits are then laid out is a matter of
style, given by a record.
-/

namespace Scaffold.Number

/-- A positive decimal number: `digits * 10 ^ power`. -/
structure Decimal where
  digits : Nat
  power : Int
  deriving DecidableEq, Repr

namespace Binary64

/-- The numbers that read back as a given positive one: all between `low * 2 ^ exponent` and
`high * 2 ^ exponent`, the ends only if `closed`. -/
structure Interval where
  low : Nat
  high : Nat
  exponent : Int
  closed : Bool

/-- The interval of a positive number, in quarters of its last binary place. The place below a power
of two is half as wide. -/
def interval (mantissa : Nat) (exponent : Int) : Interval where
  low := if mantissa = twoTo 52 ∧ minExponent < exponent then 4 * mantissa - 1 else 4 * mantissa - 2
  high := 4 * mantissa + 2
  exponent := exponent - 2
  closed := mantissa % 2 = 0

/-- `a * 2 ^ p` and `b * 10 ^ q` on a common scale. -/
def commonScale (a : Nat) (p : Int) (b : Nat) (q : Int) : Nat × Nat :=
  (a * twoTo p.toNat * tenTo (-q).toNat, b * tenTo q.toNat * twoTo (-p).toNat)

/-- Whether a decimal number reads back as the number whose interval this is. -/
def Interval.holds (i : Interval) (x : Decimal) : Bool :=
  let (low, a) := commonScale i.low i.exponent x.digits x.power
  let (high, b) := commonScale i.high i.exponent x.digits x.power
  if i.closed then low ≤ a && b ≤ high else low < a && b < high

/-- The power of ten of the leading decimal digit of a positive number. The guess is at most one too
large in either direction. -/
def leadingPower (mantissa : Nat) (exponent : Int) : Int :=
  let guess : Int := (Int.ofNat mantissa.log2 + exponent) * 30103 / 100000 + 1
  let below (power : Int) : Bool :=
    let (x, y) := commonScale mantissa exponent 1 power
    x < y
  if below guess then (if below (guess - 1) then guess - 2 else guess - 1) else guess

/-- The two neighbours of a positive number among the decimal numbers `n * 10 ^ power`, the nearer
one first; at an equal distance the even one comes first. -/
def neighbours (mantissa : Nat) (exponent power : Int) : List Decimal :=
  let (x, unit) := commonScale mantissa exponent 1 power
  let q := x / unit
  let r := x % unit
  if 2 * r < unit ∨ (2 * r = unit ∧ q % 2 = 0) then [⟨q, power⟩, ⟨q + 1, power⟩]
  else [⟨q + 1, power⟩, ⟨q, power⟩]

/-- A decimal number without zeros at its end. `fuel` bounds their number. -/
def Decimal.trimmed : Nat → Decimal → Decimal
  | 0, x => x
  | fuel + 1, x =>
    if x.digits % 10 = 0 ∧ x.digits ≠ 0 then trimmed fuel ⟨x.digits / 10, x.power + 1⟩ else x

/-- The shortest decimal number that reads back as a positive binary one: the first grid, from
coarse to fine, that has a point in the interval. Seventeen digits always suffice. -/
def shortest (mantissa : Nat) (exponent : Int) : Decimal :=
  let i := interval mantissa exponent
  let top := leadingPower mantissa exponent
  let hit? (places : Nat) : Option Decimal :=
    (neighbours mantissa exponent (top - Int.ofNat places)).find? i.holds
  match (List.range 17).findSome? hit? with
  | some x => Decimal.trimmed 17 x
  | none => ⟨mantissa, 0⟩

end Binary64

/-- How a decimal number is laid out: positionally if the power of ten of its leading digit is at
least `positionalFrom` and below `positionalBelow`, and else with an exponent, of at least
`exponentDigits` digits and with a plus sign if `plusSign`. -/
structure Layout where
  positionalFrom : Int
  positionalBelow : Int
  exponentDigits : Nat
  plusSign : Bool

/-- The decimal digits of a natural number. -/
def natDigits (n : Nat) : List Char := (toString n).toList

/-- A row of `n` zeros. -/
def zeros (n : Nat) : List Char := List.replicate n '0'

/-- The exponent part of a number in scientific form. -/
def Layout.exponent (l : Layout) (e : Int) : List Char :=
  let digits := natDigits e.natAbs
  let sign := if e < 0 then ['-'] else if l.plusSign then ['+'] else []
  'e' :: sign ++ zeros (l.exponentDigits - digits.length) ++ digits

/-- A positive decimal number in a layout. -/
def Layout.render (l : Layout) (x : Decimal) : List Char :=
  let digits := natDigits x.digits
  let length : Int := digits.length
  let e := length + x.power - 1
  if l.positionalFrom ≤ e ∧ e < l.positionalBelow then
    if 0 ≤ x.power then digits ++ zeros x.power.toNat ++ ['.', '0']
    else if 0 ≤ e then
      digits.take (e.toNat + 1) ++ '.' :: digits.drop (e.toNat + 1)
    else '0' :: '.' :: zeros (-e - 1).toNat ++ digits
  else
    digits.take 1 ++ (if digits.length = 1 then [] else '.' :: digits.drop 1) ++ l.exponent e

/-- The layout of numbers in messages: positional from a ten-thousandth up to sixteen digits. -/
def Layout.message : Layout := ⟨-4, 16, 2, true⟩

/-- The layout of numbers in stored documents: positional from a hundred-thousandth up to sixteen
digits. -/
def Layout.stored : Layout := ⟨-5, 16, 1, true⟩

/-- A floating-point number in a layout. Infinities and undefined numbers have names of their
own. -/
def Binary64.render (l : Layout) (undefined infinity : String) : Binary64 → List Char
  | .nan => undefined.toList
  | .infinite negative => (if negative then ['-'] else []) ++ infinity.toList
  | .finite negative mantissa exponent =>
    (if negative then ['-'] else []) ++
      if mantissa = 0 then ['0', '.', '0'] else l.render (shortest mantissa exponent)

end Scaffold.Number
