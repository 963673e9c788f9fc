import Scaffold.Number.Power
import Scaffold.Text.Blank
import Scaffold.Text.Digit

/-!
# Integers in decimal

Reading an integer from text: an optional sign and decimal digits, with single underscores allowed
between two digits and blanks allowed around the whole. The readers differ in which characters they
take for digits, so that is a parameter of the grammar. Integers of very many digits are neither
read from text nor written out.
-/

namespace Scaffold.Text

/-- The value of a row of digits in which a single underscore may stand between two digits. `value`
is what the digits before have come to. -/
def digitsFrom? (digit? : Char → Option Nat) (value : Nat) : List Char → Option Nat
  | [] => some value
  | '_' :: c :: rest =>
    match digit? c with
    | some d => digitsFrom? digit? (value * 10 + d) rest
    | none => none
  | c :: rest =>
    match digit? c with
    | some d => digitsFrom? digit? (value * 10 + d) rest
    | none => none

/-- The value of a row of at least one digit. -/
def digits? (digit? : Char → Option Nat) : List Char → Option Nat
  | [] => none
  | c :: rest =>
    match digit? c with
    | some d => digitsFrom? digit? d rest
    | none => none

/-- The value of an integer with an optional sign and nothing around it. -/
def signed? (digit? : Char → Option Nat) : List Char → Option Int
  | '+' :: rest => (digits? digit? rest).map Int.ofNat
  | '-' :: rest => (digits? digit? rest).map fun n => -Int.ofNat n
  | t => (digits? digit? t).map Int.ofNat

/-- The most digits that an integer read from text may have. -/
def maxDigits : Nat := 4300

/-- The refusal of an integer of too many digits, in words. -/
def tooManyDigits (digits : Nat) : String :=
  "Exceeds the limit (" ++ toString maxDigits
    ++ " digits) for integer string conversion: value has " ++ toString digits
    ++ " digits; use sys.set_int_max_str_digits() to increase the limit"

/-- The refusal to write out an integer of too many digits. -/
structure Unwritable where
  deriving DecidableEq, Repr

/-- The refusal to write out an integer in words. -/
def Unwritable.message (_ : Unwritable) : String :=
  "Exceeds the limit (" ++ toString maxDigits ++ " digits) for integer string conversion; "
    ++ "use sys.set_int_max_str_digits() to increase the limit"

/-- An integer in decimal, unless it has too many digits. -/
def decimal (n : Int) : Except Unwritable String :=
  if Number.tenTo maxDigits ≤ n.natAbs then .error ⟨⟩ else .ok (toString n)

/-- Whether a character may stand around an integer. The information separators are blank elsewhere
and not here. -/
def isAroundInteger (c : Char) : Bool := isBlank c && !(28 ≤ c.toNat && c.toNat ≤ 31)

/-- A text without what may stand around an integer. -/
def trimAroundInteger (t : List Char) : List Char :=
  ((t.dropWhile isAroundInteger).reverse.dropWhile isAroundInteger).reverse

/-- How many digits of any script a text holds. -/
def digitCount (t : List Char) : Nat := (t.filter fun c => (digitValue? c).isSome).length

/-- The integer that a person has typed, in the digits of any script. -/
def integer? (t : List Char) : Option Int :=
  let t := trimAroundInteger t
  if maxDigits < digitCount t then none else signed? digitValue? t

end Scaffold.Text
