import Scaffold.Number.Shortest

/-!
# The calendar

The day and time of a moment that is given in milliseconds since the start of 1970, in universal
time and by the Gregorian calendar. Milliseconds are turned into seconds by division of
floating-point numbers and the seconds are rounded to microseconds, so that a moment very close to
the next second may count as that second. Only the years 1 to 9999 can be shown, less the first day
of year 1.
-/

namespace Scaffold.Calendar

open Scaffold.Number

/-- Why a moment cannot be shown. -/
inductive Fault
  | quotientTooLarge
  | undefined
  | outOfRange
  | tooLarge
  | yearOutOfRange (year : Int)
  deriving DecidableEq, Repr

/-- A fault in words. -/
def Fault.message : Fault → String
  | .quotientTooLarge => "integer division result too large for a float"
  | .undefined => "Invalid value NaN (not a number)"
  | .outOfRange => "timestamp out of range for platform time_t"
  | .tooLarge => "[Errno 75] Value too large for defined data type"
  | .yearOutOfRange year => "year " ++ toString year ++ " is out of range"

/-- A day of the calendar, of any year. -/
structure Day where
  year : Int
  month : Nat
  day : Nat
  deriving DecidableEq, Repr

/-- The day that lies the given number of days after the first of January 1970. Years are counted
from March here, so that the leap day comes last, and in cycles of 400 years. -/
def dayOf (days : Int) : Day :=
  let z := days + 719468
  let cycle := Int.fdiv z 146097
  let dayOfCycle := (Int.fmod z 146097).toNat
  let yearOfCycle :=
    (dayOfCycle - dayOfCycle / 1460 + dayOfCycle / 36524 - dayOfCycle / 146096) / 365
  let dayOfYear := dayOfCycle - (365 * yearOfCycle + yearOfCycle / 4 - yearOfCycle / 100)
  let shifted := (5 * dayOfYear + 2) / 153
  let day := dayOfYear - (153 * shifted + 2) / 5 + 1
  let month := if shifted < 10 then shifted + 3 else shifted - 9
  ⟨Int.ofNat yearOfCycle + cycle * 400 + (if month ≤ 2 then 1 else 0), month, day⟩

/-- The seconds of a day. -/
def daySeconds : Int := 86400

/-- The year of a second. -/
def yearOf (seconds : Int) : Int := (dayOf (Int.fdiv seconds daySeconds)).year

/-- What the division of two numbers leaves, in parts of which one whole has so many: a quotient of
floating-point numbers, rounded. -/
def partsLeft (parts num den : Nat) : Nat :=
  match Binary64.ofRatio false (num % den * parts) den with
  | .finite _ mantissa exponent =>
    let (n, d) := Binary64.ratio mantissa exponent
    Binary64.roundDiv n d
  | _ => 0

/-- The microseconds of a second. -/
def secondMicros : Nat := 1000000

/-- The whole seconds of a number of seconds once it is rounded to microseconds. -/
def wholeSeconds (negative : Bool) (mantissa : Nat) (exponent : Int) : Int :=
  let (num, den) := Binary64.ratio mantissa exponent
  let whole := num / den
  let micros := partsLeft secondMicros num den
  if negative then
    if micros = 0 then -Int.ofNat whole else -Int.ofNat whole - 1
  else Int.ofNat (if secondMicros ≤ micros then whole + 1 else whole)

/-- The seconds of a number of milliseconds. -/
def secondsOf (milliseconds : Binary64) : Except Fault Int :=
  match milliseconds with
  | .nan => .error .undefined
  | .infinite _ => .error .outOfRange
  | .finite negative mantissa exponent =>
    let (num, den) := Binary64.ratio mantissa exponent
    match Binary64.ofRatio negative num (den * 1000) with
    | .finite negative mantissa exponent => .ok (wholeSeconds negative mantissa exponent)
    | _ => .error .outOfRange

/-- The seconds of a whole number of milliseconds. -/
def secondsOfInt (milliseconds : Int) : Except Fault Int :=
  match Binary64.ofRatio (milliseconds < 0) milliseconds.natAbs 1000 with
  | .finite negative mantissa exponent => .ok (wholeSeconds negative mantissa exponent)
  | _ => .error .quotientTooLarge

/-- The years that fit the system's calendar, which counts them from 1900 in 32 bits. -/
def fitsSystem (year : Int) : Bool :=
  -Int.ofNat (twoTo 31) ≤ year - 1900 && year - 1900 < Int.ofNat (twoTo 31)

/-- Refuses a second whose year cannot be shown. The year in the refusal is counted in 32 bits. -/
def checkYear (seconds : Int) : Except Fault Unit :=
  let year := yearOf seconds
  if year < 1 ∨ 9999 < year then .error (.yearOutOfRange (Int.bmod year (twoTo 32))) else .ok ()

/-- A number with two digits at least. -/
def twoDigits (n : Nat) : String := if n < 10 then "0" ++ toString n else toString n

/-- A second as year, month, day, hour, minute and second. -/
def secondText (seconds : Int) : String :=
  let day := dayOf (Int.fdiv seconds daySeconds)
  let rest := (Int.fmod seconds daySeconds).toNat
  toString day.year ++ "-" ++ twoDigits day.month ++ "-" ++ twoDigits day.day ++ " "
    ++ twoDigits (rest / 3600) ++ ":" ++ twoDigits (rest / 60 % 60) ++ ":" ++ twoDigits (rest % 60)

/-- Shows a second. Both it and the second one day before it have to lie in years that can be
shown. -/
def showSecond (seconds : Int) : Except Fault String :=
  if seconds < -Int.ofNat (twoTo 63) ∨ Int.ofNat (twoTo 63) < seconds then .error .outOfRange
  else if !fitsSystem (yearOf seconds) then .error .tooLarge
  else do
    checkYear seconds
    checkYear (seconds - daySeconds)
    return secondText seconds

/-- Shows a moment that is given in milliseconds. -/
def showMilliseconds (milliseconds : Binary64) : Except Fault String := do
  showSecond (← secondsOf milliseconds)

/-- Shows a moment that is given in whole milliseconds. -/
def showInstant (milliseconds : Int) : Except Fault String := do
  showSecond (← secondsOfInt milliseconds)

end Scaffold.Calendar
