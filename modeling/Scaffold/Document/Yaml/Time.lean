import Scaffold.Document.Scalar
import Scaffold.Document.Yaml.Fault
import Scaffold.Document.Yaml.Form

/-!
# Days and moments of YAML

A day is written as year, month and day; a time may follow, with a fraction of the second and the
distance from universal time. A text can have this form and still stand for no day of the calendar.
-/

namespace Scaffold.Document.Yaml

open Scaffold.Number Scaffold.Text

/-- A number of at least `least` and at most `most` digits at the start of a text. -/
def digitsFirst? (least most : Nat) (t : List Char) : Option (Nat × List Char) :=
  let digits := (t.take most).takeWhile isDecimal
  if digits.length < least then none else some (valueIn 10 digits, t.drop digits.length)

/-- What follows a given character. -/
def after? (c : Char) : List Char → Option (List Char)
  | x :: t => if x = c then some t else none
  | [] => none

/-- Whether a character is a space or a tab. -/
def isSpaceOrTab (c : Char) : Bool := c = ' ' || c = '\t'

/-- What follows the mark between the day and the time: a letter, or blanks. -/
def afterDay? (t : List Char) : Option (List Char) :=
  match t with
  | 'T' :: t => some t
  | 't' :: t => some t
  | _ =>
    let rest := t.dropWhile isSpaceOrTab
    if rest.length < t.length then some rest else none

/-- The microseconds of the digits of a fraction of a second. -/
def microseconds (digits : List Char) : Nat :=
  let digits := digits.take 6
  valueIn 10 digits * tenTo (6 - digits.length)

/-- The distance from universal time that ends a moment: a letter, a signed time, or nothing. -/
def zone? (t : List Char) : Option (Option Int) :=
  if t = [] then some none
  else
    match t.dropWhile isSpaceOrTab with
    | ['Z'] => some (some 0)
    | sign :: t =>
      if sign = '+' || sign = '-' then do
        let (hours, t) ← digitsFirst? 1 2 t
        let minutes ←
          match t with
          | [] => some 0
          | t => do
            let (minutes, t) ← (after? ':' t).bind (digitsFirst? 2 2)
            if t = [] then some minutes else none
        some (some (Binary64.withSign (sign = '-') (hours * 60 + minutes)))
      else none
    | [] => none

/-- The day or moment that a text gives, before it is checked. -/
def time? (t : List Char) : Option (Date × Option Moment) := do
  let (year, t) ← digitsFirst? 4 4 t
  let (month, t) ← (after? '-' t).bind (digitsFirst? 1 2)
  let (day, t) ← (after? '-' t).bind (digitsFirst? 1 2)
  let date : Date := ⟨year, month, day⟩
  if t = [] then some (date, none)
  else do
    let (hour, t) ← (afterDay? t).bind (digitsFirst? 1 2)
    let (minute, t) ← (after? ':' t).bind (digitsFirst? 2 2)
    let (second, t) ← (after? ':' t).bind (digitsFirst? 2 2)
    let (fraction, t) :=
      match t with
      | '.' :: rest => (rest.takeWhile isDecimal, rest.dropWhile isDecimal)
      | rest => ([], rest)
    let offset ← zone? t
    some (date, some ⟨date, hour, minute, second, microseconds fraction, offset⟩)

/-- Whether a text has the form of a day or moment. Month and day have two digits each in a day that
stands alone. -/
def isTime (t : List Char) : Bool :=
  match time? t with
  | some (_, none) => t.length = 10
  | some (_, some _) => true
  | none => false

/-- The number of days of a month. -/
def monthLength (year month : Nat) : Nat :=
  if month = 2 then
    if year % 4 = 0 ∧ (year % 100 ≠ 0 ∨ year % 400 = 0) then 29 else 28
  else if month ∈ [4, 6, 9, 11] then 30
  else 31

/-- A day that the calendar has. -/
def checkDate (d : Date) : Except Fault Unit :=
  if d.year = 0 then .error (.year d.year)
  else if d.month = 0 ∨ 12 < d.month then .error .month
  else if d.day = 0 ∨ monthLength d.year d.month < d.day then .error .day
  else .ok ()

/-- A moment that the calendar and the clock have. -/
def checkMoment (m : Moment) : Except Fault Unit :=
  if m.offset.any fun minutes => 1440 ≤ minutes.natAbs then .error (.offset (m.offset.getD 0))
  else
    match checkDate m.date with
    | .error fault => .error fault
    | .ok () =>
      if 23 < m.hour then .error .hour
      else if 59 < m.minute then .error .minute
      else if 59 < m.second then .error .second
      else .ok ()

/-- The day or moment that a text stands for. -/
def readTime (t : List Char) : Except Fault Scalar :=
  match time? (withoutFinalBreak t) with
  | none => .error .noTime
  | some (date, none) => (checkDate date).map fun () => .date date
  | some (_, some moment) => (checkMoment moment).map fun () => .moment moment

end Scaffold.Document.Yaml
