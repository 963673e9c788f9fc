import Scaffold.Number.Shortest
import Scaffold.Text.Quoted

/-!
# Scalars

The values of a document that have no parts. Besides what JSON offers, a YAML document can hold
dates, moments and raw bytes. Scalars are also the keys of a map, and there a number and a truth
value that are equal as numbers are one key, as are two moments that are the same instant.
-/

namespace Scaffold.Document

open Scaffold.Number

/-- A day of the calendar. -/
structure Date where
  year : Nat
  month : Nat
  day : Nat
  deriving DecidableEq, Repr

/-- A moment of a day, with its distance from universal time in minutes if it is known. -/
structure Moment where
  date : Date
  hour : Nat
  minute : Nat
  second : Nat
  microsecond : Nat
  offset : Option Int
  deriving DecidableEq, Repr

/-- The days from the first of March of the year 0 to a day. Years are counted from March, so that
the leap day comes last. -/
def Date.number (d : Date) : Int :=
  let year : Int := if d.month ≤ 2 then d.year - 1 else d.year
  let month := if d.month ≤ 2 then d.month + 9 else d.month - 3
  year * 365 + Int.fdiv year 4 - Int.fdiv year 100 + Int.fdiv year 400
    + (153 * month + 2) / 5 + d.day - 1

/-- The microseconds of universal time from the first of March of the year 0 to a moment, if its
distance from universal time is known. -/
def Moment.instant? (m : Moment) : Option Int :=
  m.offset.map fun offset =>
    let minutes := m.date.number * 1440 + m.hour * 60 + m.minute - offset
    (minutes * 60 + m.second) * 1000000 + m.microsecond

/-- A value without parts. -/
inductive Scalar
  | null
  | bool (b : Bool)
  | int (n : Int)
  | float (x : Binary64)
  | string (s : String)
  | date (d : Date)
  | moment (m : Moment)
  | bytes (b : List UInt8)
  deriving DecidableEq, Repr

namespace Scalar

/-- The integer that a scalar counts as when it is a key. -/
def number? : Scalar → Option Int
  | .bool b => some (if b then 1 else 0)
  | .int n => some n
  | .float x => x.toInt?
  | _ => none

/-- The instant that a scalar stands for when it is a key: that of a moment whose distance from
universal time is known. -/
def instant? : Scalar → Option Int
  | .moment m => m.instant?
  | _ => none

/-- Whether two scalars are one and the same key. -/
def sameKey (a b : Scalar) : Bool :=
  match a.number?, b.number? with
  | some m, some n => m = n
  | none, none =>
    match a.instant?, b.instant? with
    | some s, some t => s = t
    | none, none => a = b
    | _, _ => false
  | _, _ => false

/-- A natural number with at least `width` digits. -/
def padded (width n : Nat) : String :=
  let digits := natDigits n
  String.ofList (zeros (width - digits.length) ++ digits)

/-- A day as year, month and day. -/
def dateText (d : Date) : String :=
  padded 4 d.year ++ "-" ++ padded 2 d.month ++ "-" ++ padded 2 d.day

/-- The distance from universal time, as hours and minutes with a sign. -/
def offsetText (minutes : Int) : String :=
  (if minutes < 0 then "-" else "+") ++ padded 2 (minutes.natAbs / 60) ++ ":"
    ++ padded 2 (minutes.natAbs % 60)

/-- A moment as day and time, with the fraction of the second only if there is one. -/
def momentText (m : Moment) : String :=
  dateText m.date ++ " " ++ padded 2 m.hour ++ ":" ++ padded 2 m.minute ++ ":" ++ padded 2 m.second
    ++ (if m.microsecond = 0 then "" else "." ++ padded 6 m.microsecond)
    ++ (m.offset.map offsetText).getD ""

/-- Numbers separated by commas. -/
def commaText (ns : List Nat) : String := ", ".intercalate (ns.map toString)

/-- How a moment's distance from universal time is written in a constructor call. -/
def zoneShown (minutes : Int) : String :=
  if minutes = 0 then ", tzinfo=datetime.timezone.utc"
  else if 0 < minutes then
    ", tzinfo=datetime.timezone(datetime.timedelta(seconds=" ++ toString (minutes * 60) ++ "))"
  else
    ", tzinfo=datetime.timezone(datetime.timedelta(days=-1, seconds="
      ++ toString (86400 + minutes * 60) ++ "))"

/-- A byte in a byte literal. -/
def byteShown (q : Char) (b : UInt8) : List Char :=
  let c := Char.ofNat b.toNat
  if c = q ∨ c = '\\' then ['\\', c]
  else if c = '\t' then ['\\', 't']
  else if c = '\n' then ['\\', 'n']
  else if c = '\r' then ['\\', 'r']
  else if 32 ≤ b.toNat ∧ b.toNat < 127 then [c]
  else '\\' :: 'x' :: Text.hexDigits 2 b.toNat

/-- Bytes as a literal. -/
def bytesShown (bs : List UInt8) : String :=
  let q := Text.quoteFor (bs.map fun b => Char.ofNat b.toNat)
  String.ofList ('b' :: q :: bs.flatMap (byteShown q) ++ [q])

/-- A floating-point number in a message. -/
def floatText (x : Binary64) : String := String.ofList (x.render Layout.message "nan" "inf")

/-- A scalar in a message, in a form that tells scalars of different kinds apart. -/
def shown : Scalar → String
  | .null => "None"
  | .bool b => if b then "True" else "False"
  | .int n => toString n
  | .float x => floatText x
  | .string s => Text.quoted s
  | .date d => "datetime.date(" ++ commaText [d.year, d.month, d.day] ++ ")"
  | .moment m =>
    let parts := [m.date.year, m.date.month, m.date.day, m.hour, m.minute]
      ++ (if m.second = 0 ∧ m.microsecond = 0 then [] else [m.second])
      ++ (if m.microsecond = 0 then [] else [m.microsecond])
    "datetime.datetime(" ++ commaText parts ++ (m.offset.map zoneShown).getD "" ++ ")"
  | .bytes b => bytesShown b

/-- A scalar in a message, in its plain form: a text stands for itself. -/
def text : Scalar → String
  | .string s => s
  | .date d => dateText d
  | .moment m => momentText m
  | s => s.shown

end Scalar

end Scaffold.Document
