import Scaffold.Text.Integer
import Scaffold.Text.Quoted

/-!
# Faults of YAML texts

Why a YAML text stands for no document. Most texts that do not are malformed, and nothing more is
said about them. A fault tells more: a part of the text is taken for a value of some kind, by its
form or by its tag, and stands for none.
-/

namespace Scaffold.Document.Yaml

/-- Why a part of a text stands for no value of the kind that it is taken for. -/
inductive Fault
  | integerTooLong (digits : Nat)
  | noInteger (base : Nat) (written : String)
  | noFloat (written : String)
  | noNumber
  | scaleTooLarge
  | noTruthValue (written : String)
  | noTime
  | timeOfMap
  | year (year : Nat)
  | month
  | day
  | hour
  | minute
  | second
  | offset (minutes : Int)
  | noCharacter
  | codeTooLarge
  deriving DecidableEq, Repr

/-- A length of time, by the parts that are not zero. -/
def offsetShown (minutes : Int) : String :=
  let days := Int.fdiv minutes 1440
  let seconds := Int.fmod minutes 1440 * 60
  let parts :=
    (if days = 0 then [] else ["days=" ++ toString days])
      ++ (if seconds = 0 then [] else ["seconds=" ++ toString seconds])
  "datetime.timedelta(" ++ ", ".intercalate parts ++ ")"

/-- A fault in words. -/
def Fault.message : Fault → String
  | .integerTooLong digits => Text.tooManyDigits digits
  | .noInteger base written =>
    "invalid literal for int() with base " ++ toString base ++ ": "
      ++ ((Text.quoted written).take 200).copy
  | .noFloat written => "could not convert string to float: " ++ Text.quoted written
  | .noNumber => "string index out of range"
  | .scaleTooLarge => "int too large to convert to float"
  | .noTruthValue written => Text.quoted written
  | .noTime => "'NoneType' object has no attribute 'groupdict'"
  | .timeOfMap => "expected string or bytes-like object, got 'list'"
  | .year n => "year " ++ toString n ++ " is out of range"
  | .month => "month must be in 1..12"
  | .day => "day is out of range for month"
  | .hour => "hour must be in 0..23"
  | .minute => "minute must be in 0..59"
  | .second => "second must be in 0..59"
  | .offset minutes =>
    "offset must be a timedelta strictly between -timedelta(hours=24) and timedelta(hours=24), not "
      ++ offsetShown minutes ++ "."
  | .noCharacter => "chr() arg not in range(0x110000)"
  | .codeTooLarge => "Python int too large to convert to C int"

/-- Why a text is no document. -/
inductive Refusal
  | malformed
  | fault (f : Fault)
  | tooDeep
  deriving DecidableEq, Repr

/-- A result whose absence shows that the text is malformed. -/
def orMalformed {α : Type} : Option α → Except Refusal α
  | some a => .ok a
  | none => .error .malformed

end Scaffold.Document.Yaml
