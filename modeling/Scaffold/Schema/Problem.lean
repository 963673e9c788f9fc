/-!
# Problems of a document

What can be wrong with a document that is read as a record of a known shape, and where. A reader
collects all problems in the order in which the record lists its fields. The wording depends on
whether the document came as a value or as JSON text, where lists are called arrays and maps
objects.
-/

namespace Scaffold.Schema

/-- One step on the way to a part of a document: into a field, or to an item of a list. The field of a
map whose keys are any scalars may be named by a number. -/
inductive Step
  | field (name : String)
  | item (index : Int)
  deriving DecidableEq, Repr

/-- What is wrong with a part of a document. -/
inductive Cause
  | missing
  | notText
  | undecodableText
  | textTooShort (least : Nat)
  | notInteger
  | fractional
  | unreadableInteger
  | oversizedInteger
  | notFinite
  | tooSmall (least : Int)
  | notBoolean
  | unreadableBoolean
  | notChoice (choices : List String)
  | notTuple
  | notList
  | notSet
  | notMap
  | notRecord (name : String)
  | notPath
  | duplicateName (shown : String)
  | unreadable
  deriving DecidableEq, Repr

/-- A problem: its cause, and the way to the part that has it. -/
structure Problem where
  cause : Cause
  place : List Step
  deriving DecidableEq, Repr

/-- Whether a document came as a value or as JSON text. -/
inductive Origin
  | value
  | json
  deriving DecidableEq, Repr

/-- One of two words, the first for JSON text and the second for a value. -/
def Origin.word (inText inValue : String) : Origin → String
  | .json => inText
  | .value => inValue

/-- The short name of a cause. -/
def Cause.code : Cause → String
  | .missing => "missing"
  | .notText => "string_type"
  | .undecodableText => "string_unicode"
  | .textTooShort _ => "string_too_short"
  | .notInteger => "int_type"
  | .fractional => "int_from_float"
  | .unreadableInteger => "int_parsing"
  | .oversizedInteger => "int_parsing_size"
  | .notFinite => "finite_number"
  | .tooSmall _ => "greater_than_equal"
  | .notBoolean => "bool_type"
  | .unreadableBoolean => "bool_parsing"
  | .notChoice _ => "enum"
  | .notTuple => "tuple_type"
  | .notList => "list_type"
  | .notSet => "frozen_set_type"
  | .notMap => "dict_type"
  | .notRecord _ => "model_type"
  | .notPath => "path_type"
  | .duplicateName _ => "value_error"
  | .unreadable => "json_invalid"

/-- Alternatives as a sentence lists them: commas between all but the last two, which have an
"or". -/
def alternatives : List String → String
  | [] => ""
  | [a] => a
  | [a, b] => a ++ " or " ++ b
  | a :: rest => a ++ ", " ++ alternatives rest

/-- A cause in words, if it has any. -/
def Cause.message? (origin : Origin) : Cause → Option String
  | .missing => some "Field required"
  | .notText => some "Input should be a valid string"
  | .undecodableText =>
    some "Input should be a valid string, unable to parse raw data as a unicode string"
  | .textTooShort n =>
    some ("String should have at least " ++ toString n
      ++ (if n = 1 then " character" else " characters"))
  | .notInteger => some "Input should be a valid integer"
  | .fractional => some "Input should be a valid integer, got a number with a fractional part"
  | .unreadableInteger =>
    some "Input should be a valid integer, unable to parse string as an integer"
  | .oversizedInteger =>
    some "Unable to parse input string as an integer, exceeded maximum size"
  | .notFinite => some "Input should be a finite number"
  | .tooSmall n => some ("Input should be greater than or equal to " ++ toString n)
  | .notBoolean => some "Input should be a valid boolean"
  | .unreadableBoolean => some "Input should be a valid boolean, unable to interpret input"
  | .notChoice choices =>
    some ("Input should be " ++ alternatives (choices.map fun c => "'" ++ c ++ "'"))
  | .notTuple => some ("Input should be a valid " ++ origin.word "array" "tuple")
  | .notList => some ("Input should be a valid " ++ origin.word "array" "list")
  | .notSet => some ("Input should be a valid " ++ origin.word "array" "frozenset")
  | .notMap => some ("Input should be " ++ origin.word "an object" "a valid dictionary")
  | .notRecord name =>
    some ("Input should be "
      ++ origin.word "an object" ("a valid dictionary or instance of " ++ name))
  | .notPath => some "Input is not a valid path for <class 'pathlib.Path'>"
  | .duplicateName shown => some ("Value error, duplicate module name " ++ shown)
  | .unreadable => none

/-- The number of problems of a record in words. -/
def countMessage (problems : List Problem) (record : String) : String :=
  toString problems.length
    ++ (if problems.length = 1 then " validation error for " else " validation errors for ")
    ++ record

end Scaffold.Schema
