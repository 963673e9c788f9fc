import Scaffold.Document.Pruned
import Scaffold.Schema.Reader

/-!
# Conditions

The conditions that guard an instruction, alone and in groups, as a catalog writes them. A group may
be written in full, as a bare list of its members, or as its only member.
-/

namespace Scaffold

open Document Schema

/-- What a condition asks. -/
inductive ConditionKind
  | moduleExists
  | moduleNotExists
  | patternExists
  | patternNotExists
  | patternCount
  | fileExists
  | fileNotExists
  deriving DecidableEq, Repr

/-- How a number of occurrences is compared with the expected one. -/
inductive Comparison
  | equals
  | notEquals
  | greaterThan
  | lessThan
  | greaterOrEqual
  | lessOrEqual
  deriving DecidableEq, Repr

/-- Whether a group asks for all of its members or for one of them. -/
inductive Logic
  | all
  | any
  deriving DecidableEq, Repr

/-- One condition. -/
structure Condition where
  kind : ConditionKind
  value : Option String
  operator : Option Comparison
  count : Option Int
  target : Option String
  deriving DecidableEq, Repr

/-- Conditions that are judged together. -/
structure ConditionGroup where
  conditions : List Condition
  logic : Logic
  deriving DecidableEq, Repr

/-- The word for a kind. -/
def ConditionKind.word : ConditionKind → String
  | .moduleExists => "MODULE_EXISTS"
  | .moduleNotExists => "MODULE_NOT_EXISTS"
  | .patternExists => "PATTERN_EXISTS"
  | .patternNotExists => "PATTERN_NOT_EXISTS"
  | .patternCount => "PATTERN_COUNT"
  | .fileExists => "FILE_EXISTS"
  | .fileNotExists => "FILE_NOT_EXISTS"

/-- All kinds. -/
def ConditionKind.list : List ConditionKind :=
  [.moduleExists, .moduleNotExists, .patternExists, .patternNotExists, .patternCount, .fileExists,
    .fileNotExists]

/-- The word for a comparison. -/
def Comparison.word : Comparison → String
  | .equals => "EQUALS"
  | .notEquals => "NOT_EQUALS"
  | .greaterThan => "GREATER_THAN"
  | .lessThan => "LESS_THAN"
  | .greaterOrEqual => "GREATER_OR_EQUAL"
  | .lessOrEqual => "LESS_OR_EQUAL"

/-- All comparisons. -/
def Comparison.list : List Comparison :=
  [.equals, .notEquals, .greaterThan, .lessThan, .greaterOrEqual, .lessOrEqual]

/-- The sign for a comparison. -/
def Comparison.sign : Comparison → String
  | .equals => "=="
  | .notEquals => "!="
  | .greaterThan => ">"
  | .lessThan => "<"
  | .greaterOrEqual => ">="
  | .lessOrEqual => "<="

/-- Whether a comparison holds between two numbers. -/
def Comparison.holds : Comparison → Int → Int → Bool
  | .equals, m, n => m = n
  | .notEquals, m, n => m ≠ n
  | .greaterThan, m, n => n < m
  | .lessThan, m, n => m < n
  | .greaterOrEqual, m, n => n ≤ m
  | .lessOrEqual, m, n => m ≤ n

/-- The word for a logic. -/
def Logic.word : Logic → String
  | .all => "AND"
  | .any => "OR"

/-- Both logics. -/
def Logic.list : List Logic := [.all, .any]

/-- Words, each with what it stands for. -/
def wordsOf {α : Type} (word : α → String) (all : List α) : List (String × α) :=
  all.map fun a => (word a, a)

/-- Reads a condition from its fields. -/
def Condition.readFields (entries : Entries) : Checked Condition :=
  Condition.mk
    <$> required entries ⟨"type", "kind"⟩ (choice (wordsOf ConditionKind.word ConditionKind.list))
    <*> optional entries (.single "value") none (nullable text)
    <*> optional entries (.single "operator") none
      (nullable (choice (wordsOf Comparison.word Comparison.list)))
    <*> optional entries (.single "count") none (nullable integer)
    <*> optional entries (.single "target") none (nullable text)

/-- Reads a condition. -/
def Condition.read : Reader Condition := record "Condition" Condition.readFields

/-- The fields of a condition as a document. -/
def Condition.fields (c : Condition) : List (String × Value) :=
  [("type", .string c.kind.word), ("value", .string? c.value),
    ("operator", .string? (c.operator.map Comparison.word)),
    ("count", (c.count.map Value.int).getD .null), ("target", .string? c.target)]

/-- A condition as a document, with all its fields. -/
def Condition.toValue (c : Condition) : Value := Value.record c.fields

/-- A condition as a document, without the fields that have no value. -/
def Condition.snapshot (c : Condition) : Value := Value.prunedRecord c.fields

/-- A group written in full: a bare list becomes the members of a group, and a map that has a `type`
and no `conditions` becomes the only member of one. -/
def ConditionGroup.expand : Value → Value
  | .list items => Value.record [("conditions", .list items)]
  | .map entries =>
    let has (name : String) : Bool := (Table.find? entries (.string name)).isSome
    if !has "conditions" && has "type" then Value.record [("conditions", .list [.map entries])]
    else .map entries
  | v => v

/-- Reads a group from its fields. -/
def ConditionGroup.readFields (entries : Entries) : Checked ConditionGroup :=
  ConditionGroup.mk
    <$> optional entries (.single "conditions") [] (list .notTuple Condition.read)
    <*> optional entries (.single "logic") .all (choice (wordsOf Logic.word Logic.list))

/-- Reads a group. -/
def ConditionGroup.read : Reader ConditionGroup := fun v =>
  record "ConditionGroup" ConditionGroup.readFields (ConditionGroup.expand v)

/-- A group as a document, with all its fields. -/
def ConditionGroup.toValue (g : ConditionGroup) : Value :=
  Value.record
    [("conditions", .list (g.conditions.map Condition.toValue)), ("logic", .string g.logic.word)]

/-- A group as a document, without the fields that have no value. -/
def ConditionGroup.snapshot (g : ConditionGroup) : Value :=
  Value.record
    [("conditions", .list (g.conditions.map Condition.snapshot)), ("logic", .string g.logic.word)]

end Scaffold
