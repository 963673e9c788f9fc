import Scaffold.Catalog.Condition

/-!
# Instructions

The changes to a project that a module's catalog asks for. Which of its fields an instruction has to
have depends on its action.
-/

namespace Scaffold

open Document Schema

/-- What an instruction does to its file. -/
inductive Action
  | createFile
  | deleteFile
  | insertImport
  | insertAfter
  | insertBefore
  | replaceContent
  | appendToFile
  | insertProp
  deriving DecidableEq, Repr

/-- One change to one file. -/
structure Instruction where
  path : String
  action : Action
  content : Option String
  pattern : Option String
  replacement : Option String
  componentName : Option String
  propName : Option String
  propValue : Option String
  condition : Option ConditionGroup
  deriving DecidableEq, Repr

/-- The catalog of one module. -/
structure ModuleInstructions where
  instructions : List Instruction
  deriving DecidableEq, Repr

/-- The word for an action. -/
def Action.word : Action → String
  | .createFile => "CREATE_FILE"
  | .deleteFile => "DELETE_FILE"
  | .insertImport => "INSERT_IMPORT"
  | .insertAfter => "INSERT_AFTER"
  | .insertBefore => "INSERT_BEFORE"
  | .replaceContent => "REPLACE_CONTENT"
  | .appendToFile => "APPEND_TO_FILE"
  | .insertProp => "INSERT_PROP"

/-- All actions. -/
def Action.list : List Action :=
  [.createFile, .deleteFile, .insertImport, .insertAfter, .insertBefore, .replaceContent,
    .appendToFile, .insertProp]

/-- A field that an action may need. -/
inductive NeededField
  | content
  | pattern
  | replacement
  | componentName
  | propName
  deriving DecidableEq, Repr

/-- The fields that an action needs, in the order in which they are asked for. -/
def Action.needs : Action → List NeededField
  | .createFile => [.content]
  | .deleteFile => []
  | .insertImport => [.content]
  | .insertAfter => [.pattern, .content]
  | .insertBefore => [.pattern, .content]
  | .replaceContent => [.pattern, .replacement]
  | .appendToFile => [.content]
  | .insertProp => [.componentName, .propName]

/-- The name of a needed field in messages. -/
def NeededField.word : NeededField → String
  | .content => "content"
  | .pattern => "pattern"
  | .replacement => "replacement"
  | .componentName => "component_name"
  | .propName => "prop_name"

/-- Whether a needed field may be empty: text to be written may, a name or pattern may not. -/
def NeededField.mayBeEmpty : NeededField → Bool
  | .content => true
  | .replacement => true
  | _ => false

namespace Instruction

/-- What an instruction gives for a field that an action may need. -/
def given? (i : Instruction) : NeededField → Option String
  | .content => i.content
  | .pattern => i.pattern
  | .replacement => i.replacement
  | .componentName => i.componentName
  | .propName => i.propName

/-- Whether an instruction has what its action needs of a field. -/
def has (i : Instruction) (f : NeededField) : Bool :=
  match i.given? f with
  | none => false
  | some s => f.mayBeEmpty || s ≠ ""

/-- The fields that an instruction lacks. -/
def lacking (i : Instruction) : List NeededField := i.action.needs.filter fun f => !i.has f

theorem has_iff {i : Instruction} {f : NeededField} :
    i.has f = true ↔ ∃ s, i.given? f = some s ∧ (f.mayBeEmpty = true ∨ s ≠ "") := by
  rw [has]
  cases i.given? f <;> simp

theorem lacking_eq_nil_iff {i : Instruction} :
    i.lacking = [] ↔ ∀ f ∈ i.action.needs, i.has f = true := by
  simp [lacking]

/-- Reads an instruction from its fields. -/
def readFields (entries : Entries) : Checked Instruction :=
  Instruction.mk
    <$> required entries (.single "path") Schema.text
    <*> required entries (.single "action") (choice (wordsOf Action.word Action.list))
    <*> optional entries (.single "content") none (nullable Schema.text)
    <*> optional entries (.single "pattern") none (nullable Schema.text)
    <*> optional entries (.single "replacement") none (nullable Schema.text)
    <*> optional entries ⟨"componentName", "component_name"⟩ none (nullable Schema.text)
    <*> optional entries ⟨"propName", "prop_name"⟩ none (nullable Schema.text)
    <*> optional entries ⟨"propValue", "prop_value"⟩ none (nullable Schema.text)
    <*> optional entries (.single "condition") none (nullable ConditionGroup.read)

/-- Reads an instruction. -/
def read : Reader Instruction := record "Instruction" readFields

/-- The fields of an instruction as a document, with the guard given in one form or another. -/
def fields (guard : ConditionGroup → Value) (i : Instruction) : List (String × Value) :=
  [("path", .string i.path), ("action", .string i.action.word), ("content", .string? i.content),
    ("pattern", .string? i.pattern), ("replacement", .string? i.replacement),
    ("componentName", .string? i.componentName), ("propName", .string? i.propName),
    ("propValue", .string? i.propValue), ("condition", (i.condition.map guard).getD .null)]

/-- An instruction as a document, with all its fields. -/
def toValue (i : Instruction) : Value := Value.record (i.fields ConditionGroup.toValue)

/-- An instruction as it is kept in the log: a document without the fields that have no value. -/
def snapshot (i : Instruction) : Value := Value.prunedRecord (i.fields ConditionGroup.snapshot)

end Instruction

namespace ModuleInstructions

/-- Reads a module's catalog from its fields. -/
def readFields (entries : Entries) : Checked ModuleInstructions :=
  ModuleInstructions.mk
    <$> optional entries (.single "instructions") [] (list .notTuple Instruction.read)

/-- Reads a module's catalog. -/
def read : Reader ModuleInstructions := record "ModuleInstructions" readFields

/-- A module's catalog as a document, with all its fields. -/
def toValue (m : ModuleInstructions) : Value :=
  Value.record [("instructions", .list (m.instructions.map Instruction.toValue))]

end ModuleInstructions

end Scaffold
