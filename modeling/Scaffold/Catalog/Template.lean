import Scaffold.Schema.Reader

/-!
# Modules and templates

A template is a blueprint for projects, and a module is an optional unit of work that it offers. The
names of a template's modules differ from one another, which is checked when the template is read
and makes the look-up of a module by its name lossless.
-/

namespace Scaffold

open Document Schema

/-- An optional unit of work. -/
structure Module where
  name : String
  description : String
  path : String
  includes : List String
  excludes : List String
  priority : Int
  deriving DecidableEq, Repr

/-- A blueprint and the modules that it offers. -/
structure Template where
  name : String
  description : String
  url : String
  modules : List Module
  deriving DecidableEq, Repr

namespace Module

/-- Reads a module from its fields. -/
def readFields (entries : Entries) : Checked Module :=
  Module.mk
    <$> required entries (.single "name") nonEmptyText
    <*> optional entries (.single "description") "" Schema.text
    <*> required entries (.single "path") Schema.text
    <*> optional entries (.single "includes") [] (nullableList .notTuple Schema.text)
    <*> optional entries (.single "excludes") [] (nullableList .notTuple Schema.text)
    <*> optional entries (.single "priority") 0 integer

/-- Reads a module. -/
def read : Reader Module := record "Module" readFields

/-- A list of texts as a document. -/
def textsValue (texts : List String) : Value := .list (texts.map Value.string)

/-- A module as a document. -/
def toValue (m : Module) : Value :=
  Value.record
    [("name", .string m.name), ("description", .string m.description), ("path", .string m.path),
      ("includes", textsValue m.includes), ("excludes", textsValue m.excludes),
      ("priority", .int m.priority)]

/-- The modules of a list by name; of two modules with one name, the later one. -/
def tableOf (modules : List Module) : Table String Module :=
  Table.ofPairs (modules.map fun m => (m.name, m))

end Module

namespace Template

/-- The first name, in order, that repeats an earlier one. -/
def firstRepeated? (seen : List String) : List String → Option String
  | [] => none
  | name :: rest => if name ∈ seen then some name else firstRepeated? (name :: seen) rest

/-- Refuses a template two of whose modules share a name. -/
def checkNames (t : Template) : Checked Template :=
  match firstRepeated? [] (t.modules.map Module.name) with
  | some name => .fail (.duplicateName (Text.quoted name))
  | none => .valid t

/-- Reads a template from its fields. -/
def readFields (entries : Entries) : Checked Template :=
  Checked.andThen
    (Template.mk
      <$> required entries (.single "name") Schema.text
      <*> optional entries (.single "description") "" Schema.text
      <*> optional entries (.single "url") "" Schema.text
      <*> optional entries (.single "modules") [] (nullableList .notTuple Module.read))
    checkNames

/-- Reads a template. -/
def read : Reader Template := record "Template" readFields

/-- A template as a document. -/
def toValue (t : Template) : Value :=
  Value.record
    [("name", .string t.name), ("description", .string t.description), ("url", .string t.url),
      ("modules", .list (t.modules.map Module.toValue))]

/-- The modules of a template by name. -/
def moduleTable (t : Template) : Table String Module := Module.tableOf t.modules

/-- The module of a given name. -/
def module? (t : Template) (name : String) : Option Module := Table.find? t.moduleTable name

end Template

end Scaffold
