import Scaffold.Catalog.Template

/-!
# Conflicts

A module is dropped if another module of the list excludes it. Two modules that exclude each other
are both dropped and make an ambiguity, which is reported once.
-/

namespace Scaffold.Resolution

/-- Two modules that exclude each other, by name. -/
structure Ambiguity where
  first : String
  second : String
  deriving DecidableEq, Repr

/-- An ambiguity in words. -/
def Ambiguity.message (a : Ambiguity) : String :=
  a.first ++ " and " ++ a.second ++ " exclude each other; both were dropped"

/-- Whether two ambiguities are about the same two modules. -/
def Ambiguity.sameAs (a b : Ambiguity) : Bool := a = b || (a.first = b.second && a.second = b.first)

/-- The names of other modules of the list that a module excludes. -/
def excludedBy (table : Table String Module) (m : Module) : List String :=
  m.excludes.filter fun name => name ≠ m.name && (Table.find? table name).isSome

/-- Whether the module of a name excludes another name. -/
def excludesBack (table : Table String Module) (name other : String) : Bool :=
  match Table.find? table name with
  | none => false
  | some m => m.excludes.contains other

/-- The modules that a module excludes and that exclude it in turn. -/
def ambiguitiesOf (table : Table String Module) (m : Module) : List Ambiguity :=
  ((excludedBy table m).filter fun name => excludesBack table name m.name).map (⟨m.name, ·⟩)

/-- The ambiguities of a list without those that are about the same modules as an earlier one. -/
def distinctAmbiguities (reported : List Ambiguity) : List Ambiguity → List Ambiguity
  | [] => []
  | a :: rest =>
    if reported.any a.sameAs then distinctAmbiguities reported rest
    else a :: distinctAmbiguities (a :: reported) rest

/-- What remains of a list of modules, and what was found. -/
structure Filtered where
  kept : List Module
  excluded : List String
  ambiguities : List Ambiguity
  deriving DecidableEq, Repr

/-- Drops every module that another module of the list excludes. -/
def filterConflicts (modules : List Module) : Filtered :=
  let table := Module.tableOf modules
  let excluded := (modules.flatMap (excludedBy table)).eraseDups
  { kept := modules.filter fun m => m.name ∉ excluded
    excluded
    ambiguities := distinctAmbiguities [] (modules.flatMap (ambiguitiesOf table)) }

end Scaffold.Resolution
