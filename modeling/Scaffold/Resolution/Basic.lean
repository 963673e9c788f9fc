import Scaffold.Resolution.Closure
import Scaffold.Resolution.Conflict

/-!
# Resolution

From what a user selects to the modules to be installed, in order: the include closure is formed,
conflicts are dropped, and what remains is ordered by priority, the highest first. Modules of one
priority keep their order.
-/

namespace Scaffold

open Document

/-- One thing selected: the name of a module, or a module itself. -/
inductive Choice
  | name (name : String)
  | module (m : Module)
  deriving DecidableEq, Repr

/-- What a selection comes to. -/
structure Resolution where
  modules : List Module
  included : List String
  excluded : List String
  ambiguities : List Resolution.Ambiguity
  unknown : List String
  deriving DecidableEq, Repr

namespace Resolution

/-- The modules in order of priority. -/
def sortByPriority (modules : List Module) : List Module :=
  modules.mergeSort fun m n => n.priority ≤ m.priority

/-- The modules that choices stand for, the names that nothing is known about, and the modules by
name. -/
structure Chosen where
  table : Table String Module
  modules : List Module
  unknown : List String

/-- Takes in one choice. A module given as such becomes known by its name, unless the name is known
already. -/
def Chosen.take (c : Chosen) : Choice → Chosen
  | .name name =>
    match Table.find? c.table name with
    | some m => { c with modules := c.modules ++ [m] }
    | none => if name ∈ c.unknown then c else { c with unknown := c.unknown ++ [name] }
  | .module m =>
    match Table.find? c.table m.name with
    | some known => { c with modules := c.modules ++ [known] }
    | none => { c with table := Table.insert c.table m.name m, modules := c.modules ++ [m] }

/-- The modules that a selection from a catalog stands for. -/
def chosen (selected : List Choice) (catalog : List Module) : Chosen :=
  selected.foldl Chosen.take ⟨Module.tableOf catalog, [], []⟩

/-- Resolves a selection from a catalog. -/
def ofSelection (selected : List Choice) (catalog : List Module) : Resolution :=
  let c := chosen selected catalog
  let closure := closure c.table c.modules
  let filtered := filterConflicts closure.modules
  { modules := sortByPriority filtered.kept
    included := closure.added
    excluded := filtered.excluded
    ambiguities := filtered.ambiguities
    unknown := c.unknown }

/-- The names of the modules to be installed. -/
def names (r : Resolution) : List String := r.modules.map Module.name

/-- Whether there is nothing to install. -/
def isEmpty (r : Resolution) : Bool := r.modules.isEmpty

end Resolution

end Scaffold
