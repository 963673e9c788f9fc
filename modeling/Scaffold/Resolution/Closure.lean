import Scaffold.Catalog.Template

/-!
# The include closure

A selected module brings in the modules that it includes, and these bring in what they include in
turn. The names brought in are discovered depth first, in the order in which they are written; each
name is discovered once, so a circle of modules does no harm.
-/

namespace Scaffold.Resolution

/-- The modules of a list without those whose name has come before, given the names seen. -/
def distinctFrom (seen : List String) : List Module → List Module
  | [] => []
  | m :: rest =>
    if m.name ∈ seen then distinctFrom seen rest
    else m :: distinctFrom (m.name :: seen) rest

/-- The modules of a list, the first of each name. -/
def distinct (modules : List Module) : List Module := distinctFrom [] modules

/-- The entries of a table that have not been visited. -/
def unvisited (table : Table String Module) (visited : List String) : Table String Module :=
  table.filter fun pair => pair.1 ∉ visited

theorem length_unvisited_cons {table : Table String Module} {name : String} {m : Module}
    {visited : List String} (h : Table.find? table name = some m) (hv : name ∉ visited) :
    (unvisited table (name :: visited)).length < (unvisited table visited).length := by
  have hsub : unvisited table (name :: visited)
      = (unvisited table visited).filter fun pair => pair.1 ≠ name := by
    simp only [unvisited, List.filter_filter]
    congr 1
    funext pair
    simp [List.mem_cons, not_or]
  rw [hsub]
  apply List.length_filter_lt_length_iff_exists.2
  exact ⟨(name, m), by simp [unvisited, Table.mem_of_find? h, hv], by simp⟩

/-- The number of names on an agenda, one more for each list of names. -/
def agendaSize : List (List String) → Nat
  | [] => 0
  | names :: later => names.length + 1 + agendaSize later

/-- The names brought in by an agenda: lists of names, the first of which is being worked through.
Names that the table does not know, or that have been visited, bring in nothing. -/
def discover (table : Table String Module) (visited : List String) :
    List (List String) → List String
  | [] => []
  | [] :: later => discover table visited later
  | (name :: names) :: later =>
    match _h : Table.find? table name with
    | none => discover table visited (names :: later)
    | some m =>
      if _hv : name ∈ visited then discover table visited (names :: later)
      else name :: discover table (name :: visited) (m.includes :: names :: later)
termination_by agenda => ((unvisited table visited).length, agendaSize agenda)
decreasing_by
  · exact Prod.Lex.right _ (by simp [agendaSize])
  · exact Prod.Lex.right _ (by simp [agendaSize])
  · exact Prod.Lex.right _ (by simp [agendaSize])
  · exact Prod.Lex.left _ _ (length_unvisited_cons _h _hv)

/-- The modules that a selection comes to, and the names of those that it brings in. -/
structure Closure where
  modules : List Module
  added : List String
  deriving DecidableEq, Repr

/-- The include closure of a selection: the selection itself without repetitions, and then what it
brings in. -/
def closure (table : Table String Module) (selected : List Module) : Closure :=
  let roots := distinct selected
  let added := discover table (roots.map Module.name) (roots.map Module.includes)
  ⟨roots ++ added.filterMap (Table.find? table), added⟩

end Scaffold.Resolution
