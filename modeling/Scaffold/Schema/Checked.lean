import Scaffold.Schema.Problem

/-!
# Checked values

The outcome of reading a part of a document: a value, or all the problems of the part. Two outcomes
are joined by `ap`, which keeps the problems of both, those of the first one first.
-/

namespace Scaffold.Schema

/-- A value, or the problems that stand in its way. -/
inductive Checked (α : Type) : Type
  | valid (a : α)
  | invalid (problems : List Problem)

namespace Checked

variable {α β : Type}

/-- A checked function applied to a checked argument. -/
def ap (f : Checked (α → β)) (x : Checked α) : Checked β :=
  match f, x with
  | .valid f, .valid a => .valid (f a)
  | .valid _, .invalid ps => .invalid ps
  | .invalid ps, .valid _ => .invalid ps
  | .invalid ps, .invalid qs => .invalid (ps ++ qs)

/-- A function applied to a checked argument. -/
def map (f : α → β) : Checked α → Checked β
  | .valid a => .valid (f a)
  | .invalid ps => .invalid ps

/-- A further check of a value that has passed the checks before it. -/
def andThen (x : Checked α) (f : α → Checked β) : Checked β :=
  match x with
  | .valid a => f a
  | .invalid ps => .invalid ps

instance : Functor Checked where
  map := map

instance : Seq Checked where
  seq f x := ap f (x ())

/-- The outcome seen from one step further out. -/
def within (step : Step) : Checked α → Checked α
  | .valid a => .valid a
  | .invalid ps => .invalid (ps.map fun p => { p with place := step :: p.place })

/-- One problem with the whole part. -/
def fail (cause : Cause) : Checked α := .invalid [⟨cause, []⟩]

/-- The value, if there is one. -/
def toOption : Checked α → Option α
  | .valid a => some a
  | .invalid _ => none

/-- The problems, none of a valid value. -/
def problems : Checked α → List Problem
  | .valid _ => []
  | .invalid ps => ps

/-- Checks the items of a list, the first of which has the given index. -/
def items (check : α → Checked β) (index : Nat) : List α → Checked (List β)
  | [] => .valid []
  | a :: rest =>
    List.cons <$> (check a).within (.item index) <*> items check (index + 1) rest

end Checked

end Scaffold.Schema
