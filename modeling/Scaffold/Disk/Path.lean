/-!
# Paths

A path as the root that it starts from and a list of names. Empty names and single dots say nothing
and are dropped when a path is read; a double dot goes up one directory and is kept, because what it
leads to depends on the disk. A path that starts from a root of its own takes the place of a path
that it is joined to.
-/

namespace Scaffold

/-- What a path starts from: the directory that the program runs in, or the top of the disk, which
is written as one slash or as exactly two. -/
inductive Root
  | here
  | slash
  | slashes
  deriving DecidableEq, Repr

/-- The text of a root. -/
def Root.text : Root → String
  | .here => ""
  | .slash => "/"
  | .slashes => "//"

/-- The root that so many slashes at the front of a text stand for. -/
def Root.ofSlashes : Nat → Root
  | 0 => .here
  | 2 => .slashes
  | _ => .slash

/-- A path: its root, and the names after it in order. -/
structure Path where
  root : Root
  names : List String
  deriving DecidableEq, Repr

/-- Names alone are a path from the directory that the program runs in. -/
instance : Coe (List String) Path := ⟨Path.mk .here⟩

namespace Path

/-- The parts of a text between slashes. -/
def splitSlashes : List Char → List (List Char)
  | [] => [[]]
  | c :: rest =>
    if c = '/' then [] :: splitSlashes rest
    else
      match splitSlashes rest with
      | [] => [[c]]
      | part :: more => (c :: part) :: more

/-- The names in a text. -/
def namesIn (t : List Char) : List String :=
  ((splitSlashes t).map String.ofList).filter fun name => name ≠ "" ∧ name ≠ "."

/-- The path that a text names. -/
def ofString (s : String) : Path where
  root := Root.ofSlashes (s.toList.takeWhile (· = '/')).length
  names := namesIn s.toList

/-- The text of a path; a path that says nothing is a single dot. -/
def text (p : Path) : String :=
  if p.root = .here ∧ p.names = [] then "." else p.root.text ++ "/".intercalate p.names

/-- The path without its last name. -/
def parent (p : Path) : Path := { p with names := p.names.dropLast }

/-- The last name of a path. -/
def name (p : Path) : String := p.names.getLast?.getD ""

/-- A path from another one: below it, unless it starts from a root of its own. -/
def join (p q : Path) : Path :=
  match q.root with
  | .here => { p with names := p.names ++ q.names }
  | _ => q

/-- The path of a name in the directory at a path. -/
def child (p : Path) (name : String) : Path := { p with names := p.names ++ [name] }

/-- The last dot of a name and what follows it. A dot at either end of a name starts no ending. -/
def ending (p : Path) : String :=
  let reversed := p.name.toList.reverse
  let after := reversed.takeWhile (· ≠ '.')
  let before := reversed.drop (after.length + 1)
  if after = [] ∨ before = [] then "" else String.ofList ('.' :: after.reverse)

/-- Whether the last name of a path goes up. -/
def endsUpward (p : Path) : Bool := p.names.getLast? = some ".."

end Path

end Scaffold
