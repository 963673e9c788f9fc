import Scaffold.Catalog.Condition
import Scaffold.Catalog.Context
import Scaffold.Disk.Tree
import Scaffold.Log.Record
import Scaffold.Text.Search

/-!
# Guards

What conditions say about a project. Judging a condition only looks at the disk and comes to a
verdict, whose reason names the values compared; only a number that cannot be written out keeps it
from one. If a file cannot be read, a pattern counts as absent from it and no number of occurrences
is right; if it cannot be found out whether a file exists, neither condition about it passes.
-/

namespace Scaffold

/-- The text of a file as a guard sees it: there may be no such file. -/
def Disk.textIfAny (d : Disk) (p : Path) : Except ReadError (Option (List Char)) :=
  match d.holds p with
  | .error e => .error (.disk e)
  | .ok false => .ok none
  | .ok true => (d.readText p).map some

/-- A text that is given and not empty. -/
def given? (s : Option String) : Option String := s.filter (· ≠ "")

namespace Condition

/-- The file that a condition about patterns looks at: its own target, or else the default one. -/
def searched? (c : Condition) (default : Option String) : Option String :=
  given? ((given? c.target).or default)

/-- A failed reading, named by the file. -/
def unreadable (p : Path) (e : ReadError) : String :=
  "could not read " ++ p.text ++ ": " ++ e.message

/-- Judges whether a module is selected; `expected` tells which answer passes. -/
def judgeModule (context : Context) (expected : Bool) (c : Condition) : Verdict :=
  match given? c.value with
  | none => ⟨false, "no module name given"⟩
  | some name =>
    let selected := context.selected.contains name
    ⟨selected == expected,
      "module '" ++ name ++ "' " ++ (if selected then "is selected" else "is not selected")⟩

/-- Judges a condition about a pattern in a file, once it is known that both are given. -/
def judgeText (default : Option String) (c : Condition)
    (judge : String → String → Except Text.Unwritable Verdict) : Except Text.Unwritable Verdict :=
  match c.searched? default with
  | none => .ok ⟨false, "no target file to search"⟩
  | some target =>
    match given? c.value with
    | none => .ok ⟨false, "no pattern given for " ++ target⟩
    | some pattern => judge target pattern

/-- Judges whether a pattern occurs in a file; `expected` tells which answer passes. -/
def judgePattern (context : Context) (default : Option String) (d : Disk) (expected : Bool)
    (c : Condition) : Except Text.Unwritable Verdict :=
  c.judgeText default fun target pattern =>
    let p := context.resolve target
    match d.textIfAny p with
    | .error e => .ok ⟨!expected, unreadable p e ++ "; treating pattern as absent"⟩
    | .ok none =>
      .ok ⟨!expected, "file " ++ target ++ " does not exist; pattern '" ++ pattern ++ "' is absent"⟩
    | .ok (some t) =>
      let found := Text.contains pattern.toList t
      .ok ⟨found == expected,
        "pattern '" ++ pattern ++ "' " ++ (if found then "found" else "not found") ++ " in "
          ++ target⟩

/-- Judges how often a pattern occurs in a file. The reason has to name the number expected. -/
def judgeCount (context : Context) (default : Option String) (d : Disk) (c : Condition) :
    Except Text.Unwritable Verdict :=
  c.judgeText default fun target pattern =>
    let p := context.resolve target
    match d.textIfAny p with
    | .error e => .ok ⟨false, unreadable p e⟩
    | .ok none => .ok ⟨false, "file " ++ target ++ " does not exist"⟩
    | .ok (some t) =>
      let comparison := c.operator.getD .equals
      let expected := c.count.getD 0
      let actual := Text.occurrences pattern.toList t
      (Text.decimal expected).map fun written =>
        ⟨comparison.holds actual expected,
          "pattern '" ++ pattern ++ "' occurs " ++ toString actual ++ " time(s) in " ++ target
            ++ "; expected " ++ comparison.sign ++ " " ++ written⟩

/-- Judges whether a file exists; `expected` tells which answer passes. -/
def judgeFile (context : Context) (d : Disk) (expected : Bool) (c : Condition) : Verdict :=
  match given? ((given? c.target).or c.value) with
  | none => ⟨false, "no file path given"⟩
  | some target =>
    match d.holds (context.resolve target) with
    | .error e => ⟨false, "could not check " ++ target ++ ": " ++ e.message⟩
    | .ok there =>
      ⟨there == expected, "file " ++ target ++ (if there then " exists" else " does not exist")⟩

/-- The verdict on a condition. Conditions about patterns that name no file of their own look at the
default one. -/
def judge (context : Context) (default : Option String) (d : Disk) (c : Condition) :
    Except Text.Unwritable Verdict :=
  match c.kind with
  | .moduleExists => .ok (c.judgeModule context true)
  | .moduleNotExists => .ok (c.judgeModule context false)
  | .patternExists => c.judgePattern context default d true
  | .patternNotExists => c.judgePattern context default d false
  | .patternCount => c.judgeCount context default d
  | .fileExists => .ok (c.judgeFile context d true)
  | .fileNotExists => .ok (c.judgeFile context d false)

end Condition

/-- The verdict on a group, with the verdicts on all of its members. -/
structure GroupVerdict where
  passed : Bool
  logic : Logic
  results : List Verdict
  deriving DecidableEq, Repr

/-- A group's verdict as a document. -/
def GroupVerdict.toValue (v : GroupVerdict) : Document.Value :=
  .record
    [("passed", .bool v.passed), ("logic", .string v.logic.word),
      ("results", .list (v.results.map Verdict.toValue))]

/-- How a logic joins verdicts: no verdicts satisfy "all" and do not satisfy "any". -/
def Logic.join : Logic → List Verdict → Bool
  | .all, vs => vs.all Verdict.passed
  | .any, vs => vs.any Verdict.passed

/-- The verdict on a group. Every member is judged, also when the outcome is clear before. -/
def ConditionGroup.judge (context : Context) (default : Option String) (d : Disk)
    (g : ConditionGroup) : Except Text.Unwritable GroupVerdict := do
  let results ← g.conditions.mapM (Condition.judge context default d)
  pure ⟨g.logic.join results, g.logic, results⟩

end Scaffold
