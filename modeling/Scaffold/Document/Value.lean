import Scaffold.Document.Scalar
import Scaffold.Table

/-!
# Documents

The value of a document: a scalar, a list, a map from scalars to values in the order in which its
keys were first written, or a set of scalars in that order. A list of pairs is a list of lists of two
items. Two properties of values matter to the reports that show them: their text, and whether they
count as blank.
-/

namespace Scaffold.Document

open Scaffold.Number

/-- The value of a document. -/
inductive Value
  | scalar (s : Scalar)
  | list (items : List Value)
  | map (entries : List (Scalar × Value))
  | set (items : List Scalar)
  deriving Repr

/-- The entries of a map. -/
abbrev Entries := Table Scalar Value

instance : BEq Scalar := ⟨Scalar.sameKey⟩

namespace Value

/-- The absent value. -/
abbrev null : Value := .scalar .null

/-- A truth value. -/
abbrev bool (b : Bool) : Value := .scalar (.bool b)

/-- An integer. -/
abbrev int (n : Int) : Value := .scalar (.int n)

/-- A text. -/
abbrev string (s : String) : Value := .scalar (.string s)

/-- A text, or the absent value. -/
def string? (s : Option String) : Value := (s.map string).getD null

/-- A map with the given texts as keys. -/
def record (fields : List (String × Value)) : Value :=
  .map (fields.map fun (name, v) => (.string name, v))

instance : Inhabited Value := ⟨null⟩

/-- The absent value is the only one that `isNull` accepts. -/
def isNull : Value → Bool
  | .scalar .null => true
  | _ => false

/-- Whether a value counts as blank: an absent value, a zero, a false, or a text, list, map or set
with nothing in it. -/
def isBlank : Value → Bool
  | .scalar .null => true
  | .scalar (.bool b) => !b
  | .scalar (.int n) => n = 0
  | .scalar (.float (.finite _ mantissa _)) => mantissa = 0
  | .scalar (.string s) => s = ""
  | .scalar (.bytes b) => b = []
  | .scalar _ => false
  | .list items => items.isEmpty
  | .map entries => entries.isEmpty
  | .set items => items.isEmpty

mutual

/-- A value in a message, in a form that tells values of different kinds apart. -/
def shown : Value → String
  | .scalar s => s.shown
  | .list items => "[" ++ ", ".intercalate (shownItems items) ++ "]"
  | .map entries => "\x7b" ++ ", ".intercalate (shownEntries entries) ++ "\x7d"
  | .set [] => "set()"
  | .set items => "\x7b" ++ ", ".intercalate (items.map Scalar.shown) ++ "\x7d"

/-- The items of a list in a message. -/
def shownItems : List Value → List String
  | [] => []
  | v :: rest => shown v :: shownItems rest

/-- The entries of a map in a message. -/
def shownEntries : List (Scalar × Value) → List String
  | [] => []
  | (k, v) :: rest => (k.shown ++ ": " ++ shown v) :: shownEntries rest

end

/-- A value in a message, in its plain form. -/
def text : Value → String
  | .scalar s => s.text
  | v => v.shown

mutual

/-- Decides whether two values are the same. -/
def decEq : (v w : Value) → Decidable (v = w)
  | .scalar s, .scalar t => decidable_of_iff (s = t) ⟨congrArg scalar, scalar.inj⟩
  | .list xs, .list ys =>
    match decEqItems xs ys with
    | isTrue h => isTrue (congrArg list h)
    | isFalse h => isFalse fun heq => h (list.inj heq)
  | .map xs, .map ys =>
    match decEqEntries xs ys with
    | isTrue h => isTrue (congrArg map h)
    | isFalse h => isFalse fun heq => h (map.inj heq)
  | .set xs, .set ys => decidable_of_iff (xs = ys) ⟨congrArg set, set.inj⟩
  | .scalar _, .list _ | .scalar _, .map _ | .scalar _, .set _ => isFalse nofun
  | .list _, .scalar _ | .list _, .map _ | .list _, .set _ => isFalse nofun
  | .map _, .scalar _ | .map _, .list _ | .map _, .set _ => isFalse nofun
  | .set _, .scalar _ | .set _, .list _ | .set _, .map _ => isFalse nofun

/-- Decides whether two lists have the same items. -/
def decEqItems : (xs ys : List Value) → Decidable (xs = ys)
  | [], [] => isTrue rfl
  | [], _ :: _ | _ :: _, [] => isFalse nofun
  | v :: xs, w :: ys =>
    match decEq v w, decEqItems xs ys with
    | isTrue hv, isTrue hxs => isTrue (by rw [hv, hxs])
    | isFalse hv, _ => isFalse fun heq => hv (List.cons.inj heq).1
    | _, isFalse hxs => isFalse fun heq => hxs (List.cons.inj heq).2

/-- Decides whether two maps have the same entries in the same order. -/
def decEqEntries : (xs ys : List (Scalar × Value)) → Decidable (xs = ys)
  | [], [] => isTrue rfl
  | [], _ :: _ | _ :: _, [] => isFalse nofun
  | (k, v) :: xs, (l, w) :: ys =>
    match decEq v w, decEqEntries xs ys with
    | isTrue hv, isTrue hxs => decidable_of_iff (k = l) (by simp [hv, hxs])
    | isFalse hv, _ => isFalse fun heq => hv (Prod.mk.inj (List.cons.inj heq).1).2
    | _, isFalse hxs => isFalse fun heq => hxs (List.cons.inj heq).2

end

instance : DecidableEq Value := decEq

/-- What a map holds under a text. -/
def field? (v : Value) (name : String) : Option Value :=
  match v with
  | .map entries => Table.find? entries (.string name)
  | _ => none

end Value

end Scaffold.Document
