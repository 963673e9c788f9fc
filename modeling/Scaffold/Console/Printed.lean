import Scaffold.Console.Markup

/-!
# What is printed

The output of the program as data: lines, tables and panels, each with its plain text.
-/

namespace Scaffold.Console

/-- One thing printed. -/
inductive Printed
  | line (text : String)
  | table (title : String) (header : List String) (rows : List (List String))
  | panel (title : String) (rows : List (List String))
  deriving DecidableEq, Repr

/-- What a message is about, which gives it its colour. -/
inductive Tone
  | info
  | success
  | error
  | warning
  deriving DecidableEq, Repr

/-- The colour of a tone. -/
def Tone.color : Tone → String
  | .info => "cyan"
  | .success => "green"
  | .error => "red"
  | .warning => "yellow"

/-- Markup that shows a text as it is. -/
def escaped (s : String) : String := String.ofList (Markup.escape s.toList)

/-- What is shown of markup. -/
def plainText (markup : String) : String := String.ofList (Markup.plain markup.toList)

/-- Markup with a style around it. -/
def styled (style markup : String) : String := "[" ++ style ++ "]" ++ markup ++ "[/" ++ style ++ "]"

namespace Printed

/-- A line of markup. -/
def ofMarkup (markup : String) : Printed := .line (plainText markup)

/-- A message without a style. -/
def plain (message : String) : Printed := ofMarkup (escaped message)

/-- A message in its tone. -/
def toned (tone : Tone) (message : String) : Printed :=
  ofMarkup (styled ("bold " ++ tone.color) (escaped message))

/-- A message for information. -/
def info (message : String) : Printed := toned .info message

/-- A message of success. -/
def success (message : String) : Printed := toned .success message

/-- A message of failure. -/
def error (message : String) : Printed := toned .error message

/-- A message of warning. -/
def warning (message : String) : Printed := toned .warning message

/-- What is shown of a cell or a title that is markup. -/
def shownOf (markup : String) : Except Markup.Fault String :=
  match Markup.fault? markup.toList with
  | some fault => .error fault
  | none => .ok (plainText markup)

/-- A table whose cells are markup. -/
def tableOf (title : String) (header : List String) (rows : List (List String)) :
    Except Markup.Fault Printed := do
  let rows ← rows.mapM fun row => row.mapM shownOf
  pure (.table title header rows)

/-- A panel whose title and cells are markup. -/
def panelOf (title : String) (rows : List (List String)) : Except Markup.Fault Printed := do
  let title ← shownOf title
  let rows ← rows.mapM fun row => row.mapM shownOf
  pure (.panel title rows)

end Printed

end Scaffold.Console
