import Scaffold.CommandLine.Grammar

/-!
# Commands

The commands of the program and their options, and what a command line asks for.
-/

namespace Scaffold.CommandLine

/-- The name of the program. -/
def programName : String := "modforge"

/-- What the command that installs modules is asked for. -/
structure ApplyRequest where
  root : String
  template : String
  modules : String
  projectName : Option String
  verbose : Bool
  keepsModules : Bool
  deriving DecidableEq, Repr

/-- What the command that shows the log is asked for. -/
structure LogsRequest where
  hash : Option String
  onlyFailed : Bool
  project : Option String
  module : Option String
  clears : Bool
  days : Option Int
  deriving DecidableEq, Repr

/-- A command. -/
inductive Command
  | apply (r : ApplyRequest)
  | logs (r : LogsRequest)
  deriving DecidableEq, Repr

/-- What a command line asks for. -/
structure Invocation where
  logDirectory : Option String
  command : Command
  deriving DecidableEq, Repr

/-- A switch. -/
def switch (names : List String) : Opt := ⟨names, .switch, false⟩

/-- An option with a text. -/
def textOption (names : List String) : Opt := ⟨names, .text, false⟩

/-- The option for the directory of the log. -/
def logDirectoryOption : Opt := textOption ["--log-dir"]

/-- The option for the template. -/
def templateOption : Opt := ⟨["--template", "-t"], .text, true⟩

/-- The option for the modules. -/
def modulesOption : Opt := textOption ["--modules", "-m"]

/-- The option for the name of the project. -/
def projectNameOption : Opt := textOption ["--project-name"]

/-- The option that shows every condition. -/
def verboseOption : Opt := switch ["--verbose", "-v"]

/-- The option that keeps the directory of the catalogs. -/
def keepOption : Opt := switch ["--keep-modules-dir"]

/-- The option that lists the log, as is done anyway. -/
def listOption : Opt := switch ["--list"]

/-- The option that narrows a listing to failures. -/
def failedOption : Opt := switch ["--failed"]

/-- The option that narrows a listing by project. -/
def projectOption : Opt := textOption ["--project"]

/-- The option that narrows a listing by module. -/
def moduleOption : Opt := textOption ["--module"]

/-- The option that removes old records. -/
def clearOption : Opt := switch ["--clear"]

/-- The option for the age of old records. -/
def daysOption : Opt := ⟨["--days"], .integer, false⟩

/-- The words for the commands. -/
def commandWords : List String := ["apply", "logs"]

/-- The grammar of the whole command line. -/
def mainGrammar : Grammar :=
  ⟨programName, [helpOption, logDirectoryOption], .command "command" commandWords⟩

/-- The grammar of the command that installs modules. -/
def applyGrammar : Grammar :=
  ⟨programName ++ " apply",
    [helpOption, templateOption, modulesOption, projectNameOption, verboseOption, keepOption],
    .one "project_root"⟩

/-- The grammar of the command that shows the log. -/
def logsGrammar : Grammar :=
  ⟨programName ++ " logs",
    [helpOption, listOption, failedOption, projectOption, moduleOption, clearOption, daysOption],
    .optional "hash"⟩

/-- All grammars, that of the whole command line first. -/
def grammars : List Grammar := [mainGrammar, applyGrammar, logsGrammar]

namespace Parsed

/-- Whether an option is switched on. -/
def isOn (p : Parsed) (o : Opt) : Bool := (p.settings.lookup o).isSome

/-- The text of an option. -/
def text? (p : Parsed) (o : Opt) : Option String :=
  match p.settings.lookup o with
  | some (.text s) => some s
  | _ => none

/-- The number of an option. -/
def integer? (p : Parsed) (o : Opt) : Option Int :=
  match p.settings.lookup o with
  | some (.integer n) => some n
  | _ => none

/-- The operand, if it is given. -/
def operand? (p : Parsed) : Option String := p.operand.bind List.head?

end Parsed

/-- The request that installs modules. -/
def ApplyRequest.ofParsed (p : Parsed) : ApplyRequest where
  root := p.operand?.getD ""
  template := (p.text? templateOption).getD ""
  modules := (p.text? modulesOption).getD ""
  projectName := p.text? projectNameOption
  verbose := p.isOn verboseOption
  keepsModules := p.isOn keepOption

/-- The request that shows the log. -/
def LogsRequest.ofParsed (p : Parsed) : LogsRequest where
  hash := p.operand?
  onlyFailed := p.isOn failedOption
  project := p.text? projectOption
  module := p.text? moduleOption
  clears := p.isOn clearOption
  days := p.integer? daysOption

/-- The command of a word, with the words after it; besides, the words that fit nowhere. -/
def parseCommand (word : String) (words : List String) : Except Stop (Command × List String) :=
  if word = "apply" then
    (applyGrammar.parse words).map fun p => (.apply (.ofParsed p), p.extras)
  else if word = "logs" then
    (logsGrammar.parse words).map fun p => (.logs (.ofParsed p), p.extras)
  else
    mainGrammar.misuseOf "command"
      ("invalid choice: " ++ Text.quoted word ++ " (choose from "
        ++ ", ".intercalate (commandWords.map Text.quoted) ++ ")")

/-- What the words of a command line ask for. -/
def parse (words : List String) : Except Stop Invocation := do
  let p ← mainGrammar.parse words
  match p.operand with
  | some (word :: words) =>
    let (command, extras) ← parseCommand word words
    match p.extras ++ extras with
    | [] => .ok ⟨p.text? logDirectoryOption, command⟩
    | extras => mainGrammar.misuse ("unrecognized arguments: " ++ " ".intercalate extras)
  | _ => mainGrammar.misuse "the following arguments are required: command"

end Scaffold.CommandLine
