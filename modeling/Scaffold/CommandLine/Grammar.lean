import Scaffold.Text.Integer
import Scaffold.Text.Quoted

/-!
# The grammar of command lines

How the words of a command line are understood: which of them name options, by a full name or by a
beginning that only one option has; which of them are values; and which are operands. Words after a
double dash are never options. Words that fit nowhere are kept as extra words.
-/

namespace Scaffold.CommandLine

/-- What an option asks for. -/
inductive OptionKind
  | help
  | switch
  | text
  | integer
  deriving DecidableEq, Repr

/-- An option, known by its names. -/
structure Opt where
  names : List String
  kind : OptionKind
  isRequired : Bool
  deriving DecidableEq, Repr

/-- What the words that are not options may be: one word, one word or none, or a command and all
words after it. -/
inductive Operand
  | one (name : String)
  | optional (name : String)
  | command (name : String) (choices : List String)
  deriving DecidableEq, Repr

/-- A grammar, with the name that its complaints begin with. -/
structure Grammar where
  program : String
  options : List Opt
  operand : Operand
  deriving DecidableEq, Repr

/-- Why the words are not carried out: help is asked for, or they are not understood. -/
inductive Stop
  | help
  | misuse (program message : String)
  deriving DecidableEq, Repr

/-- The value of an option. -/
inductive Setting
  | on
  | text (s : String)
  | integer (n : Int)
  deriving DecidableEq, Repr

/-- What the words of a command line come to. Of an option that is given twice, the later setting
stands first. -/
structure Parsed where
  settings : List (Opt × Setting)
  operand : Option (List String)
  extras : List String
  deriving DecidableEq, Repr

/-- Nothing parsed yet. -/
def Parsed.empty : Parsed := ⟨[], none, []⟩

/-- An option as complaints name it: by all its names. -/
def Opt.shown (o : Opt) : String := "/".intercalate o.names

/-- Whether a value follows an option. -/
def Opt.takesValue (o : Opt) : Bool := o.kind = .text || o.kind = .integer

/-- The option that asks for help. -/
def helpOption : Opt := ⟨["-h", "--help"], .help, false⟩

/-- What is said of a word about an option: which option it is, by which name, and the value that is
part of the word. -/
structure Mention where
  option : Opt
  name : String
  value : Option String
  deriving DecidableEq, Repr

/-- A word of a command line. -/
inductive Word
  | plain (s : String)
  | doubleDash
  | option (s : String) (mention : Option Mention)
  deriving DecidableEq, Repr

/-- A word as it was written. -/
def Word.text : Word → String
  | .plain s => s
  | .doubleDash => "--"
  | .option s _ => s

/-- A text cut at its first equals sign. -/
def atEquals? (s : String) : Option (String × String) :=
  let t := s.toList
  let name := t.takeWhile (· ≠ '=')
  match t.drop name.length with
  | _ :: value => some (String.ofList name, String.ofList value)
  | [] => none

/-- Whether a word is a number below zero, which is no option. -/
def isNegativeNumber (t : List Char) : Bool :=
  let isDigit (c : Char) : Bool := (Text.digitValue? c).isSome
  match t with
  | '-' :: t =>
    let t := if t.getLast? = some '\n' then t.dropLast else t
    let whole := t.takeWhile isDigit
    match t.drop whole.length with
    | [] => whole ≠ []
    | '.' :: fraction => fraction ≠ [] && fraction.all isDigit
    | _ => false
  | _ => false

namespace Grammar

/-- All names of options, each with its option. -/
def names (g : Grammar) : List (String × Opt) :=
  g.options.flatMap fun o => o.names.map fun name => (name, o)

/-- A complaint. -/
def misuse {α : Type} (g : Grammar) (message : String) : Except Stop α :=
  .error (.misuse g.program message)

/-- A complaint about an option or operand. -/
def misuseOf {α : Type} (g : Grammar) (name message : String) : Except Stop α :=
  g.misuse ("argument " ++ name ++ ": " ++ message)

/-- The options that a word may mean whose full name it is not: those of which it is the beginning,
and the one whose letter it starts with. -/
def mentions (g : Grammar) (s : String) : List Mention :=
  match s.toList with
  | '-' :: '-' :: _ =>
    let (start, value) :=
      match atEquals? s with
      | some (start, value) => (start, some value)
      | none => (s, none)
    (g.names.filter fun (name, _) => name.startsWith start).map fun (name, o) => ⟨o, name, value⟩
  | '-' :: c :: rest =>
    g.names.filterMap fun (name, o) =>
      if name = String.ofList ['-', c] then some ⟨o, name, some (String.ofList rest)⟩
      else if name.startsWith s then some ⟨o, name, none⟩
      else none
  | _ => []

/-- What a word is that stands before any double dash. -/
def classify (g : Grammar) (s : String) : Except Stop Word :=
  match s.toList with
  | '-' :: c :: rest =>
    match g.names.lookup s with
    | some o => .ok (.option s (some ⟨o, s, none⟩))
    | none =>
      match (atEquals? s).bind fun (name, value) =>
        (g.names.lookup name).map fun o => Mention.mk o name (some value) with
      | some m => .ok (.option s (some m))
      | none =>
        match g.mentions s with
        | [m] => .ok (.option s (some m))
        | [] =>
          if isNegativeNumber ('-' :: c :: rest) || (c :: rest).contains ' ' then .ok (.plain s)
          else .ok (.option s none)
        | ms =>
          g.misuse
            ("ambiguous option: " ++ s ++ " could match "
              ++ ", ".intercalate (ms.map Mention.name))
  | _ => .ok (.plain s)

/-- What the words of a command line are. -/
def classifyAll (g : Grammar) : List String → Except Stop (List Word)
  | [] => .ok []
  | s :: rest =>
    if s = "--" then .ok (.doubleDash :: rest.map Word.plain)
    else do
      let word ← g.classify s
      let later ← g.classifyAll rest
      .ok (word :: later)

/-- The options of a word in which letters of options may follow one another: those that are done
with, and the last one with its value, if that is part of the word. -/
def expand (g : Grammar) (o : Opt) (name : String) (value : List Char) :
    Except Stop (List Opt × Opt × Option String) :=
  if o.takesValue then .ok ([], o, some (String.ofList value))
  else
    let refuse :=
      g.misuseOf o.shown ("ignored explicit argument " ++ Text.quoted (String.ofList value))
    match value with
    | [] => refuse
    | c :: rest =>
      if name.startsWith "--" then refuse
      else
        match g.names.lookup (String.ofList ['-', c]) with
        | none => refuse
        | some next =>
          if rest = [] then .ok ([o], next, none)
          else
            (g.expand next (String.ofList ['-', c]) rest).map fun (done, last, value) =>
              (o :: done, last, value)

/-- The options that a word is about. -/
def optionsOf (g : Grammar) (m : Mention) : Except Stop (List Opt × Opt × Option String) :=
  match m.value with
  | none => .ok ([], m.option, none)
  | some value => g.expand m.option m.name value.toList

/-- The setting that a text gives to an option. -/
def settingOf (g : Grammar) (o : Opt) (value : String) : Except Stop Setting :=
  match o.kind with
  | .integer =>
    match Text.integer? value.toList with
    | some n => .ok (.integer n)
    | none => g.misuseOf o.shown ("invalid int value: " ++ Text.quoted value)
  | _ => .ok (.text value)

/-- Switches an option on. -/
def switchOn (p : Parsed) (o : Opt) : Except Stop Parsed :=
  if o.kind = .help then .error .help else .ok { p with settings := (o, .on) :: p.settings }

/-- Sets an option to a value. -/
def set (g : Grammar) (p : Parsed) (o : Opt) (value : String) : Except Stop Parsed :=
  (g.settingOf o value).map fun s => { p with settings := (o, s) :: p.settings }

/-- Takes in words. An option without its value takes the next word, if that is plain; the operand
is the first word left over. -/
def run (g : Grammar) (p : Parsed) : List Word → Except Stop Parsed
  | [] => .ok p
  | .option s none :: rest => g.run { p with extras := p.extras ++ [s] } rest
  | .option _ (some m) :: rest => do
    let (before, last, value) ← g.optionsOf m
    match value with
    | some value =>
      let p ← before.foldlM switchOn p
      g.run (← g.set p last value) rest
    | none =>
      if last.takesValue then
        match rest with
        | .plain value :: rest =>
          let p ← before.foldlM switchOn p
          g.run (← g.set p last value) rest
        | _ => g.misuseOf last.shown "expected one argument"
      else
        let p ← before.foldlM switchOn p
        g.run (← switchOn p last) rest
  | .plain s :: rest =>
    match p.operand, g.operand with
    | some _, _ => g.run { p with extras := p.extras ++ [s] } rest
    | none, .command _ _ => .ok { p with operand := some (s :: rest.map Word.text) }
    | none, _ =>
      match rest with
      | .doubleDash :: rest => g.run { p with operand := some [s] } rest
      | rest => g.run { p with operand := some [s] } rest
  | .doubleDash :: rest =>
    match p.operand, g.operand, rest with
    | none, .command _ _, _ :: _ => .ok { p with operand := some ("--" :: rest.map Word.text) }
    | none, .one _, .plain s :: rest => g.run { p with operand := some [s] } rest
    | none, .optional _, .plain s :: rest => g.run { p with operand := some [s] } rest
    | none, .optional _, [] => .ok { p with operand := some [] }
    | _, _, rest => g.run { p with extras := p.extras ++ ["--"] } rest

/-- What is required and has not been given, as complaints name it. -/
def missing (g : Grammar) (p : Parsed) : List String :=
  let operand :=
    match g.operand, p.operand with
    | .one name, none => [name]
    | .command name _, none => [name]
    | _, _ => []
  let options := g.options.filter fun o => o.isRequired && (p.settings.lookup o).isNone
  operand ++ options.map Opt.shown

/-- Parses the words of a command line. -/
def parse (g : Grammar) (words : List String) : Except Stop Parsed := do
  let p ← g.run .empty (← g.classifyAll words)
  match g.missing p with
  | [] => .ok p
  | names => g.misuse ("the following arguments are required: " ++ ", ".intercalate names)

end Grammar

end Scaffold.CommandLine
