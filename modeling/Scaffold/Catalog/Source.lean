import Scaffold.Catalog.Instruction
import Scaffold.Catalog.Template
import Scaffold.Document.Yaml.Reader
import Scaffold.Failure
import Scaffold.Text.Lowercase

/-!
# Catalogs on disk

Reading templates, catalogs of templates and catalogs of instructions from files. The ending of a
file tells its format: YAML, or JSON for all other endings. What is wrong with a file or with its
document is a failure of the catalog, named by the path of the file.
-/

namespace Scaffold

open Document Schema

/-- The formats of documents. -/
inductive Format
  | json
  | yaml
  deriving DecidableEq, Repr

/-- The format that the ending of a file tells. -/
def Format.ofPath (p : Path) : Format :=
  let ending := Text.lower p.ending.toList
  if ending = ".yaml".toList ∨ ending = ".yml".toList then .yaml else .json

/-- How far the readers of documents can go until the stack of the process is used up: how deeply lists
and maps may be nested in a text of either format, and how many maps may stand for one another in a
chain. What is left of the stack when a document is read is a matter of the whole program. -/
structure Room where
  json : Nat
  yaml : Nat
  chain : Nat
  deriving DecidableEq, Repr

/-- The room that the stack usually leaves: it holds a thousand calls, and two calls are made for each
list or map of a YAML text. -/
def Room.usual : Room := ⟨986, 487, 978⟩

/-- The document that a text stands for in a format. -/
def Format.parse (room : Room) (source : String) (t : List Char) : Format → Except Failure Value
  | .json =>
    match Json.readWithin (.all room.json) t with
    | .ok v => .ok v
    | .error (.malformed fault position) =>
      let (line, column) := Json.lineAndColumn t position
      .error (.catalog source (.malformedJson fault position line column))
    | .error (.integerTooLong digits) => .error (.integerTooLong digits)
    | .error (.tooDeep container) => .error (.tooDeepToRead container)
  | .yaml =>
    match Yaml.read room.yaml room.chain t with
    | .ok v => .ok v
    | .error .malformed => .error (.catalog source .malformedYaml)
    | .error (.fault fault) => .error (.unreadableDocument fault)
    | .error .tooDeep => .error .tooDeepToFollow

/-- The document in the file at a path. -/
def Disk.readDocument (room : Room) (d : Disk) (p : Path) : Except Failure Value :=
  match d.holds p with
  | .error e => .error (.disk e)
  | .ok false => .error (.catalog p.text .notFound)
  | .ok true =>
    match d.readText p with
    | .error (.disk e) => .error (.catalog p.text (.unreadable e))
    | .error (.undecodable fault) => .error (.undecodable fault)
    | .ok t => (Format.ofPath p).parse room p.text t

/-- The template that a document describes. -/
def Template.ofDocument (source : String) (v : Value) : Except Failure Template :=
  match Template.read v with
  | .valid t => .ok t
  | .invalid problems => .error (.catalog source (.invalidTemplate problems))

/-- The catalog of instructions that a document describes. -/
def ModuleInstructions.ofDocument (source : String) (v : Value) :
    Except Failure ModuleInstructions :=
  match v with
  | .map _ =>
    match ModuleInstructions.read v with
    | .valid m => .ok m
    | .invalid problems => .error (.catalog source (.invalidInstructions problems))
  | _ => .error (.catalog source .notInstructions)

/-- The template in a file. -/
def Template.load (room : Room) (p : Path) (d : Disk) : Except Failure Template :=
  (d.readDocument room p).bind (Template.ofDocument p.text)

/-- The instructions of a module in the project at a path. -/
def ModuleInstructions.load (room : Room) (root : Path) (m : Module) (d : Disk) :
    Except Failure ModuleInstructions :=
  let p := root.join (Path.ofString m.path)
  (d.readDocument room p).bind (ModuleInstructions.ofDocument p.text)

/-- Templates by category. -/
abbrev TemplateCatalog : Type := Table String (List Template)

namespace TemplateCatalog

/-- Refuses a category whose name is a number that cannot be written out. -/
def checkCategory : Scalar → Except Failure Unit
  | .int n => (Text.decimal n).mapError Failure.unwritable *> .ok ()
  | _ => .ok ()

/-- The templates of one category. -/
def readCategory (source : String) (category : Scalar) (v : Value) :
    Except Failure (List Template) := do
  checkCategory category
  match v with
  | .list items => items.mapM (Template.ofDocument (source ++ "[" ++ category.text ++ "]"))
  | _ => .error (.catalog source (.notTemplates category))

/-- Reads categories into a catalog. A category of the same text as an earlier one takes its place.
-/
def addCategories (source : String) (c : TemplateCatalog) :
    Entries → Except Failure TemplateCatalog
  | [] => .ok c
  | (category, v) :: rest => do
    let templates ← readCategory source category v
    addCategories source (Table.insert c category.text templates) rest

/-- The catalog that a document describes. -/
def ofDocument (source : String) (v : Value) : Except Failure TemplateCatalog :=
  match v with
  | .map entries => addCategories source [] entries
  | _ => .error (.catalog source .notCategories)

/-- The catalog in a file. -/
def load (room : Room) (p : Path) (d : Disk) : Except Failure TemplateCatalog :=
  (d.readDocument room p).bind (ofDocument p.text)

/-- A catalog as a document: a list of pairs of a category and its templates. -/
def toValue (c : TemplateCatalog) : Value :=
  .list (c.map fun (category, templates) =>
    .list [.string category, .list (templates.map Template.toValue)])

end TemplateCatalog

end Scaffold
