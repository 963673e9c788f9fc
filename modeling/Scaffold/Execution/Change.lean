import Scaffold.Catalog.Instruction
import Scaffold.Disk.Tree
import Scaffold.Edit.Splice
import Scaffold.Edit.Tag
import Scaffold.Failure

/-!
# Changes

What an instruction does to its file: it makes the file, removes it, or edits its text. An edit
reads the whole text and writes the whole text, and one that finds nothing to edit writes nothing.
-/

namespace Scaffold

/-- What is to be done to a file. An edit has no result for a text in which it finds nothing to
edit. -/
inductive Change
  | create (content : List Char)
  | delete
  | edit (f : List Char → Option (List Char))

/-- The text of a field, which is empty if the field is not given. -/
def textOf (field : Option String) : List Char := (field.getD "").toList

/-- The change that an instruction asks for. -/
def Instruction.change (i : Instruction) : Change :=
  let content := textOf i.content
  let pattern := textOf i.pattern
  match i.action with
  | .createFile => .create content
  | .deleteFile => .delete
  | .insertImport => .edit fun t => some (Edit.insertImport content t)
  | .insertAfter => .edit (Edit.insertAfter pattern content)
  | .insertBefore => .edit (Edit.insertBefore pattern content)
  | .replaceContent => .edit (Edit.replaceContent pattern (textOf i.replacement))
  | .appendToFile => .edit fun t => some (Edit.append content t)
  | .insertProp =>
    .edit
      (Edit.insertProp (textOf i.componentName)
        (Edit.attributeText (textOf i.propName) (i.propValue.map String.toList)))

/-- Why a change was not made: for a cause that concerns the instruction, or because the disk could
not even be asked. -/
inductive ChangeFault
  | refused (cause : InstructionCause)
  | stopped (e : DiskError)

namespace Change

/-- Writes the text of a file. -/
def write (p : Path) (t : List Char) (d : Disk) : Except ChangeFault Bool × Disk :=
  match d.saveText p t with
  | (.ok (), d) => (.ok true, d)
  | (.error .nullCharacter, d) => (.error (.stopped .nullCharacter), d)
  | (.error e, d) => (.error (.refused (.unwritable e)), d)

/-- Removes a file, if there is one. -/
def remove (p : Path) (d : Disk) : Except ChangeFault Bool × Disk :=
  match d.holds p with
  | .error e => (.error (.stopped e), d)
  | .ok false => (.ok false, d)
  | .ok true =>
    match d.removeFile p with
    | .error e => (.error (.refused (.unwritable e)), d)
    | .ok d => (.ok true, d)

/-- Reads the text of a file that has to be there. -/
def read (p : Path) (d : Disk) : Except ChangeFault (List Char) :=
  match d.isFile p with
  | .error e => .error (.stopped e)
  | .ok false => .error (.refused .fileNotFound)
  | .ok true =>
    match d.readText p with
    | .error e => .error (.refused (.unreadable e))
    | .ok t => .ok t

/-- Makes a change to the file at a path, and tells whether anything was written or removed. -/
def apply (c : Change) (p : Path) (d : Disk) : Except ChangeFault Bool × Disk :=
  match c with
  | .create content => write p content d
  | .delete => remove p d
  | .edit f =>
    match read p d with
    | .error e => (.error e, d)
    | .ok t =>
      match f t with
      | none => (.ok false, d)
      | some t => write p t d

end Change

end Scaffold
