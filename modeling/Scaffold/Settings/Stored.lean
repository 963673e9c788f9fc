import Scaffold.Document.Json.Printer
import Scaffold.Failure
import Scaffold.Schema.Text

/-!
# Stored settings

Settings as a file: one JSON document with every setting.
-/

namespace Scaffold.Settings

open Document Schema

/-- The text of the file that keeps settings. -/
def fileText (s : Settings) : List Char := Json.stored s.toValue

/-- Keeps settings in a file, after making the directories above it that are missing. -/
def save (s : Settings) (p : Path) (d : Disk) : Except Failure Path × Disk :=
  match d.saveText p s.fileText with
  | (.ok (), d) => (.ok p, d)
  | (.error e, d) => (.error (.disk e), d)

/-- Reads the settings in a file. -/
def load (home p : Path) (d : Disk) : Except Failure Settings :=
  match d.readText p with
  | .error (.disk e) => .error (.disk e)
  | .error (.undecodable fault) => .error (.undecodable fault)
  | .ok t => ((Settings.read home).fromText t).orFail recordName .json

end Scaffold.Settings
