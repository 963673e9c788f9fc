import Scaffold.Clock
import Scaffold.Console.Printed
import Scaffold.Failure

/-!
# Jobs

A job runs on a site: the disk, the clock, and what has been printed so far. It comes to a result or
stops with a failure, and in both cases leaves the site as it then is: nothing is taken back.
-/

namespace Scaffold

open Console

/-- What a job runs on. -/
structure Site where
  disk : Disk
  clock : Clock
  printed : List Printed
  deriving Repr

/-- A computation on a site that may stop with a failure. -/
abbrev Job (α : Type) : Type := ExceptT Failure (StateM Site) α

namespace Job

/-- The outcome of a job on a site, and the site after it. -/
def outcome {α : Type} (j : Job α) (s : Site) : Except Failure α × Site := j.run s

/-- A look at the disk. -/
def look {α : Type} (f : Disk → α) : Job α := fun s => (.ok (f s.disk), s)

/-- A computation on the disk. -/
def onDisk {α : Type} (f : Disk → Except Failure α × Disk) : Job α := fun s =>
  let (result, d) := f s.disk
  (result, { s with disk := d })

/-- The time by the clock. -/
def time : Job Int := fun s =>
  let (now, clock) := s.clock.read
  (.ok now, { s with clock })

/-- Prints. -/
def print (lines : List Printed) : Job Unit := fun s =>
  (.ok (), { s with printed := s.printed ++ lines })

/-- A result that may be a failure. -/
def ofExcept {α : Type} (x : Except Failure α) : Job α := fun s => (x, s)

/-- Prints what is given as markup, unless the markup has a fault. -/
def printMarkup (p : Except Markup.Fault Printed) : Job Unit := fun s =>
  match p with
  | .ok p => print [p] s
  | .error fault => (.error (.markup fault), s)

/-- The job with its failure as a result, if it is one of those singled out. -/
def catching {α : Type} (isCaught : Failure → Bool) (j : Job α) : Job (Except Failure α) := fun s =>
  match j s with
  | (.ok a, s) => (.ok (.ok a), s)
  | (.error e, s) => if isCaught e then (.ok (.error e), s) else (.error e, s)

end Job

end Scaffold
