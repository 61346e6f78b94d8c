import Stackwatch.Calendar
import Stackwatch.Json.Writer

/-!
# Delivery into a folder

Every batch becomes a file of its own, named after the second in which it was written. Batches of
one second are told apart by the number of batches before them, which counts failed ones too.
-/

namespace Stackwatch

/-- What stands at a path. -/
inductive Place where
  | nothing
  | file
  /-- A folder with the names and texts of its files, the latest one last. -/
  | folder (files : List (String × String))
  deriving DecidableEq, Repr, Inhabited

namespace Place

inductive Error where
  | notFound
  | exists
  | notAFolder
  | nameTooLong
  deriving DecidableEq, Repr, Inhabited

def Error.message : Error → String
  | .notFound => "No such file or directory (os error 2)"
  | .exists => "File exists (os error 17)"
  | .notAFolder => "Not a directory (os error 20)"
  | .nameTooLong => "File name too long (os error 36)"

/-- Writes a file; one of the same name is replaced. -/
def write (name text : String) : Place → Except Error Unit × Place
  | .nothing => (.error .notFound, .nothing)
  | .file => (.error .notAFolder, .file)
  | .folder files => (.ok (), .folder (files.filter (·.1 != name) ++ [(name, text)]))

end Place

/-- A folder into which batches are delivered. -/
structure Folder where
  path : String
  place : Place := .nothing
  /-- How many batches there were before. -/
  sequence : UInt64 := 0
  deriving DecidableEq, Repr, Inhabited

namespace Folder

/-- The number of the batch is left out for the first one. -/
def fileName (epochSeconds : Int) (sequence : UInt64) : String :=
  let stamp := Calendar.stamp epochSeconds
  if sequence = 0 then stamp ++ ".json" else stamp ++ "-" ++ toString sequence ++ ".json"

/-- The name of the next batch. -/
def nextName (epochSeconds : Int) (folder : Folder) : String :=
  fileName epochSeconds folder.sequence

/-- Writes a batch as a JSON array, in whatever way files are written there. Whether that succeeds
    or not, the number of the batch is used up. -/
def deliverBy {Error : Type} (write : String → String → Place → Except Error Unit × Place)
    (epochSeconds : Int) (batch : List Json) (folder : Folder) : Except Error Unit × Folder :=
  let (result, place) :=
    write (folder.nextName epochSeconds) (Json.array batch).text folder.place
  (result, { folder with place := place, sequence := folder.sequence + 1 })

/-- Writes a batch where a folder takes every file. -/
def deliver (epochSeconds : Int) (batch : List Json) (folder : Folder) :
    Except Place.Error Unit × Folder :=
  folder.deliverBy Place.write epochSeconds batch

end Folder

end Stackwatch
