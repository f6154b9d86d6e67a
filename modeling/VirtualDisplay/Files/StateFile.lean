import VirtualDisplay.Files.Tree
import VirtualDisplay.Json.Writer
import VirtualDisplay.Record.Loose

/-! A driver state kept in a file. It is written to a file beside it first and then moved into place,
so that at no time half a state stands under the path. -/

namespace VirtualDisplay

open Files

inductive StorageError
  | io (path : Path)
  | parse (path : Path) (fault : RecordError)
  deriving DecidableEq

namespace StorageError

/-- The wording. The report of the file system is left to it, `...`. -/
def message : StorageError → String
  | io path => "I/O error accessing state file " ++ path.text ++ ": ..."
  | parse path fault => "state file " ++ path.text ++ " is invalid: " ++ fault.message

end StorageError

namespace StateFile

def text (s : DriverState) : String := String.ofList (DriverState.toValue s).pretty

def load (path : Path) (t : Tree) : Except StorageError DriverState :=
  match t.readText path with
  | .error .missing => .ok []
  | .error .refused => .error (.io path)
  | .ok s => (Loose.ofText Loose.monitors s).mapError (.parse path)

def temporary (path : Path) : Path := path.withExtension "json.tmp"

def prepare (path : Path) : Edit Tree (Except StorageError Unit) := fun t =>
  match path.parent?.filter (·.text ≠ "") with
  -- a bare name stands in the working directory
  | none => (.ok (), t)
  | some dir =>
    let r := Tree.makeDirectories dir t
    (r.1.mapError fun _ => .io dir, r.2)

def writeTemporary (path : Path) (s : DriverState) : Edit Tree (Except StorageError Unit) := fun t =>
  let r := Tree.write (temporary path) (.text (text s)) t
  (r.1.mapError fun _ => .io (temporary path), r.2)

def moveIntoPlace (path : Path) : Edit Tree (Except StorageError Unit) := fun t =>
  let r := Tree.rename (temporary path) path t
  (r.1.mapError fun _ => .io path, r.2)

def andThen (a b : Edit Tree (Except StorageError Unit)) : Edit Tree (Except StorageError Unit) :=
  fun t => match a t with
    | (.ok (), t) => b t
    | (.error e, t) => (.error e, t)

def save (path : Path) (s : DriverState) : Edit Tree (Except StorageError Unit) :=
  andThen (prepare path) (andThen (writeTemporary path s) (moveIntoPlace path))

end StateFile
end VirtualDisplay
