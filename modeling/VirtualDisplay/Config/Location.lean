import VirtualDisplay.Config.Text
import VirtualDisplay.Files.Tree

/-! Where a client keeps its settings, and how it gets at them. -/

namespace VirtualDisplay

open Files

inductive ConfigError
  | noDirectory
  | io (path : Path)
  | parse
  | serialize
  deriving DecidableEq

namespace ConfigError

/-- The wording. The reports of the file system, the reader and the writer are left to them, `...`. -/
def message : ConfigError → String
  | noDirectory => "could not determine platform config directory"
  | io path => "I/O error accessing config at " ++ path.text ++ ": ..."
  | parse => "failed to parse config TOML: ..."
  | serialize => "failed to serialize config: ..."

end ConfigError

structure Environment where
  configHome : Option Path := none
  home : Option Path := none

namespace ClientConfig

/-- The file of the settings, in the directory for settings or else in the hidden one at home. -/
def location (env : Environment) : Except ConfigError Path :=
  match env.configHome.or (env.home.map (·.join ".config")) with
  | none => .error .noDirectory
  | some dir => .ok ((dir.join "virtual-display-driver").join "config.toml")

def load (path : Path) (t : Tree) : Except ConfigError ClientConfig :=
  match t.readText path with
  | .error .missing => .ok {}
  | .error .refused => .error (.io path)
  | .ok s => match ofText? s with
    | some c => .ok c
    | none => .error .parse

def save (path : Path) (c : ClientConfig) : Edit Tree (Except ConfigError Unit) := fun t =>
  let dir := path.parent?.filter (·.text ≠ "")
  match (dir.map fun dir => Tree.makeDirectories dir t).getD (.ok (), t) with
  | (.error _, t) => (.error (.io (dir.getD path)), t)
  | (.ok (), t) => match c.text? with
    | none => (.error .serialize, t)
    | some s => match Tree.write path (.text s) t with
      | (.error _, t) => (.error (.io path), t)
      | (.ok (), t) => (.ok (), t)

def loadHere (env : Environment) (t : Tree) : Except ConfigError ClientConfig := do
  load (← location env) t

def saveHere (env : Environment) (c : ClientConfig) : Edit Tree (Except ConfigError Unit) := fun t =>
  match location env with
  | .error e => (.error e, t)
  | .ok path => save path c t

end ClientConfig
end VirtualDisplay
