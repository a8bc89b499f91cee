import ChildWatch.Files.Path

/-! # Where configurations are looked for

* `Environment` — the variables of a process.
* `SearchPath.of` — the paths that are tried, in order. -/

namespace ChildWatch

/-- The variables of a process, with their values. -/
abbrev Environment := List (String × String)

/-- The value of a variable. -/
def Environment.get? (env : Environment) (name : String) : Option String :=
  (env.find? (·.1 == name)).map (·.2)

namespace SearchPath

/-- The variable that names a configuration file. -/
def fileVariable : String := "PROCWATCH_CONFIG"

/-- The variable that names the directory of configurations. -/
def directoryVariable : String := "XDG_CONFIG_HOME"

/-- The variable that names the home directory. -/
def homeVariable : String := "HOME"

/-- A value that is not empty. -/
def filled (value : Option String) : Option String := value.filter (· != "")

/-- The home directory: the one of the variable, or else the user's by the system's records. -/
def home (env : Environment) (recorded : String) : String :=
  (filled (env.get? homeVariable)).getD recorded

/-- The directory of configurations: the one of the variable if it starts at the root, or else one in
the home directory. -/
def directory (env : Environment) (recorded : String) : String :=
  match env.get? directoryVariable with
  | some dir => if Path.isAbsolute dir then dir else Path.join (home env recorded) ".config"
  | none => Path.join (home env recorded) ".config"

/-- **The paths that are tried**: the file of the variable, the one in the directory of
configurations, and the one in the current directory. -/
def of (env : Environment) (recorded current : String) : List String :=
  (filled (env.get? fileVariable)).toList ++
    [Path.join (Path.join (directory env recorded) "procwatch") "config.toml",
      Path.join current "procwatch.toml"]

end SearchPath

end ChildWatch
