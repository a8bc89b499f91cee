import ChildWatch.Machine.Basic
import ChildWatch.Shell.Test

/-! # Loading programs

* `Machine.lookUp` — the program that a name leads to, or why it leads to none.
* `Machine.load` — the program of an argument list, about to begin. -/

namespace ChildWatch.Machine

open Shell

/-- The names of the shell. -/
def shellNames : List String := ["sh", "dash"]

/-- The names of the programs that tell whether a condition holds. -/
def testNames : List String := ["test", "["]

/-- The name of the program that lists directories. -/
def listName : String := "ls"

/-- Where programs are looked for if nothing is said about it. -/
def standardPath : String := "/usr/local/sbin:/usr/local/bin:/usr/sbin:/usr/bin:/sbin:/bin"

/-- The variable that says where programs are looked for. -/
def pathVariable : String := "PATH"

/-- The files as a process sees them. -/
def filesOf (m : Machine) (p : Process) : FileTree := { m.files with current := p.directory }

/-- The program at a path. -/
def programAt (files : FileTree) (path : String) : Except IoError String :=
  match files.find path with
  | .ok (place, .file _ true) => .ok (place.getLast?.getD "")
  | .ok _ => .error .permissionDenied
  | .error e => .error e

/-- The directories of a list of them. -/
def directories (list : String) : List String := list.splitOn ":"

/-- The first of some directories that holds a program. A program that may not be run is passed over,
but if there is no other, that is what is reported. -/
def search (files : FileTree) (name : String) : List String → Except IoError String
  | [] => .error .noSuchFile
  | dir :: rest =>
    match programAt files (Path.join dir name) with
    | .ok found => .ok found
    | .error e =>
      match search files name rest with
      | .ok found => .ok found
      | .error later =>
        if e = .permissionDenied || later = .permissionDenied then .error .permissionDenied
        else .error later

/-- **The program that a name leads to.** A name with a slash in it is a path; any other is looked for
in the directories of the variable. -/
def lookUp (files : FileTree) (env : Environment) (name : String) : Except IoError String :=
  if name.toList.contains '/' then programAt files name
  else if name.isEmpty then .error .noSuchFile
  else if FileTree.maxName < name.utf8ByteSize then .error .nameTooLong
  else search files name (directories ((env.get? pathVariable).getD standardPath))

/-- What conditions can ask about the files. -/
def testFiles (files : FileTree) : Test.Files where
  exists? path := (files.find path).toBool
  isFile := files.isFile
  isDirectory path :=
    match files.find path with
    | .ok (_, .directory) => true
    | _ => false
  isFilled path :=
    match files.read path with
    | .ok bytes => !bytes.isEmpty
    | .error _ => false
  isRunnable path := (programAt files path).toBool

/-- A shell that is about to run a script. -/
def interpreter (name : String) (params : List String) (env : Environment) (pid parent : Nat)
    (directory source : String) (options : Options) : Interpreter where
  scope :=
    { name := name
      params := params
      bindings := Variables.set (Variables.set env "PWD" directory) "PPID" (toString parent)
      exported := env.map (·.1)
      status := 0
      pid := pid
      lastJob := none
      options := options }
  functions := []
  traps := []
  pending := []
  collected := none
  line := 1
  isCopy := false
  ending := false
  tasks := [.read (Token.scan source)]

/-- The shell of an argument list: its script is an argument, or in a file. With neither there is
nothing to do. -/
def shellOf (m : Machine) (p : Process) (name : String) (args : List String) (env : Environment) :
    Program :=
  let refuse := fun message =>
    Program.tool ⟨name, [], Text.Utf8.encode (name ++ ": 0: " ++ message ++ "\n"), .finish 2⟩
  match Options.read .off false args with
  | .error message => refuse message
  | .ok front =>
    let start := fun name params source =>
      Program.shell (interpreter name params env p.pid p.parent p.directoryPath source front.options)
    match front.takesScript, front.rest.getD [] with
    | true, [] => refuse "-c requires an argument"
    | true, [source] => start name [] source
    | true, source :: name :: params => start name params source
    | false, [] => start name [] ""
    | false, file :: params =>
      match (filesOf m p).read file with
      | .ok bytes => start file params (Text.Utf8.decodeLossy bytes)
      | .error _ => refuse ("cannot open " ++ file ++ ": No such file")

/-- The tool that tells whether a condition holds. -/
def testTool (files : FileTree) (name : String) (args : List String) : Tool :=
  let words := if name = "[" then args.dropLast else args
  if name = "[" && args.getLast? ≠ some "]" then Tool.failing name "missing ‘]’" 2
  else
    match Test.evaluate (testFiles files) words with
    | .ok b => ⟨name, [], [], .finish (if b then 0 else 1)⟩
    | .error e => Tool.failing name e 2

/-- The names of a directory that are shown, a line each: those that start with a dot only if asked
for. -/
def shownNames (files : FileTree) (hidden : Bool) (place : List String) : String :=
  String.join (((files.namesIn place).filter fun name => hidden || !name.startsWith ".").map (· ++ "\n"))

/-- The tool that lists the names in directories. Files come first, then each directory, under its
path if there is anything else. -/
def listTool (files : FileTree) (args : List String) : Tool :=
  let isOption (a : String) : Bool := a.startsWith "-" && a.length > 1
  let hidden := args.any fun a => isOption a && (a.toList.contains 'a' || a.toList.contains 'A')
  let named := args.filter fun a => !isOption a
  let wanted := if named.isEmpty then ["."] else named.mergeSort fun a b => decide (a ≤ b)
  let faults := wanted.filterMap fun path =>
    match files.find path with
    | .ok _ => none
    | .error e => some ("ls: cannot access '" ++ path ++ "': " ++ e.reason ++ "\n")
  let plain := wanted.filter files.isFile
  let groups := wanted.filterMap fun path =>
    match files.find path with
    | .ok (place, .directory) =>
      some ((if wanted.length = 1 then "" else path ++ ":\n") ++ shownNames files hidden place)
    | _ => none
  let first := if plain.isEmpty then [] else [String.join (plain.map (· ++ "\n"))]
  ⟨"ls", Text.Utf8.encode ("\n".intercalate (first ++ groups)), Text.Utf8.encode (String.join faults),
    .finish (if faults.isEmpty then 0 else 2)⟩

/-- **The program of an argument list**, with the variables it is given, for a process to run. -/
def load (m : Machine) (p : Process) (argv : List String) (env : Environment) :
    Except IoError Program := do
  let name := argv.headD ""
  let found ← lookUp (filesOf m p) env name
  let args := argv.drop 1
  if shellNames.contains found then .ok (shellOf m p name args env)
  else if found = listName then .ok (.tool (listTool (filesOf m p) args))
  else if testNames.contains found then .ok (.tool (testTool (filesOf m p) found args))
  else
    match Tool.ofArguments? found args env p.directoryPath with
    | some tool => .ok (.tool tool)
    | none => .error .noSuchFile

end ChildWatch.Machine
