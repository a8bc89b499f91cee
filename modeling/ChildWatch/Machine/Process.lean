import ChildWatch.Config.SearchPath
import ChildWatch.Machine.Tool
import ChildWatch.Session.State
import ChildWatch.Shell.Expansion
import ChildWatch.Shell.Script

/-! # Processes of the machine

* `Interpreter` — a shell at work, with what it still has to do.
* `Process` — a process: its place among the others, its descriptors, and the program it runs. -/

namespace ChildWatch.Machine

open Shell

/-- Something a shell still has to do. -/
inductive Task where
  /-- The commands of the tokens that are left. -/
  | read (tokens : List Placed)
  /-- A command. -/
  | run (c : Script)
  /-- A command, after descriptors have been led elsewhere for good. -/
  | lead (redirects : List Redirect) (line : Nat) (c : Script)
  /-- A command whose words have become texts. -/
  | obey (c : SimpleCommand) (argv : List String)
  /-- A command, if the one before it has succeeded. -/
  | both (c : Script)
  /-- A command, if the one before it has failed. -/
  | either (c : Script)
  /-- The outcome is turned round. -/
  | invert
  /-- One of two commands, by the outcome of the one before. -/
  | decide (yes no : Script)
  /-- The body of a loop, if its test has turned out so; and else the status that the loop leaves. -/
  | enter (whileTrue : Bool) (test body : Script) (status : Nat)
  /-- A loop, once more. -/
  | again (whileTrue : Bool) (test body : Script)
  /-- A loop over the values that are left. -/
  | values (name : String) (left : List String) (body : Script)
  /-- Descriptors put back to where they led before, which others have been kept for. -/
  | restore (saved : List (Nat × Option Nat))
  /-- Nothing, except that signals that have come are dealt with before it. -/
  | attend
  /-- Variables put back to what they were. -/
  | unassign (saved : List (String × Option String))
  /-- The end of a child, whose status becomes that of the shell if it is the last of its pipeline. -/
  | await (child : Nat) (last : Bool)
  /-- Bytes still to be printed by a command of the shell's own. -/
  | print (command : String) (descriptor : Nat) (bytes : List UInt8)
  /-- The output of a child, which fills a place in a command. -/
  | collect (child descriptor : Nat) (sofar : List UInt8) (c : Script)
  /-- The end of a function. -/
  | leave (params : List String)
  /-- The end of what a signal has set off. -/
  | resume (status : Nat)
  /-- The end of some children, or of all of them, unless a signal comes first. -/
  | waitFor (children : Option (List Nat))
  /-- A line of input, for the variables of some names. -/
  | readLine (raw : Bool) (names : List String) (sofar : List UInt8)

/-- A **shell at work**. -/
structure Interpreter where
  scope : Scope
  functions : List (String × Script)
  /-- What is done on a signal, or at the end for number zero. -/
  traps : List (Nat × String)
  /-- The signals that have come and not yet been dealt with. -/
  pending : List Nat
  /-- The status of the last script whose output was collected for the command under way. -/
  collected : Option Nat
  /-- The line of the command under way. -/
  line : Nat
  /-- Whether this is a copy of another shell, which may become the last program it runs. -/
  isCopy : Bool
  /-- Whether what is done at the end has been done. -/
  ending : Bool
  tasks : List Task

/-- The program that a process runs. -/
inductive Program where
  | shell (s : Interpreter)
  | tool (t : Tool)

/-- What a process is about. -/
inductive Condition where
  /-- Its next step is due at a time. -/
  | ready (time : Nat)
  /-- It waits for something to happen. -/
  | blocked
  /-- It has ended, and its parent has not asked how. -/
  | ended (status : ExitStatus)

/-- A **process**. A parent of number zero is one that asks no questions. A process that is stopped
takes no steps, and signals are held for it until it goes on. -/
structure Process where
  pid : Nat
  parent : Nat
  group : Nat
  descriptors : List (Nat × Nat)
  ignored : List Nat
  directory : List String
  environment : Environment
  condition : Condition
  stopped : Option (List Nat)
  program : Program

namespace Process

/-- Whether a process has ended. -/
def hasEnded (p : Process) : Bool :=
  match p.condition with
  | .ended _ => true
  | _ => false

/-- The process with a descriptor that leads to an open file. -/
def withDescriptor (p : Process) (descriptor file : Nat) : Process :=
  { p with
    descriptors := (descriptor, file) :: p.descriptors.filter fun d => d.1 != descriptor }

/-- The process without a descriptor. -/
def withoutDescriptor (p : Process) (descriptor : Nat) : Process :=
  { p with descriptors := p.descriptors.filter fun d => d.1 != descriptor }

/-- The open file that a descriptor leads to. -/
def file? (p : Process) (descriptor : Nat) : Option Nat :=
  (p.descriptors.find? (·.1 == descriptor)).map (·.2)

/-- The first descriptor that processes keep for themselves: programs that they become or run do not
have it, nor those after it. -/
def firstOwn : Nat := 10

/-- The least descriptor a process can keep for itself that leads nowhere. -/
def freeDescriptor (p : Process) : Nat :=
  ((List.range (p.descriptors.length + 1)).map fun n => n + firstOwn).find?
    (fun d => (p.file? d).isNone) |>.getD firstOwn

/-- The descriptors that a program has. -/
def sharedDescriptors (p : Process) : List (Nat × Nat) := p.descriptors.filter (·.1 < firstOwn)

/-- The directory as a path. -/
def directoryPath (p : Process) : String := "/" ++ "/".intercalate p.directory

/-- The process about to take its next step at a time. -/
def readyAt (p : Process) (time : Nat) : Process := { p with condition := .ready time }

/-- The process waiting for something to happen. -/
def waiting (p : Process) : Process := { p with condition := .blocked }

end Process

end ChildWatch.Machine
