import ChildWatch.CommandLine.Program
import ChildWatch.Machine.Run

/-! # The program on the machine

* `Machine.surroundings` — the machine as the surroundings of the program.
* `Machine.runProgram` — a whole run of the program, with what it prints. -/

namespace ChildWatch.Machine

open CommandLine

/-- **The machine as the surroundings of the program**, whose streams take everything. -/
def surroundings : Surroundings Machine where
  toSystem := system
  sink _ _ := Sink.fresh [] .unlimited
  wrote stream sink m :=
    match stream with
    | .stdout => { m with printed := sink.accepted :: m.printed }
    | .stderr => { m with shown := .bytes sink.accepted :: m.shown }

/-- What a run of the program leaves: its exit code, what it has printed, and what has come to its
error stream. -/
structure Transcript where
  code : Option Nat
  printed : List UInt8
  shown : List Shown

/-- How often a wait is polled at most. -/
def pollLimit : Nat := 1000000

/-- **A run of the program** on a machine with the files and the environment of its setting. -/
def runProgram (setting : Setting) : Transcript :=
  let (code, m) := Program.run surroundings setting pollLimit
    (boot setting.files setting.environment)
  ⟨code, m.printed.reverse.flatten, m.shown.reverse⟩

/-- What has come to an error stream, as it is printed. -/
def Shown.bytesOf : Shown → List UInt8
  | .entry e => Text.Utf8.encode (e.line ++ "\n")
  | .bytes bs => bs

end ChildWatch.Machine
