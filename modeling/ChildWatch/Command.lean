/-! # Commands

A program and its arguments.

* `Command.ofArgv?` — from an argument list whose first word names the program; there is none for
  the empty list and for an empty name.
* `Command.shell` — a script for the system's shell.
* `Command.text` — the words joined by blanks. -/

namespace ChildWatch

/-- A command to launch. -/
structure Command where
  program : String
  args : List String
  program_ne : program ≠ ""
deriving DecidableEq

namespace Command

/-- The command of an argument list. -/
def ofArgv? : List String → Option Command
  | [] => none
  | program :: args => if h : program ≠ "" then some ⟨program, args, h⟩ else none

/-- The command that has the shell run `script`. -/
def shell (script : String) : Command := ⟨"/bin/sh", ["-c", script], by decide⟩

/-- The program and its arguments. -/
def argv (c : Command) : List String := c.program :: c.args

/-- The command as people read it. -/
def text (c : Command) : String := " ".intercalate c.argv

theorem argv_ofArgv? {words : List String} {c : Command} (h : ofArgv? words = some c) :
    c.argv = words := by
  unfold ofArgv? at h
  split at h
  · cases h
  · split at h
    · cases h; rfl
    · cases h

/-- There is no command exactly for the empty list and for an empty program name. -/
theorem ofArgv?_eq_none_iff (words : List String) :
    ofArgv? words = none ↔ words.headD "" = "" := by
  unfold ofArgv?
  split <;> simp

end Command

end ChildWatch
