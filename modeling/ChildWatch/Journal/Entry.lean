/-! # Journal entries

The program keeps a journal of what it does. An entry has a level, the part of the program that made
it, and a text.

* `Level.name`, `Level.shows` — the spelling of a level, and which levels a threshold lets through.
* `Entry.line` — an entry as it is printed. -/

namespace ChildWatch.Journal

/-- How much an entry matters, from most to least. -/
inductive Level where
  | error
  | warn
  | info
  | debug
  | trace
deriving DecidableEq, Repr

namespace Level

/-- The spelling of a level. -/
def name : Level → String
  | .error => "ERROR"
  | .warn => "WARN"
  | .info => "INFO"
  | .debug => "DEBUG"
  | .trace => "TRACE"

/-- The rank of a level: the more it matters the lower. -/
def rank : Level → Nat
  | .error => 1
  | .warn => 2
  | .info => 3
  | .debug => 4
  | .trace => 5

end Level

/-- The parts of the program that make entries. -/
inductive Origin where
  | program
  | session
  | pump
  | waiter
  | configuration
deriving DecidableEq, Repr

/-- The name that a filter knows a part by. -/
def Origin.name : Origin → String
  | .program => "procwatch"
  | .session => "procwatch::session::process"
  | .pump => "procwatch::session::pump"
  | .waiter => "procwatch::session::waiter"
  | .configuration => "procwatch::config::loader"

/-- A **journal entry**. -/
structure Entry where
  level : Level
  origin : Origin
  text : String
deriving DecidableEq, Repr

namespace Entry

/-- Two hexadecimal digits at least. -/
def hex (n : Nat) : String :=
  (if n < 16 then "0" else "") ++ String.ofList (Nat.toDigits 16 n)

/-- The spelling of one character. A terminal is kept from obeying what a text says: its control
characters are spelled out, blanks and line ends are not. -/
def escape (c : Char) : String :=
  let n := c.toNat
  if n = 0x1B || n = 0x07 || n = 0x08 || n = 0x0C || n = 0x7F then "\\x" ++ hex n
  else if 0x80 ≤ n && n ≤ 0x9F then "\\u\x7B" ++ hex n ++ "\x7D"
  else c.toString

/-- **An entry as it is printed**, the time of day left out. -/
def line (e : Entry) : String :=
  e.level.name ++ " " ++ String.join (e.text.toList.map escape)

end Entry

end ChildWatch.Journal
