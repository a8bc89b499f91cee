import ChildWatch.Shell.Expansion
import ChildWatch.Shell.Script

/-! # Scripts whose output a command needs

A command cannot be run before the scripts in its own words have been.

* `Script.source?` — the first script whose output a command needs.
* `Script.fill` — the command with that output in its place. -/

namespace ChildWatch.Shell

/-- The words of a command that are expanded before it is run, in that order. -/
def Script.ownWords : Script → List Word
  | .simple c => c.words ++ c.assignments.map (·.2) ++ c.redirects.map (·.target)
  | .redirected _ rs _ => rs.map (·.target)
  | .each _ (some values) _ => values
  | .select subject branches => subject :: branches.flatMap (·.1)
  | _ => []

namespace Word

/-- Words with the output of the first script in them. -/
def fillFirst (s : String) : List Word → List Word
  | [] => []
  | w :: rest =>
    let (done, filled) := fill s w
    if done then filled :: rest else w :: fillFirst s rest

/-- Words taken in turn, as many as there are places for. -/
def takeFor (n : Nat) (ws : List Word) : List Word × List Word := (ws.take n, ws.drop n)

end Word

namespace Script

/-- **The first script whose output a command needs.** -/
def source? (c : Script) : Option String := c.ownWords.findSome? Word.source?

/-- The targets of redirections, replaced. -/
def retarget (rs : List Redirect) (ws : List Word) : List Redirect :=
  (rs.zip ws).map fun (r, w) => { r with target := w }

/-- The patterns of branches, replaced. -/
def repattern : List (List Word × Script) → List Word → List (List Word × Script)
  | [], _ => []
  | (patterns, c) :: rest, ws =>
    let (mine, ws) := Word.takeFor patterns.length ws
    (mine, c) :: repattern rest ws

/-- A command with other words in the places of its own. -/
def withOwnWords (c : Script) (ws : List Word) : Script :=
  match c with
  | .simple c =>
    let (words, ws) := Word.takeFor c.words.length ws
    let (values, ws) := Word.takeFor c.assignments.length ws
    .simple { c with
      words := words
      assignments := (c.assignments.zip values).map fun (a, w) => (a.1, w)
      redirects := retarget c.redirects ws }
  | .redirected c rs line => .redirected c (retarget rs ws) line
  | .each name (some _) body => .each name (some ws) body
  | .select subject branches => .select (ws.headD subject) (repattern branches (ws.drop 1))
  | c => c

/-- **A command with the output of the first script it needs.** -/
def fill (s : String) (c : Script) : Script := c.withOwnWords (Word.fillFirst s c.ownWords)

end Script

end ChildWatch.Shell
