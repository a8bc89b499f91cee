/-! # Patterns of a shell script

* `Glob.ofMarked` — the pattern of a text of which some characters are quoted.
* `Glob.accepts` — whether a pattern describes a whole text. -/

namespace ChildWatch.Shell

/-- A **pattern**, piece by piece. -/
inductive GlobPiece where
  | many
  | one
  | char (c : Char)
  | set (negated : Bool) (ranges : List (Char × Char))
deriving DecidableEq, Repr

/-- A pattern. -/
abbrev Glob := List GlobPiece

namespace Glob

/-- The ranges of a set up to its closing bracket, and what follows. A bracket that comes first
belongs to the set. -/
def ranges : Bool → List (Char × Bool) → Option (List (Char × Char) × List (Char × Bool))
  | _, [] => none
  | first, (c, quoted) :: rest =>
    if c = ']' && !quoted && !first then some ([], rest)
    else
      match rest with
      | ('-', false) :: (d, q) :: rest' =>
        if d = ']' && !q then
          (ranges false ((d, q) :: rest')).map fun (rs, rest) => ((c, c) :: ('-', '-') :: rs, rest)
        else (ranges false rest').map fun (rs, rest) => ((c, d) :: rs, rest)
      | rest => (ranges false rest).map fun (rs, rest) => ((c, c) :: rs, rest)
termination_by _ cs => cs.length

/-- The pattern of marked characters; more `fuel` than there are characters is never used up. -/
def ofMarkedFrom : Nat → List (Char × Bool) → Glob
  | 0, _ => []
  | _ + 1, [] => []
  | fuel + 1, (c, quoted) :: rest =>
    if quoted then .char c :: ofMarkedFrom fuel rest
    else if c = '*' then .many :: ofMarkedFrom fuel rest
    else if c = '?' then .one :: ofMarkedFrom fuel rest
    else if c = '[' then
      let (negated, inner) :=
        match rest with
        | ('!', false) :: inner | ('^', false) :: inner => (true, inner)
        | inner => (false, inner)
      match ranges true inner with
      | some (rs, rest) => .set negated rs :: ofMarkedFrom fuel rest
      | none => .char c :: ofMarkedFrom fuel rest
    else .char c :: ofMarkedFrom fuel rest

/-- **The pattern of a text**, of whose characters it is known which are quoted. -/
def ofMarked (cs : List (Char × Bool)) : Glob := ofMarkedFrom (cs.length + 1) cs

/-- Whether a piece describes a character. -/
def GlobPiece.admits : GlobPiece → Char → Bool
  | .many, _ => false
  | .one, _ => true
  | .char d, c => c == d
  | .set negated rs, c => rs.any (fun r => r.1 ≤ c && c ≤ r.2) != negated

/-- Every end of a text, the whole of it first. -/
def ends : List Char → List (List Char)
  | [] => [[]]
  | c :: cs => (c :: cs) :: ends cs

/-- **Whether a pattern describes a whole text.** -/
def accepts : Glob → List Char → Bool
  | [], cs => cs.isEmpty
  | .many :: p, cs => (ends cs).any (accepts p)
  | _ :: _, [] => false
  | piece :: p, c :: cs => GlobPiece.admits piece c && accepts p cs

/-- Whether a pattern can describe more than one text. -/
def isOpen (p : Glob) : Bool :=
  p.any fun
    | .char _ => false
    | _ => true

/-- The shortest or longest start of a text that a pattern describes, cut off it. -/
def cutStart (p : Glob) (longest : Bool) (cs : List Char) : List Char :=
  let sizes := (List.range (cs.length + 1)).filter fun n => accepts p (cs.take n)
  match if longest then sizes.getLast? else sizes.head? with
  | some n => cs.drop n
  | none => cs

/-- The shortest or longest end of a text that a pattern describes, cut off it. -/
def cutEnd (p : Glob) (longest : Bool) (cs : List Char) : List Char :=
  let sizes := (List.range (cs.length + 1)).filter fun n => accepts p (cs.drop n)
  match if longest then sizes.head? else sizes.getLast? with
  | some n => cs.take n
  | none => cs

end Glob

end ChildWatch.Shell
