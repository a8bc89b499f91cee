/-! # Tables of runs of characters

A table of character data is a sorted array of runs, each with the value that its characters share.
Tables are written down as strings of coded numbers.

* `RunTable.find?` — the value at a character, by halving.
* `codedNumbers` — the numbers of a coded string: five bits to a digit, low digits first, with a
  sixth bit that says whether more follow.
* `RunTable.ofLengths`, `Spans.ofNumbers` — tables from numbers. -/

namespace ChildWatch.Unicode

/-- A run of code points from `first` to `last`, both included, that share a value. -/
structure Run (α : Type) where
  first : Nat
  last : Nat
  value : α
deriving Repr

/-- Disjoint runs in rising order. -/
structure RunTable (α : Type) where
  runs : Array (Run α)

/-- The runs of the characters of a set. -/
abbrev Spans := RunTable Unit

namespace RunTable

variable {α : Type}

/-- The value at `n` among the runs from place `lo` up to place `hi`. -/
def search (runs : Array (Run α)) (n lo hi : Nat) : Option α :=
  if lo < hi then
    let mid := (lo + hi) / 2
    match runs[mid]? with
    | none => none
    | some run =>
      if n < run.first then search runs n lo mid
      else if run.last < n then search runs n (mid + 1) hi
      else some run.value
  else none
termination_by hi - lo

/-- **The value at a code point**, if it lies in a run. -/
def find? (t : RunTable α) (n : Nat) : Option α := search t.runs n 0 t.runs.size

/-- Runs that follow each other without a gap: the length of each, less one, and its value. -/
def lengths (value : Nat → α) (start : Nat) : List Nat → List (Run α)
  | more :: v :: rest => ⟨start, start + more, value v⟩ :: lengths value (start + more + 1) rest
  | _ => []

/-- The table of runs without gaps. -/
def ofLengths (value : Nat → α) (numbers : List Nat) : RunTable α :=
  ⟨(lengths value 0 numbers).toArray⟩

end RunTable

namespace Spans

/-- Runs with gaps: the gap before each and its length less one. -/
def gapped (start : Nat) : List Nat → List (Run Unit)
  | gap :: more :: rest => ⟨start + gap, start + gap + more, ()⟩ :: gapped (start + gap + more + 1) rest
  | _ => []

/-- The set with these runs. -/
def ofNumbers (numbers : List Nat) : Spans := ⟨(gapped 0 numbers).toArray⟩

/-- Whether a character lies in the set. -/
def has (s : Spans) (c : Char) : Bool := (s.find? c.toNat).isSome

end Spans

/-- The value of a digit: figures, upper case, lower case, low line and point. -/
def codedDigit (c : Char) : Nat :=
  if c.isDigit then c.toNat - 48
  else if c.isUpper then c.toNat - 55
  else if c.isLower then c.toNat - 61
  else if c = '_' then 62
  else 63

/-- The numbers of a coded string. -/
def codedNumbers (code : String) : List Nat :=
  let step := fun (acc : List Nat × Nat × Nat) (c : Char) =>
    let (done, sum, weight) := acc
    let d := codedDigit c
    if d < 32 then ((sum + d * weight) :: done, 0, 1)
    else (done, sum + (d - 32) * weight, weight * 32)
  (code.toList.foldl step ([], 0, 1)).1.reverse

end ChildWatch.Unicode
