import ChildWatch.Config.SearchPath
import ChildWatch.Journal.Entry

/-! # Which entries are printed

A filter is a list of rules, each a threshold for the parts of the program whose names start in a
given way.

* `Filter.parse?` — the filter of a text such as `warn,procwatch::session=debug`.
* `Filter.allows` — whether an entry is printed: the rule with the longest start decides.
* `Filter.of` — the filter that the variables and the options ask for. -/

namespace ChildWatch.Journal

/-- A **rule**: the entries of the parts whose names start with `start` are printed up to a rank. A
rule for a `span` decides on no entry, as none of them belongs to a span. -/
structure Rule where
  start : String
  span : Bool
  rank : Nat
deriving DecidableEq, Repr

/-- A filter, the later of two rules for the same start being the one that counts. -/
abbrev Filter := List Rule

namespace Filter

/-- A text in lower case, as far as it is made of the letters of levels. -/
def lower (s : String) : String := String.ofList (s.toList.map Char.toLower)

/-- The rank of a threshold: the name of a level in any case, `off`, or a number up to five. -/
def threshold? (s : String) : Option Nat :=
  match lower s with
  | "off" => some 0
  | "error" => some 1
  | "warn" => some 2
  | "info" => some 3
  | "debug" => some 4
  | "trace" => some 5
  | word =>
    let digits := if word.toList.head? = some '+' then word.toList.drop 1 else word.toList
    if digits.isEmpty || !digits.all Char.isDigit then none
    else
      let n := digits.foldl (fun n c => 10 * n + (c.toNat - 48)) 0
      if n ≤ 5 then some n else none

/-- The threshold after an equals sign; none given means all. -/
def level? (s : String) : Option Nat := if s.isEmpty then some 5 else threshold? s

/-- Whether a rule can start with a character. -/
def canStart (c : Char) : Bool :=
  c.isAlphanum || c.toNat ≥ 128 || c = '-' || c = ':' || c = '_'

/-- A text without blanks at its ends. -/
def trimmed (s : List Char) : List Char :=
  let front := s.dropWhile Char.isWhitespace
  (front.reverse.dropWhile Char.isWhitespace).reverse

/-- **The rule of a piece of text**: a threshold, or a start, perhaps with the name of a span between
brackets, and perhaps with a threshold after an equals sign. -/
def rule? (piece : String) : Option Rule :=
  let cs := trimmed piece.toList
  match cs with
  | [] => some ⟨"", false, 5⟩
  | c :: _ =>
    if c ≠ '[' && !canStart c then none
    else
      let start := String.ofList (cs.takeWhile fun c => c ≠ '=' && c ≠ '[')
      match cs.dropWhile fun c => c ≠ '=' && c ≠ '[' with
      | [] =>
        match threshold? start with
        | some rank => some ⟨"", false, rank⟩
        | none => some ⟨start, false, 5⟩
      | '=' :: level => (level? (String.ofList level)).map fun rank => ⟨start, false, rank⟩
      | _ :: span =>
        match span.dropWhile (· ≠ ']') with
        | [] => none
        | _ :: [] => some ⟨start, true, 5⟩
        | _ :: '=' :: level => (level? (String.ofList level)).map fun rank => ⟨start, true, rank⟩
        | _ => none

/-- The pieces of a text between commas. -/
def pieces : List Char → List (List Char)
  | [] => [[]]
  | c :: rest =>
    if c = ',' then [] :: pieces rest
    else
      match pieces rest with
      | [] => [[c]]
      | piece :: more => (c :: piece) :: more

/-- **The filter of a text.** The empty text lets errors through. -/
def parse? (s : String) : Option Filter :=
  if s.isEmpty then some [⟨"", false, Level.error.rank⟩]
  else (pieces s.toList).mapM fun piece => rule? (String.ofList piece)

/-- The better of two rules for an entry: the one with the longer start, the later one of equals. -/
def better (best : Option Rule) (rule : Rule) : Option Rule :=
  match best with
  | none => some rule
  | some b => if b.start.utf8ByteSize ≤ rule.start.utf8ByteSize then some rule else some b

/-- **Whether an entry is printed**: some rule has to be about it, and the one with the longest start
decides. -/
def allows (f : Filter) (e : Entry) : Bool :=
  let about := f.filter fun r => !r.span && r.start.toList.isPrefixOf e.origin.name.toList
  match about.foldl better none with
  | some rule => e.level.rank ≤ rule.rank
  | none => false

/-- The variable that holds a filter. -/
def filterVariable : String := "RUST_LOG"

/-- The variable that asks for more entries. -/
def debugVariable : String := "PROCWATCH_DEBUG"

/-- Whether the variables ask for more entries. -/
def debugAsked (env : Environment) : Bool :=
  match env.get? debugVariable with
  | some value => value = "1" || lower value = "true"
  | none => false

/-- The filter without a text for it. -/
def standard (debug : Bool) : Filter :=
  [⟨"", false, (if debug then Level.debug else Level.info).rank⟩]

/-- **The filter that is asked for**: the one of the variable if it is a filter, else the standard one
with or without the debug entries. -/
def of (env : Environment) (debug : Bool) : Filter :=
  ((env.get? filterVariable).bind parse?).getD (standard (debug || debugAsked env))

end Filter

end ChildWatch.Journal
