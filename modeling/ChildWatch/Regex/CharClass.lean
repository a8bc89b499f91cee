import ChildWatch.Unicode.Category
import ChildWatch.Unicode.Folding
import ChildWatch.Unicode.Property
import ChildWatch.Unicode.Script

/-! # Classes of characters

The sets of characters a pattern can name, as expressions over ranges and character data.

* `CharClass.has` — whether a character belongs to a class.
* `CharClass.digit`, `CharClass.space`, `CharClass.word` — the shorthands, for all characters or for
  the ASCII ones.
* `CharClass.posix?` — the bracketed ASCII names. -/

namespace ChildWatch.Regex

open ChildWatch.Unicode

/-- Which characters count as the same but for case: by simple case folding, or the ASCII letters
only. -/
inductive CaseRule where
  | folding
  | ascii
deriving DecidableEq, Repr

/-- The other characters that differ from `c` in case only. -/
def CaseRule.others : CaseRule → Char → List Char
  | .folding, c => Folding.others c
  | .ascii, c =>
    if c.isUpper then [c.toLower] else if c.isLower then [c.toUpper] else []

/-- An expression for a set of characters. -/
inductive CharClass where
  | empty
  | range (first last : Char)
  | spans (s : Spans)
  | categories (cs : List Category)
  | script (s : Script)
  | usedWith (s : Script)
  | union (a b : CharClass)
  | inter (a b : CharClass)
  | compl (a : CharClass)
  | folded (rule : CaseRule) (a : CharClass)

namespace CharClass

/-- **Membership.** A folded class holds every character that has a member of the class in its
orbit. -/
def has : CharClass → Char → Bool
  | empty, _ => false
  | range first last, c => first ≤ c && c ≤ last
  | spans s, c => s.has c
  | categories cs, c => cs.contains (Category.of c)
  | script s, c => Script.of c == some s
  | usedWith s, c => (Script.extensions c).contains s
  | union a b, c => a.has c || b.has c
  | inter a b, c => a.has c && b.has c
  | compl a, c => !a.has c
  | folded rule a, c => a.has c || (rule.others c).any a.has

/-- The class of one character. -/
def single (c : Char) : CharClass := range c c

/-- The characters of `a` that are not in `b`. -/
def diff (a b : CharClass) : CharClass := inter a (compl b)

/-- The characters of exactly one of two classes. -/
def symmDiff (a b : CharClass) : CharClass := union (diff a b) (diff b a)

/-- The union of a list of classes. -/
def unionOf (cs : List CharClass) : CharClass := cs.foldr union empty

/-- The class of some ranges. -/
def ranges (rs : List (Char × Char)) : CharClass := unionOf (rs.map fun r => range r.1 r.2)

/-- Every character. -/
def any : CharClass := compl empty

@[simp] theorem has_single (c d : Char) : (single c).has d = decide (d = c) := by
  simp only [single, has]
  by_cases h : d = c
  · subst h; simp
  · have : ¬ (c ≤ d ∧ d ≤ c) := fun ⟨h1, h2⟩ => h (Char.le_antisymm h2 h1)
    simp only [h, decide_false, Bool.and_eq_false_iff, decide_eq_false_iff_not]
    by_cases h1 : c ≤ d
    · exact Or.inr fun h2 => this ⟨h1, h2⟩
    · exact Or.inl h1

/-! ## Shorthands -/

/-- The white space characters. -/
def whiteSpace : Spans := Property.whiteSpace.spans

/-- The characters of letters, as words are built from them. -/
def alphabetic : Spans := Property.alphabetic.spans

/-- The characters that join letters. -/
def joining : Spans := Property.joinControl.spans

/-- The ASCII digits. -/
def asciiDigit : CharClass := range '0' '9'

/-- The ASCII blanks. -/
def asciiSpace : CharClass := ranges [('\t', '\r'), (' ', ' ')]

/-- The ASCII characters of words. -/
def asciiWord : CharClass := ranges [('0', '9'), ('A', 'Z'), ('_', '_'), ('a', 'z')]

/-- The digits of all scripts. -/
def digit : CharClass := categories [.decimalNumber]

/-- White space. -/
def space : CharClass := spans whiteSpace

/-- The characters of words: letters, marks, digits, connectors and joiners. -/
def word : CharClass :=
  unionOf [spans alphabetic,
    categories [.nonspacingMark, .spacingMark, .enclosingMark, .decimalNumber,
      .connectorPunctuation],
    spans joining]

/-- The ASCII classes that have a name inside brackets. -/
def posix? (name : String) : Option CharClass :=
  match name with
  | "alnum" => some (ranges [('0', '9'), ('A', 'Z'), ('a', 'z')])
  | "alpha" => some (ranges [('A', 'Z'), ('a', 'z')])
  | "ascii" => some (range '\x00' '\x7F')
  | "blank" => some (ranges [('\t', '\t'), (' ', ' ')])
  | "cntrl" => some (ranges [('\x00', '\x1F'), ('\x7F', '\x7F')])
  | "digit" => some asciiDigit
  | "graph" => some (range '!' '~')
  | "lower" => some (range 'a' 'z')
  | "print" => some (range ' ' '~')
  | "punct" => some (ranges [('!', '/'), (':', '@'), ('[', '\x60'), ('\x7B', '~')])
  | "space" => some asciiSpace
  | "upper" => some (range 'A' 'Z')
  | "word" => some asciiWord
  | "xdigit" => some (ranges [('0', '9'), ('A', 'F'), ('a', 'f')])
  | _ => none

/-! ## Named properties -/

/-- A property name without its case, blanks, hyphens and low lines, and without `is` at its start.
Characters beyond ASCII are passed over. -/
def plainName (name : List Char) : String :=
  let lower := name.map Char.toLower
  let (cut, kept) := match lower with
    | 'i' :: 's' :: rest => (true, rest)
    | _ => (false, lower)
  let plain := kept.filter fun c => c.toNat < 128 && c != ' ' && c != '_' && c != '-'
  -- the letter alone is a name of its own, which the long form of another name must not reach
  if cut && plain == ['c'] then "isc" else String.ofList plain

/-- The named set of categories, or one of the three sets that are defined by them. -/
def category? (name : String) : Option CharClass :=
  match name with
  | "any" => some any
  | "assigned" => some (compl (categories [.unassigned]))
  | "ascii" => some (range '\x00' '\x7F')
  | _ => (Category.named.find? (·.1.contains name)).map fun entry => categories entry.2

/-- The class of a single name: a yes-or-no property, a category or a script. -/
def named? (name : List Char) : Option CharClass :=
  let plain := plainName name
  match Property.named.find? (·.1.contains plain) with
  | some entry => some (spans entry.2.spans)
  | none => category? plain <|> (Script.named? plain).map script

/-- The class of the characters for which a property has a value. -/
def valued? (property value : List Char) : Option CharClass :=
  let value := plainName value
  match plainName property with
  | "gc" | "generalcategory" => category? value
  | "sc" | "script" => (Script.named? value).map script
  | "scx" | "scriptextensions" => (Script.named? value).map usedWith
  | _ => none

/-! ## Size -/

/-- About how many separate ranges the class has. -/
def rangeCount : CharClass → Nat
  | empty => 0
  | range _ _ => 1
  | spans s => s.runs.size
  | categories cs => 100 * cs.length
  | script _ | usedWith _ => 20
  | union a b | inter a b => a.rangeCount + b.rangeCount
  | compl a => a.rangeCount + 1
  | folded _ a => 2 * a.rangeCount

/-- Whether the class is a range of ASCII characters only, or a union of such ranges. -/
def isAscii : CharClass → Bool
  | empty => true
  | range _ last => last.toNat < 128
  | union a b => a.isAscii && b.isAscii
  | folded .ascii a => a.isAscii
  | _ => false

/-- About how many bytes the class takes in a compiled pattern: little for ASCII, and some for each
range beyond. -/
def weight (c : CharClass) : Nat :=
  if c.isAscii then 32 + 8 * (c.rangeCount - 1) else 300 + 60 * c.rangeCount

end CharClass

end ChildWatch.Regex
