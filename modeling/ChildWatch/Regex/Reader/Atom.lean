import ChildWatch.Regex.Expr

/-! # Atoms of a pattern

The parts of a pattern that stand for one character, one class or one assertion.

* `Flags` — the switches that change how a pattern is read.
* `Fault` — why a text is not a pattern.
* `Atom.ofEscape?` — what follows a backslash. -/

namespace ChildWatch.Regex

/-- Why a text is not a pattern. -/
inductive Fault where
  | unclosedGroup
  | unopenedGroup
  | badGroupName
  | badFlags
  | lookaround
  | nothingToRepeat
  | badCount
  | unclosedClass
  | badClassItem
  | emptyRange
  | unfinishedEscape
  | unknownEscape (c : Char)
  | backreference
  | badCodePoint
  | unknownProperty
  | badBoundary
  | needsUnicode
  | nestedTooDeeply
  | tooLarge
deriving DecidableEq, Repr

/-- The wording of each cause. -/
def Fault.message : Fault → String
  | .unclosedGroup => "a group is not closed"
  | .unopenedGroup => "a group is closed that was not opened"
  | .badGroupName => "the name of a group is not valid"
  | .badFlags => "the flags are not valid"
  | .lookaround => "assertions about what lies ahead or behind are not supported"
  | .nothingToRepeat => "there is nothing to repeat"
  | .badCount => "the count of a repetition is not valid"
  | .unclosedClass => "a class of characters is not closed"
  | .badClassItem => "this cannot stand in a class of characters"
  | .emptyRange => "a range of characters ends before it starts"
  | .unfinishedEscape => "the pattern ends within an escape"
  | .unknownEscape c => "the escape of '" ++ c.toString ++ "' has no meaning"
  | .backreference => "references to groups are not supported"
  | .badCodePoint => "the number does not stand for a character"
  | .unknownProperty => "there is no such property of characters"
  | .badBoundary => "there is no such boundary"
  | .needsUnicode => "this can only be asked of all characters"
  | .nestedTooDeeply => "the pattern is nested too deeply"
  | .tooLarge => "the pattern is too large"

/-- The switches of a pattern. -/
structure Flags where
  caseless : Bool
  multiLine : Bool
  dotAll : Bool
  unicode : Bool
  verbose : Bool
  crlf : Bool
deriving DecidableEq, Repr

namespace Flags

/-- The switches at the start of a pattern. -/
def initial : Flags := ⟨false, false, false, true, false, false⟩

/-- How letters are compared when case does not count. -/
def caseRule (f : Flags) : CaseRule := if f.unicode then .folding else .ascii

/-- Which characters make up words. -/
def wordRule (f : Flags) : WordRule := if f.unicode then .all else .ascii

/-- A class with the other cases of its characters, when case does not count. -/
def fold (f : Flags) (c : CharClass) : CharClass :=
  if f.caseless then .folded f.caseRule c else c

end Flags

/-- Whether a character is white space. -/
def isBlank (c : Char) : Bool := CharClass.whiteSpace.has c

/-- The text without the blanks at its start and, with `comment`, without the comment under way;
comments start at a number sign and end with their line. -/
def dropComments (comment : Bool) : List Char → List Char
  | [] => []
  | c :: rest =>
    if comment then dropComments (c != '\n') rest
    else if isBlank c then dropComments false rest
    else if c = '#' then dropComments true rest
    else c :: rest

/-- In a verbose pattern blanks and comments are passed over. -/
def Flags.skip (f : Flags) (text : List Char) : List Char :=
  if f.verbose then dropComments false text else text

/-- The parts of a pattern that are read at one go. `narrow` marks a character written as two
hexadecimal digits. -/
inductive Atom where
  | char (c : Char) (narrow : Bool)
  | set (c : CharClass)
  | assertion (a : Assertion)

namespace Atom

/-- The characters with a meaning of their own. -/
def isMeta (c : Char) : Bool := "\\.+*?()|[]\x7B\x7D^$#&-~".contains c

/-- The characters that may be escaped to stand for themselves: ASCII, and no letter, digit or
angle. -/
def isEscapable (c : Char) : Bool :=
  isMeta c || (c.toNat < 128 && !c.isAlphanum && c != '<' && c != '>')

/-- The value of a hexadecimal digit. -/
def hexValue? (c : Char) : Option Nat :=
  if c.isDigit then some (c.toNat - 48)
  else if 'a' ≤ c ∧ c ≤ 'f' then some (c.toNat - 87)
  else if 'A' ≤ c ∧ c ≤ 'F' then some (c.toNat - 55)
  else none

/-- The character of a code point. -/
def charOf (n : Nat) : Except Fault Char :=
  if h : n.isValidChar then .ok (Char.ofNatAux n h) else .error .badCodePoint

/-- `count` hexadecimal digits with blanks between them where these are passed over. -/
def hexDigits (f : Flags) : Nat → Nat → List Char → Except Fault (Nat × List Char)
  | 0, sum, rest => .ok (sum, rest)
  | _ + 1, _, [] => .error .unfinishedEscape
  | count + 1, sum, c :: rest =>
    match hexValue? c with
    | some d => hexDigits f count (16 * sum + d) (f.skip rest)
    | none => .error .badCodePoint

/-- Hexadecimal digits up to a closing brace, at least one. -/
def hexBraced (f : Flags) : Nat → Option Nat → List Char → Except Fault (Nat × List Char)
  | 0, _, _ => .error .unfinishedEscape
  | fuel + 1, sum, rest =>
    match f.skip rest with
    | [] => .error .unfinishedEscape
    | '\x7D' :: rest =>
      match sum with
      | some n => .ok (n, f.skip rest)
      | none => .error .badCodePoint
    | c :: rest =>
      match hexValue? c with
      | some d => hexBraced f fuel (some (16 * sum.getD 0 + d)) rest
      | none => .error .badCodePoint

/-- The code point after a letter that announces so many digits. -/
def ofHex (f : Flags) (digits : Nat) (rest : List Char) : Except Fault (Atom × List Char) :=
  match f.skip rest with
  | '\x7B' :: rest => do
    let (n, rest) ← hexBraced f (rest.length + 1) none rest
    return (.char (← charOf n) false, rest)
  | rest => do
    let (n, rest) ← hexDigits f digits 0 rest
    return (.char (← charOf n) (digits = 2), rest)

/-- The text up to a closing brace, without the blanks and comments that are passed over. -/
def braced (f : Flags) : Nat → List Char → Except Fault (List Char × List Char)
  | 0, _ => .error .unfinishedEscape
  | fuel + 1, rest =>
    match f.skip rest with
    | [] => .error .unfinishedEscape
    | '\x7D' :: rest => .ok ([], rest)
    | c :: rest => do
      let (name, rest) ← braced f fuel rest
      return (c :: name, rest)

/-- A text cut in two at the first place where `mark` stands. -/
def cutAt? (mark : List Char) : List Char → Option (List Char × List Char)
  | [] => none
  | c :: rest =>
    if mark.isPrefixOf (c :: rest) then some ([], (c :: rest).drop mark.length)
    else (cutAt? mark rest).map fun (before, after) => (c :: before, after)

/-- The class of a property written in braces, and whether it is turned round. -/
def propertyOf (name : List Char) : Bool × Option CharClass :=
  match cutAt? ['!', '='] name with
  | some (p, v) => (true, CharClass.valued? p v)
  | none =>
    match cutAt? [':'] name with
    | some (p, v) => (false, CharClass.valued? p v)
    | none =>
      match cutAt? ['='] name with
      | some (p, v) => (false, CharClass.valued? p v)
      | none => (false, CharClass.named? name)

/-- The class of a property, written as one letter or in braces. -/
def ofProperty (f : Flags) (negated : Bool) (rest : List Char) :
    Except Fault (Atom × List Char) := do
  let ((turned, cls), rest) ← match f.skip rest with
    | [] => .error .unfinishedEscape
    | '\x7B' :: rest => do
      let (name, rest) ← braced f (rest.length + 1) rest
      pure (propertyOf name, rest)
    | '\\' :: _ => .error .unknownProperty
    | c :: rest => pure ((false, CharClass.named? [c]), rest)
  if !f.unicode then .error .needsUnicode
  match cls with
  | none => .error .unknownProperty
  | some c =>
    let folded := f.fold c
    return (.set (if negated != turned then .compl folded else folded), rest)

/-- The class of a shorthand. Without Unicode a negated one would take in parts of characters. -/
def ofShorthand (f : Flags) (negated : Bool) (all ascii : CharClass) : Except Fault Atom :=
  if f.unicode then .ok (.set (if negated then .compl all else all))
  else if negated then .error .needsUnicode
  else .ok (.set ascii)

/-- The name of a boundary: letters and hyphens. -/
def isBoundaryLetter (c : Char) : Bool := c.isAlpha || c == '-'

/-- The letters of a boundary's name, and what follows. -/
def boundaryName (f : Flags) : Nat → List Char → List Char × List Char
  | 0, rest => ([], rest)
  | fuel + 1, rest =>
    match rest with
    | [] => ([], [])
    | c :: rest =>
      if isBoundaryLetter c then
        let (name, rest) := boundaryName f fuel (f.skip rest)
        (c :: name, rest)
      else ([], c :: rest)

/-- A boundary of words, plain or with the name of its kind in braces; braces that hold no name are
the count of a repetition. -/
def ofBoundary (f : Flags) (rest : List Char) : Except Fault (Atom × List Char) :=
  let plain := Atom.assertion (.wordBoundary f.wordRule)
  match rest with
  | '\x7B' :: inner =>
    match f.skip inner with
    | [] => .error .badBoundary
    | c :: tail =>
      if !isBoundaryLetter c then .ok (plain, rest)
      else
        match boundaryName f (tail.length + 1) (c :: tail) with
        | (name, '\x7D' :: rest) =>
          match String.ofList name with
          | "start" => .ok (.assertion (.wordStart f.wordRule), rest)
          | "end" => .ok (.assertion (.wordEnd f.wordRule), rest)
          | "start-half" => .ok (.assertion (.wordStartHalf f.wordRule), rest)
          | "end-half" => .ok (.assertion (.wordEndHalf f.wordRule), rest)
          | _ => .error .badBoundary
        | _ => .error .badBoundary
  | _ => .ok (plain, rest)

/-- The characters with a letter for an escape. -/
def control? : Char → Option Char
  | 'a' => some '\x07'
  | 'f' => some '\x0C'
  | 't' => some '\t'
  | 'n' => some '\n'
  | 'r' => some '\r'
  | 'v' => some '\x0B'
  | _ => none

/-- **What follows a backslash**, and the text after it. -/
def ofEscape (f : Flags) : List Char → Except Fault (Atom × List Char)
  | [] => .error .unfinishedEscape
  | c :: rest =>
    match c with
    | 'x' => ofHex f 2 rest
    | 'u' => ofHex f 4 rest
    | 'U' => ofHex f 8 rest
    | 'p' => ofProperty f false rest
    | 'P' => ofProperty f true rest
    | 'd' => return (← ofShorthand f false .digit .asciiDigit, rest)
    | 'D' => return (← ofShorthand f true .digit .asciiDigit, rest)
    | 's' => return (← ofShorthand f false .space .asciiSpace, rest)
    | 'S' => return (← ofShorthand f true .space .asciiSpace, rest)
    | 'w' => return (← ofShorthand f false .word .asciiWord, rest)
    | 'W' => return (← ofShorthand f true .word .asciiWord, rest)
    | 'A' => .ok (.assertion .textStart, rest)
    | 'z' => .ok (.assertion .textEnd, rest)
    | 'b' => ofBoundary f rest
    | 'B' => .ok (.assertion (.notWordBoundary f.wordRule), rest)
    | '<' => .ok (.assertion (.wordStart f.wordRule), rest)
    | '>' => .ok (.assertion (.wordEnd f.wordRule), rest)
    | c =>
      if c.isDigit then .error .backreference
      else if isEscapable c then .ok (.char c false, rest)
      else
        match control? c with
        | some k => .ok (.char k false, rest)
        | none => .error (.unknownEscape c)

end Atom

end ChildWatch.Regex
