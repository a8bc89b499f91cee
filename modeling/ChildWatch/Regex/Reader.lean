import ChildWatch.Regex.Reader.Bracket

/-! # Reading patterns

A pattern is read from left to right with a stack of the groups that are open.

* `Reader.State`, `Reader.step` — what has been read, and reading one part more.
* `Expr.parse` — the expression of a pattern, or the cause why it has none. -/

namespace ChildWatch.Regex

namespace Reader

/-- A part of a sequence: its expression, how deeply it is nested, and whether it can be
repeated. -/
structure Part where
  expr : Expr
  height : Nat
  repeatable : Bool

/-- The group under way: the parts of its last branch, latest first, and the branches before, latest
first. -/
structure Level where
  parts : List Part
  branches : List Part

/-- A group that is open: its outside, and the switches outside. -/
structure Frame where
  outer : Level
  flags : Flags

/-- What has been read. -/
structure State where
  level : Level
  frames : List Frame
  flags : Flags
  names : List (List Char)

/-- Nothing read yet. -/
def start : State := ⟨⟨[], []⟩, [], Flags.initial, []⟩

/-- The nesting of parts side by side: one more than the deepest of several, or that of one. -/
def heightOf : List Part → Nat
  | [] => 0
  | [p] => p.height
  | ps => 1 + (ps.map (·.height)).foldl max 0

/-- The parts of a branch as one sequence. -/
def sequence (parts : List Part) : Part :=
  ⟨.seqOf (parts.reverse.map (·.expr)), heightOf parts, true⟩

/-- The branches of a group as one choice. -/
def choice (l : Level) : Part :=
  let branches := sequence l.parts :: l.branches
  ⟨.altOf (branches.reverse.map (·.expr)), heightOf branches, true⟩

/-- One more part. -/
def State.push (s : State) (p : Part) : State :=
  { s with level := { s.level with parts := p :: s.level.parts } }

/-- One more part that is not nested. -/
def State.pushLeaf (s : State) (e : Expr) : State := s.push ⟨e, 0, true⟩

/-- A new branch. -/
def State.branch (s : State) : State :=
  { s with level := ⟨[], sequence s.level.parts :: s.level.branches⟩ }

/-- A group opens; `inner` are the switches inside. -/
def State.openGroup (s : State) (inner : Flags) : State :=
  { s with level := ⟨[], []⟩, frames := ⟨s.level, s.flags⟩ :: s.frames, flags := inner }

/-- A group closes, and the switches are again those outside. -/
def State.closeGroup (s : State) : Except Fault State :=
  match s.frames with
  | [] => .error .unopenedGroup
  | frame :: frames =>
    let inner := choice s.level
    .ok ({ s with level := frame.outer, frames := frames, flags := frame.flags }.push
      ⟨inner.expr, inner.height + 1, true⟩)

/-! ## Repetitions -/

/-- The last part, repeated. -/
def State.repeatLast (s : State) (least : Nat) (most : Option Nat) : Except Fault State :=
  match s.level.parts with
  | p :: parts =>
    if p.repeatable then
      .ok { s with level := { s.level with
        parts := ⟨.rep p.expr least most, p.height + 1, true⟩ :: parts } }
    else .error .nothingToRepeat
  | [] => .error .nothingToRepeat

/-- A sign after a repetition that asks for as few as will do changes nothing here. -/
def lazySign : List Char → List Char
  | '?' :: rest => rest
  | rest => rest

/-- A number below `2 ^ 32` between blanks. -/
def number? (rest : List Char) : Option Nat × List Char :=
  let rest := rest.dropWhile isBlank
  let digits := rest.takeWhile Char.isDigit
  let value := digits.foldl (fun n c => 10 * n + (c.toNat - 48)) 0
  (if digits.isEmpty || 4294967296 ≤ value then none else some value,
    (rest.dropWhile Char.isDigit).dropWhile isBlank)

/-- The bounds of a counted repetition, from after its opening brace. -/
def bounds (f : Flags) (rest : List Char) :
    Except Fault ((Nat × Option Nat) × List Char) :=
  match number? (f.skip rest) with
  | (none, _) => .error .badCount
  | (some least, '\x7D' :: rest) => .ok ((least, some least), rest)
  | (some least, ',' :: rest) =>
    match f.skip rest with
    | '\x7D' :: rest => .ok ((least, none), rest)
    | rest =>
      match number? rest with
      | (some most, '\x7D' :: rest) =>
        if least ≤ most then .ok ((least, some most), rest) else .error .badCount
      | _ => .error .badCount
  | _ => .error .badCount

/-! ## Groups -/

/-- The letters of the switches. -/
def isFlag (c : Char) : Bool := "imsUuRx".contains c

/-- The letters of switches up to a colon or a closing parenthesis, as turned on or off. A letter
comes once at most, and a minus once and not at the end. -/
def flagItems (seen : List Char) (off : Bool) :
    List Char → Except Fault (List (Char × Bool) × List Char)
  | [] => .error .badFlags
  | c :: rest =>
    if c = ':' ∨ c = ')' then
      if seen.head? = some '-' then .error .badFlags else .ok ([], c :: rest)
    else if seen.contains c then .error .badFlags
    else if c = '-' then flagItems (c :: seen) true rest
    else if isFlag c then do
      let (items, rest) ← flagItems (c :: seen) off rest
      return ((c, !off) :: items, rest)
    else .error .badFlags

/-- A switch turned on or off. -/
def setFlag (f : Flags) : Char × Bool → Flags
  | ('i', on) => { f with caseless := on }
  | ('m', on) => { f with multiLine := on }
  | ('s', on) => { f with dotAll := on }
  | ('u', on) => { f with unicode := on }
  | ('x', on) => { f with verbose := on }
  | ('R', on) => { f with crlf := on }
  | _ => f

/-- The characters of a group's name: letters and low lines, and after the first one digits, points
and brackets too. -/
def isNameChar (first : Bool) (c : Char) : Bool :=
  c == '_' || CharClass.alphabetic.has c ||
    (!first && (c == '.' || c == '[' || c == ']' ||
      (CharClass.categories [.decimalNumber, .letterNumber, .otherNumber]).has c))

/-- A name up to the closing angle. -/
def nameOf (rest : List Char) : Except Fault (List Char × List Char) :=
  let name := rest.takeWhile (· != '>')
  match name, rest.dropWhile (· != '>') with
  | first :: more, _ :: rest =>
    if isNameChar true first && more.all (isNameChar false) then .ok (name, rest)
    else .error .badGroupName
  | _, _ => .error .badGroupName

/-- A group that has a name. -/
def namedGroup (s : State) (rest : List Char) : Except Fault (State × List Char) := do
  let (name, rest) ← nameOf rest
  if s.names.contains name then .error .badGroupName
  return ({ s.openGroup s.flags with names := name :: s.names }, rest)

/-- What follows an opening parenthesis: an assertion, a name, switches, or the group itself. -/
def group (s : State) (rest : List Char) : Except Fault (State × List Char) :=
  match s.flags.skip rest with
  | '?' :: '=' :: _ | '?' :: '!' :: _ | '?' :: '<' :: '=' :: _ | '?' :: '<' :: '!' :: _ =>
    .error .lookaround
  | '?' :: 'P' :: '<' :: rest | '?' :: '<' :: rest => namedGroup s rest
  | '?' :: rest => do
    match ← flagItems [] false rest with
    | (items, ':' :: rest) => return (s.openGroup (items.foldl setFlag s.flags), rest)
    | (items, rest) =>
      if items.isEmpty then .error .nothingToRepeat
      else
        let s := { s with flags := items.foldl setFlag s.flags }
        return (s.push ⟨.empty, 0, false⟩, rest.drop 1)
  | rest => .ok (s.openGroup s.flags, rest)

/-! ## Steps -/

/-- The expression of a character: with its other cases, when case does not count. -/
def charExpr (f : Flags) (c : Char) : Expr := .set (f.fold (.single c))

/-- The expression of an atom. Without Unicode a byte beyond ASCII is no character. -/
def atomExpr (f : Flags) : Atom → Except Fault Expr
  | .char c narrow =>
    if narrow && !f.unicode && 128 ≤ c.toNat then .error .needsUnicode else .ok (charExpr f c)
  | .set cls => .ok (.set cls)
  | .assertion a => .ok (.assertion a)

/-- Any character, or any that does not end a line. -/
def dot (f : Flags) : Except Fault Expr :=
  if !f.unicode then .error .needsUnicode
  else if f.dotAll then .ok (.set .any)
  else if f.crlf then .ok (.set (.compl (.ranges [('\r', '\r'), ('\n', '\n')])))
  else .ok (.set (.compl (.single '\n')))

/-- The start of the text or of a line. -/
def startAssertion (f : Flags) : Assertion :=
  if f.multiLine then if f.crlf then .lineStartCrlf else .lineStart else .textStart

/-- The end of the text or of a line. -/
def endAssertion (f : Flags) : Assertion :=
  if f.multiLine then if f.crlf then .lineEndCrlf else .lineEnd else .textEnd

/-- **One part more**, from its first character. -/
def step (s : State) (c : Char) (rest : List Char) : Except Fault (State × List Char) :=
  match c with
  | '(' => group s rest
  | ')' => do return (← s.closeGroup, rest)
  | '|' => .ok (s.branch, rest)
  | '[' => do
    let (item, rest) ← Bracket.ofText s.flags rest
    return (s.push ⟨.set item.cls, item.height, true⟩, rest)
  | '?' => do return (← s.repeatLast 0 (some 1), lazySign rest)
  | '*' => do return (← s.repeatLast 0 none, lazySign rest)
  | '+' => do return (← s.repeatLast 1 none, lazySign rest)
  | '\x7B' => do
    let ((least, most), rest) ← bounds s.flags rest
    return (← s.repeatLast least most, lazySign (s.flags.skip rest))
  | '\\' => do
    let (atom, rest) ← Atom.ofEscape s.flags rest
    return (s.pushLeaf (← atomExpr s.flags atom), rest)
  | '.' => do return (s.pushLeaf (← dot s.flags), rest)
  | '^' => .ok (s.pushLeaf (.assertion (startAssertion s.flags)), rest)
  | '$' => .ok (s.pushLeaf (.assertion (endAssertion s.flags)), rest)
  | c => .ok (s.pushLeaf (charExpr s.flags c), rest)

/-- Steps up to the end of the text; each takes at least one character. -/
def run : Nat → State → List Char → Except Fault State
  | 0, s, _ => .ok s
  | fuel + 1, s, rest =>
    match s.flags.skip rest with
    | [] => .ok s
    | c :: rest => do
      let (s, rest) ← step s c rest
      run fuel s rest

/-- The deepest nesting that is read. -/
def maxHeight : Nat := 250

end Reader

/-- The largest weight an expression may have: ten mebibytes. -/
def Expr.maxWeight : Nat := 10485760

/-- **Reading a pattern.** Every group must be closed, and neither the nesting nor the size may be
too large. -/
def Expr.parse (pattern : String) : Except Fault Expr := do
  let text := pattern.toList
  let s ← Reader.run text.length Reader.start text
  if !s.frames.isEmpty then .error .unclosedGroup
  let whole := Reader.choice s.level
  if Reader.maxHeight < whole.height then .error .nestedTooDeeply
  if Expr.maxWeight < whole.expr.weight then .error .tooLarge
  return whole.expr

end ChildWatch.Regex
