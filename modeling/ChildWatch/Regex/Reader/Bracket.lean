import ChildWatch.Regex.Reader.Atom

/-! # Classes in brackets

A class in brackets lists characters, ranges and other classes, may be negated, and may be cut down
by a second class.

* `Bracket.State` — the brackets that are open, with what has been listed in each.
* `Bracket.read` — reads one class, from after its opening bracket. -/

namespace ChildWatch.Regex.Bracket

/-- A class and how deeply it is nested. -/
structure Item where
  cls : CharClass
  height : Nat

/-- The ways to combine two classes. -/
inductive Op where
  | intersection
  | difference
  | symmetricDifference
deriving DecidableEq, Repr

/-- The class of an operation. -/
def Op.apply : Op → CharClass → CharClass → CharClass
  | .intersection, a, b => .inter a b
  | .difference, a, b => .diff a b
  | .symmetricDifference, a, b => .symmDiff a b

/-- What is open: a bracket, with the items listed outside of it, or an operation that waits for its
right side. -/
inductive Frame where
  | bracket (negated : Bool) (outer : List Item)
  | operation (op : Op) (left : Item)

/-- The items of the innermost bracket, latest first, and what is open, innermost first. -/
structure State where
  items : List Item
  frames : List Frame

/-- The union of the listed items. -/
def merge (items : List Item) : Item :=
  match items with
  | [] => ⟨.empty, 0⟩
  | [i] => i
  | items => ⟨.unionOf (items.reverse.map (·.cls)), 1 + (items.map (·.height)).foldl max 0⟩

/-- The listed items together with the left side of the operation that waits for them. -/
def close (f : Flags) (s : State) : Item × List Frame :=
  let right := merge s.items
  match s.frames with
  | .operation op left :: frames =>
    (⟨op.apply (f.fold left.cls) (f.fold right.cls), 1 + max left.height right.height⟩, frames)
  | frames => (right, frames)

/-- The class of a bracket: other cases are added before it is negated. Without Unicode a negated
class would take in parts of characters. -/
def finish (f : Flags) (negated : Bool) (inner : Item) : Except Fault Item :=
  if negated && !f.unicode then .error .needsUnicode
  else
    let cls := f.fold inner.cls
    .ok ⟨if negated then .compl cls else cls, inner.height + 1⟩

/-- Hyphens at the start of a bracket stand for themselves. -/
def leadingHyphens (f : Flags) : Nat → List Item → List Char → List Item × List Char
  | fuel + 1, items, '-' :: rest =>
    leadingHyphens f fuel (⟨.single '-', 0⟩ :: items) (f.skip rest)
  | _, items, rest => (items, rest)

/-- What follows an opening bracket: the sign of a negated class, hyphens, and a closing bracket that
stands for itself if it comes first. -/
def opening (f : Flags) (rest : List Char) : Bool × List Item × List Char :=
  let rest := f.skip rest
  let (negated, rest) := match rest with
    | '^' :: rest => (true, f.skip rest)
    | _ => (false, rest)
  let (items, rest) := leadingHyphens f rest.length [] rest
  match items, rest with
  | [], ']' :: rest => (negated, [⟨.single ']', 0⟩], f.skip rest)
  | _, _ => (negated, items, rest)

/-- A named ASCII class, from after its opening bracket. -/
def posix? (f : Flags) (rest : List Char) : Option (Except Fault Item × List Char) :=
  match rest with
  | ':' :: rest =>
    let (negated, rest) := match rest with
      | '^' :: rest => (true, rest)
      | _ => (false, rest)
    match rest.dropWhile (· != ':') with
    | ':' :: ']' :: after =>
      (CharClass.posix? (String.ofList (rest.takeWhile (· != ':')))).map fun cls =>
        let item :=
          if negated && !f.unicode then .error .needsUnicode
          else
            let cls := f.fold cls
            .ok ⟨if negated then .compl cls else cls, 0⟩
        (item, after)
    | _ => none
  | _ => none

/-- One member of a class as it is written: a character or an escape. -/
def member (f : Flags) : List Char → Except Fault (Atom × List Char)
  | [] => .error .unclosedClass
  | '\\' :: rest => Atom.ofEscape f rest
  | c :: rest => .ok (.char c false, rest)

/-- The character of a member. Without Unicode only ASCII characters can be listed. -/
def charOf (f : Flags) : Atom → Except Fault Char
  | .char c _ => if f.unicode || c.toNat < 128 then .ok c else .error .needsUnicode
  | _ => .error .badClassItem

/-- The item of a member that is no end of a range. -/
def itemOf (f : Flags) : Atom → Except Fault Item
  | .set cls => .ok ⟨cls, 0⟩
  | a => do return ⟨.single (← charOf f a), 0⟩

/-- The character that follows in a verbose pattern: past blanks, and past the sign of one comment. If
there is none, the very next one. -/
def peekPast (f : Flags) (rest : List Char) : Option Char :=
  if f.verbose then
    let shown := match rest.dropWhile isBlank with
      | '#' :: more => more.dropWhile isBlank
      | more => more
    shown.head?.or rest.head?
  else rest.head?

/-- A member, or a range of two. A hyphen before a closing bracket or another hyphen makes no
range. -/
def range (f : Flags) (rest : List Char) : Except Fault (Item × List Char) := do
  let (first, rest) ← member f rest
  match f.skip rest with
  | [] => .error .unclosedClass
  | '-' :: more =>
    let next := peekPast f more
    if next = some ']' ∨ next = some '-' then return (← itemOf f first, '-' :: more)
    else
      match f.skip more with
      | [] => .error .unclosedClass
      | more => do
        let (last, rest) ← member f more
        let a ← charOf f first
        let b ← charOf f last
        if a ≤ b then return (⟨.range a b, 0⟩, rest) else .error .emptyRange
  | rest => return (← itemOf f first, rest)

/-- The next step: an item, an operation, or a bracket that opens or closes. -/
def read (f : Flags) : Nat → State → List Char → Except Fault (Item × List Char)
  | 0, _, _ => .error .unclosedClass
  | fuel + 1, s, rest =>
    match f.skip rest with
    | [] => .error .unclosedClass
    | '[' :: rest =>
      match posix? f rest with
      | some (item, rest) => do
        let item ← item
        read f fuel { s with items := item :: s.items } rest
      | none =>
        let (negated, items, rest) := opening f rest
        read f fuel ⟨items, .bracket negated s.items :: s.frames⟩ rest
    | ']' :: rest =>
      match close f s with
      | (inner, .bracket negated outer :: frames) => do
        let item ← finish f negated inner
        if frames.isEmpty then return (item, rest)
        else read f fuel ⟨item :: outer, frames⟩ rest
      | _ => .error .unclosedClass
    | '&' :: '&' :: rest => operation fuel s .intersection rest
    | '-' :: '-' :: rest => operation fuel s .difference rest
    | '~' :: '~' :: rest => operation fuel s .symmetricDifference rest
    | rest => do
      let (item, rest) ← range f rest
      read f fuel { s with items := item :: s.items } rest
where
  /-- After an operation its left side waits, and a new list of items begins. -/
  operation (fuel : Nat) (s : State) (op : Op) (rest : List Char) :
      Except Fault (Item × List Char) :=
    let (left, frames) := close f s
    read f fuel ⟨[], .operation op left :: frames⟩ rest

/-- **A class in brackets**, from after its opening bracket. -/
def ofText (f : Flags) (rest : List Char) : Except Fault (Item × List Char) :=
  let (negated, items, rest) := opening f rest
  read f (rest.length + 1) ⟨items, [.bracket negated []]⟩ rest

end ChildWatch.Regex.Bracket
