import ChildWatch.Toml.Reader.Scalar
import ChildWatch.Toml.Table

/-! # Reading documents

A document is read line by line: keys with values, and headers that say which table the keys after
them belong to.

* `Reader.value` — one value.
* `Document.parse` — the table of a whole text. -/

namespace ChildWatch.Toml

namespace Reader

/-! ## Keys -/

/-- A character of a key without quotes. -/
def isKeyChar (c : Char) : Bool := c.isAlphanum || c == '_' || c == '-'

/-- One part of a key. -/
def keyPart (c : Cursor) : Result Key :=
  match c.rest with
  | '"' :: _ | '\'' :: _ =>
    match readString false c with
    | .ok (text, next) => .ok (⟨text, ⟨c.pos, next.pos⟩⟩, next)
    | .error f => .error f
  | _ =>
    let (text, next) := c.takeWhile isKeyChar
    if text.isEmpty then fail c .unexpected
    else .ok (⟨String.ofList text, ⟨c.pos, next.pos⟩⟩, next)

/-- The parts of a key with points between them: those before the last, and the last. -/
def keyPath : Nat → Cursor → Result (List Key × Key)
  | 0, c => fail c .unexpected
  | fuel + 1, c =>
    match keyPart (skipBlanks c) with
    | .error f => .error f
    | .ok (key, next) =>
      let next := skipBlanks next
      match next.rest with
      | '.' :: _ =>
        match keyPath fuel (next.drop 1) with
        | .ok ((path, last), next) => .ok ((key :: path, last), next)
        | .error f => .error f
      | _ => .ok (([], key), next)

/-- A whole key. -/
def readKey (c : Cursor) : Result (List Key × Key) := keyPath (c.rest.length + 1) c

/-! ## Values -/

/-- How deeply arrays and tables in braces may be nested. -/
def maxDepth : Nat := 80

/-- The place after a character that must come next. -/
def expect (k : Char) (c : Cursor) : Except Fault Cursor :=
  match c.rest with
  | h :: _ => if h = k then .ok (c.drop 1) else fail c .unexpected
  | [] => fail c .unexpected

mutual

/-- **A value**, with `depth` levels of nesting left. -/
def value : Nat → Nat → Cursor → Result Node
  | 0, _, c => fail c .unexpected
  | fuel + 1, depth, c =>
    match c.rest with
    | '"' :: _ | '\'' :: _ =>
      match readString true c with
      | .ok (text, next) => .ok (.scalar (.string text), next)
      | .error f => .error f
    | '[' :: _ =>
      if depth = 0 then fail c .nestedTooDeeply
      else
        match items fuel (depth - 1) [] (skipSpace (c.drop 1)) with
        | .ok (nodes, next) => .ok (.array nodes, next)
        | .error f => .error f
    | '\x7B' :: _ =>
      if depth = 0 then fail c .nestedTooDeeply
      else
        match pairs fuel (depth - 1) [] (skipSpace (c.drop 1)) with
        | .ok (entries, next) => .ok (.table .inline entries, next)
        | .error f => .error f
    | _ =>
      match readWord c with
      | .ok (s, next) => .ok (.scalar s, next)
      | .error f => .error f

/-- The rest of an array; `done` are its items so far, latest first. -/
def items : Nat → Nat → List Node → Cursor → Result (List Node)
  | 0, _, _, c => fail c .unexpected
  | fuel + 1, depth, done, c =>
    match c.rest with
    | ']' :: _ => .ok (done.reverse, c.drop 1)
    | _ =>
      match value fuel depth c with
      | .error f => .error f
      | .ok (node, next) =>
        let next := skipSpace next
        match next.rest with
        | ',' :: _ => items fuel depth (node :: done) (skipSpace (next.drop 1))
        | ']' :: _ => .ok ((node :: done).reverse, next.drop 1)
        | _ => fail next .unexpected

/-- The rest of a table in braces; `entries` are its keys so far. -/
def pairs : Nat → Nat → List Entry → Cursor → Except Fault (List Entry × Cursor)
  | 0, _, _, c => fail c .unexpected
  | fuel + 1, depth, entries, c =>
    match c.rest with
    | '\x7D' :: _ => .ok (entries, c.drop 1)
    | _ => do
      let ((path, key), next) ← readKey c
      let start := skipBlanks (← expect '=' next)
      let (node, next) ← value fuel depth start
      let entries ← Table.insert entries path key ⟨start.pos, next.pos⟩ node
      let next := skipSpace next
      match next.rest with
      | ',' :: _ => pairs fuel depth entries (skipSpace (next.drop 1))
      | '\x7D' :: _ => .ok (entries, next.drop 1)
      | _ => fail next .unexpected

end

/-- A value and where it stands. -/
def readValue (c : Cursor) : Except Fault ((Span × Node) × Cursor) := do
  let (node, next) ← value (2 * c.rest.length + 2) maxDepth c
  return ((⟨c.pos, next.pos⟩, node), next)

end Reader

namespace Document

open Reader

/-- What has been read: the table of the document, and the header that keys belong to. -/
structure State where
  root : List Entry
  header : List Key

/-- A header, from its first bracket. -/
def header (s : State) (c : Cursor) : Except Fault (State × Cursor) := do
  let repeated := c.rest.take 2 == ['[', '[']
  let ((path, key), next) ← readKey (c.drop (if repeated then 2 else 1))
  let next ← expect ']' next
  let next ← if repeated then expect ']' next else pure next
  let span : Span := ⟨c.pos, next.pos⟩
  let root ←
    if repeated then Table.openRepeated s.root path key span
    else Table.openTable s.root path key span
  return (⟨root, path ++ [key]⟩, next)

/-- A key with its value. -/
def pair (s : State) (c : Cursor) : Except Fault (State × Cursor) := do
  let ((path, key), next) ← readKey c
  let start := skipBlanks (← expect '=' next)
  let ((span, node), next) ← readValue start
  return ({ s with root := ← Table.insertUnder s.root s.header path key span node }, next)

/-- Lines up to the end of the text. -/
def lines : Nat → State → Cursor → Except Fault (State × Cursor)
  | 0, s, c => .ok (s, c)
  | fuel + 1, s, c =>
    let c := skipSpace c
    match c.rest with
    | [] => .ok (s, c)
    | k :: _ => do
      let (s, c) ← if k = '[' then header s c else pair s c
      lines fuel s (← finishLine c)

/-- The mark that a text may start with. -/
def skipMark (c : Cursor) : Cursor :=
  match c.rest with
  | '\uFEFF' :: _ => c.drop 1
  | _ => c

/-- **The table of a text**, and whether it holds an integer beyond 64 bits. -/
def parse (text : String) : Except Fault (List Entry × Bool) := do
  let c := skipMark (Cursor.ofText text.toList)
  let (s, c) ← lines (c.rest.length + 1) ⟨[], []⟩ c
  return (s.root, c.wide)

end Document

end ChildWatch.Toml
