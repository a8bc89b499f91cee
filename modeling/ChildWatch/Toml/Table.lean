import ChildWatch.Toml.Value

/-! # Tables

How keys and headers add to a table. A table that a header or braces have defined is not added to
from elsewhere; one that came about on the way is.

* `Entry.find?` — the value of a key.
* `Table.descend` — changes the table at a path.
* `Table.insert` — a key with its value.
* `Table.openTable`, `Table.openRepeated` — the tables of headers. -/

namespace ChildWatch.Toml

/-- The entry of a key. -/
def Entry.find? (entries : List Entry) (key : String) : Option Entry :=
  entries.find? (·.1.text == key)

namespace Table

/-- The entries with another value for a key. -/
def replace (entries : List Entry) (key : String) (node : Node) : List Entry :=
  entries.map fun e => if e.1.text == key then (e.1, e.2.1, node) else e

/-- The fault of a key that is taken. -/
def taken {α : Type} (key : Key) : Except Fault α := .error ⟨key.span, .duplicateKey⟩

/-- **Changes the table at a path** by `finish`, which is given how that table came about and its
entries. Tables on the way that are missing are added. Of a repeated header the last table is
entered. A dotted key does not enter a table that has a header, and nothing enters one in braces. -/
def descend (dotted : Bool) (finish : TableOrigin → List Entry → Except Fault (List Entry)) :
    List Key → TableOrigin → List Entry → Except Fault (List Entry)
  | [], origin, entries => finish origin entries
  | key :: path, _, entries =>
    match Entry.find? entries key.text with
    | none => do
      let origin := if dotted then TableOrigin.dotted else .implied
      let inner ← descend dotted finish path origin []
      return entries ++ [(key, key.span, .table origin inner)]
    | some (_, _, .table origin inner) =>
      if origin = .inline ∨ (dotted ∧ origin = .header) then taken key
      else do
        let inner ← descend dotted finish path origin inner
        return replace entries key.text (.table origin inner)
    | some (_, _, .tables items) =>
      match items.getLast? with
      | none => taken key
      | some inner => do
        let inner ← descend dotted finish path .header inner
        return replace entries key.text (.tables (items.dropLast ++ [inner]))
    | some _ => taken key

/-- **A key with its value**: `path` are the parts of the key before the last. A dotted key adds to a
table of dotted keys only. -/
def insert (entries : List Entry) (path : List Key) (key : Key) (span : Span) (node : Node) :
    Except Fault (List Entry) :=
  descend true
    (fun origin entries =>
      if !path.isEmpty && origin != .dotted then taken key
      else if (Entry.find? entries key.text).isSome then taken key
      else .ok (entries ++ [(key, span, node)]))
    path .header entries

/-- **A header**: its table is added, or taken up if it came about on the way to another one. -/
def openTable (root : List Entry) (path : List Key) (key : Key) (span : Span) :
    Except Fault (List Entry) :=
  descend false
    (fun _ entries =>
      match Entry.find? entries key.text with
      | none => .ok (entries ++ [(key, span, .table .header [])])
      | some (_, _, .table .implied inner) =>
        .ok (entries.filter (·.1.text != key.text) ++ [(key, span, .table .header inner)])
      | some _ => taken key)
    path .header root

/-- **A repeated header**: one more table under its key. The first of them is where the key's value
stands. -/
def openRepeated (root : List Entry) (path : List Key) (key : Key) (span : Span) :
    Except Fault (List Entry) :=
  descend false
    (fun _ entries =>
      match Entry.find? entries key.text with
      | none => .ok (entries ++ [(key, span, .tables [[]])])
      | some (_, _, .tables items) =>
        .ok (replace entries key.text (.tables (items ++ [[]])))
      | some _ => taken key)
    path .header root

/-- A key with its value in the table that the last header opened. -/
def insertUnder (root : List Entry) (header path : List Key) (key : Key) (span : Span)
    (node : Node) : Except Fault (List Entry) :=
  descend false (fun _ entries => insert entries path key span node) header .header root

end Table

end ChildWatch.Toml
