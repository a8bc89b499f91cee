import ChildWatch.Shell.Arithmetic
import ChildWatch.Shell.Glob
import ChildWatch.Shell.Options
import ChildWatch.Shell.Word

/-! # Expansion of words

* `Scope` — what the values in a word depend on.
* `Word.source?`, `Word.fill` — the first script whose output a word needs, and the word with that
  output in its place.
* `Scope.fields` — the texts that some words stand for, their characters marked as quoted or not.
* `Scope.text` — the one text that a word stands for where words are not split. -/

namespace ChildWatch.Shell

/-- What the values in a word depend on: the name of the shell, its parameters and variables, the
status of the last command, the number of the shell, that of its last job, and its options. -/
structure Scope where
  name : String
  params : List String
  bindings : Variables
  exported : List String
  status : Nat
  pid : Nat
  lastJob : Option Nat
  options : Options

namespace Word

mutual

/-- The first script in a piece whose output is needed. -/
def pieceSource? : Piece → Option String
  | .script _ source => some source
  | .parameter _ _ _ word => source? word
  | .arithmetic _ word => source? word
  | .text .. | .output .. => none

/-- **The first script whose output a word needs.** -/
def source? : List Piece → Option String
  | [] => none
  | p :: rest => (pieceSource? p).or (source? rest)

end

mutual

/-- A piece with the output of its first script, and whether it has one. -/
def fillPiece (s : String) : Piece → Bool × Piece
  | .script quoted _ => (true, .output quoted s)
  | .parameter quoted name use word =>
    let (done, word) := fill s word
    (done, .parameter quoted name use word)
  | .arithmetic quoted word =>
    let (done, word) := fill s word
    (done, .arithmetic quoted word)
  | p => (false, p)

/-- **A word with the output of its first script**, and whether it has one. -/
def fill (s : String) : List Piece → Bool × List Piece
  | [] => (false, [])
  | p :: rest =>
    let (done, p) := fillPiece s p
    if done then (true, p :: rest)
    else
      let (done, rest) := fill s rest
      (done, p :: rest)

end

end Word

/-- What a word comes to, bit by bit. A `mark` makes a field even if it is empty, and a `gap` unmakes
it. A `blank` stands between fields, and so does a `cut`; each `stop` ends one, which may be empty. -/
inductive Atom where
  | char (c : Char) (quoted : Bool)
  | mark
  | gap
  | blank (c : Char)
  | stop (c : Char)
  | cut
deriving DecidableEq, Repr

/-- A text whose characters are marked as quoted or not. -/
abbrev Marked := List (Char × Bool)

/-- A marked text without the marks. -/
def Marked.text (m : Marked) : String := String.ofList (m.map (·.1))

namespace Scope

/-- The characters between which values are split. -/
def separators (sc : Scope) : List Char :=
  ((sc.bindings.get? "IFS").getD " \t\n").toList

/-- The value of a parameter that has one value. -/
def value? (sc : Scope) (name : String) : Option String :=
  match name with
  | "?" => some (toString sc.status)
  | "$" => some (toString sc.pid)
  | "!" => sc.lastJob.map toString
  | "#" => some (toString sc.params.length)
  | "@" => if sc.params.isEmpty then none else some (" ".intercalate sc.params)
  | "*" =>
    if sc.params.isEmpty then none
    else some ((String.ofList (sc.separators.take 1)).intercalate sc.params)
  | "-" => some sc.options.letters
  | "0" => some sc.name
  | name =>
    match name.toList with
    | c :: _ =>
      if c.isDigit then sc.params[(Arithmetic.digits? 10 name.toList).getD 0 |>.toNat |> (· - 1)]?
      else sc.bindings.get? name
    | [] => none

/-- A value as atoms: quoted it is text, and else it is split. -/
def atoms (sc : Scope) (quoted : Bool) (value : String) : List Atom :=
  value.toList.map fun c =>
    if quoted || !sc.separators.contains c then .char c quoted
    else if c = ' ' || c = '\t' || c = '\n' then .blank c
    else .stop c

/-- All the parameters, each a field of its own. -/
def parameterAtoms (sc : Scope) (quoted : Bool) : List Atom :=
  match sc.params with
  | [] => [.gap]
  | first :: rest =>
    let one := fun p => (if quoted then [.mark] else []) ++ sc.atoms quoted p
    one first ++ rest.flatMap fun p => .cut :: one p

/-- The value of a parameter as atoms. -/
def plainAtoms (sc : Scope) (quoted : Bool) (name : String) : List Atom :=
  if name = "@" || (name = "*" && !quoted) then sc.parameterAtoms quoted
  else sc.atoms quoted ((sc.value? name).getD "")

/-- Whether a parameter is without a value that it needs. -/
def misses (sc : Scope) (name : String) (use : Use) : Bool :=
  sc.options.needsValues && (sc.value? name).isNone && name ≠ "@" && name ≠ "*" &&
    match use with
    | .value | .length | .trim .. => true
    | _ => false

/-- The characters of atoms, marked. -/
def marked (as : List Atom) : Marked :=
  as.filterMap fun
    | .char c quoted => some (c, quoted)
    | .blank c | .stop c => some (c, false)
    | .cut => some (' ', false)
    | .mark | .gap => none

/-- A text without the line feeds at its end. -/
def withoutLineEnds (s : String) : String :=
  String.ofList ((s.toList.reverse.dropWhile (· = '\n')).reverse)

mutual

/-- The atoms of a piece, and the scope after it. -/
def ofPiece (sc : Scope) (quotes : Bool) : Piece → Except String (List Atom × Scope)
  | .text quoted s =>
    let q := quoted || quotes
    .ok ((if q then [.mark] else []) ++ s.toList.map fun c => .char c q, sc)
  | .output quoted s => .ok (sc.atoms (quoted || quotes) (withoutLineEnds s), sc)
  | .script .. => .ok ([], sc)
  | .arithmetic quoted word => do
    let (as, sc) ← ofPieces sc true word
    match Arithmetic.evaluate sc.bindings (Marked.text (marked as)) with
    | .ok (n, bindings) =>
      .ok (sc.atoms (quoted || quotes) (toString n), { sc with bindings := bindings })
    | .error e => .error ("arithmetic expression: " ++ e)
  | .parameter quoted name use word => do
    let q := quoted || quotes
    let given := fun colon => match sc.value? name with
      | none => false
      | some v => !(colon && v.isEmpty)
    if sc.misses name use then .error (name ++ ": parameter not set")
    else match use with
    | .unknown => .error "Bad substitution"
    | .value => .ok (sc.plainAtoms q name, sc)
    | .length => .ok (sc.atoms q (toString ((sc.value? name).getD "").length), sc)
    | .orElse colon => if given colon then .ok (sc.plainAtoms q name, sc) else ofPieces sc q word
    | .instead colon => if given colon then ofPieces sc q word else .ok ([], sc)
    | .assign colon =>
      if given colon then .ok (sc.plainAtoms q name, sc)
      else
        let (as, sc) ← ofPieces sc q word
        .ok (as, { sc with bindings := sc.bindings.set name (Marked.text (marked as)) })
    | .require colon =>
      if given colon then .ok (sc.plainAtoms q name, sc)
      else
        let (as, _) ← ofPieces sc q word
        let said := Marked.text (marked as)
        .error (name ++ ": " ++ if said.isEmpty then
          (if colon then "parameter not set or null" else "parameter not set") else said)
    | .trim atEnd longest =>
      let (as, sc) ← ofPieces sc false word
      let p := Glob.ofMarked (marked as)
      let value := ((sc.value? name).getD "").toList
      let cut := if atEnd then Glob.cutEnd p longest value else Glob.cutStart p longest value
      .ok (sc.atoms q (String.ofList cut), sc)

/-- The atoms of some pieces, and the scope after them. -/
def ofPieces (sc : Scope) (quotes : Bool) : List Piece → Except String (List Atom × Scope)
  | [] => .ok ([], sc)
  | p :: rest => do
    let (first, sc) ← ofPiece sc quotes p
    let (more, sc) ← ofPieces sc quotes rest
    .ok (first ++ more, sc)

end

/-- A field under way: its characters, latest first, and whether it is a field even if there are
none. `afterBlank` is whether a field that a blank has ended is the last there was. -/
structure Partial where
  chars : Marked
  isMarked : Bool
  isGap : Bool
  afterBlank : Bool

/-- The field that has not begun. -/
def Partial.fresh : Partial := ⟨[], false, false, false⟩

/-- Whether a field under way is none. -/
def Partial.isNone (p : Partial) : Bool := p.chars.isEmpty && (!p.isMarked || p.isGap)

/-- The fields of a field under way. -/
def Partial.close (p : Partial) : List Marked := if p.isNone then [] else [p.chars.reverse]

/-- **Splitting** atoms into fields. -/
def split (p : Partial) : List Atom → List Marked
  | [] => p.close
  | .char c quoted :: rest => split { p with chars := (c, quoted) :: p.chars } rest
  | .mark :: rest => split { p with isMarked := true } rest
  | .gap :: rest => split { p with isGap := true } rest
  | .blank _ :: rest =>
    p.close ++ split { Partial.fresh with afterBlank := p.afterBlank || !p.isNone } rest
  | .stop _ :: rest =>
    (if p.isNone && p.afterBlank then [] else [p.chars.reverse]) ++ split .fresh rest
  | .cut :: rest => p.close ++ split .fresh rest

/-- A word with the home directory in the place of a tilde that starts it and is alone or before a
slash. -/
def withHome (sc : Scope) (w : Word) : Word :=
  match w, sc.bindings.get? "HOME" with
  | .text false s :: rest, some home =>
    match s.toList, rest with
    | ['~'], [] => [.text true home]
    | '~' :: '/' :: tail, rest =>
      .text true home :: .text false ("/" ++ String.ofList tail) :: rest
    | _, _ => w
  | _, _ => w

/-- **The fields of words**, and the scope after them. -/
def fields (sc : Scope) : List Word → Except String (List Marked × Scope)
  | [] => .ok ([], sc)
  | w :: rest => do
    let (as, sc) ← ofPieces sc false (sc.withHome w)
    let (more, sc) ← fields sc rest
    .ok (split .fresh as ++ more, sc)

/-- The characters of a word that is not split. -/
def whole (sc : Scope) (w : Word) : Except String (Marked × Scope) := do
  let (as, sc) ← ofPieces sc false (sc.withHome w)
  .ok (marked as, sc)

/-- **The text of a word that is not split**, and the scope after it. -/
def text (sc : Scope) (w : Word) : Except String (String × Scope) := do
  let (m, sc) ← sc.whole w
  .ok (m.text, sc)

/-- Assignments made in order. -/
def assign (sc : Scope) : List (String × Word) → Except String Scope
  | [] => .ok sc
  | (name, w) :: rest => do
    let (value, sc) ← sc.text w
    assign { sc with bindings := sc.bindings.set name value } rest

/-- The variables that programs are given. -/
def environment (sc : Scope) : List (String × String) :=
  sc.bindings.filter fun v => sc.exported.contains v.1

end Scope

end ChildWatch.Shell
