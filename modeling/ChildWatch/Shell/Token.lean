import ChildWatch.Shell.Word

/-! # Tokens of a shell script

* `Token.scan` — the tokens of a script, each with the line it stands on. A text that cannot be read
  on gives a fault as its last token. -/

namespace ChildWatch.Shell

/-- What a redirection does to a descriptor. -/
inductive Direction where
  | read
  | write
  | append
  | readWrite
  | duplicate (forReading : Bool)
  | document
deriving DecidableEq, Repr

/-- A **token**. -/
inductive Token where
  | word (w : Word)
  | sign (s : String)
  | redirect (descriptor : Option Nat) (direction : Direction)
  | fault (message : String)

/-- A token and its line. -/
structure Placed where
  token : Token
  line : Nat

namespace Token

/-- What stands at the start of a text, other than a word. -/
inductive Head where
  | sign (s : String)
  | redirect (direction : Direction)
  | document (stripped : Bool)

/-- The sign or redirection at the start of a text, and what follows it. -/
def head? : List Char → Option (Head × List Char)
  | '\n' :: rest => some (.sign "\n", rest)
  | ';' :: ';' :: rest => some (.sign ";;", rest)
  | ';' :: rest => some (.sign ";", rest)
  | '&' :: '&' :: rest => some (.sign "&&", rest)
  | '&' :: rest => some (.sign "&", rest)
  | '|' :: '|' :: rest => some (.sign "||", rest)
  | '|' :: rest => some (.sign "|", rest)
  | '(' :: rest => some (.sign "(", rest)
  | ')' :: rest => some (.sign ")", rest)
  | '>' :: '>' :: rest => some (.redirect .append, rest)
  | '>' :: '&' :: rest => some (.redirect (.duplicate false), rest)
  | '>' :: '|' :: rest => some (.redirect .write, rest)
  | '>' :: rest => some (.redirect .write, rest)
  | '<' :: '<' :: '-' :: rest => some (.document true, rest)
  | '<' :: '<' :: rest => some (.document false, rest)
  | '<' :: '&' :: rest => some (.redirect (.duplicate true), rest)
  | '<' :: '>' :: rest => some (.redirect .readWrite, rest)
  | '<' :: rest => some (.redirect .read, rest)
  | _ => none

/-- The descriptor that a redirection names right before its sign, and what follows it. -/
def numbered? (cs : List Char) : Option (Nat × List Char) :=
  let digits := cs.takeWhile Char.isDigit
  match cs.dropWhile Char.isDigit with
  | c :: rest =>
    if !digits.isEmpty && (c = '<' || c = '>') then
      some (digits.foldl (fun n d => 10 * n + (d.toNat - 48)) 0, c :: rest)
    else none
  | [] => none

/-- How many line feeds a text has before what is left of it. -/
def linesBetween (cs rest : List Char) : Nat :=
  ((cs.take (cs.length - rest.length)).filter (· = '\n')).length

/-- The text of a word with its quotes undone, and whether there were any. -/
def delimiter (w : Word) : String × Bool :=
  (String.join (w.map fun
    | .text _ s => s
    | _ => ""), w.any fun
    | .text quoted _ => quoted
    | _ => false)

/-- The lines of a document up to its delimiter, and what follows that. More `fuel` than there are
characters is never used up. -/
def documentLines (stop : List Char) (stripped : Bool) : Nat → List Char → List Char × List Char
  | 0, cs => ([], cs)
  | _ + 1, [] => ([], [])
  | fuel + 1, cs =>
    let line := cs.takeWhile (· ≠ '\n')
    let rest := (cs.dropWhile (· ≠ '\n')).drop 1
    let line := if stripped then line.dropWhile (· = '\t') else line
    if line = stop then ([], rest)
    else
      let (more, rest) := documentLines stop stripped fuel rest
      (line ++ '\n' :: more, rest)

/-- A document within a script: its word, and the text without it. It stands on the lines after the
one that asks for it. -/
def document (stripped : Bool) (cs : List Char) : Except String (Word × List Char) := do
  let cs := cs.dropWhile fun c => c = ' ' || c = '\t'
  if cs.isEmpty then throw "end of file unexpected"
  let (w, rest) ← Word.ofChars (2 * cs.length + 2) .word cs
  let (stop, quoted) := delimiter w
  let here := rest.takeWhile (· ≠ '\n')
  let (body, after) := documentLines stop.toList stripped (rest.length + 1)
    ((rest.dropWhile (· ≠ '\n')).drop 1)
  let text := here ++ '\n' :: after
  if quoted then .ok (Word.literal (String.ofList body), text)
  else
    let (w, _) ← Word.ofChars (2 * body.length + 2) .document body
    .ok (w, text)

/-- The tokens of a text from a line on; at its end, so many lines have to be made up for. More `fuel`
than there are characters is never used up. -/
def scanFrom : Nat → Nat → Nat → List Char → List Placed
  | 0, _, _, _ => []
  | _ + 1, _, _, [] => []
  | fuel + 1, debt, line, c :: cs =>
    if c = ' ' || c = '\t' then scanFrom fuel debt line cs
    else if c = '#' then scanFrom fuel debt line (cs.dropWhile (· ≠ '\n'))
    else if c = '\\' && cs.head? = some '\n' then scanFrom fuel debt (line + 1) (cs.drop 1)
    else
      let (descriptor, text) :=
        match numbered? (c :: cs) with
        | some (n, text) => (some n, text)
        | none => (none, c :: cs)
      match head? text with
      | some (.redirect d, rest) => ⟨.redirect descriptor d, line⟩ :: scanFrom fuel debt line rest
      | some (.document stripped, rest) =>
        match document stripped rest with
        | .error message => [⟨.fault message, line⟩]
        | .ok (w, rest') =>
          ⟨.redirect descriptor .document, line⟩ :: ⟨.word w, line⟩ ::
            scanFrom fuel (debt + linesBetween rest [] - linesBetween rest' []) line rest'
      | some (.sign s, rest) =>
        ⟨.sign s, line⟩ ::
          if s = "\n" then scanFrom fuel 0 (line + 1 + debt) rest else scanFrom fuel debt line rest
      | none =>
        match Word.ofChars (2 * text.length + 2) .word text with
        | .error message => [⟨.fault message, line⟩]
        | .ok (w, rest) => ⟨.word w, line⟩ :: scanFrom fuel debt (line + linesBetween text rest) rest

/-- **The tokens of a script.** -/
def scan (source : String) : List Placed := scanFrom (source.length + 2) 0 1 source.toList

/-- A token as a complaint names it. -/
def text : Token → String
  | .word w =>
    match Word.name? w with
    | some s => if reserved.contains s then "\"" ++ s ++ "\"" else "word"
    | none => "word"
  | .sign s => if s = "\n" then "newline" else "\"" ++ s ++ "\""
  | .redirect .. => "redirection"
  | .fault message => message
where
  /-- The words that have a meaning of their own where a command can start. -/
  reserved : List String :=
    ["!", "case", "do", "done", "elif", "else", "esac", "fi", "for", "if", "in", "then", "until",
      "while", "\x7B", "\x7D"]

end Token

end ChildWatch.Shell
