/-! # Words of a shell script

A word is a list of pieces: text, and places where a value is filled in when the word is used.

* `Piece` — a piece, which is quoted or not; what is quoted is neither split nor a pattern.
* `Word.ofChars` — the pieces at the start of a text, up to where the word ends.
* `Word.name?` — the text of a word that has no quotes and no values. -/

namespace ChildWatch.Shell

/-- What is made of the value of a parameter. `colon` is whether an empty value counts as none. -/
inductive Use where
  | value
  | length
  | orElse (colon : Bool)
  | assign (colon : Bool)
  | instead (colon : Bool)
  | require (colon : Bool)
  | trim (atEnd longest : Bool)
  /-- It is not known what is to be made of it. -/
  | unknown
deriving DecidableEq, Repr

/-- A **piece of a word**. -/
inductive Piece where
  /-- Text that stands for itself. -/
  | text (quoted : Bool) (s : String)
  /-- The value of a parameter, with the word that its use needs. -/
  | parameter (quoted : Bool) (name : String) (use : Use) (word : List Piece)
  /-- The value of an arithmetic expression. -/
  | arithmetic (quoted : Bool) (word : List Piece)
  /-- The output of a script that has still to be run. -/
  | script (quoted : Bool) (source : String)
  /-- The output of a script that has been run. -/
  | output (quoted : Bool) (s : String)

/-- A **word**. -/
abbrev Word := List Piece

namespace Word

/-- The line feed. -/
def newline : Char := '\n'

/-- The old sign for the output of a script. -/
def backquote : Char := '\x60'

/-- The characters that end a word unless they are quoted. -/
def endsWord (c : Char) : Bool :=
  c = ' ' || c = '\t' || c = newline || c = ';' || c = '&' || c = '|' || c = '<' || c = '>' ||
    c = '(' || c = ')'

/-- Whether a character may stand in a name. -/
def inName (c : Char) : Bool := c.isAlphanum || c = '_'

/-- Whether a name may start with a character. -/
def startsName (c : Char) : Bool := c.isAlpha || c = '_'

/-- The parameters that are one sign. -/
def isSpecial (c : Char) : Bool := "?$!#@*-".toList.contains c

/-- Where pieces are read, which says what ends them: a word of its own, text between double quotes,
the word within a parameter's braces, the whole of an expression, or a document within a script. -/
inductive Place where
  | word
  | double
  | braces (quoted : Bool)
  | expression
  | document
deriving DecidableEq, Repr

/-- Whether what stands at a place is quoted. -/
def Place.quotes : Place → Bool
  | .word => false
  | .double => true
  | .braces quoted => quoted
  | .expression => true
  | .document => true

/-- What is said of a text that ends within quotes. -/
def unterminated : String := "Unterminated quoted string"

/-- What is said of a text that ends within parentheses. -/
def endOfFile : String := "end of file unexpected (expecting \")\")"

/-- What is said of a text that ends within the parentheses of an expression. -/
def openExpression : String := "Missing '))'"

/-- What is said of a text that ends within braces. -/
def openBrace : String := "Missing '\x7D'"

/-- The text up to the parenthesis that closes one already open, and what follows it. `depth` more
are open, and `quote` is the quotation mark that is. -/
def balanced (depth : Nat) (quote : Option Char) : List Char → Option (List Char × List Char)
  | [] => none
  | '\\' :: c :: rest =>
    if quote = some '\'' then
      (balanced depth (if c = '\'' then none else quote) rest).map
        fun (inner, rest) => ('\\' :: c :: inner, rest)
    else (balanced depth quote rest).map fun (inner, rest) => ('\\' :: c :: inner, rest)
  | c :: rest =>
    if quote = some c then (balanced depth none rest).map fun (inner, rest) => (c :: inner, rest)
    else if quote.isNone && (c = '"' || c = '\'') then
      (balanced depth (some c) rest).map fun (inner, rest) => (c :: inner, rest)
    else if quote.isNone && c = ')' then
      match depth with
      | 0 => some ([], rest)
      | d + 1 => (balanced d quote rest).map fun (inner, rest) => (c :: inner, rest)
    else if quote.isNone && c = '(' then
      (balanced (depth + 1) quote rest).map fun (inner, rest) => (c :: inner, rest)
    else (balanced depth quote rest).map fun (inner, rest) => (c :: inner, rest)

/-- The text up to a closing backquote, without the backslashes before special signs. -/
def backquoted : List Char → Option (List Char × List Char)
  | [] => none
  | '\\' :: c :: rest =>
    (backquoted rest).map fun (inner, rest) =>
      if c = backquote || c = '\\' || c = '$' then (c :: inner, rest) else ('\\' :: c :: inner, rest)
  | c :: rest =>
    if c = backquote then some ([], rest)
    else (backquoted rest).map fun (inner, rest) => (c :: inner, rest)

/-- A character put before pieces, joined to the text that comes first. -/
def consChar (quoted : Bool) (c : Char) : Word → Word
  | .text q s :: rest =>
    if q = quoted then .text q (c.toString ++ s) :: rest
    else .text quoted c.toString :: .text q s :: rest
  | rest => .text quoted c.toString :: rest

/-- The use of a parameter that starts with some signs, and what follows them. -/
def use? : List Char → Option (Use × List Char)
  | ':' :: '-' :: rest => some (.orElse true, rest)
  | ':' :: '=' :: rest => some (.assign true, rest)
  | ':' :: '+' :: rest => some (.instead true, rest)
  | ':' :: '?' :: rest => some (.require true, rest)
  | '-' :: rest => some (.orElse false, rest)
  | '=' :: rest => some (.assign false, rest)
  | '+' :: rest => some (.instead false, rest)
  | '?' :: rest => some (.require false, rest)
  | '%' :: '%' :: rest => some (.trim true true, rest)
  | '%' :: rest => some (.trim true false, rest)
  | '#' :: '#' :: rest => some (.trim false true, rest)
  | '#' :: rest => some (.trim false false, rest)
  | _ => none

/-- The name of a parameter at the start of a text, and what follows it. -/
def parameterName (cs : List Char) : Option (String × List Char) :=
  match cs with
  | [] => none
  | c :: rest =>
    if startsName c then some (String.ofList (cs.takeWhile inName), cs.dropWhile inName)
    else if c.isDigit then some (String.ofList (cs.takeWhile Char.isDigit), cs.dropWhile Char.isDigit)
    else if isSpecial c then some (c.toString, rest)
    else none

/-- Whether the text between two parentheses is an expression in parentheses of its own. -/
def expression? (inner : List Char) : Option (List Char) :=
  match inner with
  | '(' :: rest => if rest.getLast? = some ')' then some rest.dropLast else none
  | _ => none

mutual

/-- **The pieces at the start of a text**, up to the end of their place, and what follows it. More
`fuel` than there are characters is never used up. -/
def ofChars : Nat → Place → List Char → Except String (Word × List Char)
  | 0, _, _ => .error endOfFile
  | fuel + 1, place, cs =>
    match cs with
    | [] =>
      match place with
      | .word | .expression | .document => .ok ([], [])
      | .double => .error unterminated
      | .braces quoted => .error (if quoted then unterminated else openBrace)
    | c :: rest =>
      if place = .word && endsWord c then .ok ([], cs)
      else if place = .double && c = '"' then .ok ([], rest)
      else if (place = .braces true || place = .braces false) && c = '}' then .ok ([], rest)
      else if c = '\\' then ofBackslash fuel place rest
      else if c = '\'' && !place.quotes then
        let inner := rest.takeWhile (· ≠ '\'')
        match rest.dropWhile (· ≠ '\'') with
        | [] => .error unterminated
        | _ :: rest => do
          let (more, rest) ← ofChars fuel place rest
          .ok (.text true (String.ofList inner) :: more, rest)
      else if c = '"' && place ≠ .double && place ≠ .document then do
        let (inner, rest) ← ofChars fuel .double rest
        let (more, rest) ← ofChars fuel place rest
        .ok (.text true "" :: inner ++ more, rest)
      else if c = backquote then
        match backquoted rest with
        | none => .error "EOF in backquote substitution"
        | some (source, rest) => do
          let (more, rest) ← ofChars fuel place rest
          .ok (.script place.quotes (String.ofList source) :: more, rest)
      else if c = '$' then ofDollar fuel place rest
      else do
        let (more, rest) ← ofChars fuel place rest
        .ok (consChar place.quotes c more, rest)

/-- The pieces after a backslash. Between double quotes it quotes only the signs that are special
there, and before a line feed it joins two lines. -/
def ofBackslash : Nat → Place → List Char → Except String (Word × List Char)
  | 0, _, _ => .error endOfFile
  | fuel + 1, place, cs =>
    match cs with
    | [] => do
      let (more, rest) ← ofChars fuel place []
      .ok (consChar true '\\' more, rest)
    | c :: rest => do
      let (more, rest') ← ofChars fuel place rest
      if c = newline then .ok (more, rest')
      else if !place.quotes || c = '$' || (c = '"' && place ≠ .document) || c = '\\' || c = backquote || c = '}' then
        .ok (consChar true c more, rest')
      else .ok (consChar true '\\' (consChar true c more), rest')

/-- The pieces after a dollar sign. -/
def ofDollar : Nat → Place → List Char → Except String (Word × List Char)
  | 0, _, _ => .error endOfFile
  | fuel + 1, place, cs =>
    match cs with
    | '(' :: rest =>
      match balanced 0 none rest with
      | none => .error (if rest.head? = some '(' then openExpression else endOfFile)
      | some (inner, rest) => do
        let (more, rest) ← ofChars fuel place rest
        match expression? inner with
        | some e =>
          let (word, _) ← ofChars fuel .expression e
          .ok (.arithmetic place.quotes word :: more, rest)
        | none => .ok (.script place.quotes (String.ofList inner) :: more, rest)
    | '{' :: '#' :: '}' :: rest => do
      let (more, rest) ← ofChars fuel place rest
      .ok (.parameter place.quotes "#" .value [] :: more, rest)
    | '{' :: '#' :: rest =>
      match parameterName rest with
      | some (name, '}' :: rest) => do
        let (more, rest) ← ofChars fuel place rest
        .ok (.parameter place.quotes name .length [] :: more, rest)
      | _ => ofUnknown fuel place rest
    | '{' :: rest =>
      match parameterName rest with
      | none => ofUnknown fuel place rest
      | some (name, '}' :: rest) => do
        let (more, rest) ← ofChars fuel place rest
        .ok (.parameter place.quotes name .value [] :: more, rest)
      | some (name, rest) =>
        match use? rest with
        | none => ofUnknown fuel place rest
        | some (use, rest) => do
          let (word, rest) ← ofChars fuel (.braces place.quotes) rest
          let (more, rest) ← ofChars fuel place rest
          .ok (.parameter place.quotes name use word :: more, rest)
    | _ =>
      match parameterName cs with
      | some (name, rest) => do
        let digit := (name.toList.head?.map Char.isDigit).getD false
        let (name, rest) :=
          if digit then (String.ofList (name.toList.take 1), name.toList.drop 1 ++ rest)
          else (name, rest)
        let (more, rest) ← ofChars fuel place rest
        .ok (.parameter place.quotes name .value [] :: more, rest)
      | none => do
        let (more, rest) ← ofChars fuel place cs
        .ok (consChar place.quotes '$' more, rest)

/-- The pieces after braces of which it is not known what they ask for. -/
def ofUnknown : Nat → Place → List Char → Except String (Word × List Char)
  | 0, _, _ => .error endOfFile
  | fuel + 1, place, cs => do
    let (word, rest) ← ofChars fuel (.braces place.quotes) cs
    let (more, rest) ← ofChars fuel place rest
    .ok (.parameter place.quotes "" .unknown word :: more, rest)

end

/-- **The text of a word** that has no quotes and no values. -/
def name? : Word → Option String
  | [.text false s] => some s
  | _ => none

/-- A word that stands for a text as it is. -/
def literal (s : String) : Word := [.text true s]

end Word

end ChildWatch.Shell
