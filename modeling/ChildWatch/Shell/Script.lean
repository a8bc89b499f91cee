import ChildWatch.Shell.Token

/-! # Shell scripts

* `Script` — the commands of a script as a tree.
* `Script.next?` — the commands on the first lines of some tokens, up to the line end that completes
  them. A script is read and run piece by piece. -/

namespace ChildWatch.Shell

/-- A redirection of a descriptor to what a word names. -/
structure Redirect where
  descriptor : Nat
  direction : Direction
  target : Word

/-- The words of a command with what is assigned and redirected for it, and its line. -/
structure SimpleCommand where
  assignments : List (String × Word)
  words : List Word
  redirects : List Redirect
  line : Nat

/-- The **commands of a script**. -/
inductive Script where
  | nothing
  | simple (c : SimpleCommand)
  | pipeline (parts : List Script)
  | invert (c : Script)
  | both (a b : Script)
  | either (a b : Script)
  | sequence (a b : Script)
  | background (c : Script)
  | subshell (c : Script)
  | redirected (c : Script) (redirects : List Redirect) (line : Nat)
  | choose (test yes no : Script)
  | loop (whileTrue : Bool) (test body : Script)
  | each (name : String) (values : Option (List Word)) (body : Script)
  | select (subject : Word) (branches : List (List Word × Script))
  | function (name : String) (body : Script)

/-- Why a script cannot be read on, and the line where. -/
structure SyntaxFault where
  message : String
  line : Nat

namespace Script

/-- A reader takes tokens off the front of a list. -/
abbrev Reader (α : Type) := List Placed → Except SyntaxFault (α × List Placed)

/-- The fault of finding what stands first. -/
def unexpected (ts : List Placed) (wanted : Option String) : SyntaxFault :=
  let tail := match wanted with
    | some w => " (expecting " ++ w ++ ")"
    | none => ""
  match ts with
  | [] => ⟨"end of file unexpected" ++ tail, 1⟩
  | ⟨.fault message, line⟩ :: _ => ⟨message, line⟩
  | t :: _ => ⟨t.token.text ++ " unexpected" ++ tail, t.line⟩

/-- A sign or a word as a complaint names it. -/
def quoted (s : String) : String := "\"" ++ s ++ "\""

/-- The unquoted text of the word that stands first. -/
def firstName? : List Placed → Option String
  | ⟨.word w, _⟩ :: _ => Word.name? w
  | _ => none

/-- The sign that stands first. -/
def firstSign? : List Placed → Option String
  | ⟨.sign s, _⟩ :: _ => some s
  | _ => none

/-- The tokens after line ends. -/
def skipLines : List Placed → List Placed
  | ⟨.sign "\n", _⟩ :: rest => skipLines rest
  | ts => ts

/-- A word with a meaning of its own that must come next, after line ends. -/
def keyword (name : String) : Reader Unit := fun ts =>
  let ts := skipLines ts
  if firstName? ts = some name then .ok ((), ts.drop 1) else .error (unexpected ts (some (quoted name)))

/-- A sign that must come next. -/
def sign (s : String) : Reader Unit := fun ts =>
  if firstSign? ts = some s then .ok ((), ts.drop 1) else .error (unexpected ts (some (quoted s)))

/-- Whether a list of commands is over: at the end, or at a sign or a word that closes it. -/
def closes (ts : List Placed) : Bool :=
  match ts with
  | [] => true
  | _ =>
    (match firstSign? ts with
      | some s => s = ")" || s = ";;"
      | none => false) ||
    (match firstName? ts with
      | some s => ["then", "else", "elif", "fi", "do", "done", "esac", "\x7D"].contains s
      | none => false)

/-- Whether a text is a name. -/
def isName (s : String) : Bool :=
  match s.toList with
  | [] => false
  | c :: rest => Word.startsName c && rest.all Word.inName

/-- The name and the value of a word that assigns: a name, an equals sign, and the rest. -/
def assignment? (w : Word) : Option (String × Word) :=
  match w with
  | .text false s :: rest =>
    let name := String.ofList (s.toList.takeWhile (· ≠ '='))
    match s.toList.dropWhile (· ≠ '=') with
    | _ :: value =>
      if isName name then
        some (name, if value.isEmpty then rest else .text false (String.ofList value) :: rest)
      else none
    | [] => none
  | _ => none

/-- The descriptor that a redirection is for, where none is named. -/
def defaultDescriptor : Direction → Nat
  | .read | .readWrite | .duplicate true | .document => 0
  | _ => 1

/-- The redirections that come next. -/
def redirects : Nat → Reader (List Redirect)
  | 0, ts => .ok ([], ts)
  | fuel + 1, ts =>
    match ts with
    | ⟨.redirect descriptor direction, _⟩ :: ⟨.word target, _⟩ :: rest => do
      let (more, rest) ← redirects fuel rest
      .ok (⟨descriptor.getD (defaultDescriptor direction), direction, target⟩ :: more, rest)
    | ⟨.redirect .., _⟩ :: rest => .error (unexpected rest none)
    | _ => .ok ([], ts)

/-- The words, assignments and redirections of a command, latest first, added to those before. -/
def simpleRest : Nat → SimpleCommand → Reader SimpleCommand
  | 0, c, ts => .ok (c, ts)
  | fuel + 1, c, ts =>
    match ts with
    | ⟨.word w, _⟩ :: rest =>
      match assignment? w, c.words.isEmpty with
      | some a, true => simpleRest fuel { c with assignments := c.assignments ++ [a] } rest
      | _, _ => simpleRest fuel { c with words := c.words ++ [w] } rest
    | ⟨.redirect .., _⟩ :: _ => do
      let (rs, rest) ← redirects 1 ts
      simpleRest fuel { c with redirects := c.redirects ++ rs } rest
    | _ => .ok (c, ts)

/-- The words that come next. -/
def words : List Placed → List Word × List Placed
  | ⟨.word w, _⟩ :: rest =>
    let (more, rest) := words rest
    (w :: more, rest)
  | ts => ([], ts)

/-- The fault of a function whose name is none. -/
def badFunctionName (line : Nat) : SyntaxFault := ⟨"Bad function name", line⟩

/-- The words of a loop over words, if there are any, up to the sign or the line end after them. -/
def eachValues : Reader (Option (List Word)) := fun ts =>
  if firstName? ts = some "in" then
    let (ws, ts) := words (ts.drop 1)
    if firstSign? ts = some ";" || firstSign? ts = some "\n" then .ok (some ws, ts.drop 1)
    else .error (unexpected ts none)
  else .ok (none, if firstSign? ts = some ";" then ts.drop 1 else ts)

/-- The patterns of a branch: words with bars between them, and a closing parenthesis. -/
def branchPatterns : Nat → Reader (List Word)
  | 0, ts => .error (unexpected ts none)
  | fuel + 1, ts =>
    match ts with
    | ⟨.word w, _⟩ :: ⟨.sign "|", _⟩ :: rest => do
      let (more, rest) ← branchPatterns fuel rest
      .ok (w :: more, rest)
    | ⟨.word w, _⟩ :: rest => do
      let ((), rest) ← sign ")" rest
      .ok ([w], rest)
    | ⟨.fault _, _⟩ :: _ => .error (unexpected ts none)
    | _ => .error (unexpected (ts.drop 1) (some (quoted ")")))

mutual

/-- A list of commands, up to what closes it. With `oneLine`, a line end closes it too. -/
def readList : Nat → Bool → Reader Script
  | 0, _, ts => .error (unexpected ts none)
  | fuel + 1, oneLine, ts =>
    let ts := if oneLine then ts else skipLines ts
    if closes ts then .ok (.nothing, ts)
    else do
      let (c, ts) ← readChain fuel ts
      let background := firstSign? ts = some "&"
      let c := if background then .background c else c
      match firstSign? ts with
      | some s =>
        if s = "&" || s = ";" || (s = "\n" && !oneLine) then
          if oneLine && (firstSign? (ts.drop 1) = some "\n") then .ok (c, ts.drop 1)
          else do
            let (more, ts) ← readList fuel oneLine (ts.drop 1)
            .ok (match more with
              | .nothing => (c, ts)
              | more => (.sequence c more, ts))
        else .ok (c, ts)
      | none => .ok (c, ts)

/-- A list of commands with one command at least, up to what closes it. -/
def readSome : Nat → Reader Script
  | 0, ts => .error (unexpected ts none)
  | fuel + 1, ts =>
    let ts := skipLines ts
    if closes ts && !ts.isEmpty then .error (unexpected ts none) else readList fuel false ts

/-- Pipelines joined by their outcomes, from the left. -/
def readChain : Nat → Reader Script
  | 0, ts => .error (unexpected ts none)
  | fuel + 1, ts => do
    let (first, ts) ← readPipeline fuel ts
    readChainRest fuel first ts

/-- More of a chain. -/
def readChainRest : Nat → Script → Reader Script
  | 0, _, ts => .error (unexpected ts none)
  | fuel + 1, a, ts =>
    match firstSign? ts with
    | some "&&" => do
      let (b, ts) ← readPipeline fuel (skipLines (ts.drop 1))
      readChainRest fuel (.both a b) ts
    | some "||" => do
      let (b, ts) ← readPipeline fuel (skipLines (ts.drop 1))
      readChainRest fuel (.either a b) ts
    | _ => .ok (a, ts)

/-- Commands joined by bars. -/
def readPipeline : Nat → Reader Script
  | 0, ts => .error (unexpected ts none)
  | fuel + 1, ts =>
    if firstName? ts = some "!" then
      if firstName? (ts.drop 1) = some "!" then .error (unexpected (ts.drop 1) none)
      else do
        let (c, ts) ← readPipeline fuel (ts.drop 1)
        .ok (.invert c, ts)
    else do
      let (first, ts) ← readCommand fuel ts
      let (more, ts) ← readBars fuel ts
      .ok (if more.isEmpty then first else .pipeline (first :: more), ts)

/-- The commands after bars. -/
def readBars : Nat → Reader (List Script)
  | 0, ts => .error (unexpected ts none)
  | fuel + 1, ts =>
    if firstSign? ts = some "|" then do
      let (c, ts) ← readCommand fuel (skipLines (ts.drop 1))
      let (more, ts) ← readBars fuel ts
      .ok (c :: more, ts)
    else .ok ([], ts)

/-- A command with the redirections after it. -/
def readCommand : Nat → Reader Script
  | 0, ts => .error (unexpected ts none)
  | fuel + 1, ts => do
    let line := (ts.head?.map (·.line)).getD 1
    match firstSign? ts, firstName? ts with
    | some "(", _ => do
      let (c, ts) ← readSome fuel (ts.drop 1)
      let ((), ts) ← sign ")" ts
      readTrailing fuel line (.subshell c) ts
    | _, some "\x7B" => do
      let (c, ts) ← readSome fuel (ts.drop 1)
      let ((), ts) ← keyword "\x7D" ts
      readTrailing fuel line c ts
    | _, some "if" => do
      let (c, ts) ← readConditional fuel (ts.drop 1)
      readTrailing fuel line c ts
    | _, some "while" => do
      let (c, ts) ← readLoop fuel true (ts.drop 1)
      readTrailing fuel line c ts
    | _, some "until" => do
      let (c, ts) ← readLoop fuel false (ts.drop 1)
      readTrailing fuel line c ts
    | _, some "for" => do
      let (c, ts) ← readEach fuel (ts.drop 1)
      readTrailing fuel line c ts
    | _, some "case" => do
      let (c, ts) ← readSelect fuel (ts.drop 1)
      readTrailing fuel line c ts
    | _, name =>
      match name, firstSign? (ts.drop 1), firstSign? (ts.drop 2) with
      | some name, some "(", some ")" =>
        if !isName name then .error (badFunctionName line)
        else do
          let (body, ts) ← readCommand fuel (skipLines (ts.drop 3))
          .ok (.function name body, ts)
      | _, _, _ =>
        if closes ts then .error (unexpected ts none)
        else
          match ts with
          | ⟨.word _, _⟩ :: _ | ⟨.redirect .., _⟩ :: _ => do
            let (c, ts) ← simpleRest ts.length ⟨[], [], [], line⟩ ts
            if firstSign? ts = some "(" then
              .error (if c.words.length = 1 && c.assignments.isEmpty && c.redirects.isEmpty then
                if firstSign? (ts.drop 1) = some ")" then badFunctionName line
                else unexpected (ts.drop 1) (some (quoted ")"))
                else unexpected ts none)
            else
              match ts with
              | ⟨.fault message, line⟩ :: _ => .error ⟨message, line⟩
              | _ => .ok (.simple c, ts)
          | _ => .error (unexpected ts none)

/-- The redirections after a command that is not simple. -/
def readTrailing : Nat → Nat → Script → Reader Script
  | 0, _, _, ts => .error (unexpected ts none)
  | _ + 1, line, c, ts => do
    let (rs, ts) ← redirects ts.length ts
    .ok (if rs.isEmpty then c else .redirected c rs line, ts)

/-- The rest of a conditional command. -/
def readConditional : Nat → Reader Script
  | 0, ts => .error (unexpected ts none)
  | fuel + 1, ts => do
    let (test, ts) ← readSome fuel ts
    let ((), ts) ← keyword "then" ts
    let (yes, ts) ← readSome fuel ts
    match firstName? ts with
    | some "elif" => do
      let (no, ts) ← readConditional fuel (ts.drop 1)
      .ok (.choose test yes no, ts)
    | some "else" => do
      let (no, ts) ← readSome fuel (ts.drop 1)
      let ((), ts) ← keyword "fi" ts
      .ok (.choose test yes no, ts)
    | _ => do
      let ((), ts) ← keyword "fi" ts
      .ok (.choose test yes .nothing, ts)

/-- The body of a loop. -/
def readBody : Nat → Reader Script
  | 0, ts => .error (unexpected ts none)
  | fuel + 1, ts => do
    let ((), ts) ← keyword "do" ts
    let (c, ts) ← readSome fuel ts
    let ((), ts) ← keyword "done" ts
    .ok (c, ts)

/-- The rest of a loop with a test. -/
def readLoop : Nat → Bool → Reader Script
  | 0, _, ts => .error (unexpected ts none)
  | fuel + 1, whileTrue, ts => do
    let (test, ts) ← readSome fuel ts
    let (body, ts) ← readBody fuel ts
    .ok (.loop whileTrue test body, ts)

/-- The rest of a loop over words. -/
def readEach : Nat → Reader Script
  | 0, ts => .error (unexpected ts none)
  | fuel + 1, ts =>
    match firstName? ts with
    | none => .error ⟨"Bad for loop variable", (ts.head?.map (·.line)).getD 1⟩
    | some name => do
      if !isName name then .error ⟨"Bad for loop variable", (ts.head?.map (·.line)).getD 1⟩
      else
        let (values, ts) ← eachValues (skipLines (ts.drop 1))
        let (body, ts) ← readBody fuel ts
        .ok (.each name values body, ts)

/-- The rest of a choice by patterns. -/
def readSelect : Nat → Reader Script
  | 0, ts => .error (unexpected ts none)
  | fuel + 1, ts =>
    match ts with
    | ⟨.word subject, _⟩ :: ts => do
      let ((), ts) ← keyword "in" ts
      let (bs, ts) ← readBranches fuel ts
      .ok (.select subject bs, ts)
    | _ => .error (unexpected ts (some "word"))

/-- The branches of a choice by patterns. -/
def readBranches : Nat → Reader (List (List Word × Script))
  | 0, ts => .error (unexpected ts none)
  | fuel + 1, ts => do
    let ts := skipLines ts
    if firstName? ts = some "esac" then .ok ([], ts.drop 1)
    else do
      let ts := if firstSign? ts = some "(" then ts.drop 1 else ts
      let (patterns, ts) ← branchPatterns fuel ts
      let (c, ts) ← readList fuel false ts
      if firstSign? ts = some ";;" then do
        let (more, ts) ← readBranches fuel (ts.drop 1)
        .ok ((patterns, c) :: more, ts)
      else if firstName? ts = some "esac" then .ok ([(patterns, c)], ts.drop 1)
      else .error (unexpected ts (some (quoted ";;")))

end

/-- **The next commands of a script**, up to a line end that completes them; none at its end. -/
def next? (ts : List Placed) : Except SyntaxFault (Option (Script × List Placed)) :=
  match skipLines ts with
  | [] => .ok none
  | ts =>
    match readList (8 * ts.length + 8) true ts with
    | .error fault => .error fault
    | .ok (c, rest) =>
      if rest.isEmpty || (firstSign? rest = some "\n" && rest.length < ts.length) then
        .ok (some (c, rest))
      else .error (unexpected rest none)

end Script

end ChildWatch.Shell
