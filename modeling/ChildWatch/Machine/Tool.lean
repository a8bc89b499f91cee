import ChildWatch.Machine.Filter
import ChildWatch.Shell.Format

/-! # Tools

The programs of the machine that are not shells.

* `Tool` — a tool at work: what it has still to print, and what it does then.
* `Tool.ofArguments?` — the tool of a name, with its arguments. -/

namespace ChildWatch.Machine

open Shell

/-- What a tool does once it has printed what it has to print. -/
inductive Work where
  /-- It ends with a code. -/
  | finish (code : Nat)
  /-- It sleeps for some nanoseconds, and then ends. -/
  | sleep (nanos : Nat)
  /-- It sleeps until a time, and then ends. -/
  | wake (time : Nat)
  /-- It prints the same again and again. -/
  | again (bytes : List UInt8)
  /-- It reads inputs one after the other, the standard one being a hyphen, from one of which it is
  reading if a descriptor is given. -/
  | filter (f : Filter) (inputs : List String) (reading : Option Nat) (code : Nat)
  /-- It becomes another program, with more variables, in a group of its own if it goes `apart`, and
  with some more signals ignored. -/
  | become (argv : List String) (environment : List (String × String)) (apart : Bool)
      (ignoring : List Nat)

/-- A **tool at work**. -/
structure Tool where
  name : String
  output : List UInt8
  complaint : List UInt8
  work : Work

namespace Tool

/-- A tool that prints something and ends. -/
def printing (name : String) (bytes : List UInt8) : Tool := ⟨name, bytes, [], .finish 0⟩

/-- A tool that complains and ends with a code. -/
def failing (name message : String) (code : Nat) : Tool :=
  ⟨name, [], Text.Utf8.encode (name ++ ": " ++ message ++ "\n"), .finish code⟩

/-- A tool that is used in a wrong way. -/
def misused (name message : String) : Tool :=
  failing name (message ++ "\nTry '" ++ name ++ " --help' for more information.") 1

/-- A tool that filters inputs; with none named it reads the standard one. -/
def filtering (name : String) (f : Filter) (inputs : List String) : Tool :=
  ⟨name, [], [], .filter f (if inputs.isEmpty then ["-"] else inputs) none 0⟩

/-- The nanoseconds of a number of seconds, minutes, hours or days, and `infinity`. -/
def sleepTime? (s : String) : Option Nat :=
  if s = "infinity" then some (Nat.pow 10 27)
  else
    let (number, unit) := match s.toList.reverse with
      | 's' :: rest => (rest.reverse, 1)
      | 'm' :: rest => (rest.reverse, 60)
      | 'h' :: rest => (rest.reverse, 3600)
      | 'd' :: rest => (rest.reverse, 86400)
      | _ => (s.toList, 1)
    let whole := number.takeWhile Char.isDigit
    let fraction := (number.dropWhile Char.isDigit).drop 1
    let dotted := match number.dropWhile Char.isDigit with
      | [] => true
      | c :: _ => c = '.'
    if (whole ++ fraction).isEmpty || !dotted || !fraction.all Char.isDigit then none
    else
      let value := fun (ds : List Char) => ds.foldl (fun n d => 10 * n + (d.toNat - 48)) 0
      some ((value whole * 1000000000 + value ((fraction ++ List.replicate 9 '0').take 9)) * unit)

/-- A natural number in decimal digits. -/
def count? (s : String) : Option Nat :=
  if s.isEmpty || !s.toList.all Char.isDigit then none
  else some (s.toList.foldl (fun n d => 10 * n + (d.toNat - 48)) 0)

/-- What is said of a number that is none. -/
def invalid (what value : String) : String := "invalid " ++ what ++ ": '" ++ value ++ "'"

/-- The options and the inputs of a tool that takes a first or last part: a count of bytes or of
lines. -/
def part : List String → Option (Bool × Nat) → List String →
    Except String (Option (Bool × Nat) × List String)
  | [], limit, inputs => .ok (limit, inputs)
  | "-c" :: n :: rest, _, inputs =>
    match count? n with
    | some n => part rest (some (true, n)) inputs
    | none => .error (invalid "number of bytes" n)
  | "-n" :: n :: rest, _, inputs =>
    match count? n with
    | some n => part rest (some (false, n)) inputs
    | none => .error (invalid "number of lines" n)
  | word :: rest, limit, inputs =>
    match word.toList with
    | '-' :: 'c' :: n =>
      match count? (String.ofList n) with
      | some n => part rest (some (true, n)) inputs
      | none => .error (invalid "number of bytes" (String.ofList n))
    | '-' :: 'n' :: n =>
      match count? (String.ofList n) with
      | some n => part rest (some (false, n)) inputs
      | none => .error (invalid "number of lines" (String.ofList n))
    | '-' :: d :: n =>
      match count? (String.ofList (d :: n)) with
      | some n => part rest (some (false, n)) inputs
      | none => .error ("invalid option -- '" ++ d.toString ++ "'")
    | _ => part rest limit (inputs ++ [word])

/-- The tool that prints the first or the last part of its input. -/
def ofPart (name : String) (bytes lines : Nat → Filter) (args : List String) : Tool :=
  match part args none [] with
  | .error message => failing name message 1
  | .ok (limit, inputs) =>
    let (inBytes, n) := limit.getD (false, 10)
    filtering name (if inBytes then bytes n else lines n) inputs

/-- The bytes of a named class. -/
def classBytes? (name : String) : Option (List UInt8) :=
  let those := fun (p : Char → Bool) =>
    (List.range 128).filter (fun n => p (Char.ofNat n)) |>.map UInt8.ofNat
  match name with
  | "upper" => some (those Char.isUpper)
  | "lower" => some (those Char.isLower)
  | "digit" => some (those Char.isDigit)
  | "alpha" => some (those Char.isAlpha)
  | "alnum" => some (those Char.isAlphanum)
  | "space" => some [9, 10, 11, 12, 13, 32]
  | "blank" => some [9, 32]
  | "print" => some (those fun c => 32 ≤ c.toNat && c.toNat < 127)
  | "punct" => some (those fun c => 33 ≤ c.toNat && c.toNat < 127 && !c.isAlphanum)
  | "cntrl" => some (those fun c => c.toNat < 32 || c.toNat = 127)
  | _ => none

/-- The bytes of a set as it is written: bytes, ranges, escapes and named classes. More `fuel` than
there are bytes is never used up. -/
def setBytes : Nat → List UInt8 → List UInt8
  | 0, _ => []
  | _ + 1, [] => []
  | fuel + 1, 91 :: 58 :: rest =>
    let name := String.ofList ((rest.takeWhile (· ≠ 58)).map fun b => Char.ofNat b.toNat)
    match classBytes? name, rest.dropWhile (· ≠ 58) with
    | some bs, 58 :: 93 :: rest => bs ++ setBytes fuel rest
    | _, _ => 91 :: setBytes fuel (58 :: rest)
  | fuel + 1, a :: 45 :: b :: rest =>
    if a ≤ b then
      (List.range (b.toNat - a.toNat + 1)).map (fun n => UInt8.ofNat (a.toNat + n)) ++
        setBytes fuel rest
    else setBytes fuel rest
  | fuel + 1, b :: rest => b :: setBytes fuel rest

/-- The bytes of a set. -/
def setOf (s : String) : List UInt8 :=
  let bs := escapes (s.length + 1) s.toList
  setBytes (bs.length + 1) bs
where
  /-- A text with its escapes undone. -/
  escapes : Nat → List Char → List UInt8
    | 0, _ => []
    | _ + 1, [] => []
    | fuel + 1, '\\' :: c :: rest =>
      if Format.isOctal c then
        let ds := ((c :: rest).take 3).takeWhile Format.isOctal
        Format.octal ds :: escapes fuel ((c :: rest).drop ds.length)
      else
        match Format.letter? c with
        | some b => b :: escapes fuel rest
        | none => Format.bytesOf c ++ escapes fuel rest
    | fuel + 1, c :: rest => Format.bytesOf c ++ escapes fuel rest

/-- All the bytes. -/
def allBytes : List UInt8 := (List.range 256).map UInt8.ofNat

/-- The tool that substitutes bytes. -/
def substituter (args : List String) : Tool :=
  let options := (args.takeWhile fun a => a.toList.head? = some '-' && a.length > 1).flatMap
    fun a => a.toList.drop 1
  let sets := args.dropWhile fun a => a.toList.head? = some '-' && a.length > 1
  let deletes := options.contains 'd'
  let squeezes := options.contains 's'
  let complements := options.contains 'c' || options.contains 'C'
  let first := (sets.head?.map setOf).getD []
  let first := if complements then allBytes.filter fun b => !first.contains b else first
  let second := ((sets.drop 1).head?.map setOf).getD []
  let target := fun (b : UInt8) =>
    if !first.contains b then some b
    else if deletes then none
    else
      match second.getLast? with
      | none => some b
      | some last => some ((second[first.idxOf b]?).getD last)
  if sets.isEmpty then misused "tr" "missing operand"
  else
    let squeezed := if squeezes then (if second.isEmpty then first else second) else []
    filtering "tr" (.substitute (allBytes.map target).toArray squeezed none) []

/-- The tool that counts. -/
def counter (args : List String) : Tool :=
  let options := (args.filter fun a => a.toList.head? = some '-' && a.length > 1).flatMap
    fun a => a.toList.drop 1
  let shown := if options.isEmpty then [true, true, true]
    else [options.contains 'l', options.contains 'w', options.contains 'c' || options.contains 'm']
  filtering "wc" (.count shown 0 0 0 false) (args.filter fun a => a.toList.head? ≠ some '-' || a = "-")

/-- The numbers from one to another in steps, a line each. -/
def sequenceText (first step last : Int) : String :=
  let n := if step = 0 then 0 else
    if 0 < step then (last - first) / step + 1 else (first - last) / (-step) + 1
  String.join ((List.range n.toNat).map fun (i : Nat) =>
    toString (first + step * (i : Int)) ++ "\n")

/-- The tool that prints numbers. -/
def sequence (args : List String) : Tool :=
  match args.mapM Arithmetic.signed? with
  | some [last] => printing "seq" (Text.Utf8.encode (sequenceText 1 1 last))
  | some [first, last] => printing "seq" (Text.Utf8.encode (sequenceText first 1 last))
  | some [first, step, last] => printing "seq" (Text.Utf8.encode (sequenceText first step last))
  | some [] => misused "seq" "missing operand"
  | some (_ :: _ :: _ :: extra :: _) =>
    misused "seq" ("extra operand '" ++ toString extra ++ "'")
  | none =>
    misused "seq" (invalid "floating point argument"
      ((args.find? fun a => (Arithmetic.signed? a).isNone).getD ""))

/-- The tool that prints its words, with options before them. -/
def echo (declined escapes : Bool) : List String → Tool
  | [] => printing "echo" (Format.echo [] none declined)
  | word :: rest =>
    let options := word.toList.drop 1
    if word.toList.head? = some '-' && !options.isEmpty && options.all "neE".toList.contains then
      let last := (options.filter (· ≠ 'n')).getLast?
      echo (declined || options.contains 'n') (match last with
        | some c => c = 'e'
        | none => escapes) rest
    else
      let escapes := if escapes then some (⟨true, false, true, true⟩ : Escapes) else none
      printing "echo" (Format.echo (word :: rest) escapes declined)

/-- The tool that prints by a format. -/
def formatter : List String → Tool
  | [] => misused "printf" "missing operand"
  | format :: args =>
    let printed := Format.printf ⟨true, true, false, true⟩ format args
    let said : FormatFault → String
      | .noNumber text => "'" ++ text ++ "': expected a numeric value"
      | .noDirective conversion => "%" ++ conversion.toString ++ ": invalid conversion specification"
    let warnings := match printed.arguments with
      | unused :: _ =>
        if printed.stopped then []
        else ["warning: ignoring excess arguments, starting with '" ++ unused ++ "'"]
      | [] => []
    ⟨"printf", printed.bytes,
      (printed.faults.map said ++ warnings).flatMap fun c =>
        Text.Utf8.encode ("printf: " ++ c ++ "\n"),
      .finish (if printed.faults.isEmpty then 0 else 1)⟩

/-- The tool that sleeps. -/
def sleeper (args : List String) : Tool :=
  match args.mapM sleepTime? with
  | some (t :: ts) => ⟨"sleep", [], [], .sleep ((t :: ts).foldl (· + ·) 0)⟩
  | some [] => misused "sleep" "missing operand"
  | none =>
    let bad := (args.find? fun a => (sleepTime? a).isNone).getD ""
    match bad.toList with
    | '-' :: c :: _ => misused "sleep" ("invalid option -- '" ++ c.toString ++ "'")
    | _ => misused "sleep" ("invalid time interval '" ++ bad ++ "'")

/-- The variables that words assign, and the words after them. -/
def assignments : List String → List (String × String) × List String
  | [] => ([], [])
  | word :: rest =>
    match word.toList.dropWhile (· ≠ '=') with
    | _ :: value =>
      let (more, argv) := assignments rest
      ((String.ofList (word.toList.takeWhile (· ≠ '=')), String.ofList value) :: more, argv)
    | [] => ([], word :: rest)

/-- What is said of a program that cannot be run, before the reason. -/
def notRun (name program : String) : String :=
  match name with
  | "env" => "'" ++ program ++ "': "
  | "nohup" => "failed to run command '" ++ program ++ "': "
  | _ => "failed to execute " ++ program ++ ": "

/-- The number of the signal that says that the terminal is gone. -/
def hangUpNumber : Nat := 1

/-- **The tool of a name**, with its arguments, the variables it is given and the directory it works
in. -/
def ofArguments? (name : String) (args : List String) (environment : List (String × String))
    (directory : String) : Option Tool :=
  match name with
  | "true" => some (printing "true" [])
  | "false" => some ⟨"false", [], [], .finish 1⟩
  | "echo" => some (echo false false args)
  | "printf" => some (formatter args)
  | "sleep" => some (sleeper args)
  | "cat" => some (filtering "cat" .copy args)
  | "head" => some (ofPart "head" .firstBytes .firstLines args)
  | "tail" => some (ofPart "tail" (.lastBytes · []) (.lastLines · []) args)
  | "tr" => some (substituter args)
  | "wc" => some (counter args)
  | "seq" => some (sequence args)
  | "yes" =>
    let line := Text.Utf8.encode ((if args.isEmpty then "y" else " ".intercalate args) ++ "\n")
    some ⟨"yes", [], [], .again ((List.replicate (8192 / line.length + 1) line).flatten)⟩
  | "pwd" => some (printing "pwd" (Text.Utf8.encode (directory ++ "\n")))
  | "env" =>
    match assignments args with
    | (added, []) =>
      some (printing "env" (Text.Utf8.encode
        (String.join ((environment ++ added).map fun v => v.1 ++ "=" ++ v.2 ++ "\n"))))
    | (added, argv) => some ⟨"env", [], [], .become argv added false []⟩
  | "setsid" =>
    match args with
    | [] => some (misused "setsid" "no command specified")
    | argv => some ⟨"setsid", [], [], .become argv [] true []⟩
  | "nohup" =>
    match args with
    | [] => some { misused "nohup" "missing operand" with work := .finish 125 }
    | argv => some ⟨"nohup", [], [], .become argv [] false [hangUpNumber]⟩
  | _ => none

/-- The names of the tools. -/
def names : List String :=
  ["true", "false", "echo", "printf", "sleep", "cat", "head", "tail", "tr", "wc", "seq", "yes",
    "pwd", "env", "setsid", "nohup"]

end Tool

end ChildWatch.Machine
