/-! # Options of a shell

What a shell is asked to do besides running its commands.

* `Options` — the options that make a difference.
* `Options.read` — the options at the front of some words, and the words after them. -/

namespace ChildWatch.Shell

/-- The **options** of a shell. -/
structure Options where
  /-- A command that fails ends the shell. -/
  strict : Bool
  /-- A parameter without a value is a fault. -/
  needsValues : Bool
  /-- A command is shown before it is run. -/
  traced : Bool

namespace Options

/-- No options. -/
def off : Options := ⟨false, false, false⟩

/-- The letters of the options that make a difference. -/
def letters (o : Options) : String :=
  (if o.needsValues then "u" else "") ++ (if o.traced then "x" else "") ++
    (if o.strict then "e" else "")

/-- The options with that of a letter turned on or off. Some letters stand for options that make no
difference. -/
def withLetter? (o : Options) (on : Bool) (c : Char) : Option Options :=
  match c with
  | 'e' => some { o with strict := on }
  | 'u' => some { o with needsValues := on }
  | 'x' => some { o with traced := on }
  | c => if "fImnsvVECabi".toList.contains c then some o else none

/-- The options with that of a name turned on or off. -/
def withName? (o : Options) (on : Bool) (name : String) : Option Options :=
  match name with
  | "errexit" => o.withLetter? on 'e'
  | "nounset" => o.withLetter? on 'u'
  | "xtrace" => o.withLetter? on 'x'
  | name =>
    if ["noglob", "ignoreeof", "interactive", "monitor", "noexec", "stdin", "verbose", "vi", "emacs",
      "noclobber", "allexport", "notify", "nolog", "debug"].contains name then some o else none

/-- What the options at the front of some words have come to. -/
structure Front where
  options : Options
  /-- Whether a script is to be taken from the words. -/
  takesScript : Bool
  /-- The words after the options, if there are any or if two hyphens have ended the options. -/
  rest : Option (List String)

/-- The options with those of some letters turned on or off, and whether a script is to be taken from
the words, as the letter `c` says. -/
def withLetters (on : Bool) : Options × Bool → List Char → Except String (Options × Bool)
  | acc, [] => .ok acc
  | (o, script), c :: cs =>
    if c = 'c' then withLetters on (o, true) cs
    else if c = 'o' then withLetters on (o, script) cs
    else
      match o.withLetter? on c with
      | some o => withLetters on (o, script) cs
      | none => .error ("Illegal option -" ++ c.toString)

/-- **The options at the front of some words.** The letter `o` takes the word after it for a name. -/
def read (o : Options) (script : Bool) : List String → Except String Front
  | [] => .ok ⟨o, script, none⟩
  | word :: rest =>
    match word.toList with
    | ['-', '-'] => .ok ⟨o, script, some rest⟩
    | sign :: c :: cs =>
      if sign = '-' || sign = '+' then do
        let on := sign == '-'
        let (o, script) ← withLetters on (o, script) (c :: cs)
        match (c :: cs).contains 'o', rest with
        | true, name :: rest =>
          match o.withName? on name with
          | some o => read o script rest
          | none => .error ("Illegal option -o " ++ name)
        | _, rest => read o script rest
      else .ok ⟨o, script, some (word :: rest)⟩
    | _ => .ok ⟨o, script, some (word :: rest)⟩

end Options

end ChildWatch.Shell
