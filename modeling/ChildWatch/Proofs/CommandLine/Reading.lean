import ChildWatch.CommandLine.Options
import Mathlib.Data.List.Induction

/-! # How a command line reads

From left to right, a command line is a number of complete options and then a tail, or it has a first
word that cannot be read on. What it asks for is a matter of all its options together, and no longer of
the order in which they are met.

* `ValueOption.spellings`, `Switch.spellings` — the words that stand for an option.
* `Given`, `Tail`, `Reads` — a complete option, what may follow the last of them, and the two ways in
  which words can be cut into these.
* `Offends` — what is wrong with words that begin neither with a complete option nor as a tail.
* `Options.ofReading` — what complete options and a tail ask for.
* `legible` — every command line reads to its end or breaks.
* `parse_eq_iff` — it is accepted, and refused, accordingly. -/

namespace ChildWatch

namespace TraceMode

/-- The spelling of a mode is the only text that reads as it. -/
theorem ofName?_eq_some_iff {s : String} {m : TraceMode} : ofName? s = some m ↔ s = m.name := by
  constructor
  · intro h
    unfold ofName? at h
    split at h
    · cases h; assumption
    · split at h
      · cases h; assumption
      · split at h
        · cases h; assumption
        · cases h
  · rintro rfl
    exact ofName?_name m

/-- A text reads as no mode if it is the spelling of none. -/
theorem ofName?_eq_none_iff {s : String} :
    ofName? s = Option.none ↔ ∀ m : TraceMode, s ≠ m.name := by
  rw [Option.eq_none_iff_forall_ne_some]
  exact forall_congr' fun m => not_congr ofName?_eq_some_iff

end TraceMode

namespace CommandLine

/-! ## Words -/

/-- The spellings of an option that takes a value. -/
def ValueOption.spellings : ValueOption → List String
  | .config => ["--config", "-c"]
  | .wait => ["--wait", "-w"]
  | .timeout => ["--timeout", "-t"]
  | .hold => ["--hold"]
  | .traces => ["--traces"]

/-- The spellings of a switch. -/
def Switch.spellings : Switch → List String
  | .regex => ["--regex", "-r"]
  | .debug => ["--debug", "-d"]
  | .help => ["--help", "-h"]
  | .version => ["--version", "-v"]

/-- A word that starts with a hyphen. -/
def Hyphenated (w : String) : Prop := w.toList.head? = some '-'

/-- A word that stands for nothing where an option can be: it starts with a hyphen, but is no spelling
and no double hyphen. -/
structure Unknown (w : String) : Prop where
  hyphenated : Hyphenated w
  not_separator : w ≠ "--"
  not_value : ∀ option : ValueOption, w ∉ option.spellings
  not_switch : ∀ s : Switch, w ∉ s.spellings

/-- **What a word stands for**, where an option can be. -/
def Word.Means : Word → String → Prop
  | .value option, w => w ∈ option.spellings
  | .switch s, w => w ∈ s.spellings
  | .endOfOptions, w => w = "--"
  | .unknown, w => Unknown w
  | .program, w => ¬ Hyphenated w

theorem Word.of_value {w : String} {option : ValueOption} (h : w ∈ option.spellings) :
    Word.of w = .value option := by
  cases option <;> simp only [ValueOption.spellings, List.mem_cons, List.not_mem_nil, or_false] at h
  all_goals rcases h with rfl | rfl <;> rfl

theorem Word.of_switch {w : String} {s : Switch} (h : w ∈ s.spellings) :
    Word.of w = .switch s := by
  cases s <;> simp only [Switch.spellings, List.mem_cons, List.not_mem_nil, or_false] at h
  all_goals rcases h with rfl | rfl <;> rfl

/-- Every spelling starts with a hyphen. -/
theorem ValueOption.hyphenated {w : String} {option : ValueOption} (h : w ∈ option.spellings) :
    Hyphenated w := by
  cases option <;> simp only [spellings, List.mem_cons, List.not_mem_nil, or_false] at h
  all_goals rcases h with rfl | rfl <;> rfl

theorem Switch.hyphenated {w : String} {s : Switch} (h : w ∈ s.spellings) : Hyphenated w := by
  cases s <;> simp only [spellings, List.mem_cons, List.not_mem_nil, or_false] at h
  all_goals rcases h with rfl | rfl <;> rfl

theorem Word.means_of (w : String) : (Word.of w).Means w := by
  unfold Word.of
  split
  case h_18 =>
      split
      · next hhyphen =>
          refine ⟨hhyphen, by assumption, fun option h => ?_, fun s h => ?_⟩
          · cases option <;> simp_all [ValueOption.spellings]
          · cases s <;> simp_all [Switch.spellings]
      · assumption
  all_goals simp [Word.Means, ValueOption.spellings, Switch.spellings]

/-- A word stands for one thing only. -/
theorem Word.of_eq_iff {w : String} {word : Word} : Word.of w = word ↔ word.Means w := by
  have hof := Word.means_of w
  constructor
  · rintro rfl
    exact hof
  · intro h
    cases word with
    | value option => exact Word.of_value h
    | switch s => exact Word.of_switch h
    | endOfOptions =>
        have hsep : w = "--" := h
        subst hsep
        rfl
    | unknown =>
        generalize Word.of w = other at hof
        cases other with
        | value option => exact absurd hof (h.not_value option)
        | switch s => exact absurd hof (h.not_switch s)
        | endOfOptions => exact absurd hof h.not_separator
        | unknown => rfl
        | program => exact absurd h.hyphenated hof
    | program =>
        generalize Word.of w = other at hof
        cases other with
        | value option => exact absurd (ValueOption.hyphenated hof) h
        | switch s => exact absurd (Switch.hyphenated hof) h
        | endOfOptions =>
            have hsep : w = "--" := hof
            subst hsep
            exact absurd rfl h
        | unknown => exact absurd hof.hyphenated h
        | program => rfl

/-! ## Complete options and tails -/

/-- **A complete option**, with the word it is spelled by and the text that is its value, if it takes
one. Any text can be a value, also one that looks like an option. -/
inductive Given where
  | value (option : ValueOption) (spelling : String) (known : spelling ∈ option.spellings)
    (text : String)
  | switch (s : Switch) (spelling : String) (known : spelling ∈ s.spellings)

/-- The words of a complete option. -/
def Given.words : Given → List String
  | .value _ spelling _ text => [spelling, text]
  | .switch _ spelling _ => [spelling]

/-- The texts that an option takes as its value. -/
def ValueOption.Takes (text : String) : ValueOption → Prop
  | .config | .wait => True
  | .timeout | .hold => ∃ d, Seconds.parse text = .ok d
  | .traces => ∃ m : TraceMode, text = m.name

/-- An option that is complete and whose value is taken. -/
def Given.Accepted : Given → Prop
  | .value option _ _ text => option.Takes text
  | .switch .. => True

/-- **What follows the last option**: nothing, a double hyphen and any words, or a word that does not
start with a hyphen and any words. -/
inductive Tail where
  | nothing
  | separated (words : List String)
  | program (word : String) (plain : ¬ Hyphenated word) (words : List String)

/-- The words of a tail. -/
def Tail.words : Tail → List String
  | .nothing => []
  | .separated words => "--" :: words
  | .program word _ words => word :: words

/-- The command of a tail, word by word. -/
def Tail.command : Tail → List String
  | .nothing => []
  | .separated words => words
  | .program word _ words => word :: words

/-- **Words that read** as complete options, whose values are all taken, and a tail. -/
structure Reads (words : List String) (given : List Given) (tail : Tail) : Prop where
  words_eq : words = given.flatMap Given.words ++ tail.words
  accepted : ∀ g ∈ given, g.Accepted

/-- **Words that cannot be read on**: the first of them starts with a hyphen and is no option, takes a
value that is not there, or has a value that it does not take. -/
inductive Offends : List String → OptionsError → Prop where
  | unknown {w : String} {words : List String} (hw : Unknown w) :
    Offends (w :: words) (.unknownOption w)
  | valueless {w : String} {option : ValueOption} (hw : w ∈ option.spellings) :
    Offends [w] (.missingValue w)
  | seconds {w text : String} {words : List String} {option : ValueOption} {cause : Seconds.Cause}
    (hoption : option = .timeout ∨ option = .hold) (hw : w ∈ option.spellings)
    (htext : Seconds.parse text = .error cause) :
    Offends (w :: text :: words) (.badSeconds text cause)
  | traces {w text : String} {words : List String} (hw : w ∈ ValueOption.traces.spellings)
    (htext : ∀ m : TraceMode, text ≠ m.name) :
    Offends (w :: text :: words) (.badTraceMode text)

/-- Words that begin with complete options, whose values are all taken, and then **cannot be read on**.
The error is that of the first word at which this is so. -/
def Breaks (words : List String) (e : OptionsError) : Prop :=
  ∃ (given : List Given) (rest : List String),
    words = given.flatMap Given.words ++ rest ∧ (∀ g ∈ given, g.Accepted) ∧ Offends rest e

theorem Reads.cons {g : Given} (hg : g.Accepted) {words : List String} {given : List Given}
    {tail : Tail} (h : Reads words given tail) : Reads (g.words ++ words) (g :: given) tail where
  words_eq := by rw [h.words_eq, List.flatMap_cons, List.append_assoc]
  accepted := List.forall_mem_cons.mpr ⟨hg, h.accepted⟩

theorem Breaks.cons {g : Given} (hg : g.Accepted) {words : List String} {e : OptionsError}
    (h : Breaks words e) : Breaks (g.words ++ words) e := by
  obtain ⟨given, rest, hwords, haccepted, hoffends⟩ := h
  refine ⟨g :: given, rest, ?_, List.forall_mem_cons.mpr ⟨hg, haccepted⟩, hoffends⟩
  rw [hwords, List.flatMap_cons, List.append_assoc]

/-- Words that offend break at once. -/
theorem Offends.breaks {words : List String} {e : OptionsError} (h : Offends words e) :
    Breaks words e :=
  ⟨[], words, rfl, fun _ hg => absurd hg List.not_mem_nil, h⟩

/-- A tail reads at once. -/
theorem Tail.reads (tail : Tail) : Reads tail.words [] tail :=
  ⟨rfl, fun _ hg => absurd hg List.not_mem_nil⟩

/-- An option takes the text behind it, or the two offend. -/
theorem ValueOption.takes_or_offends {w : String} {option : ValueOption}
    (hw : w ∈ option.spellings) (text : String) (words : List String) :
    option.Takes text ∨ ∃ e, Offends (w :: text :: words) e := by
  have hseconds (hoption : option = .timeout ∨ option = .hold) :
      (∃ d, Seconds.parse text = .ok d) ∨ ∃ e, Offends (w :: text :: words) e := by
    cases hparse : Seconds.parse text with
    | ok d => exact Or.inl ⟨d, rfl⟩
    | error cause => exact Or.inr ⟨_, .seconds hoption hw hparse⟩
  cases option with
  | config => exact Or.inl trivial
  | wait => exact Or.inl trivial
  | timeout => exact hseconds (Or.inl rfl)
  | hold => exact hseconds (Or.inr rfl)
  | traces =>
      by_cases hname : ∃ m : TraceMode, text = m.name
      · exact Or.inl hname
      · exact Or.inr ⟨_, .traces hw fun m hm => hname ⟨m, hm⟩⟩

/-- Words that **read to their end or break**. -/
def Legible (words : List String) : Prop :=
  (∃ given tail, Reads words given tail) ∨ ∃ e, Breaks words e

theorem Legible.cons {g : Given} (hg : g.Accepted) {words : List String} (h : Legible words) :
    Legible (g.words ++ words) := by
  rcases h with ⟨given, tail, h⟩ | ⟨e, h⟩
  · exact Or.inl ⟨g :: given, tail, h.cons hg⟩
  · exact Or.inr ⟨e, h.cons hg⟩

/-- **Every command line reads to its end or breaks.** The recursion takes off one complete option,
which has one word or two. -/
theorem legible : ∀ words : List String, Legible words
  | [] => Or.inl ⟨[], _, Tail.nothing.reads⟩
  | w :: rest => by
      have hmeans := Word.means_of w
      generalize Word.of w = word at hmeans
      cases word with
      | value option =>
          match rest with
          | [] => exact Or.inr ⟨_, (Offends.valueless hmeans).breaks⟩
          | text :: rest =>
              rcases option.takes_or_offends hmeans text rest with htakes | ⟨e, hoffends⟩
              · exact (legible rest).cons (g := .value option w hmeans text) htakes
              · exact Or.inr ⟨e, hoffends.breaks⟩
      | switch s => exact (legible rest).cons (g := .switch s w hmeans) trivial
      | endOfOptions =>
          have hsep : w = "--" := hmeans
          subst hsep
          exact Or.inl ⟨[], _, (Tail.separated rest).reads⟩
      | unknown => exact Or.inr ⟨_, (Offends.unknown hmeans).breaks⟩
      | program => exact Or.inl ⟨[], _, (Tail.program w hmeans rest).reads⟩

/-! ## What is asked for -/

/-- The values that are given to an option, in their order. -/
def valuesOf (option : ValueOption) (given : List Given) : List String :=
  given.filterMap fun
    | .value o _ _ text => if o = option then some text else none
    | .switch .. => none

/-- Whether a switch is given. -/
def isGiven (s : Switch) (given : List Given) : Bool :=
  given.any fun
    | .value .. => false
    | .switch t _ _ => t = s

/-- The last duration that is given to an option. -/
def lastSeconds (option : ValueOption) (given : List Given) : Option Duration :=
  (valuesOf option given).getLast?.bind fun text => (Seconds.parse text).toOption

/-- **What complete options and a tail ask for**: each option has its last value, all the patterns
count, in their order, and the command is the tail as it stands. -/
def Options.ofReading (given : List Given) (tail : Tail) : Options where
  configPath := (valuesOf .config given).getLast?
  patterns := valuesOf .wait given
  regex := isGiven .regex given
  timeout := lastSeconds .timeout given
  hold := lastSeconds .hold given
  traces := (valuesOf .traces given).getLast?.bind TraceMode.ofName?
  debug := isGiven .debug given
  help := isGiven .help given
  version := isGiven .version given
  command := tail.command

@[simp] theorem valuesOf_concat_value (option o : ValueOption) (given : List Given)
    (spelling : String) (known : spelling ∈ o.spellings) (text : String) :
    valuesOf option (given ++ [.value o spelling known text]) =
      valuesOf option given ++ if o = option then [text] else [] := by
  by_cases ho : o = option <;> simp [valuesOf, ho]

@[simp] theorem valuesOf_concat_switch (option : ValueOption) (given : List Given) (s : Switch)
    (spelling : String) (known : spelling ∈ s.spellings) :
    valuesOf option (given ++ [.switch s spelling known]) = valuesOf option given := by
  simp [valuesOf]

@[simp] theorem isGiven_concat_value (s : Switch) (given : List Given) (o : ValueOption)
    (spelling : String) (known : spelling ∈ o.spellings) (text : String) :
    isGiven s (given ++ [.value o spelling known text]) = isGiven s given := by
  simp [isGiven]

@[simp] theorem isGiven_concat_switch (s t : Switch) (given : List Given) (spelling : String)
    (known : spelling ∈ t.spellings) :
    isGiven s (given ++ [.switch t spelling known]) = (isGiven s given || decide (t = s)) := by
  simp [isGiven]

/-- **A command line has a purpose** if there is a program to run, or if help or the version is asked
for. -/
def Purpose (given : List Given) (tail : Tail) : Prop :=
  tail.command ≠ [] ∨ isGiven .help given = true ∨ isGiven .version given = true

namespace Options

/-- Reading one more option, whose value is taken, adds it to what is asked for. -/
theorem read_words {given : List Given} {g : Given} (hg : g.Accepted) (rest : List String) :
    read (ofReading given .nothing) (g.words ++ rest) =
      read (ofReading (given ++ [g]) .nothing) rest := by
  cases g with
  | switch s spelling known =>
      rw [Given.words, List.singleton_append, read]
      simp only [Word.of_switch known]
      congr 1
      cases s <;> simp [turnOn, ofReading, lastSeconds]
  | value option spelling known text =>
      rw [Given.words, List.cons_append, List.singleton_append, read]
      simp only [Word.of_value known]
      have hassign : (ofReading given .nothing).assign option text =
          .ok (ofReading (given ++ [.value option spelling known text]) .nothing) := by
        cases option with
        | config => simp [assign, ofReading, lastSeconds]
        | wait => simp [assign, ofReading, lastSeconds]
        | timeout =>
            obtain ⟨d, hd⟩ := hg
            simp [assign, seconds, hd, Except.map, Except.toOption, ofReading, lastSeconds]
        | hold =>
            obtain ⟨d, hd⟩ := hg
            simp [assign, seconds, hd, Except.map, Except.toOption, ofReading, lastSeconds]
        | traces =>
            obtain ⟨m, rfl⟩ := hg
            simp [assign, ofReading, lastSeconds]
      rw [hassign]

/-- Reading complete options leads to what they ask for together. The induction is on the options,
the last of them first. -/
theorem read_given {given : List Given} (haccepted : ∀ g ∈ given, g.Accepted) (rest : List String) :
    read empty (given.flatMap Given.words ++ rest) = read (ofReading given .nothing) rest := by
  induction given using List.reverseRecOn generalizing rest with
  | nil => rfl
  | append_singleton given g ih =>
      have hgiven : ∀ g ∈ given, g.Accepted := fun g hg => haccepted g (List.mem_append_left _ hg)
      have hg : g.Accepted := haccepted g (List.mem_append_right _ (List.mem_singleton_self g))
      rw [List.flatMap_append, List.flatMap_singleton, List.append_assoc, ih hgiven, read_words hg]

/-- A tail adds the command. -/
theorem read_tail (given : List Given) (tail : Tail) :
    read (ofReading given .nothing) tail.words = .ok (ofReading given tail) := by
  cases tail with
  | nothing => rfl
  | separated words => rfl
  | program word plain words =>
      have hword : Word.of word = .program := Word.of_eq_iff.mpr plain
      rw [Tail.words, read]
      simp only [hword]
      rfl

/-- Words that cannot be read on are refused. -/
theorem read_of_offends (o : Options) {words : List String} {e : OptionsError}
    (h : Offends words e) : read o words = .error e := by
  cases h with
  | unknown hw =>
      have hword : Word.of _ = .unknown := Word.of_eq_iff.mpr hw
      simp only [read, hword]
  | valueless hw => simp only [read, Word.of_value hw]
  | seconds hoption hw htext =>
      rcases hoption with rfl | rfl
      · simp [read, Word.of_value hw, assign, Options.seconds, htext, Except.map]
      · simp [read, Word.of_value hw, assign, Options.seconds, htext, Except.map]
  | traces hw htext =>
      simp [read, Word.of_value hw, assign, TraceMode.ofName?_eq_none_iff.mpr htext]

/-- A command line that has a purpose is accepted if it reads. -/
theorem parse_of_reads {words : List String} {given : List Given} {tail : Tail}
    (h : Reads words given tail) (hpurpose : Purpose given tail) :
    parse words = .ok (ofReading given tail) := by
  rw [parse, h.words_eq, read_given h.accepted, read_tail]
  refine if_neg ?_
  intro hidle
  simp only [ofReading, Bool.and_eq_true, Bool.not_eq_true', List.isEmpty_iff] at hidle
  obtain ⟨⟨hcommand, hhelp⟩, hversion⟩ := hidle
  rcases hpurpose with hp | hp | hp
  · exact hp hcommand
  · exact Bool.noConfusion (hhelp.symm.trans hp)
  · exact Bool.noConfusion (hversion.symm.trans hp)

/-- One that has none lacks a program. -/
theorem parse_of_no_purpose {words : List String} {given : List Given} {tail : Tail}
    (h : Reads words given tail) (hpurpose : ¬ Purpose given tail) :
    parse words = .error .missingProgram := by
  rw [parse, h.words_eq, read_given h.accepted, read_tail]
  refine if_pos ?_
  simp only [Purpose, not_or, not_not, Bool.not_eq_true] at hpurpose
  obtain ⟨hcommand, hhelp, hversion⟩ := hpurpose
  simp [ofReading, hcommand, hhelp, hversion]

/-- One that breaks is refused, whatever it is for. -/
theorem parse_of_breaks {words : List String} {e : OptionsError} (h : Breaks words e) :
    parse words = .error e := by
  obtain ⟨given, rest, hwords, haccepted, hoffends⟩ := h
  rw [parse, hwords, read_given haccepted, read_of_offends _ hoffends]

/-- A command line that reads to its end does not break. -/
theorem not_breaks_of_reads {words : List String} {given : List Given} {tail : Tail}
    (h : Reads words given tail) (e : OptionsError) : ¬ Breaks words e := by
  intro hbreaks
  have herror := parse_of_breaks hbreaks
  by_cases hpurpose : Purpose given tail
  · rw [parse_of_reads h hpurpose] at herror
    cases herror
  · rw [parse_of_no_purpose h hpurpose] at herror
    cases herror
    obtain ⟨_, _, -, -, hoffends⟩ := hbreaks
    cases hoffends

/-- **What is accepted, and what is refused and why.** A command line is accepted exactly if it reads
from left to right as complete options, whose values are all taken, and a tail, and has a purpose; it
asks for what these ask for together. It is refused exactly if it breaks, with the error of the first
word at which it does, or if it does not break and has no purpose. -/
theorem parse_eq_iff (words : List String) :
    (∀ o, parse words = .ok o ↔
      ∃ given tail, Reads words given tail ∧ Purpose given tail ∧ o = ofReading given tail) ∧
    ∀ e, parse words = .error e ↔
      Breaks words e ∨
      (e = .missingProgram ∧ (∀ e', ¬ Breaks words e') ∧
        ∃ given tail, Reads words given tail ∧ ¬ Purpose given tail) := by
  constructor
  · intro o
    constructor
    · intro hparse
      rcases legible words with ⟨given, tail, h⟩ | ⟨e, h⟩
      · by_cases hpurpose : Purpose given tail
        · rw [parse_of_reads h hpurpose, Except.ok.injEq] at hparse
          exact ⟨given, tail, h, hpurpose, hparse.symm⟩
        · rw [parse_of_no_purpose h hpurpose] at hparse
          cases hparse
      · rw [parse_of_breaks h] at hparse
        cases hparse
    · rintro ⟨given, tail, h, hpurpose, rfl⟩
      exact parse_of_reads h hpurpose
  · intro e
    constructor
    · intro hparse
      rcases legible words with ⟨given, tail, h⟩ | ⟨e', h⟩
      · by_cases hpurpose : Purpose given tail
        · rw [parse_of_reads h hpurpose] at hparse
          cases hparse
        · rw [parse_of_no_purpose h hpurpose, Except.error.injEq] at hparse
          exact Or.inr ⟨hparse.symm, not_breaks_of_reads h, given, tail, h, hpurpose⟩
      · rw [parse_of_breaks h, Except.error.injEq] at hparse
        subst hparse
        exact Or.inl h
    · rintro (h | ⟨rfl, -, given, tail, h, hpurpose⟩)
      · exact parse_of_breaks h
      · exact parse_of_no_purpose h hpurpose

/-- A value that looks like an option, a tail with one in it, and an option that is given twice. -/
example : parse ["-w", "--", "-t", "1", "-t", "2", "cat", "-r"] =
    .ok { empty with
      patterns := ["--"], timeout := some (.ofMillis 2000), command := ["cat", "-r"] } := by
  decide +kernel

end Options

end CommandLine

end ChildWatch
