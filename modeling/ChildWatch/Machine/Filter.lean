import ChildWatch.Text.Utf8

/-! # Filters

Programs that turn what they read into what they print, chunk by chunk.

* `Filter.feed` — what a filter prints for a chunk, and the filter after it.
* `Filter.finish` — what it prints at the end of its input. -/

namespace ChildWatch.Machine

/-- A **filter** with its state. -/
inductive Filter where
  /-- Everything as it is. -/
  | copy
  /-- So many bytes more. -/
  | firstBytes (left : Nat)
  /-- So many lines more. -/
  | firstLines (left : Nat)
  /-- The last bytes, of those read so far. -/
  | lastBytes (n : Nat) (read : List UInt8)
  /-- The last lines, of those read so far. -/
  | lastLines (n : Nat) (read : List UInt8)
  /-- Each byte as a table says, left out where it says nothing; of a run of the same byte only one is
  kept where `squeezed` holds it. -/
  | substitute (table : Array (Option UInt8)) (squeezed : List UInt8) (last : Option UInt8)
  /-- How many lines, words and bytes there have been, and whether a word is under way; `shown` says
  which of the counts are printed. -/
  | count (shown : List Bool) (lines words bytes : Nat) (inWord : Bool)

namespace Filter

/-- Whether a filter has no use for more input. -/
def isSatisfied : Filter → Bool
  | .firstBytes 0 | .firstLines 0 => true
  | _ => false

/-- The lines of a text up to a number of them, and how many more are wanted then. -/
def takeLines : Nat → List UInt8 → List UInt8 × Nat
  | 0, _ => ([], 0)
  | n, [] => ([], n)
  | n + 1, b :: bs =>
    let (more, left) := takeLines (if b = 10 then n else n + 1) bs
    (b :: more, left)

/-- Whether a byte stands between words. -/
def isBlank (b : UInt8) : Bool := b = 32 || (9 ≤ b && b ≤ 13)

/-- Bytes substituted one by one, with the last byte that came of it. -/
def substituteBytes (table : Array (Option UInt8)) (squeezed : List UInt8) :
    Option UInt8 → List UInt8 → List UInt8 → List UInt8 × Option UInt8
  | last, done, [] => (done.reverse, last)
  | last, done, b :: bs =>
    match (table[b.toNat]?).getD (some b) with
    | none => substituteBytes table squeezed last done bs
    | some c =>
      if last = some c && squeezed.contains c then substituteBytes table squeezed last done bs
      else substituteBytes table squeezed (some c) (c :: done) bs

/-- **A chunk of input**: what is printed for it, and the filter after it. -/
def feed (f : Filter) (bs : List UInt8) : List UInt8 × Filter :=
  match f with
  | .copy => (bs, .copy)
  | .firstBytes left => (bs.take left, .firstBytes (left - bs.length))
  | .firstLines left =>
    let (out, left) := takeLines left bs
    (out, .firstLines left)
  | .lastBytes n read => ([], .lastBytes n (read ++ bs))
  | .lastLines n read => ([], .lastLines n (read ++ bs))
  | .substitute table squeezed last =>
    let (out, last) := substituteBytes table squeezed last [] bs
    (out, .substitute table squeezed last)
  | .count shown lines words bytes inWord =>
    let (lines, words, inWord) := bs.foldl
      (fun (lines, words, inWord) b =>
        (if b = 10 then lines + 1 else lines,
          if !isBlank b && !inWord then words + 1 else words, !isBlank b))
      (lines, words, inWord)
    ([], .count shown lines words (bytes + bs.length) inWord)

/-- A number as a column. -/
def column (width n : Nat) : String :=
  let digits := toString n
  String.ofList (List.replicate (width - digits.length) ' ') ++ digits

/-- The last lines of a text; one without a line end at the end of it counts. -/
def endLines (n : Nat) (bs : List UInt8) : List UInt8 :=
  let back := bs.reverse
  let (tail, rest) := match back with
    | 10 :: rest => ([(10 : UInt8)], rest)
    | rest => ([], rest)
  if n = 0 then [] else (tail ++ pick n rest).reverse
where
  /-- The bytes before so many line ends. -/
  pick : Nat → List UInt8 → List UInt8
    | _, [] => []
    | n, b :: bs => if b = 10 then (if n ≤ 1 then [] else b :: pick (n - 1) bs) else b :: pick n bs

/-- **The end of the input**: what is printed then. -/
def finish : Filter → List UInt8
  | .lastBytes n read => read.drop (read.length - n)
  | .lastLines n read => endLines n read
  | .count shown lines words bytes _ =>
    let counts := ([lines, words, bytes].zip shown).filter (·.2) |>.map (·.1)
    let width := if counts.length ≤ 1 then 1 else 7
    Text.Utf8.encode (" ".intercalate (counts.map (column width)) ++ "\n")
  | _ => []

end Filter

end ChildWatch.Machine
