/-! # UTF-8

Decoding of bytes, one byte at a time, by an automaton whose state is the character under way.

* `Utf8.State`, `Utf8.step` — the automaton; a byte yields finished units.
* `Utf8.run` — the units of a byte string: `some c` for a well-formed character, `none` for each
  longest piece that starts like a character and cannot be finished, or cannot start one.
* `Utf8.units` — the same, for long inputs; `units_eq_run` says so.
* `Utf8.decodeLossy` — every `none` becomes the replacement character.
* `Utf8.decode?` — the text of a byte string that is well formed throughout.
* `Utf8.encode` — the bytes of a text. -/

namespace ChildWatch.Text.Utf8

/-- The state between two bytes: at a character boundary, or **within** a character whose bits so
far are `bits`, with `more` bytes to come, the next of them between `lo` and `hi`. -/
inductive State where
  | boundary
  | within (bits more : Nat) (lo hi : UInt8)
deriving DecidableEq, Repr

/-- The state after the first byte of a character of two to four bytes; `none` for a byte that
starts no character. The bounds on the next byte exclude long spellings of short characters,
surrogates and numbers beyond the last character. -/
def lead (b : UInt8) : Option State :=
  if 0xC2 ≤ b ∧ b ≤ 0xDF then some (.within (b.toNat % 32) 1 0x80 0xBF)
  else if b = 0xE0 then some (.within 0 2 0xA0 0xBF)
  else if b = 0xED then some (.within 13 2 0x80 0x9F)
  else if 0xE1 ≤ b ∧ b ≤ 0xEF then some (.within (b.toNat % 16) 2 0x80 0xBF)
  else if b = 0xF0 then some (.within 0 3 0x90 0xBF)
  else if 0xF1 ≤ b ∧ b ≤ 0xF3 then some (.within (b.toNat % 8) 3 0x80 0xBF)
  else if b = 0xF4 then some (.within 4 3 0x80 0x8F)
  else none

/-- One byte at a character boundary. -/
def stepBoundary (b : UInt8) : List (Option Char) × State :=
  if b < 0x80 then ([some (Char.ofNat b.toNat)], .boundary)
  else
    match lead b with
    | some s => ([], s)
    | none => ([none], .boundary)

/-- **One byte**: the units it finishes and the state after it. A byte that cannot go on with the
character under way ends it as malformed and is then taken as a first byte. -/
def step : State → UInt8 → List (Option Char) × State
  | .boundary, b => stepBoundary b
  | .within bits more lo hi, b =>
    if lo ≤ b ∧ b ≤ hi then
      let bits := bits * 64 + b.toNat % 64
      if more ≤ 1 then ([some (Char.ofNat bits)], .boundary)
      else ([], .within bits (more - 1) 0x80 0xBF)
    else
      let (out, s) := stepBoundary b
      (none :: out, s)

/-- The units owed at the end of the bytes. -/
def finish : State → List (Option Char)
  | .boundary => []
  | .within .. => [none]

/-- The units of the bytes, from a given state. -/
def run (s : State) : List UInt8 → List (Option Char)
  | [] => finish s
  | b :: bs => (step s b).1 ++ run (step s b).2 bs

/-- The same with the units so far in reverse, so that a long input takes no deep recursion. -/
def runOnto (s : State) (acc : List (Option Char)) : List UInt8 → List (Option Char)
  | [] => ((finish s).reverse ++ acc).reverse
  | b :: bs => runOnto (step s b).2 ((step s b).1.reverse ++ acc) bs

theorem runOnto_eq (s : State) (acc : List (Option Char)) (bs : List UInt8) :
    runOnto s acc bs = acc.reverse ++ run s bs := by
  induction bs generalizing s acc with
  | nil => simp [runOnto, run]
  | cons b bs ih => simp [runOnto, run, ih]

/-- The units of a byte string. -/
def units (bs : List UInt8) : List (Option Char) := runOnto .boundary [] bs

theorem units_eq_run (bs : List UInt8) : units bs = run .boundary bs := by
  simp [units, runOnto_eq]

/-- The character that stands for a malformed piece. -/
def replacement : Char := '\uFFFD'

/-- **Lossy decoding**: one replacement character for each malformed piece. -/
def decodeLossy (bs : List UInt8) : String :=
  String.ofList ((units bs).map (·.getD replacement))

/-- The text of a well-formed byte string. -/
def decode? (bs : List UInt8) : Option String :=
  let us := units bs
  if us.all Option.isSome then some (String.ofList (us.map (·.getD replacement))) else none

/-- The bytes of a text. -/
def encode (s : String) : List UInt8 := s.toUTF8.toList

end ChildWatch.Text.Utf8
