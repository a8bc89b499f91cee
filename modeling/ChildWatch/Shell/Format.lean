import ChildWatch.Decimal.Binary
import ChildWatch.Decimal.Literal
import ChildWatch.Shell.Arithmetic
import ChildWatch.Text.Utf8

/-! # Text that shell commands print

* `Escapes` — which backslash escapes are understood.
* `Format.escaped` — the bytes of a text with backslash escapes.
* `Format.echo` — what `echo` prints.
* `Format.printf` — what `printf` prints. -/

namespace ChildWatch.Shell

/-- The **escapes** that are understood besides those that always are. -/
structure Escapes where
  /-- A byte of two hexadecimal digits after an `x`. -/
  hex : Bool
  /-- A double quotation mark. -/
  quote : Bool
  /-- A zero before the three octal digits of a byte. -/
  zero : Bool
  /-- A `c`, which ends all output. -/
  ending : Bool

/-- What a fault of a format is about. -/
inductive FormatFault where
  | noNumber (text : String)
  | noDirective (conversion : Char)

namespace Format

/-- Whether a character is a hexadecimal digit. -/
def isHex (c : Char) : Bool := c.isDigit || ('a' ≤ c && c ≤ 'f') || ('A' ≤ c && c ≤ 'F')

/-- The byte of some hexadecimal digits. -/
def hexByte (ds : List Char) : UInt8 :=
  UInt8.ofNat (((Arithmetic.digits? 16 ds).getD 0).toNat)

/-- The bytes of one character. -/
def bytesOf (c : Char) : List UInt8 := Text.Utf8.encode c.toString

/-- Whether a character is an octal digit. -/
def isOctal (c : Char) : Bool := '0' ≤ c && c ≤ '7'

/-- The byte of some octal digits. -/
def octal (ds : List Char) : UInt8 :=
  UInt8.ofNat (ds.foldl (fun n c => 8 * n + (c.toNat - 48)) 0)

/-- The byte of an escape of one letter. -/
def letter? : Char → Option UInt8
  | 'a' => some 7
  | 'b' => some 8
  | 'e' => some 27
  | 'f' => some 12
  | 'n' => some 10
  | 'r' => some 13
  | 't' => some 9
  | 'v' => some 11
  | '\\' => some 92
  | _ => none

/-- The byte of the escape that some characters start with, and what follows it. -/
def escape? (e : Escapes) : List Char → Option (UInt8 × List Char)
  | [] => none
  | c :: rest =>
    if isOctal c then
      let digits := if c = '0' && e.zero then rest else c :: rest
      let ds := (digits.take 3).takeWhile isOctal
      some (octal ds, digits.drop ds.length)
    else if e.hex && c = 'x' && (rest.head?.any isHex) then
      let ds := (rest.take 2).takeWhile isHex
      some (hexByte ds, rest.drop ds.length)
    else if e.quote && c = '"' then some (34, rest)
    else (letter? c).map fun b => (b, rest)

/-- The bytes of a text with escapes, and whether one of them ends all output. More `fuel` than there
are characters is never used up. -/
def escapedFrom (e : Escapes) : Nat → List Char → List UInt8 × Bool
  | 0, _ => ([], false)
  | _ + 1, [] => ([], false)
  | fuel + 1, '\\' :: c :: rest =>
    if c = 'c' && e.ending then ([], true)
    else
      let (bytes, rest) := match escape? e (c :: rest) with
        | some (b, rest) => ([b], rest)
        | none => ([92], c :: rest)
      let (more, stop) := escapedFrom e fuel rest
      (bytes ++ more, stop)
  | fuel + 1, c :: rest =>
    let (more, stop) := escapedFrom e fuel rest
    (bytesOf c ++ more, stop)

/-- **The bytes of a text with escapes**, and whether one of them ends all output. -/
def escaped (e : Escapes) (s : List Char) : List UInt8 × Bool := escapedFrom e (s.length + 1) s

/-- **What `echo` prints**: the words with blanks between them, and a line end unless that is
declined. -/
def echo (words : List String) (escapes : Option Escapes) (declined : Bool) : List UInt8 :=
  let text := " ".intercalate words
  let (bytes, stop) := match escapes with
    | some e => escaped e text.toList
    | none => (Text.Utf8.encode text, false)
  if stop || declined then bytes else bytes ++ [10]

/-- A width or a precision of a conversion; it may be left to an argument. -/
inductive Measure where
  | none
  | fixed (n : Nat)
  | argument

/-- A piece of a format. -/
inductive Directive where
  | bytes (bs : List UInt8) (stop : Bool)
  | convert (flags : List Char) (width precision : Measure) (conversion : Char)

/-- The measure at the start of a format, and what follows it. -/
def measure (cs : List Char) : Measure × List Char :=
  match cs with
  | '*' :: rest => (.argument, rest)
  | cs =>
    let ds := cs.takeWhile Char.isDigit
    if ds.isEmpty then (.none, cs)
    else (.fixed (ds.foldl (fun n c => 10 * n + (c.toNat - 48)) 0), cs.dropWhile Char.isDigit)

/-- The pieces of a format. More `fuel` than there are characters is never used up. -/
def directives (e : Escapes) : Nat → List Char → List Directive
  | 0, _ => []
  | _ + 1, [] => []
  | fuel + 1, '%' :: '%' :: rest => .bytes [37] false :: directives e fuel rest
  | fuel + 1, '%' :: rest =>
    let flags := rest.takeWhile fun c => "-+ #0".toList.contains c
    let (width, rest) := measure (rest.drop flags.length)
    let (precision, rest) :=
      match rest with
      | '.' :: rest =>
        match measure rest with
        | (.none, rest) => (.fixed 0, rest)
        | found => found
      | rest => (.none, rest)
    match rest with
    | c :: rest => .convert flags width precision c :: directives e fuel rest
    | [] => []
  | fuel + 1, cs =>
    let plain := cs.takeWhile (· ≠ '%')
    let (bs, stop) := escaped e plain
    .bytes bs stop :: if stop then [] else directives e fuel (cs.drop plain.length)

/-- Bytes brought to a width. -/
def pad (flags : List Char) (width : Nat) (bs : List UInt8) : List UInt8 :=
  let fill := List.replicate (width - bs.length) (32 : UInt8)
  if flags.contains '-' then bs ++ fill else fill ++ bs

/-- The digits of a number, in lower or upper case. -/
def digits (base : Nat) (upper : Bool) (n : Nat) : List Char :=
  let ds := Nat.toDigits base n
  if upper then ds.map Char.toUpper else ds

/-- A number with its sign, brought to a precision and a width. -/
def number (flags : List Char) (width : Nat) (precision : Option Nat) (conversion : Char)
    (n : Int) : List UInt8 :=
  let signed := conversion = 'd' || conversion = 'i'
  let size := if signed then n.natAbs else (n % 18446744073709551616).toNat
  let base := if conversion = 'o' then 8 else if conversion = 'x' || conversion = 'X' then 16 else 10
  let ds := digits base (conversion = 'X') size
  let ds := List.replicate (precision.getD 1 - ds.length) '0' ++ ds
  let sign :=
    if signed && n < 0 then ['-'] else if signed && flags.contains '+' then ['+']
    else if signed && flags.contains ' ' then [' '] else []
  let lead :=
    if flags.contains '#' && size ≠ 0 then
      if base = 16 then ['0', conversion] else if base = 8 then ['0'] else []
    else []
  let zeros :=
    if flags.contains '0' && !flags.contains '-' && precision.isNone then
      List.replicate (width - sign.length - lead.length - ds.length) '0'
    else []
  pad flags width ((sign ++ lead ++ zeros ++ ds).flatMap bytesOf)

/-- The number of an argument, and whether it is one. A quotation mark asks for the number of the
character after it. -/
def argumentNumber (s : String) : Int × Bool :=
  match s.toList with
  | [] => (0, true)
  | '\'' :: c :: _ | '"' :: c :: _ => (c.toNat, true)
  | _ =>
    match Arithmetic.signed? s with
    | some n => (n, true)
    | none => (0, false)

/-- The digits of a ratio with a number of decimal places. -/
def placesText (ratio : Nat × Nat) (places : Nat) : String :=
  let ds := (toString (Decimal.divHalfEven (ratio.1 * Nat.pow 10 places) ratio.2)).toList
  let ds := List.replicate (places + 1 - ds.length) '0' ++ ds
  let whole := String.ofList (ds.take (ds.length - places))
  if places = 0 then whole else whole ++ "." ++ String.ofList (ds.drop (ds.length - places))

/-- A number with decimal places and its sign, brought to a width, and whether the argument is a
number. -/
def fixedPoint (flags : List Char) (width : Nat) (precision : Option Nat) (s : String) :
    List UInt8 × Bool :=
  let (literal, fine) : Decimal.Literal × Bool := match Decimal.Literal.parse s with
    | .ok l => (l, true)
    | .error _ => (⟨false, .decimal 0 0⟩, s.isEmpty)
  let text := match literal.magnitude with
    | .infinite => "inf"
    | .notANumber => "nan"
    | .decimal digits e =>
      let (num, den) := Decimal.ratioOfPower digits 10 e
      match Decimal.Binary.round? num den with
      | some x => placesText x.ratio (precision.getD 6)
      | none => "inf"
  let sign := if literal.negative then "-" else if flags.contains '+' then "+"
    else if flags.contains ' ' then " " else ""
  let zeros := if flags.contains '0' && !flags.contains '-' then
      String.ofList (List.replicate (width - sign.length - text.length) '0')
    else ""
  (pad flags width (Text.Utf8.encode (sign ++ zeros ++ text)), fine)

/-- What has been printed so far: bytes latest last, arguments left, whether any was taken, the faults,
and whether output has ended. -/
structure Printing where
  bytes : List UInt8
  arguments : List String
  took : Bool
  faults : List FormatFault
  stopped : Bool

/-- The next argument. -/
def Printing.next (p : Printing) : Option String × Printing :=
  match p.arguments with
  | [] => (none, p)
  | a :: rest => (some a, { p with arguments := rest, took := true })

/-- A measure, which may be an argument. -/
def Printing.measured (p : Printing) : Measure → Option Nat × Printing
  | .none => (none, p)
  | .fixed n => (some n, p)
  | .argument =>
    let (a, p) := p.next
    (some (argumentNumber (a.getD "")).1.toNat, p)

/-- One piece of a format. -/
def Printing.directive (e : Escapes) (p : Printing) (d : Directive) : Printing :=
  if p.stopped then p
  else
    match d with
    | .bytes bs stop => { p with bytes := p.bytes ++ bs, stopped := stop }
    | .convert flags width precision conversion =>
      let (width, p) := p.measured width
      let (precision, p) := p.measured precision
      let (a, p) := p.next
      let text := a.getD ""
      let put := fun (p : Printing) bs => { p with bytes := p.bytes ++ pad flags (width.getD 0) bs }
      let limited := fun (bs : List UInt8) => match precision with
        | some n => bs.take n
        | none => bs
      match conversion with
      | 's' => put p (limited (Text.Utf8.encode text))
      | 'c' => put p ((Text.Utf8.encode text).take 1)
      | 'b' =>
        let (bs, stop) := escaped { e with zero := true, ending := true } text.toList
        { put p (limited bs) with stopped := stop }
      | 'f' | 'F' =>
        let (bs, fine) := fixedPoint flags (width.getD 0) precision text
        { p with
          bytes := p.bytes ++ bs
          faults := if fine then p.faults else p.faults ++ [.noNumber text] }
      | conversion =>
        if "diouxX".toList.contains conversion then
          let (n, fine) := argumentNumber text
          let p := if fine then p else
            { p with faults := p.faults ++ [.noNumber text] }
          { p with bytes := p.bytes ++ number flags (width.getD 0) precision conversion n }
        else
          { p with
            faults := p.faults ++ [.noDirective conversion]
            stopped := true }

/-- A format used again and again until the arguments are used up. -/
def rounds (e : Escapes) (ds : List Directive) : Nat → Printing → Printing
  | 0, p => p
  | fuel + 1, p =>
    let p := ds.foldl (Printing.directive e) { p with took := false }
    if p.stopped || p.arguments.isEmpty || !p.took then p else rounds e ds fuel p

/-- **What `printf` prints**, with its faults and the arguments that it has no use for. -/
def printf (e : Escapes) (format : String) (arguments : List String) : Printing :=
  rounds e (directives e (format.length + 1) format.toList) (arguments.length + 1)
    ⟨[], arguments, false, [], false⟩

end Format

end ChildWatch.Shell
