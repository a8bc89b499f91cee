import ChildWatch.Unicode.Category
import ChildWatch.Unicode.Property

/-! # Quoted text

A text between double quotes in which everything that would not print is spelled out.

* `Quoted.encode` — the quoted form, `Quoted.encodeList` — of several texts.
* `Quoted.encodePath` — the quoted form of a path.
* `Quoted.escape` — the spelling of one character. -/

namespace ChildWatch.Text.Quoted

open Unicode

/-- The categories of characters that do not print; the plain blank is an exception. -/
def hidden : List Category :=
  [.control, .format, .privateUse, .unassigned, .lineSeparator, .paragraphSeparator,
    .spaceSeparator]

/-- The characters that attach to the one before them. -/
def attaching : Spans := Property.graphemeExtend.spans

/-- Whether a character is shown as it is. -/
def isPlain (c : Char) : Bool :=
  if c.toNat < 128 then 32 ≤ c.toNat && c.toNat < 127
  else !hidden.contains (Category.of c) && !attaching.has c

/-- The lower-case hexadecimal digits of a number. -/
def hexDigits (n : Nat) : String := String.ofList (Nat.toDigits 16 n)

/-- **The spelling of a character** between quotes. -/
def escape (c : Char) : String :=
  match c with
  | '"' => "\\\""
  | '\\' => "\\\\"
  | '\n' => "\\n"
  | '\r' => "\\r"
  | '\t' => "\\t"
  | '\x00' => "\\0"
  | c => if isPlain c then c.toString else "\\u\x7B" ++ hexDigits c.toNat ++ "\x7D"

/-- **The quoted form of a text.** -/
def encode (s : String) : String := "\"" ++ String.join (s.toList.map escape) ++ "\""

/-- The quoted forms of texts, between brackets. -/
def encodeList (texts : List String) : String :=
  "[" ++ ", ".intercalate (texts.map encode) ++ "]"

/-- The spelling of a character of a path. The single quote is spelled out too. -/
def escapeInPath (c : Char) : String := if c.toNat = 39 then "\\'" else escape c

/-- **The quoted form of a path.** -/
def encodePath (path : String) : String :=
  "\"" ++ String.join (path.toList.map escapeInPath) ++ "\""

end ChildWatch.Text.Quoted
