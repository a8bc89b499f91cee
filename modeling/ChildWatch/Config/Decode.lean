import ChildWatch.Config.Basic
import ChildWatch.Decimal.Shortest
import ChildWatch.Text.Quoted
import ChildWatch.Toml.Document
import ChildWatch.Toml.Excerpt

/-! # Configurations from text

The settings of a document. Keys that are no settings are passed over; a setting whose value does not
fit is reported at its place.

* `Config.decode` — the settings of a table, or the first misfit, settings in the order of their
  names.
* `Config.parse` — the configuration of a text, valid by the rules. -/

namespace ChildWatch

open Toml

/-- A value that does not fit, and where it stands. -/
structure Misfit where
  span : Span
  reason : String
deriving DecidableEq, Repr

namespace Config

/-! ## What a value is called -/

/-- A number as it is shown in a report. -/
def floatText : FloatValue → String
  | .finite negative x => (if negative then "-" else "") ++ Decimal.Shortest.positional x
  | .infinite negative => if negative then "-inf" else "inf"
  | .notANumber => "NaN"

/-- The value where a number is wanted. -/
def shownValue : Node → String
  | .scalar (.string s) => "string " ++ Text.Quoted.encode s
  | .scalar (.integer n) => "integer \x60" ++ toString n ++ "\x60"
  | .scalar (.float x) => "floating point \x60" ++ floatText x ++ "\x60"
  | .scalar (.boolean b) => "boolean \x60" ++ (if b then "true" else "false") ++ "\x60"
  | .scalar .datetime | .table .. => "map"
  | .array _ | .tables _ => "sequence"

/-- The kind of a value. -/
def kindName : Node → String
  | .scalar (.string _) => "string"
  | .scalar (.integer _) => "integer"
  | .scalar (.float _) => "float"
  | .scalar (.boolean _) => "boolean"
  | .scalar .datetime => "datetime"
  | .table .. => "table"
  | .array _ | .tables _ => "array"

/-! ## Settings -/

/-- A number of milliseconds: an integer from zero on, below `2 ^ 64`. -/
def millis (span : Span) (node : Node) : Except Misfit UInt64 :=
  match node with
  | .scalar (.integer n) =>
    if 0 ≤ n ∧ n < 18446744073709551616 then .ok (UInt64.ofNat n.toNat)
    else .error ⟨span, "invalid value: " ++ shownValue node ++ ", expected u64"⟩
  | node => .error ⟨span, "invalid type: " ++ shownValue node ++ ", expected u64"⟩

/-- A list of words in quotes. -/
def wordList (words : List String) : String :=
  ", ".intercalate (words.map fun w => "\x60" ++ w ++ "\x60")

/-- One of several words. -/
def oneOf {α : Type} (ofName? : String → Option α) (words : List String) (span : Span)
    (word : String) : Except Misfit α :=
  match ofName? word with
  | some a => .ok a
  | none =>
    .error ⟨span, "unknown variant \x60" ++ word ++ "\x60, expected one of " ++ wordList words⟩

/-- What may stand behind a word that is written as a key: an empty table or an empty array. -/
def emptyValue (span : Span) (node : Node) : Except Misfit Unit :=
  match node with
  | .table _ [] => .ok ()
  | .table .. => .error ⟨span, "expected empty table"⟩
  | .array [] => .ok ()
  | .array _ | .tables _ => .error ⟨span, "expected empty array"⟩
  | node => .error ⟨span, "expected table, found " ++ kindName node⟩

/-- One of several words, written as a string or as the only key of a table. -/
def choice {α : Type} (ofName? : String → Option α) (words : List String) (span : Span)
    (node : Node) : Except Misfit α :=
  match node with
  | .scalar (.string word) => oneOf ofName? words span word
  | .table _ [] => .error ⟨span, "wanted exactly 1 element, found 0 elements"⟩
  | .table _ [(key, inner, value)] => do
    let a ← oneOf ofName? words key.span key.text
    emptyValue inner value
    return a
  | .table .. => .error ⟨span, "wanted exactly 1 element, more than 1 element"⟩
  | _ => .error ⟨span, "wanted string or table"⟩

/-- The value of a setting, or another one if the document does not have it. -/
def setting {α : Type} (entries : List Entry) (key : String) (read : Span → Node → Except Misfit α)
    (otherwise : α) : Except Misfit α :=
  match Entry.find? entries key with
  | some (_, span, node) => read span node
  | none => .ok otherwise

/-- The spellings of the modes of the error stream. -/
def stderrNames : List String := [StderrMode.capture, .inherit, .discard].map (·.name)

/-- The spellings of the trace modes. -/
def traceNames : List String := [TraceMode.none, .target, .all].map (·.name)

/-- **The settings of a table.** -/
def decode (entries : List Entry) : Except Misfit Config := do
  let wait ← setting entries waitKey millis default.defaultWaitTimeoutMs
  let stderr ←
    setting entries stderrKey (choice StderrMode.ofName? stderrNames) default.stderr
  let grace ←
    setting entries graceKey (fun span node => (millis span node).map some)
      default.terminateGraceMs
  let traces ← setting entries tracesKey (choice TraceMode.ofName? traceNames) default.traces
  return ⟨wait, grace, stderr, traces⟩

/-- The settings of a text. A document that does not fit and holds an integer beyond 64 bits counts
as malformed. -/
def ofText (text : String) : Except ConfigProblem Config :=
  match Document.parse text with
  | .error f => .error (.malformed (Excerpt.render text f.span f.cause.message))
  | .ok (entries, wide) =>
    match decode entries with
    | .ok c => .ok c
    | .error m =>
      let report := Excerpt.render text m.span m.reason
      .error (if wide then .malformed report else .unfit report)

/-- **The configuration of a text**, which must also obey the rules. -/
def parse (text : String) : Except Error Config :=
  match ofText text with
  | .ok c => c.validate
  | .error p => .error (.configParseFailed p)

end Config

end ChildWatch
