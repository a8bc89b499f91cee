import ChildWatch.Error
import ChildWatch.Report.Sink

/-! # Reports of captured lines

* `Report.render` — the lines a trace mode prints.
* `Report.write` — writes them to a sink: a blank line, then each line, or nothing at all when there
  is none to print.
* `Report.fullText` — what a complete report amounts to. -/

namespace ChildWatch.Report

/-- **The lines a mode prints.** Reports by target are refused. -/
def render (mode : TraceMode) (lines : List String) : Except Error (List String) :=
  match mode with
  | .all => .ok lines
  | .none => .ok []
  | .target => .error (.traceModeUnsupported .target)

/-- The pieces a report of these lines is written in: the blank line, then the text and the line
feed of each line. -/
def pieces (lines : List String) : List (List UInt8) :=
  if lines.isEmpty then []
  else [10] :: lines.flatMap fun line => [Text.Utf8.encode line, [10]]

/-- The whole text of a report of these lines. -/
def fullText (lines : List String) : String :=
  if lines.isEmpty then ""
  else "\n" ++ String.join (lines.map (· ++ "\n"))

/-- Pieces written one after the other, up to the first error. -/
def writePieces (sink : Sink) : List (List UInt8) → Option IoError × Sink
  | [] => (none, sink)
  | piece :: rest =>
    match sink.writeAll piece with
    | (some e, sink') => (some e, sink')
    | (none, sink') => writePieces sink' rest

/-- **Writing a report.** The mode is judged before the sink is touched. -/
def write (sink : Sink) (mode : TraceMode) (lines : List String) : Except Error Unit × Sink :=
  match render mode lines with
  | .error e => (.error e, sink)
  | .ok shown =>
    match writePieces sink (pieces shown) with
    | (none, sink') => (.ok (), sink')
    | (some e, sink') => (.error (.io e), sink')

end ChildWatch.Report
