import ChildWatch.Error
import ChildWatch.Regex.Reader
import ChildWatch.Regex.Search
import ChildWatch.Text.Line

/-! # Patterns

What a caller waits for in the output: a piece of text, or a regular expression.

* `Pattern.substring`, `Pattern.regex` — the two ways to make one.
* `Pattern.accepts` — whether a line holds it. -/

namespace ChildWatch

/-- How a pattern is looked for. -/
inductive PatternKind where
  | substring
  | expression (e : Regex.Expr)

/-- A **pattern**: the text it was made from, and how it is looked for. -/
structure Pattern where
  source : String
  kind : PatternKind

namespace Pattern

/-- The pattern that is a piece of text. -/
def substring (text : String) : Pattern := ⟨text, .substring⟩

/-- The pattern of a regular expression. -/
def regex (source : String) : Except Error Pattern :=
  match Regex.Expr.parse source with
  | .ok e => .ok ⟨source, .expression e⟩
  | .error fault => .error (.invalidPattern fault.message)

/-- The text of a pattern. -/
def text (p : Pattern) : String := p.source

/-- Whether `piece` stands somewhere in a text. -/
def occursIn (piece : List Char) : List Char → Bool
  | [] => piece.isEmpty
  | c :: rest => piece.isPrefixOf (c :: rest) || occursIn piece rest

/-- **Whether a line holds the pattern**, anywhere in it. Case counts. -/
def accepts (p : Pattern) (line : Text.Line) : Bool :=
  match p.kind with
  | .substring => occursIn p.source.toList line.text.toList
  | .expression e => e.occursIn line.text.toList

end Pattern

end ChildWatch
