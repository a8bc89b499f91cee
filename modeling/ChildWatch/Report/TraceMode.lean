/-! # Trace modes

Which captured lines a report prints: none, those of a target, or all. Reports by target have a
name but are not available.

* `TraceMode.name`, `TraceMode.ofName?` — the spelling and its inverse. -/

namespace ChildWatch

/-- Which captured lines are printed. -/
inductive TraceMode where
  | none
  | target
  | all
deriving DecidableEq, Repr

namespace TraceMode

instance : Inhabited TraceMode := ⟨.all⟩

/-- The spelling of a mode. -/
def name : TraceMode → String
  | .none => "none"
  | .target => "target"
  | .all => "all"

/-- A mode in the notation of its cases. -/
def caseName : TraceMode → String
  | .none => "None"
  | .target => "Target"
  | .all => "All"

/-- The mode of a spelling; case and blanks count. -/
def ofName? (s : String) : Option TraceMode :=
  if s = "none" then some .none
  else if s = "target" then some .target
  else if s = "all" then some .all
  else Option.none

/-- Every mode is read back from its spelling. -/
@[simp] theorem ofName?_name (m : TraceMode) : ofName? m.name = some m := by
  cases m <;> rfl

end TraceMode

end ChildWatch
