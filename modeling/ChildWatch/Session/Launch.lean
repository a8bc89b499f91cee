import ChildWatch.Session.Basic

/-! # Launching a session

* `System` — a system that children can be launched on.
* `Session.startPumps` — the pumps of the captured streams, one after the other.
* `Session.start` — the session of a command, or why it could not be launched. -/

namespace ChildWatch

/-- A **system** that children can be launched on, with the host that each of them then has. A child
that is launched leads a group of its own, reads nothing, and has its output captured. -/
structure System (σ : Type) where
  /-- The number of the process that runs a command from now on. -/
  launch : Command → StderrMode → σ → Except IoError Nat × σ
  /-- The pump of a stream of the child with a number begins to read, if it can be started. -/
  startPump : Nat → Stream → σ → Except IoError Unit × σ
  /-- The host of the child with a number. -/
  child : Nat → Host σ
  /-- An entry for the journal. -/
  note : Journal.Entry → σ → σ

namespace System

variable {σ : Type} (sys : System σ)

/-- The system with another journal. -/
def noting (note : Journal.Entry → σ → σ) : System σ :=
  { sys with child := fun pid => { sys.child pid with note := note }, note := note }

end System

namespace Session

variable {σ : Type} (sys : System σ)

/-- **The pumps of some streams are started**, one after the other, up to the first that cannot be.
One that has been started before it is let go of: nobody receives what it reads. -/
def startPumps (pid : Nat) : List Stream → σ → Option IoError × σ
  | [], system => (none, system)
  | stream :: rest, system =>
    match sys.startPump pid stream system with
    | (.error e, system) => (some e, system)
    | (.ok (), system) =>
      startPumps pid rest (sys.note ⟨.debug, .pump, "Started " ++ stream.name ++ " pump"⟩ system)

/-- A child whose output cannot be captured is killed and waited for, whatever comes of that. -/
def abandon (command : Command) (pid : Nat) (reason : Error) (system : σ) :
    Except Error Session × σ :=
  let system := sys.note ⟨.warn, .session, "Failed to start output capture for pid " ++ toString pid ++
    ": " ++ reason.message⟩ system
  let (_, system) := (sys.child pid).kill system
  let (_, system) := (sys.child pid).await system
  (.error (.launch command.text (.custom .other reason.message)), system)

/-- **Starting a session**: the command is launched, and the pumps of the captured streams begin to
read. -/
def start (command : Command) (config : Config) (system : σ) : Except Error Session × σ :=
  match sys.launch command config.stderr system with
  | (.error e, system) => (.error (.launch command.text e), system)
  | (.ok pid, system) =>
    let system := sys.note
      ⟨.info, .session, "Started '" ++ command.text ++ "' (pid " ++ toString pid ++ ")"⟩ system
    match startPumps sys pid config.captured system with
    | (some e, system) => abandon sys command pid (.io e) system
    | (none, system) => (.ok (ofLaunch command config pid ((sys.child pid).now system)), system)

/-- **All that can come of a start**: the session of a child that has just been launched, or an error
of the launch that names the command. -/
theorem start_cases (command : Command) (config : Config) (system : σ) :
    (∃ pid now, (start sys command config system).1 = .ok (ofLaunch command config pid now)) ∨
      ∃ source, (start sys command config system).1 = .error (.launch command.text source) := by
  rw [start]
  cases hlaunch : sys.launch command config.stderr system with
  | mk launched system =>
      cases launched with
      | error e => exact Or.inr ⟨e, rfl⟩
      | ok pid =>
          simp only
          split
          -- launched, but not captured
          · exact Or.inr ⟨_, rfl⟩
          · exact Or.inl ⟨pid, _, rfl⟩

end Session

end ChildWatch
