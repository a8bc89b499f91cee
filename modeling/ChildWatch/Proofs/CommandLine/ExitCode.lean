import ChildWatch.CommandLine.Program
import ChildWatch.Proofs.Report.Writing
import ChildWatch.Proofs.Session.GracePeriod

/-! # The exit code after a wait that has expired

A wait that expires settles the exit code, but the run goes on: the session is released, and the
reports are written. A report that fails ends the run with another code.

* `Program.Expires` — the waits up to one that expires; `waits_eq_timedOut_iff` — these are the waits
  that end in the code of a timeout.
* `Program.Starts` — a run whose child starts; `code_of_starts` — its code is the one of its session.
* `exit_code_of_expired_wait` — the code of a run in which the child starts and a wait expires.
* `rehearsal`, `timed_out_run_fails` — surroundings to try it in, where a run in which a wait has
  expired does not end in the code of a timeout. -/

namespace ChildWatch

/-! ## Waits that expire -/

/-- A wait on the output fails only by expiring. -/
theorem Live.waitLoop_error {σ : Type} {h : Host σ} {w : Waiter} {e : Error} (polls : Nat)
    (phase : Waiter.Phase) (l : Live σ)
    (hanswer : (l.waitLoop h .stdout w polls phase).1 = some (.error e)) : e = w.timeoutError := by
  induction polls generalizing phase l with
  | zero => cases hanswer
  | succ polls ih =>
      rw [waitLoop] at hanswer
      simp only [Session.capture?] at hanswer
      generalize w.proceed phase (h.now (l.sync h).system) (l.sync h).session.stdout.buffer = polled
        at hanswer
      obtain ⟨outcome, phase, buffer⟩ := polled
      simp only at hanswer
      cases hverdict : outcome.verdict with
      | matched => simp [hverdict, Waiter.answer] at hanswer
      | expired =>
          simp only [hverdict, Waiter.answer, Option.some.injEq, Except.error.injEq] at hanswer
          exact hanswer.symm
      | pending =>
          simp only [hverdict, Waiter.answer] at hanswer
          exact ih _ _ hanswer

namespace CommandLine

/-- Surroundings whose two streams are willing at all times. -/
def Surroundings.Willing {σ : Type} (sys : Surroundings σ) : Prop :=
  ∀ stream system, (sys.sink stream system).Willing

namespace Program

variable {σ : Type} (sys : Surroundings σ) (h : Host σ) (polls : Nat) (timeout : Duration)

/-- **The waits expire**: one is answered by its timeout, and each before it by a match. Both answers
are put into the journal. -/
inductive Expires : List Pattern → Live σ → Live σ → Prop where
  | timeUp {p : Pattern} {rest : List Pattern} {l l' : Live σ}
    (hwait : l.wait h .stdout ⟨p, timeout⟩ polls =
      (some (.error (.patternTimeout p.text timeout)), l')) :
    Expires (p :: rest) l
      { l' with system := note sys .error (Error.patternTimeout p.text timeout).message l'.system }
  | seen {p : Pattern} {rest : List Pattern} {l l' m : Live σ}
    (hwait : l.wait h .stdout ⟨p, timeout⟩ polls = (some (.ok ()), l'))
    (hrest : Expires rest
      { l' with system := note sys .info ("Saw \"" ++ p.text ++ "\"") l'.system } m) :
    Expires (p :: rest) l m

variable {sys h polls timeout}

/-- **The waits end in the code of a timeout exactly if they expire.** The induction is on the
patterns. -/
theorem waits_eq_timedOut_iff {wanted : List Pattern} {l m : Live σ} :
    waits sys h polls timeout wanted l = (some (.ok exitTimedOut), m) ↔
      Expires sys h polls timeout wanted l m := by
  constructor
  · intro hwaits
    induction wanted generalizing l with
    | nil => simp [waits, exitSeen, exitTimedOut] at hwaits
    | cons p rest ih =>
        rw [waits] at hwaits
        cases hwait : l.wait h .stdout ⟨p, timeout⟩ polls with
        | mk answer l' =>
            rw [hwait] at hwaits
            match answer, hwait with
            | none, _ => simp at hwaits
            | some (.ok ()), hwait => exact .seen hwait (ih hwaits)
            | some (.error e), hwait =>
                have he : e = .patternTimeout p.text timeout :=
                  Live.waitLoop_error polls .fresh l (congrArg Prod.fst hwait)
                subst he
                simp only [Error.isTimeout, if_true, Prod.mk.injEq, true_and] at hwaits
                exact hwaits ▸ .timeUp hwait
  · intro hexpires
    induction hexpires with
    | timeUp hwait =>
        rw [waits, hwait]
        rfl
    | seen hwait _ ih =>
        rw [waits, hwait]
        exact ih

/-! ## From the session to the code of the run -/

variable (sys) (setting : Setting) (system : σ) (o : Options) (config : Config)
  (wanted : List Pattern) (l : Live σ)

/-- The surroundings of a run with options, with the journal that they ask for. -/
def journaled : Surroundings σ := filtered sys (Journal.Filter.of setting.environment o.debug)

/-- The paths at which a run looks for its configuration. -/
def searched : List String :=
  SearchPath.of setting.environment setting.recordedHome setting.directory

/-- The system when the child is launched: all that has been done are entries for the journal. -/
def beforeLaunch : σ :=
  (configurationEntry setting (searched setting) o).foldl
    (fun system e => (journaled sys setting o).note e system)
    (note (journaled sys setting o) .debug ("Arguments: " ++ o.debugText) system)

/-- The host of the child of a run. -/
def hostOf : Host σ := (journaled sys setting o).child l.session.pid

/-- **The child starts**: the arguments, the configuration and the patterns are in order, neither help
nor the version is asked for, and the command is launched, which begins the session `l`. -/
structure Starts : Prop where
  options_eq : Options.parse setting.arguments = .ok o
  help_eq : o.help = false
  version_eq : o.version = false
  config_eq : Config.load setting.files (searched setting) o.configPath = .ok config
  patterns_eq : patterns o = .ok wanted
  launch_eq : ∃ command, Command.ofArgv? o.command = some command ∧
    Session.start (journaled sys setting o).toSystem command config
      (beforeLaunch sys setting system o) = (.ok l.session, l.system)

/-- The time allowed for each wait of a run. -/
def timeoutOf : Duration := o.timeout.getD config.defaultWaitTimeout

/-- The trace mode of the reports of a run. -/
def modeOf : TraceMode := o.traces.getD config.traces

/-- The exit code of what a session has come to. -/
def codeOf : Except Error Nat → Nat
  | .ok code => code
  | .error _ => exitFailed

variable {sys setting system o config wanted l}

/-- A run in which the child starts watches its session. -/
theorem watch_of_starts (hstarts : Starts sys setting system o config wanted l) (polls : Nat) :
    (watch (journaled sys setting o) setting o polls
        (note (journaled sys setting o) .debug ("Arguments: " ++ o.debugText) system)).1 =
      (follow (journaled sys setting o) (hostOf sys setting o l) polls o (timeoutOf o config)
        (modeOf o config) wanted l).1.map fun r => r.mapError fun e => ⟨none, e⟩ := by
  obtain ⟨command, hcommand, hlaunch⟩ := hstarts.launch_eq
  have hconfig := hstarts.config_eq
  rw [searched] at hconfig
  rw [beforeLaunch, searched] at hlaunch
  simp only [watch, hconfig, hstarts.patterns_eq, hcommand, hlaunch]
  rfl

/-- **The exit code of a run in which the child starts** is the one that its session has come to. -/
theorem code_of_starts (hstarts : Starts sys setting system o config wanted l) (polls : Nat) :
    (run sys setting polls system).1 =
      (follow (journaled sys setting o) (hostOf sys setting o l) polls o (timeoutOf o config)
        (modeOf o config) wanted l).1.map codeOf := by
  have hwatch := watch_of_starts hstarts polls
  rw [run, hstarts.options_eq]
  simp only [hstarts.help_eq, hstarts.version_eq, Bool.false_eq_true, if_false, runWatch]
  rw [journaled] at hwatch ⊢
  generalize watch _ setting o polls _ = watched at hwatch ⊢
  obtain ⟨result, system'⟩ := watched
  simp only at hwatch
  subst hwatch
  generalize (follow _ _ polls o _ _ wanted l).1 = come
  match come with
  | none => rfl
  | some (.ok code) => rfl
  | some (.error e) => rfl

/-- **A session whose waits expire** comes to the code of a timeout if its reports succeed, and else
to the error of the one that fails. -/
theorem follow_of_expires {h : Host σ} {timeout : Duration} {m : Live σ} (mode : TraceMode)
    (hexpires : Expires sys h polls timeout wanted l m) :
    (follow sys h polls o timeout mode wanted l).1 =
      some ((reports sys h mode (notePumpErrors sys (m.terminate h))).1.map fun () => exitTimedOut) := by
  rw [follow, waits_eq_timedOut_iff.mpr hexpires]
  rfl

/-! ## The reports -/

/-- In mode `target` the first report fails. -/
theorem reports_target (h : Host σ) (l : Live σ) :
    (reports sys h .target l).1 = .error (.traceModeUnsupported .target) := rfl

/-- In mode `none` both reports succeed. -/
theorem reports_none (h : Host σ) (l : Live σ) : (reports sys h .none l).1 = .ok () := rfl

/-- On willing streams a report of everything succeeds. -/
theorem report_all (hwilling : sys.Willing) (stream : Stream) (lines : List String) (system : σ) :
    (report sys stream .all lines system).1 = .ok () :=
  Report.write_all (hwilling stream system) lines

/-- In mode `all` both reports succeed on willing streams. -/
theorem reports_all (hwilling : sys.Willing) (h : Host σ) (l : Live σ) :
    (reports sys h .all l).1 = .ok () := by
  rw [reports]
  generalize l.snapshot h .stdout = taken
  obtain ⟨lines, l⟩ := taken
  have hreport := report_all hwilling .stdout lines l.system
  dsimp only
  generalize report sys .stdout .all lines l.system = written at hreport ⊢
  obtain ⟨result, system⟩ := written
  obtain rfl : result = .ok () := hreport
  exact report_all hwilling .stderr _ _

/-! ## The exit code -/

/-- **The exit code of a run in which the child starts and a wait expires.** It is the code of a
timeout if both reports succeed at the end, and the code of an error if one of them fails. In mode
`target` they always fail, in mode `none` they never do, and in mode `all` they do not fail as long
as the streams of the program take what they are given. -/
theorem exit_code_of_expired_wait (sys : Surroundings σ) (setting : Setting) (polls : Nat)
    (system : σ) (o : Options) (config : Config) (wanted : List Pattern) (l m : Live σ)
    (hstarts : Starts sys setting system o config wanted l)
    (hexpires : Expires (journaled sys setting o) (hostOf sys setting o l) polls
      (timeoutOf o config) wanted l m) :
    (run sys setting polls system).1 =
        some (match (reports (journaled sys setting o) (hostOf sys setting o l) (modeOf o config)
            (notePumpErrors (journaled sys setting o)
              (m.terminate (hostOf sys setting o l)))).1 with
          | .ok () => exitTimedOut
          | .error _ => exitFailed) ∧
      (modeOf o config = .target → (run sys setting polls system).1 = some exitFailed) ∧
      (modeOf o config = .none → (run sys setting polls system).1 = some exitTimedOut) ∧
      (modeOf o config = .all → sys.Willing →
        (run sys setting polls system).1 = some exitTimedOut) := by
  have hcode := code_of_starts hstarts polls
  rw [follow_of_expires (modeOf o config) hexpires] at hcode
  refine ⟨?_, fun hmode => ?_, fun hmode => ?_, fun hmode hwilling => ?_⟩
  · rw [hcode]
    cases (reports _ _ (modeOf o config) _).1 with
    | ok => rfl
    | error e => rfl
  · rw [hcode, hmode, reports_target]
    rfl
  · rw [hcode, hmode, reports_none]
    rfl
  · have hwilling' : (journaled sys setting o).Willing := hwilling
    rw [hcode, hmode, reports_all hwilling']
    rfl

/-! ## Rehearsed runs -/

/-- Surroundings to rehearse in. The child writes nothing, so a wait lasts to its deadline; the
streams of the program take everything. -/
def rehearsal : Surroundings Rehearsal where
  launch _ _ s := (.ok 4242, s)
  startPump _ _ s := (.ok (), s)
  child _ :=
    { Rehearsal.host .zero [] with
      idle := fun deadline s => { s with clock := deadline.getD s.clock } }
  note _ s := s
  sink _ _ := Sink.fresh [] .unlimited
  wrote _ _ s := s

/-- A run that waits for what does not appear, with a trace mode and no configuration. -/
def awaiting (mode : TraceMode) : Setting where
  arguments := ["--wait", "never", "--traces", mode.name, "--", "sh"]
  environment := []
  recordedHome := "/"
  directory := "/"
  files := ⟨[], []⟩

/-- Its options. -/
def awaitingOptions (mode : TraceMode) : Options :=
  { Options.empty with patterns := ["never"], traces := some mode, command := ["sh"] }

/-- Its session. -/
def awaitingSession : Live Rehearsal :=
  ⟨.ofLaunch ⟨"sh", [], by decide⟩ .default 4242 .zero, .start⟩

theorem parse_awaiting (mode : TraceMode) :
    Options.parse (awaiting mode).arguments = .ok (awaitingOptions mode) := by
  cases mode <;> rfl

/-- No path leads to a file where there is none. -/
theorem isFile_awaiting (mode : TraceMode) (path : String) :
    (awaiting mode).files.isFile path = false := by
  have hentry (place : List String) (bytes : List UInt8) (runnable : Bool) :
      (awaiting mode).files.entry? place ≠ some (.file bytes runnable) := by
    cases place <;> simp [awaiting, FileTree.entry?]
  rw [FileTree.isFile]
  split
  · rename_i place bytes runnable hfind
    exact absurd (FileTree.entry?_of_find hfind) (hentry place bytes runnable)
  · rfl

theorem load_awaiting (mode : TraceMode) :
    Config.load (awaiting mode).files (searched (awaiting mode)) none = .ok .default := by
  have hfind : (searched (awaiting mode)).find? (awaiting mode).files.isFile = none := by
    simp [isFile_awaiting]
  simp only [Config.load, FileTree.access, hfind]

/-- A rehearsal keeps no journal. -/
theorem note_journaled (mode : TraceMode) (e : Journal.Entry) (s : Rehearsal) :
    (journaled rehearsal (awaiting mode) (awaitingOptions mode)).note e s = s :=
  ite_self _

/-- Without a journal nothing happens before the launch. -/
theorem beforeLaunch_of_silent {sys : Surroundings Rehearsal} {setting : Setting} {o : Options}
    (hnote : ∀ e s, (journaled sys setting o).note e s = s) (system : Rehearsal) :
    beforeLaunch sys setting system o = system := by
  rw [beforeLaunch, note]
  simp only [hnote]
  induction configurationEntry _ _ _ with
  | nil => rfl
  | cons e rest ih => exact ih

/-- The child starts. -/
theorem starts_awaiting (mode : TraceMode) :
    Starts rehearsal (awaiting mode) .start (awaitingOptions mode) .default [.substring "never"]
      awaitingSession where
  options_eq := parse_awaiting mode
  help_eq := rfl
  version_eq := rfl
  config_eq := load_awaiting mode
  patterns_eq := rfl
  launch_eq := by
    refine ⟨⟨"sh", [], by decide⟩, rfl, ?_⟩
    rw [beforeLaunch_of_silent (note_journaled mode)]
    simp [Session.start, journaled, filtered, rehearsal]
    rfl

/-- Its wait fails when it is polled for the second time. -/
theorem wait_awaiting (mode : TraceMode) :
    (awaitingSession.wait (hostOf rehearsal (awaiting mode) (awaitingOptions mode) awaitingSession)
      .stdout ⟨.substring "never", timeoutOf (awaitingOptions mode) .default⟩ 2).1.map Except.toBool =
        some false := by
  cases mode <;> decide +kernel

/-- So its waits expire. -/
theorem expires_awaiting (mode : TraceMode) : ∃ m,
    Expires (journaled rehearsal (awaiting mode) (awaitingOptions mode))
      (hostOf rehearsal (awaiting mode) (awaitingOptions mode) awaitingSession) 2
      (timeoutOf (awaitingOptions mode) .default) [.substring "never"] awaitingSession m := by
  have hfails := wait_awaiting mode
  cases hwait : awaitingSession.wait _ .stdout _ 2 with
  | mk answer l' =>
      rw [hwait] at hfails
      match answer, hwait with
      | some (.error e), hwait =>
          obtain rfl := Live.waitLoop_error 2 .fresh _ (congrArg Prod.fst hwait)
          exact ⟨_, .timeUp hwait⟩
      | none, _ => cases hfails
      | some (.ok ()), _ => cases hfails

/-- A wait has expired in a run that reports everything: the code is that of a timeout. -/
theorem exit_code_of_expired_wait_rehearsed :
    Starts rehearsal (awaiting .all) .start (awaitingOptions .all) .default [.substring "never"]
        awaitingSession ∧
      (∃ m, Expires (journaled rehearsal (awaiting .all) (awaitingOptions .all))
        (hostOf rehearsal (awaiting .all) (awaitingOptions .all) awaitingSession) 2
        (timeoutOf (awaitingOptions .all) .default) [.substring "never"] awaitingSession m) ∧
      modeOf (awaitingOptions .all) .default = .all ∧ rehearsal.Willing ∧
      (run rehearsal (awaiting .all) 2 .start).1 = some 2 := by
  have hstarts := starts_awaiting .all
  obtain ⟨m, hexpires⟩ := expires_awaiting .all
  have hwilling : rehearsal.Willing := fun _ _ => rfl
  obtain ⟨-, -, -, hall⟩ := exit_code_of_expired_wait rehearsal (awaiting .all) 2 .start
    (awaitingOptions .all) .default _ _ m hstarts hexpires
  exact ⟨hstarts, ⟨m, hexpires⟩, rfl, hwilling, hall rfl hwilling⟩

/-- **A wait has expired, and the code is another.** The run is the same but for its trace mode, which
is refused only when the reports are written. -/
theorem timed_out_run_fails :
    Starts rehearsal (awaiting .target) .start (awaitingOptions .target) .default
        [.substring "never"] awaitingSession ∧
      (∃ m, Expires (journaled rehearsal (awaiting .target) (awaitingOptions .target))
        (hostOf rehearsal (awaiting .target) (awaitingOptions .target) awaitingSession) 2
        (timeoutOf (awaitingOptions .target) .default) [.substring "never"] awaitingSession m) ∧
      rehearsal.Willing ∧ (run rehearsal (awaiting .target) 2 .start).1 = some 1 := by
  have hstarts := starts_awaiting .target
  obtain ⟨m, hexpires⟩ := expires_awaiting .target
  have hcode := code_of_starts hstarts 2
  rw [follow_of_expires _ hexpires] at hcode
  exact ⟨hstarts, ⟨m, hexpires⟩, fun _ _ => rfl, hcode⟩

end Program

end CommandLine

end ChildWatch
