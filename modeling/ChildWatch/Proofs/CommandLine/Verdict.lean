import ChildWatch.Proofs.CommandLine.Waits

/-! # The verdict of a run

The exit code knows nothing of the moments at which the waits of a run were polled. It is told from the
patterns and the full output.

* `Program.finalOutput` — the lines of the output that are there when the reports are written.
* `Program.verdict` — the code that some output stands for; `waits_eq_verdict` — waits on output that
  ends in time come to it.
* `Program.verdict_of_output` — the exit code of a run. -/

namespace ChildWatch.CommandLine.Program

open Text Live

variable {σ : Type}

/-! ## The end of a run -/

section Ending

variable (sys : Surroundings σ) (h : Host σ) (polls : Nat) (o : Options) (timeout : Duration)

/-- The session after its release, when its waits have come to a code. -/
def ending (code : Nat) (l : Live σ) : Live σ :=
  notePumpErrors sys
    (terminate h (if code = exitSeen then { l with system := hold sys h o.hold l.system } else l))

/-- **The final output**: the lines of the output that are there when the reports are written. A run
whose waits come to no code writes none. -/
def finalOutput (wanted : List Pattern) (l : Live σ) : List String :=
  match waits sys h polls timeout wanted l with
  | (some (.ok code), l) => ((ending sys h o code l).snapshot h .stdout).1
  | _ => []

variable {sys h polls o timeout} {wanted : List Pattern} {l m : Live σ} {code : Nat}

/-- The first report is one of the final output. -/
theorem follow_of_waits (mode : TraceMode)
    (hwaits : waits sys h polls timeout wanted l = (some (.ok code), m)) :
    (follow sys h polls o timeout mode wanted l).1 =
      some ((reports sys h mode (ending sys h o code m)).1.map fun () => code) := by
  rw [follow, hwaits]
  rfl

/-- Up to the reports the output of a session can only grow. -/
theorem grows_ending (hl : l.OnRecord) (code : Nat) :
    (ending sys h o code l).OnRecord ∧ l.Grows (ending sys h o code l) := by
  have hheld : ∀ held : Live σ,
      held = (if code = exitSeen then { l with system := hold sys h o.hold l.system } else l) →
        held.OnRecord ∧ l.Grows held := by
    rintro held rfl
    by_cases hcode : code = exitSeen
    · rw [if_pos hcode]
      exact hl.system _
    · rw [if_neg hcode]
      exact ⟨hl, .refl l⟩
  obtain ⟨hheld, hhold⟩ := hheld _ rfl
  obtain ⟨hreleased, hrelease⟩ := hheld.step h .terminate
  obtain ⟨htaken, htake⟩ := hreleased.step h .takePumpErrors
  obtain ⟨hnoted, hnote⟩ := htaken.system (ending sys h o code l).system
  exact ⟨hnoted, ((hhold.trans hrelease).trans htake).trans hnote⟩

/-- So the final output is what has been captured at some later moment. -/
theorem finalOutput_of_waits
    (hwaits : waits sys h polls timeout wanted l = (some (.ok code), m)) (hm : m.OnRecord) :
    ∃ m', m.Grows m' ∧ finalOutput sys h polls o timeout wanted l = m'.captured.map (·.text) := by
  obtain ⟨hending, hgrows⟩ :
      (ending sys h o code m).OnRecord ∧ m.Grows (ending sys h o code m) := grows_ending hm code
  refine ⟨(ending sys h o code m).sync h, hgrows.trans (hending.sync h).2, ?_⟩
  rw [finalOutput, hwaits]
  rfl

/-- **Every pattern that was seen is in the final output.** -/
theorem exists_text_of_seen (hl : l.OnRecord)
    (hseen : waits sys h polls timeout wanted l = (some (.ok exitSeen), m)) :
    ∀ p ∈ wanted, ∃ text ∈ finalOutput sys h polls o timeout wanted l,
      p.accepts ⟨text⟩ = true := by
  obtain ⟨hm, -, hall⟩ := waits_seen hl hseen
  obtain ⟨m', hgrows, hfinal⟩ := finalOutput_of_waits (o := o) hseen hm
  intro p hp
  obtain ⟨line, hline, haccepts⟩ := List.any_eq_true.mp (hgrows.any_captured (hall p hp))
  refine ⟨line.text, ?_, haccepts⟩
  rw [hfinal]
  exact List.mem_map_of_mem hline

/-- **The code that some output stands for**: whether each of the patterns is held by some line. -/
def verdict (full : List Line) (wanted : List Pattern) : Nat :=
  if wanted.all fun p => full.any p.accepts then exitSeen else exitTimedOut

/-- Neither the order of the patterns nor their repetition makes a difference to it. -/
theorem verdict_congr {full : List Line} {wanted wanted' : List Pattern}
    (hsame : ∀ p, p ∈ wanted' ↔ p ∈ wanted) : verdict full wanted' = verdict full wanted := by
  have hall : (wanted'.all fun p => full.any p.accepts) =
      wanted.all fun p => full.any p.accepts := by
    rw [Bool.eq_iff_iff, List.all_eq_true, List.all_eq_true]
    constructor
    · intro h p hp
      exact h p ((hsame p).mpr hp)
    · intro h p hp
      exact h p ((hsame p).mp hp)
  rw [verdict, verdict, hall]

/-- If a verdict other than 0 shows the full output in the end, patterns that are shown in the end are
held by the full output. -/
theorem verdict_of_final {full : List Line} {final : List String}
    (hfinal : verdict full wanted = exitTimedOut → final = full.map (·.text))
    (hall : ∀ p ∈ wanted, ∃ text ∈ final, p.accepts ⟨text⟩ = true) :
    verdict full wanted = exitSeen := by
  by_cases hheld : (wanted.all fun p => full.any p.accepts) = true
  · rw [verdict, if_pos hheld]
  · have hmap := hfinal (by rw [verdict, if_neg hheld])
    refine absurd (List.all_eq_true.mpr ?_) hheld
    intro p hp
    obtain ⟨text, htext, haccepts⟩ := hall p hp
    rw [hmap] at htext
    obtain ⟨line, hline, rfl⟩ := List.mem_map.mp htext
    exact List.any_eq_true.mpr ⟨line, hline, haccepts⟩

/-- **Waits on output that ends in time come to its verdict**, and a run that has waited in vain shows
all of it in the end. -/
theorem waits_eq_verdict {full : List Line}
    (hin : OutputInTime sys h polls timeout full wanted l) (hl : l.OnRecord) :
    (waits sys h polls timeout wanted l).1 = some (.ok (verdict full wanted)) ∧
      (verdict full wanted = exitTimedOut →
        finalOutput sys h polls o timeout wanted l = full.map (·.text)) := by
  have hcome := waits_inTime hin hl
  cases hfind : wanted.find? fun p => !full.any p.accepts with
  | none =>
      rw [hfind] at hcome
      obtain ⟨m, hseen⟩ := hcome
      have hverdict : verdict full wanted = exitSeen := by
        rw [verdict, if_pos]
        rw [List.all_eq_true]
        intro p hp
        simpa using List.find?_eq_none.mp hfind p hp
      rw [hverdict, hseen]
      exact ⟨rfl, fun hcode => absurd hcode (by decide)⟩
  | some p =>
      rw [hfind] at hcome
      obtain ⟨m, hblames, hm, hover, hcaptured⟩ := hcome
      have hwaits := hblames.waits_eq
      have hverdict : verdict full wanted = exitTimedOut := by
        rw [verdict, if_neg]
        intro hall
        have hp := List.all_eq_true.mp hall p (List.mem_of_find?_eq_some hfind)
        have hnot := List.find?_some hfind
        rw [hp] at hnot
        cases hnot
      rw [hverdict, hwaits]
      refine ⟨rfl, fun _ => ?_⟩
      obtain ⟨m', hgrows, hfinal⟩ := finalOutput_of_waits (o := o) hwaits hm
      rw [hfinal, (hgrows.ended hover).2, hcaptured]

/-- Reports that are not by target succeed on willing streams. -/
theorem reports_ok {mode : TraceMode} (hmode : mode ≠ .target) (hwilling : sys.Willing)
    (l : Live σ) : (reports sys h mode l).1 = .ok () := by
  cases mode with
  | none => exact reports_none h l
  | target => exact absurd rfl hmode
  | all => exact reports_all hwilling h l

end Ending

/-! ## The verdict -/

variable {sys : Surroundings σ} {setting : Setting} {system : σ} {o : Options} {config : Config}
  {wanted : List Pattern} {l : Live σ}

/-- A session that a run has begun is on record. -/
theorem onRecord_of_starts (hstarts : Starts sys setting system o config wanted l) :
    l.OnRecord := by
  obtain ⟨command, -, hlaunch⟩ := hstarts.launch_eq
  have hstart : (Session.start (journaled sys setting o).toSystem command config
      (beforeLaunch sys setting system o)).1 = .ok l.session := congrArg Prod.fst hlaunch
  rcases Session.start_cases (journaled sys setting o).toSystem command config
    (beforeLaunch sys setting system o) with ⟨pid, now, hbegun⟩ | ⟨source, hfailed⟩
  · have hl := onRecord_launched command config pid now l.system
    rw [hbegun] at hstart
    rw [Except.ok.inj hstart] at hl
    exact hl
  · rw [hfailed] at hstart
    cases hstart

/-- **The exit code is the one that the waits come to**, if the reports succeed. -/
theorem code_of_waits (hstarts : Starts sys setting system o config wanted l)
    (hmode : modeOf o config ≠ .target) (hwilling : sys.Willing) (polls : Nat) :
    (run sys setting polls system).1 =
      (waits (journaled sys setting o) (hostOf sys setting o l) polls (timeoutOf o config)
        wanted l).1.map codeOf := by
  rw [code_of_starts hstarts polls]
  cases hwaits : waits (journaled sys setting o) (hostOf sys setting o l) polls
      (timeoutOf o config) wanted l with
  | mk result m =>
      match result with
      | none =>
          rw [follow, hwaits]
      | some (.error e) =>
          rw [follow, hwaits]
      | some (.ok code) =>
          have hwilling' : (journaled sys setting o).Willing := hwilling
          rw [follow_of_waits _ hwaits, reports_ok hmode hwilling']
          rfl

/-- **A run ends in code 0 only if every pattern is in the final output.** -/
theorem exists_text_of_code (hstarts : Starts sys setting system o config wanted l)
    (hmode : modeOf o config ≠ .target) (hwilling : sys.Willing) {polls : Nat}
    (hcode : (run sys setting polls system).1 = some exitSeen) :
    ∀ p ∈ wanted, ∃ text ∈ finalOutput (journaled sys setting o) (hostOf sys setting o l) polls o
      (timeoutOf o config) wanted l, p.accepts ⟨text⟩ = true := by
  rw [code_of_waits hstarts hmode hwilling polls] at hcode
  cases hwaits : waits (journaled sys setting o) (hostOf sys setting o l) polls
      (timeoutOf o config) wanted l with
  | mk result m =>
      rw [hwaits] at hcode
      match result with
      | some (.ok answer) =>
          obtain rfl : answer = exitSeen := Option.some_inj.mp hcode
          exact exists_text_of_seen (onRecord_of_starts hstarts) hwaits
      | some (.error e) => cases hcode
      | none => cases hcode

/-- **The verdict of a run.** Take any run in which the child starts, whose mode is not `target`, on
streams that take what they are given, whatever its patterns and whatever the child and the clock do.

* It ends in code 0 only if every pattern is held by some line of the final output.
* If the output ends in time for the waits, the code is the verdict of the full output: 0 exactly if
  every pattern is held by some line of it, or just as well of the final output, and 2 otherwise, when
  the final output is the full one. The timeout that is reported is then that of the first pattern
  that no line holds. Any other run on output that ends in time and comes to the same in full has the
  same code if it waits for the same patterns, in whatever order and however often.
* Output that is over before the first poll ends in time, and so does output that comes to its end
  after fewer rounds of waiting than there are polls, if the clock does not come to the timeout before
  that. -/
theorem verdict_of_output (sys : Surroundings σ) (setting : Setting) (polls : Nat) (system : σ)
    (o : Options) (config : Config) (wanted : List Pattern) (l : Live σ)
    (hstarts : Starts sys setting system o config wanted l) (hmode : modeOf o config ≠ .target)
    (hwilling : sys.Willing) :
    let code := (run sys setting polls system).1
    let noted := journaled sys setting o
    let h := hostOf sys setting o l
    let timeout := timeoutOf o config
    let final := finalOutput noted h polls o timeout wanted l
    (code = some exitSeen → ∀ p ∈ wanted, ∃ text ∈ final, p.accepts ⟨text⟩ = true) ∧
    (∀ full, OutputInTime noted h polls timeout full wanted l →
      code = some (verdict full wanted) ∧
      (code = some exitSeen ↔ ∀ p ∈ wanted, ∃ text ∈ final, p.accepts ⟨text⟩ = true) ∧
      (code = some exitTimedOut → final = full.map (·.text)) ∧
      (∀ p, wanted.find? (fun p => !full.any p.accepts) = some p →
        ∃ m, Blames noted h polls timeout p wanted l m ∧
          waits noted h polls timeout wanted l = (some (.ok exitTimedOut), m)) ∧
      ∀ (setting' : Setting) (polls' : Nat) (system' : σ) (o' : Options) (config' : Config)
        (wanted' : List Pattern) (l' : Live σ),
        Starts sys setting' system' o' config' wanted' l' → modeOf o' config' ≠ .target →
        OutputInTime (journaled sys setting' o') (hostOf sys setting' o' l') polls'
          (timeoutOf o' config') full wanted' l' →
        (∀ p, p ∈ wanted' ↔ p ∈ wanted) → (run sys setting' polls' system').1 = code) ∧
    (0 < polls → (l.sync h).outputOver = true →
      OutputInTime noted h polls timeout (l.sync h).captured wanted l) ∧
    (∀ full last, last < polls → ComesTo noted h timeout full last l →
      OutputInTime noted h polls timeout full wanted l) := by
  intro code noted h timeout final
  have hl := onRecord_of_starts hstarts
  have hcode : code = (waits noted h polls timeout wanted l).1.map codeOf :=
    code_of_waits hstarts hmode hwilling polls
  have hseen : code = some exitSeen → ∀ p ∈ wanted, ∃ text ∈ final, p.accepts ⟨text⟩ = true :=
    exists_text_of_code hstarts hmode hwilling
  refine ⟨hseen, ?_, fun hpolls hover => outputInTime_of_over hpolls hl hover,
    fun full last hpolls hcomes => hcomes.outputInTime hl hpolls (Nat.zero_le last) .first⟩
  intro full hin
  obtain ⟨hverdict, hfull⟩ := waits_eq_verdict (o := o) hin hl
  rw [hverdict] at hcode
  have hcode : code = some (verdict full wanted) := hcode
  have hfinal : code = some exitTimedOut → final = full.map (·.text) := by
    intro htwo
    rw [hcode, Option.some_inj] at htwo
    exact hfull htwo
  refine ⟨hcode, ⟨hseen, ?_⟩, hfinal, ?_, ?_⟩
  · intro hall
    rw [hcode, verdict_of_final hfull hall]
  · intro p hfind
    have hcome := waits_inTime hin hl
    rw [hfind] at hcome
    obtain ⟨m, hblames, -⟩ := hcome
    exact ⟨m, hblames, hblames.waits_eq⟩
  · intro setting' polls' system' o' config' wanted' l' hstarts' hmode' hin' hsame
    obtain ⟨hverdict', -⟩ := waits_eq_verdict (o := o') hin' (onRecord_of_starts hstarts')
    rw [code_of_waits hstarts' hmode' hwilling polls', hverdict', hcode, verdict_congr hsame]
    rfl

/-! ## A rehearsed verdict -/

/-- Surroundings to rehearse in. The child writes a line and closes its streams at 10 milliseconds; a
wait that goes on is polled again then. -/
def speaking : Surroundings Rehearsal :=
  { rehearsal with
    child := fun _ =>
      { Rehearsal.host .zero [] with
        idle := fun _ s => { s with clock := Rehearsal.moment 10 }
        reads := fun _ s =>
          (if Rehearsal.moment 10 ≤ s.clock then [.data [117, 112, 10], .data []] else [], s) } }

/-- A run that waits for that line and for another. -/
def awaitingBoth : Setting :=
  { awaiting .all with
    arguments := ["--wait", "up", "--wait", "never", "--traces", "all", "--", "sh"] }

/-- Its options. -/
def awaitingBothOptions : Options := { awaitingOptions .all with patterns := ["up", "never"] }

/-- Its surroundings with a journal, and the host of its child. -/
def speakingJournaled : Surroundings Rehearsal :=
  journaled speaking awaitingBoth awaitingBothOptions

/-- The host of its child. -/
def speaker : Host Rehearsal := hostOf speaking awaitingBoth awaitingBothOptions awaitingSession

/-- A rehearsal keeps no journal. -/
theorem note_speakingJournaled (e : Journal.Entry) (s : Rehearsal) :
    speakingJournaled.note e s = s :=
  ite_self _

theorem jot_speaker (entries : List Journal.Entry) (s : Rehearsal) : speaker.jot entries s = s := by
  induction entries with
  | nil => rfl
  | cons e rest ih =>
      have hnote : speaker.note e s = s := ite_self _
      rw [Host.jot, hnote, ih]

/-- The child starts. -/
theorem starts_awaitingBoth :
    Starts speaking awaitingBoth .start awaitingBothOptions .default
      [.substring "up", .substring "never"] awaitingSession where
  options_eq := rfl
  help_eq := rfl
  version_eq := rfl
  config_eq := load_awaiting .all
  patterns_eq := rfl
  launch_eq := by
    refine ⟨⟨"sh", [], by decide⟩, rfl, ?_⟩
    rw [beforeLaunch_of_silent note_speakingJournaled]
    simp [Session.start, journaled, filtered, speaking, rehearsal]
    rfl

/-- **How far the rehearsed session has come** after some rounds: before the first of them is over
nothing has been read; and from then on nothing, or all. -/
inductive Heard : Nat → Live Rehearsal → Prop where
  | nothing {l : Live Rehearsal} (hclock : l.system.clock = .zero)
    (hpump : l.session.stdout.pump = .fresh .stdout) (hcaptured : l.captured = []) : Heard 0 l
  | coming {n : Nat} {l : Live Rehearsal} (hclock : l.system.clock = Rehearsal.moment 10)
    (hpump : l.session.stdout.pump = .fresh .stdout) (hcaptured : l.captured = []) : Heard (n + 1) l
  | all {n : Nat} {l : Live Rehearsal} (hclock : l.system.clock = Rehearsal.moment 10)
    (hover : l.outputOver = true) (hcaptured : l.captured = [⟨"up"⟩]) : Heard (n + 1) l

/-- Looking at the pumps takes no time. -/
theorem system_sync_speaker (l : Live Rehearsal) : (l.sync speaker).system = l.system := by
  have hstream (stream : Stream) (l : Live Rehearsal) :
      (l.syncStream speaker stream).system = l.system := by
    rw [syncStream]
    cases l.session.capture? stream with
    | none => rfl
    | some c => exact jot_speaker _ _
  rw [sync, hstream, hstream]

/-- What a look finds before the first round is over, and after it. -/
theorem Heard.sync {n : Nat} {l : Live Rehearsal} (hl : Heard n l) :
    (n = 0 → (l.sync speaker).session.stdout.pump = .fresh .stdout ∧
      (l.sync speaker).captured = []) ∧
    (n ≠ 0 → (l.sync speaker).outputOver = true ∧ (l.sync speaker).captured = [⟨"up"⟩]) := by
  have hreads : (speaker.reads .stdout l.system).1 =
      if Rehearsal.moment 10 ≤ l.system.clock then [.data [117, 112, 10], .data []] else [] := rfl
  have hearly : ¬ Rehearsal.moment 10 ≤ Instant.zero := by decide
  have hlate : Rehearsal.moment 10 ≤ Rehearsal.moment 10 := Int.le_refl _
  rw [captured_sync, outputOver_sync, stdout_sync, hreads]
  cases hl with
  | nothing hclock hpump hcaptured =>
      rw [hclock, if_neg hearly, hcaptured]
      exact ⟨fun _ => ⟨hpump, rfl⟩, fun hne => absurd rfl hne⟩
  | coming hclock hpump hcaptured =>
      rw [hclock, if_pos hlate, hpump, hcaptured]
      exact ⟨fun heq => absurd heq (Nat.succ_ne_zero _), fun _ => ⟨by decide, by decide⟩⟩
  | all hclock hover hcaptured =>
      rw [hclock, if_pos hlate, Pump.feedAll_of_finished hover, hcaptured]
      exact ⟨fun heq => absurd heq (Nat.succ_ne_zero _), fun _ => ⟨hover, rfl⟩⟩

/-- Every moment of the waits is one of these. A round leaves what its look finds, and only a wait that
goes on lets time pass. -/
theorem heard_of_moment {n : Nat} {l : Live Rehearsal}
    (hm : Moment speakingJournaled speaker awaitingSession n l) : Heard n l := by
  induction hm with
  | first => exact .nothing rfl rfl rfl
  | @goesOn n l w phase _ ih =>
      obtain ⟨hbefore, hafter⟩ := ih.sync
      have hclock : (l.goOn speaker w phase).system.clock = Rehearsal.moment 10 := rfl
      have hcaptured : (l.goOn speaker w phase).captured = (l.sync speaker).captured :=
        captured_round phase l
      by_cases hn : n = 0
      · obtain ⟨hpump, hnone⟩ := hbefore hn
        exact .coming hclock hpump (hcaptured.trans hnone)
      · obtain ⟨hover, hall⟩ := hafter hn
        exact .all hclock hover (hcaptured.trans hall)
  | @answered n l w phase entry _ ih =>
      obtain ⟨hbefore, hafter⟩ := ih.sync
      have hsystem : speakingJournaled.note entry (l.settled speaker w phase).system = l.system :=
        (note_speakingJournaled _ _).trans ((jot_speaker _ _).trans (system_sync_speaker l))
      have hcaptured : (l.settled speaker w phase).captured = (l.sync speaker).captured :=
        captured_round phase l
      cases ih with
      | nothing hclock _ _ =>
          obtain ⟨hpump, hnone⟩ := hbefore rfl
          exact .nothing ((congrArg Rehearsal.clock hsystem).trans hclock) hpump
            (hcaptured.trans hnone)
      | coming hclock _ _ | all hclock _ _ =>
          obtain ⟨hover, hall⟩ := hafter (Nat.succ_ne_zero _)
          exact .all ((congrArg Rehearsal.clock hsystem).trans hclock) hover (hcaptured.trans hall)

/-- The output comes to its end at the second poll of the first wait. -/
theorem comesTo_speaking (timeout : Duration) (hpos : 0 < timeout.toNanos) :
    ComesTo speakingJournaled speaker timeout [⟨"up"⟩] 1 awaitingSession where
  ended hm := (heard_of_moment hm).sync.2 Nat.one_ne_zero
  early {n m l l'} hn hm hmoment hmoment' := by
    -- both moments are before the first round is over, when no time has passed
    have hzero {k : Nat} {l : Live Rehearsal} (hk : k < 1)
        (hmoment : Moment speakingJournaled speaker awaitingSession k l) :
        l.reading speaker = .zero := by
      have hreading : l.reading speaker = (l.sync speaker).system.clock := rfl
      rw [hreading, system_sync_speaker]
      cases heard_of_moment hmoment with
      | nothing hclock _ _ => exact hclock
      | coming | all => omega
    rw [hzero hn hmoment, hzero hm hmoment']
    omega

/-- The output comes, and is over, at the second poll of the first wait, and one of the patterns is
in it: the code is that of a timeout, reported of the other. -/
theorem verdict_of_output_rehearsed :
    Starts speaking awaitingBoth .start awaitingBothOptions .default
        [.substring "up", .substring "never"] awaitingSession ∧
      modeOf awaitingBothOptions .default = .all ∧ speaking.Willing ∧
      (awaitingSession.sync speaker).outputOver = false ∧ (awaitingSession.sync speaker).captured = [] ∧
      (run speaking awaitingBoth 2 .start).1 = some 2 ∧
      ∃ m, Blames speakingJournaled speaker 2 (timeoutOf awaitingBothOptions .default)
        (.substring "never") [.substring "up", .substring "never"] awaitingSession m := by
  have hstarts := starts_awaitingBoth
  have hwilling : speaking.Willing := fun _ _ => rfl
  have hmode : modeOf awaitingBothOptions .default ≠ .target := by decide
  obtain ⟨-, hinTime, -, hcomesTo⟩ := verdict_of_output speaking awaitingBoth 2 .start
    awaitingBothOptions .default _ _ hstarts hmode hwilling
  have hin := hcomesTo [⟨"up"⟩] 1 (by decide) (comesTo_speaking _ (by decide))
  obtain ⟨hcode, -, -, hblames, -⟩ := hinTime _ hin
  obtain ⟨m, hblames, -⟩ := hblames (.substring "never") rfl
  exact ⟨hstarts, rfl, hwilling, by decide, by decide, hcode, m, hblames⟩

end ChildWatch.CommandLine.Program
