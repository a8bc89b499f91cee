import ChildWatch.Proofs.CommandLine.ExitCode
import ChildWatch.Proofs.Session.FullOutput

/-! # The waits of a run

The waits of a run share one buffer, and each of them leaves it as it likes: some lines are received
one by one, the rest stays queued, a wait that fails has taken in everything. What they come to is told
from the patterns and the full output, if that ends before the time of any of them is up.

* `Program.waits_seen` — a run in which every pattern was seen has captured a match of each.
* `Program.OutputInTime` — the output ends within the time of every wait that is made;
  `waits_inTime` — the waits then come to what the full output says of the patterns.
* `Program.Blames` — the pattern that the report of a timeout names.
* `Program.Moment`, `Program.ComesTo` — the output is over after some rounds of waiting, and the clock
  never comes to a timeout before that; `ComesTo.outputInTime` — then it ends in time. -/

namespace ChildWatch.CommandLine.Program

open Text Live

variable {σ : Type}

section Waits

variable (sys : Surroundings σ) (h : Host σ) (polls : Nat) (timeout : Duration)

/-- The session after a wait that has been answered by a match. -/
def saw (p : Pattern) (l : Live σ) : Live σ :=
  { l with system := note sys .info ("Saw \"" ++ p.text ++ "\"") l.system }

/-- The session after a wait that has expired. -/
def missed (p : Pattern) (l : Live σ) : Live σ :=
  { l with system := note sys .error (Error.patternTimeout p.text timeout).message l.system }

/-- **The output ends in time** for waits that are made in order, up to the first that is not answered
by a match. -/
inductive OutputInTime (full : List Line) : List Pattern → Live σ → Prop where
  | done (l : Live σ) : OutputInTime full [] l
  | wait {p : Pattern} {rest : List Pattern} {l : Live σ}
    (hends : EndsInTime h ⟨p, timeout⟩ full none polls .fresh l)
    (hrest : ∀ {l' : Live σ}, l.wait h .stdout ⟨p, timeout⟩ polls = (some (.ok ()), l') →
      OutputInTime full rest (saw sys p l')) :
    OutputInTime full (p :: rest) l

/-- **The pattern that a timeout is reported of**: the waits for those before it are answered by
matches, its own expires, and the report names it. -/
def Blames (p : Pattern) (wanted : List Pattern) (l m : Live σ) : Prop :=
  ∃ before after l' l'', wanted = before ++ p :: after ∧
    waits sys h polls timeout before l = (some (.ok exitSeen), l') ∧
    l'.wait h .stdout ⟨p, timeout⟩ polls =
      (some (.error (.patternTimeout p.text timeout)), l'') ∧
    m = missed sys timeout p l''

variable {sys h polls timeout} {wanted rest : List Pattern} {p : Pattern} {l l' m : Live σ}
  {full : List Line}

theorem waits_cons_ok (hwait : l.wait h .stdout ⟨p, timeout⟩ polls = (some (.ok ()), l')) :
    waits sys h polls timeout (p :: rest) l = waits sys h polls timeout rest (saw sys p l') := by
  rw [waits, hwait]
  rfl

theorem waits_cons_timeout
    (hwait : l.wait h .stdout ⟨p, timeout⟩ polls =
      (some (.error (.patternTimeout p.text timeout)), l')) :
    waits sys h polls timeout (p :: rest) l =
      (some (.ok exitTimedOut), missed sys timeout p l') := by
  rw [waits, hwait]
  rfl

/-- All patterns are seen only if the first one is. -/
theorem waits_cons_seen
    (hseen : waits sys h polls timeout (p :: rest) l = (some (.ok exitSeen), m)) :
    ∃ l', l.wait h .stdout ⟨p, timeout⟩ polls = (some (.ok ()), l') ∧
      waits sys h polls timeout rest (saw sys p l') = (some (.ok exitSeen), m) := by
  rw [waits] at hseen
  cases hwait : l.wait h .stdout ⟨p, timeout⟩ polls with
  | mk answer l' =>
      rw [hwait] at hseen
      cases answer with
      | none => simp at hseen
      | some answer =>
          cases answer with
          | ok u => exact ⟨l', rfl, hseen⟩
          | error e =>
              -- a timeout has another code, and any other error has none
              cases htimeout : e.isTimeout with
              | true => simp [htimeout, exitSeen, exitTimedOut] at hseen
              | false => simp [htimeout] at hseen

/-- Waits that are all answered by a match are followed by the others. -/
theorem waits_append {before : List Pattern}
    (hseen : waits sys h polls timeout before l = (some (.ok exitSeen), l')) :
    waits sys h polls timeout (before ++ rest) l = waits sys h polls timeout rest l' := by
  induction before generalizing l with
  | nil =>
      obtain rfl : l = l' := congrArg Prod.snd hseen
      rfl
  | cons q before ih =>
      obtain ⟨l₁, hwait, hbefore⟩ := waits_cons_seen hseen
      rw [List.cons_append, waits_cons_ok hwait]
      exact ih hbefore

/-- A run that blames a pattern ends in the code of a timeout. -/
theorem Blames.waits_eq (hblames : Blames sys h polls timeout p wanted l m) :
    waits sys h polls timeout wanted l = (some (.ok exitTimedOut), m) := by
  obtain ⟨before, after, l', l'', rfl, hseen, hwait, rfl⟩ := hblames
  rw [waits_append hseen, waits_cons_timeout hwait]

/-- A wait leaves a session on record. -/
theorem onRecord_wait (hl : l.OnRecord) {w : Waiter} {answer : Option (Except Error Unit)}
    (hwait : l.wait h .stdout w polls = (answer, l')) : l'.OnRecord ∧ l.Grows l' := by
  have hstep := hl.step h (.wait .stdout w polls)
  have hl' : l.step h (.wait .stdout w polls) = l' := congrArg Prod.snd hwait
  rw [hl'] at hstep
  exact hstep

/-- **A run in which every pattern was seen** has captured a match of each. The induction is on the
patterns. -/
theorem waits_seen (hl : l.OnRecord)
    (hseen : waits sys h polls timeout wanted l = (some (.ok exitSeen), m)) :
    m.OnRecord ∧ l.Grows m ∧ ∀ p ∈ wanted, m.captured.any p.accepts = true := by
  induction wanted generalizing l with
  | nil =>
      obtain rfl : l = m := congrArg Prod.snd hseen
      refine ⟨hl, .refl l, ?_⟩
      intro p hp
      cases hp
  | cons p rest ih =>
      obtain ⟨l', hwait, hrest⟩ := waits_cons_seen hseen
      obtain ⟨hl', hgrows⟩ := onRecord_wait hl hwait
      obtain ⟨hsaw, hgrows'⟩ := hl'.system (saw sys p l').system
      obtain ⟨hm, hgrows'', hothers⟩ := ih hsaw hrest
      have hafter : l'.Grows m := hgrows'.trans hgrows''
      refine ⟨hm, hgrows.trans hafter, ?_⟩
      intro q hq
      rcases List.mem_cons.mp hq with rfl | hq
      · have hmatched : (l.wait h .stdout ⟨q, timeout⟩ polls).1 = some (.ok ()) :=
          congrArg Prod.fst hwait
        have hany := captured_of_matched hl .fresh hmatched
        have hl'eq : (l.wait h .stdout ⟨q, timeout⟩ polls).2 = l' := congrArg Prod.snd hwait
        rw [wait] at hl'eq
        rw [hl'eq] at hany
        exact hafter.any_captured hany
      · exact hothers q hq

/-- **The waits come to what the full output says of the patterns**, if it ends in time: all of them
are seen if each is held by some line, and else the first that is not is blamed, with the full output
captured. The induction is on the patterns. -/
theorem waits_inTime (hin : OutputInTime sys h polls timeout full wanted l) (hl : l.OnRecord) :
    match wanted.find? fun p => !full.any p.accepts with
    | none => ∃ m, waits sys h polls timeout wanted l = (some (.ok exitSeen), m)
    | some p => ∃ m, Blames sys h polls timeout p wanted l m ∧ m.OnRecord ∧
        m.outputOver = true ∧ m.captured = full := by
  induction hin with
  | done l => exact ⟨l, rfl⟩
  | @wait p rest l hends hrest ih =>
      obtain ⟨hanswer, hmissed⟩ := hends.answer hl .fresh
      cases hwait : l.wait h .stdout ⟨p, timeout⟩ polls with
      | mk answer l' =>
          obtain ⟨hl', -⟩ := onRecord_wait hl hwait
          have hloop : l.waitLoop h .stdout ⟨p, timeout⟩ polls .fresh = (answer, l') := hwait
          rw [hloop] at hanswer hmissed
          cases hany : full.any p.accepts with
          | true =>
              obtain rfl : answer = some (.ok ()) := by simpa [hany] using hanswer
              have hrest' := ih hwait (hl'.system (saw sys p l').system).1
              rw [List.find?_cons_of_neg (by simp [hany])]
              -- the pattern is seen, so the others decide
              cases hfind : rest.find? fun p => !full.any p.accepts with
              | none =>
                  rw [hfind] at hrest'
                  obtain ⟨m, hseen⟩ := hrest'
                  exact ⟨m, (waits_cons_ok hwait).trans hseen⟩
              | some q =>
                  rw [hfind] at hrest'
                  obtain ⟨m, ⟨before, after, l₁, l₂, hsplit, hseen, hlast, hm⟩, hfull⟩ := hrest'
                  refine ⟨m, ⟨p :: before, after, l₁, l₂, ?_, ?_, hlast, hm⟩, hfull⟩
                  · rw [hsplit, List.cons_append]
                  · exact (waits_cons_ok hwait).trans hseen
          | false =>
              obtain rfl : answer = some (.error (.patternTimeout p.text timeout)) := by
                simpa [hany, Waiter.timeoutError] using hanswer
              obtain ⟨hover, hcaptured⟩ := hmissed hany
              rw [List.find?_cons_of_pos (by simp [hany])]
              refine ⟨missed sys timeout p l', ⟨[], rest, l, l', rfl, rfl, hwait, rfl⟩, ?_, hover,
                hcaptured⟩
              exact (hl'.system _).1

/-! ## Output that comes to its end -/

variable (sys h)

/-- **The moments of waiting** on a session from `l₀` on, after so many rounds that were not the last
of a wait: the first one; the next round of a wait that goes on, whatever is waited for; and the first
round of the next wait, with an entry in the journal before it. -/
inductive Moment (l₀ : Live σ) : Nat → Live σ → Prop where
  | first : Moment l₀ 0 l₀
  | goesOn {n : Nat} {l : Live σ} (w : Waiter) (phase : Waiter.Phase) (hm : Moment l₀ n l) :
    Moment l₀ (n + 1) (l.goOn h w phase)
  | answered {n : Nat} {l : Live σ} (w : Waiter) (phase : Waiter.Phase) (entry : Journal.Entry)
    (hm : Moment l₀ n l) :
    Moment l₀ n { l.settled h w phase with
      system := sys.note entry (l.settled h w phase).system }

/-- **The output comes to its end while there is time**: after `last` rounds it is over and comes to
`full`, and between any two moments before that the clock goes on by less than the timeout. -/
structure ComesTo (timeout : Duration) (full : List Line) (last : Nat) (l₀ : Live σ) : Prop where
  ended : ∀ {l : Live σ}, Moment sys h l₀ last l →
    (l.sync h).outputOver = true ∧ (l.sync h).captured = full
  early : ∀ {n m : Nat} {l l' : Live σ}, n < last → m < last → Moment sys h l₀ n l →
    Moment sys h l₀ m l' →
      (l'.reading h).toNanos < (l.reading h).toNanos + timeout.toNanos

variable {sys h} {l₀ : Live σ} {n last : Nat}

/-- Every moment of waiting is one of a session on record. -/
theorem Moment.onRecord (hl₀ : l₀.OnRecord) (hm : Moment sys h l₀ n l) : l.OnRecord := by
  induction hm with
  | first => exact hl₀
  | goesOn w phase _ ih => exact ((ih.round phase).system _).1
  | answered w phase entry _ ih => exact ((ih.round phase).system _).1

/-- Output that is over at the first moment is over at every moment, and stays what it is. -/
theorem Moment.over (hl₀ : l₀.OnRecord) (hover : (l₀.sync h).outputOver = true)
    (hm : Moment sys h l₀ n l) :
    (l.sync h).outputOver = true ∧ (l.sync h).captured = (l₀.sync h).captured := by
  induction hm with
  | first => exact ⟨hover, rfl⟩
  | goesOn w phase hm ih =>
      have hnext := (hm.goesOn w phase).onRecord hl₀
      obtain ⟨hover', hsame⟩ := ((grows_round w phase _ _).trans (hnext.sync h).2).ended ih.1
      exact ⟨hover', hsame.trans ih.2⟩
  | answered w phase entry hm ih =>
      have hnext := (hm.answered w phase entry).onRecord hl₀
      obtain ⟨hover', hsame⟩ := ((grows_round w phase _ _).trans (hnext.sync h).2).ended ih.1
      exact ⟨hover', hsame.trans ih.2⟩

namespace ComesTo

variable (hcomes : ComesTo sys h timeout full last l₀)

include hcomes

/-- A moment at which the output is not over is one before the end. -/
theorem lt_of_open (hn : n ≤ last) (hm : Moment sys h l₀ n l)
    (hopen : (l.sync h).outputOver = false) : n < last := by
  rcases Nat.lt_or_eq_of_le hn with hlt | rfl
  · exact hlt
  · rw [(hcomes.ended hm).1] at hopen
    cases hopen

variable (hl₀ : l₀.OnRecord)

include hl₀

/-- **Up to the end the output is the beginning of the full output**, and if it is over it is all of
it. The induction is on the rounds that are left. -/
theorem captured_sync (left : Nat) (hleft : n + left = last) (hm : Moment sys h l₀ n l) :
    (l.sync h).captured <+: full ∧
      ((l.sync h).outputOver = true → (l.sync h).captured = full) := by
  induction left generalizing n l with
  | zero =>
      rw [Nat.add_zero] at hleft
      subst hleft
      obtain ⟨-, hfull⟩ := hcomes.ended hm
      exact ⟨hfull ▸ List.prefix_rfl, fun _ => hfull⟩
  | succ left ih =>
      -- what one more round of some wait would find
      have hnext := hm.goesOn ⟨.substring "", timeout⟩ .fresh
      obtain ⟨hbegins, hfull⟩ := ih (by omega) hnext
      have hgoes := (grows_round ⟨.substring "", timeout⟩ .fresh l _).trans
        ((hnext.onRecord hl₀).sync h).2
      refine ⟨hgoes.prefix_captured.trans hbegins, fun hover => ?_⟩
      obtain ⟨hover', hsame⟩ := hgoes.ended hover
      rw [← hsame, hfull hover']

/-- **The output ends in time for a wait** that is under way at some moment. The induction is on the
polls; the wait was first polled at a moment too. -/
theorem endsInTime (p : Pattern) {start : Option Instant} {phase : Waiter.Phase} (polls : Nat)
    (hn : n ≤ last) (hpolls : last < n + polls) (hm : Moment sys h l₀ n l)
    (hstart : ∀ t, start = some t →
      ∃ m l', m < last ∧ Moment sys h l₀ m l' ∧ t = l'.reading h) :
    EndsInTime h ⟨p, timeout⟩ full start polls phase l := by
  induction polls generalizing n l start phase with
  | zero => omega
  | succ polls ih =>
      obtain ⟨hbegins, hfull⟩ := hcomes.captured_sync hl₀ (last - n) (by omega) hm
      cases hover : (l.sync h).outputOver with
      | true => exact .ended hover (hfull hover)
      | false =>
          have hlt := hcomes.lt_of_open hn hm hover
          obtain ⟨m, l', hm', hmoment, hreading⟩ :
              ∃ m l', m < last ∧ Moment sys h l₀ m l' ∧
                start.getD (l.reading h) = l'.reading h := by
            cases hs : start with
            | none => exact ⟨n, l, hlt, hm, rfl⟩
            | some t => exact hstart t hs
          refine .more hover hbegins ?_ fun _ => ?_
          · rw [hreading]
            exact hcomes.early hm' hlt hmoment hm
          · refine ih hlt (by omega) (hm.goesOn _ phase) ?_
            rintro t ⟨⟩
            exact ⟨m, l', hm', hmoment, hreading⟩

/-- The wait is answered at a moment, and the next one begins there. -/
theorem moment_saw (p q : Pattern) {start : Option Instant} {phase : Waiter.Phase} (polls : Nat)
    (hn : n ≤ last) (hm : Moment sys h l₀ n l)
    (hfits : phase.Fits ⟨p, timeout⟩ l.session.stdout.buffer.lines start)
    {answer : Except Error Unit}
    (hwait : l.waitLoop h .stdout ⟨p, timeout⟩ polls phase = (some answer, l')) :
    ∃ m, m ≤ last ∧ Moment sys h l₀ m (saw sys q l') := by
  induction polls generalizing n l start phase with
  | zero => cases congrArg Prod.fst hwait
  | succ polls ih =>
      have hl := hm.onRecord hl₀
      rw [waitLoop_succ] at hwait
      cases hround : Waiter.answer ⟨p, timeout⟩ (l.round h ⟨p, timeout⟩ phase).1.verdict with
      | some answered =>
          simp only [hround, Prod.mk.injEq] at hwait
          obtain ⟨-, rfl⟩ := hwait
          exact ⟨n, hn, hm.answered _ phase _⟩
      | none =>
          simp only [hround] at hwait
          -- a wait goes on only while the output does
          have hopen : (l.sync h).outputOver = false := by
            rw [Bool.eq_false_iff]
            intro hover
            rw [hl.answer_round_of_over hfits hover] at hround
            cases hround
          exact ih (hcomes.lt_of_open hn hm hopen) (hm.goesOn _ phase)
            (hl.fits_round hfits hround) hwait

/-- **Output that comes to its end while there is time** ends in time for all the waits. The induction
is on the patterns. -/
theorem outputInTime (hpolls : last < polls) (hn : n ≤ last) (hm : Moment sys h l₀ n l) :
    OutputInTime sys h polls timeout full wanted l := by
  induction wanted generalizing n l with
  | nil => exact .done l
  | cons p rest ih =>
      refine .wait (hcomes.endsInTime hl₀ p polls hn (by omega) hm (by simp)) ?_
      intro l' hwait
      obtain ⟨m, hlast, hm'⟩ := hcomes.moment_saw hl₀ p p polls hn hm .fresh hwait
      exact ih hlast hm'

end ComesTo

/-- **Output that is over before the waits** ends in time for all of them: a wait leaves such output
as it is. -/
theorem outputInTime_of_over (hpolls : 0 < polls) (hl : l.OnRecord)
    (hover : (l.sync h).outputOver = true) :
    OutputInTime sys h polls timeout (l.sync h).captured wanted l := by
  have hcomes : ComesTo sys h timeout (l.sync h).captured 0 l :=
    ⟨fun hm => hm.over hl hover, fun hlt => absurd hlt (Nat.not_lt_zero _)⟩
  exact hcomes.outputInTime hl hpolls (Nat.le_refl 0) .first

end Waits

end ChildWatch.CommandLine.Program
