import ChildWatch.Config.Decode
import ChildWatch.Proofs.Toml.PlainLines
import Mathlib.Data.List.Nodup

/-! # Documents that give settings

A document may give any of the settings, in any order, among keys that are no settings. What is read
is the default configuration with the settings that are given in the place of its own.

* `Given` — what a line gives; `Given.line` — the line.
* `Config.set` — a configuration with what a line gives, `Config.giving` — with what all of them give;
  `giving_perm` — in which order does not matter.
* `Slot` — where one setting stands in a configuration and in a document; `Slot.setting_eq` — it is
  read from the document as it stands in the configuration.
* `ofText_given` — a whole document, `parse_given` — and what the rules say of it. -/

namespace ChildWatch.Config

open Toml

/-! ## Values of settings -/

/-- A number of milliseconds is read from its integer. -/
theorem millis_toNat (span : Span) (ms : UInt64) :
    millis span (.scalar (.integer ms.toNat)) = .ok ms := by
  have hlt : (ms.toNat : Int) < 18446744073709551616 := by
    have := ms.toNat_lt
    omega
  have hrange : 0 ≤ (ms.toNat : Int) ∧ (ms.toNat : Int) < 18446744073709551616 :=
    ⟨Int.natCast_nonneg _, hlt⟩
  rw [millis, if_pos hrange, Int.toNat_natCast, UInt64.ofNat_toNat]

/-- A word is read if it is one of those allowed. -/
theorem choice_word {α : Type} {ofName? : String → Option α} {words : List String} {word : String}
    {a : α} (h : ofName? word = some a) (span : Span) :
    choice ofName? words span (.scalar (.string word)) = .ok a := by
  rw [choice, oneOf, h]

theorem fits_toNat (ms : UInt64) : (PlainValue.number ms.toNat).Fits := by
  have hlt := ms.toNat_lt
  show (ms.toNat : Int) ≤ Scalar.maxInteger
  rw [Scalar.maxInteger]
  omega

theorem fits_stderrName (m : StderrMode) : (PlainValue.word m.name).Fits := by
  apply List.all_eq_true.mp
  cases m with
  | capture => decide
  | inherit => decide
  | discard => decide

theorem fits_traceName (m : TraceMode) : (PlainValue.word m.name).Fits := by
  apply List.all_eq_true.mp
  cases m with
  | none => decide
  | target => decide
  | all => decide

/-! ## Lines of settings -/

/-- The line of the time for a wait. -/
def waitLine (ms : UInt64) : PlainLine where
  key := waitKey
  value := .number ms.toNat
  key_ne := by decide
  isKeyChar_key := List.all_eq_true.mp (by decide)
  value_fits := fits_toNat ms

/-- The line of a grace period. -/
def graceLine (ms : UInt64) : PlainLine where
  key := graceKey
  value := .number ms.toNat
  key_ne := by decide
  isKeyChar_key := List.all_eq_true.mp (by decide)
  value_fits := fits_toNat ms

/-- The line of the error stream's mode. -/
def stderrLine (m : StderrMode) : PlainLine where
  key := stderrKey
  value := .word m.name
  key_ne := by decide
  isKeyChar_key := List.all_eq_true.mp (by decide)
  value_fits := fits_stderrName m

/-- The line of the trace mode. -/
def tracesLine (m : TraceMode) : PlainLine where
  key := tracesKey
  value := .word m.name
  key_ne := by decide
  isKeyChar_key := List.all_eq_true.mp (by decide)
  value_fits := fits_traceName m

/-- The keys of the settings. -/
def settingKeys : List String := [waitKey, graceKey, stderrKey, tracesKey]

/-- **What a line gives**: a setting, or something under a key that is none. -/
inductive Given where
  | wait (ms : UInt64)
  | grace (ms : UInt64)
  | stderr (m : StderrMode)
  | traces (m : TraceMode)
  | other (l : PlainLine) (hother : l.key ∉ settingKeys)

namespace Given

/-- The line. -/
def line : Given → PlainLine
  | wait ms => waitLine ms
  | grace ms => graceLine ms
  | stderr m => stderrLine m
  | traces m => tracesLine m
  | other l _ => l

/-- Whether it is a setting that is given. -/
def isSetting : Given → Bool
  | other .. => false
  | _ => true

end Given

/-- **A configuration with what a line gives**: a setting takes the place of the one that was there,
and anything else changes nothing. -/
def set (c : Config) : Given → Config
  | .wait ms => { c with defaultWaitTimeoutMs := ms }
  | .grace ms => { c with terminateGraceMs := some ms }
  | .stderr m => { c with stderr := m }
  | .traces m => { c with traces := m }
  | .other .. => c

/-- **The default configuration with what the lines give.** -/
def giving (given : List Given) : Config := given.foldl set default

/-- What is no setting leaves a configuration as it is. -/
theorem set_of_not_isSetting {g : Given} (hg : g.isSetting = false) (c : Config) : c.set g = c := by
  cases g with
  | other => rfl
  | _ => cases hg

/-- Only the settings count. -/
theorem giving_filter (given : List Given) : giving (given.filter Given.isSetting) = giving given := by
  have hset : (fun (c : Config) g => if g.isSetting = true then c.set g else c) = set := by
    funext c g
    cases hg : g.isSetting with
    | true => exact if_pos rfl
    | false => rw [if_neg Bool.false_ne_true, set_of_not_isSetting hg]
  rw [giving, List.foldl_filter, hset, giving]

/-- Settings under different keys do not come in each other's way. -/
theorem set_comm {g g' : Given} (hne : g.line.key ≠ g'.line.key) (c : Config) :
    (c.set g).set g' = (c.set g').set g := by
  cases g with
  | wait =>
      cases g' with
      | wait => exact absurd rfl hne
      | _ => rfl
  | grace =>
      cases g' with
      | grace => exact absurd rfl hne
      | _ => rfl
  | stderr =>
      cases g' with
      | stderr => exact absurd rfl hne
      | _ => rfl
  | traces =>
      cases g' with
      | traces => exact absurd rfl hne
      | _ => rfl
  | other => cases g' <;> rfl

/-- **The order of the lines does not matter**, if no key comes twice. -/
theorem giving_perm {given given' : List Given} (hperm : given.Perm given')
    (hdistinct : (given.map (·.line.key)).Nodup) : giving given = giving given' := by
  refine hperm.foldl_eq' ?_ default
  intro g hg g' hg' c
  by_cases hkey : g.line.key = g'.line.key
  · rw [List.inj_on_of_nodup_map hdistinct hg hg' hkey]
  · exact set_comm hkey c

/-! ## Slots -/

/-- A **slot**: the key of a setting, how its value is read, and where it stands in a configuration. A
line under its key fills it with what is read from the line, and any other line leaves it alone. -/
structure Slot (α : Type) where
  key : String
  read : Span → Node → Except Misfit α
  get : Config → α
  fills : ∀ (c : Config) (g : Given), g.line.key = key →
    ∀ span, read span g.line.value.node = .ok (get (c.set g))
  keeps : ∀ (c : Config) (g : Given), g.line.key ≠ key → get (c.set g) = get c

/-- A line under the key of a setting gives a setting. -/
theorem key_ne_of_other {l : PlainLine} (hother : l.key ∉ settingKeys) {key : String}
    (hkey : key ∈ settingKeys) : l.key ≠ key := by
  rintro rfl
  exact hother hkey

/-- The time for a wait. -/
def waitSlot : Slot UInt64 where
  key := waitKey
  read := millis
  get := defaultWaitTimeoutMs
  fills c g hkey span := by
    cases g with
    | wait ms => exact millis_toNat span ms
    | grace => exact absurd hkey (by decide : graceKey ≠ waitKey)
    | stderr => exact absurd hkey (by decide : stderrKey ≠ waitKey)
    | traces => exact absurd hkey (by decide : tracesKey ≠ waitKey)
    | other l hother => exact absurd hkey (key_ne_of_other hother (by decide))
  keeps c g hkey := by
    cases g with
    | wait => exact absurd rfl hkey
    | _ => rfl

/-- The grace period. -/
def graceSlot : Slot (Option UInt64) where
  key := graceKey
  read span node := (millis span node).map some
  get := terminateGraceMs
  fills c g hkey span := by
    cases g with
    | grace ms => exact congrArg (Except.map some) (millis_toNat span ms)
    | wait => exact absurd hkey (by decide : waitKey ≠ graceKey)
    | stderr => exact absurd hkey (by decide : stderrKey ≠ graceKey)
    | traces => exact absurd hkey (by decide : tracesKey ≠ graceKey)
    | other l hother => exact absurd hkey (key_ne_of_other hother (by decide))
  keeps c g hkey := by
    cases g with
    | grace => exact absurd rfl hkey
    | _ => rfl

/-- The mode of the error stream. -/
def stderrSlot : Slot StderrMode where
  key := stderrKey
  read := choice StderrMode.ofName? stderrNames
  get := Config.stderr
  fills c g hkey span := by
    cases g with
    | stderr m => exact choice_word (StderrMode.ofName?_name m) span
    | wait => exact absurd hkey (by decide : waitKey ≠ stderrKey)
    | grace => exact absurd hkey (by decide : graceKey ≠ stderrKey)
    | traces => exact absurd hkey (by decide : tracesKey ≠ stderrKey)
    | other l hother => exact absurd hkey (key_ne_of_other hother (by decide))
  keeps c g hkey := by
    cases g with
    | stderr => exact absurd rfl hkey
    | _ => rfl

/-- The trace mode. -/
def tracesSlot : Slot TraceMode where
  key := tracesKey
  read := choice TraceMode.ofName? traceNames
  get := Config.traces
  fills c g hkey span := by
    cases g with
    | traces m => exact choice_word (TraceMode.ofName?_name m) span
    | wait => exact absurd hkey (by decide : waitKey ≠ tracesKey)
    | grace => exact absurd hkey (by decide : graceKey ≠ tracesKey)
    | stderr => exact absurd hkey (by decide : stderrKey ≠ tracesKey)
    | other l hother => exact absurd hkey (key_ne_of_other hother (by decide))
  keeps c g hkey := by
    cases g with
    | traces => exact absurd rfl hkey
    | _ => rfl

namespace Slot

variable {α : Type} (slot : Slot α)

/-- Lines under other keys leave a slot alone. -/
theorem get_foldl {given : List Given} (hother : ∀ g ∈ given, g.line.key ≠ slot.key)
    (c : Config) : slot.get (given.foldl Config.set c) = slot.get c := by
  induction given generalizing c with
  | nil => rfl
  | cons g rest ih =>
      rw [List.foldl_cons, ih fun g' hg' => hother g' (List.mem_cons_of_mem g hg')]
      exact slot.keeps c g (hother g List.mem_cons_self)

/-- **A setting is read as the lines give it**, and left as it is if none does. The induction is on the
lines: the first under the key of the slot is the only one. -/
theorem setting_eq {given : List Given} {entries : List Entry}
    (hdistinct : (given.map (·.line.key)).Nodup)
    (hsaid : entries.map Entry.named = given.map (·.line.named)) (c : Config) :
    setting entries slot.key slot.read (slot.get c) =
      .ok (slot.get (given.foldl Config.set c)) := by
  induction given generalizing entries c with
  | nil =>
      obtain rfl : entries = [] := List.map_eq_nil_iff.mp hsaid
      rfl
  | cons g rest ih =>
      obtain ⟨⟨k, span, node⟩, more, rfl, hfirst, hmore⟩ := List.map_eq_cons_iff.mp hsaid
      obtain ⟨hk, rfl⟩ : k.text = g.line.key ∧ node = g.line.value.node :=
        Prod.mk.injEq .. ▸ hfirst
      rw [List.map_cons, List.nodup_cons] at hdistinct
      obtain ⟨hnew, hdistinct⟩ := hdistinct
      rw [setting, Entry.find?, List.find?_cons, List.foldl_cons]
      by_cases hkey : g.line.key = slot.key
      · have hothers : ∀ g' ∈ rest, g'.line.key ≠ slot.key := by
          rintro g' hg' heq
          rw [hkey, ← heq] at hnew
          exact hnew (List.mem_map_of_mem hg')
        simp only [hk, hkey, beq_self_eq_true, slot.get_foldl hothers]
        exact slot.fills c g hkey span
      · have hmiss : (k.text == slot.key) = false := by simpa [hk] using hkey
        simp only [hmiss]
        rw [← slot.keeps c g hkey]
        exact ih hdistinct hmore (c.set g)

end Slot

/-! ## Whole documents -/

variable {given : List Given} {text : String}

/-- What the lines say is decoded as the configuration that they give. -/
theorem decode_given {entries : List Entry} (hdistinct : (given.map (·.line.key)).Nodup)
    (hsaid : entries.map Entry.named = given.map (·.line.named)) :
    decode entries = .ok (giving given) := by
  have hwait := waitSlot.setting_eq hdistinct hsaid default
  have hstderr := stderrSlot.setting_eq hdistinct hsaid default
  have hgrace := graceSlot.setting_eq hdistinct hsaid default
  have htraces := tracesSlot.setting_eq hdistinct hsaid default
  simp only [waitSlot, stderrSlot, graceSlot, tracesSlot] at hwait hstderr hgrace htraces
  simp only [decode, hwait, hstderr, hgrace, htraces, bind, Except.bind, pure, Except.pure]
  rfl

/-- **A document is read as the configuration that its lines give.** -/
theorem ofText_given (hdistinct : (given.map (·.line.key)).Nodup)
    (htext : PlainLine.Lined (given.map Given.line) text.toList) :
    ofText text = .ok (giving given) := by
  have hkeys : ((given.map Given.line).map (·.key)).Nodup := by rwa [List.map_map]
  obtain ⟨entries, wide, hparse, hsaid⟩ := Document.parse_lined hkeys htext
  rw [List.map_map] at hsaid
  rw [ofText, hparse]
  simp only [decode_given hdistinct hsaid]

/-- **Documents that give settings.** A text of lines, each of which gives a setting or something under
a key that is none, and no key twice, is read as the default configuration with the settings that are
given. If that obeys the rules it is the result; if not, the result is the error of the time for a
wait if that is zero, and else the error of the grace period. Another text with the same settings has
the same result, in whatever order it gives them and whatever else it holds. -/
theorem parse_given (hdistinct : (given.map (·.line.key)).Nodup)
    (htext : PlainLine.Lined (given.map Given.line) text.toList) :
    ((giving given).validate = .ok (giving given) → parse text = .ok (giving given)) ∧
      ((giving given).validate ≠ .ok (giving given) →
        parse text = .error (
          if (giving given).defaultWaitTimeoutMs = 0 then
            .configValidationFailed "default_wait_timeout_ms" "Wait timeout must be greater than 0"
          else
            .configValidationFailed "terminate_grace_ms"
              "Grace period must be greater than 0 when set")) ∧
      ∀ (given' : List Given) (text' : String), (given'.map (·.line.key)).Nodup →
        PlainLine.Lined (given'.map Given.line) text'.toList →
        (given.filter Given.isSetting).Perm (given'.filter Given.isSetting) →
        parse text' = parse text := by
  have hparse : parse text = (giving given).validate := by
    rw [parse, ofText_given hdistinct htext]
  refine ⟨fun hvalid => hparse.trans hvalid, ?_, ?_⟩
  · intro hinvalid
    rw [hparse]
    rw [validate] at hinvalid ⊢
    split at hinvalid
    · rename_i hzero
      rw [if_pos hzero, if_pos hzero]
      rfl
    · rename_i hwait
      rw [if_neg hwait, if_neg hwait]
      split at hinvalid
      · rename_i hgrace
        rw [if_pos hgrace]
        rfl
      · exact absurd rfl hinvalid
  · intro given' text' hdistinct' htext' hperm
    have hsettings : ((given.filter Given.isSetting).map (·.line.key)).Nodup :=
      hdistinct.sublist (List.filter_sublist.map _)
    have hsame : giving given' = giving given := by
      rw [← giving_filter given, ← giving_filter given', giving_perm hperm hsettings]
    rw [hparse, parse, ofText_given hdistinct' htext', hsame]

/-- A line under a key that is no setting. -/
def colourLine : PlainLine where
  key := "colour"
  value := .word "red2"
  key_ne := by decide
  isKeyChar_key := List.all_eq_true.mp (by decide)
  value_fits := List.all_eq_true.mp (by decide)

/-- A document with a line end of each kind: it gives no grace period but zero. -/
def unevenText : String :=
  "colour = \"red2\"\r\nstderr = \"inherit\"\nterminate_grace_ms = 0"

/-- What its lines give. -/
def unevenLines : List Given := [.other colourLine (by decide), .stderr .inherit, .grace 0]

theorem lined_unevenText : PlainLine.Lined (unevenLines.map Given.line) unevenText.toList := by
  have htext : unevenText.toList = colourLine.setting.toList ++ '\r' :: '\n' ::
      ((stderrLine .inherit).setting.toList ++ '\n' ::
        ((graceLine 0).setting.toList ++ [])) := by decide
  rw [htext]
  exact .cons (.returned _) (.cons (.lineFeed _) (.cons .atEnd .nil))

/-- The same settings the other way round, and nothing else. -/
def turnedText : String := "terminate_grace_ms = 0\nstderr = \"inherit\"\n"

theorem lined_turnedText :
    PlainLine.Lined ([Given.grace 0, .stderr .inherit].map Given.line) turnedText.toList := by
  have htext : turnedText.toList = (graceLine 0).setting.toList ++ '\n' ::
      ((stderrLine .inherit).setting.toList ++ ['\n']) := by decide
  rw [htext]
  exact .cons (.lineFeed _) (.cons (.lineFeed _) .nil)

/-- A grace period of zero is refused, wherever it stands. -/
theorem parse_given_uneven :
    parse unevenText =
        .error (.configValidationFailed "terminate_grace_ms"
          "Grace period must be greater than 0 when set") ∧
      parse turnedText = parse unevenText := by
  have hdistinct : (unevenLines.map (·.line.key)).Nodup := by decide
  have hdistinct' : ([Given.grace 0, .stderr .inherit].map (·.line.key)).Nodup := by decide
  obtain ⟨-, hinvalid, hsame⟩ := parse_given hdistinct lined_unevenText
  exact ⟨hinvalid (by decide), hsame _ _ hdistinct' lined_turnedText (.swap _ _ _)⟩

end ChildWatch.Config
