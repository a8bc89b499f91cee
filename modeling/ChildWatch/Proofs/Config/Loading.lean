import ChildWatch.Config.Load
import ChildWatch.Proofs.Text.WellFormed

/-! # The place that decides a configuration

A configuration comes from one place, whatever else there is: no other file is looked into, not even
when the one that decides is broken.

* `Config.Decides` — the place that decides; `decides_iff` — there is one, and only one.
* `Config.loadFile_of_text`, `loadFile_of_error`, `loadFile_of_not_text` — what becomes of a file.
* `Config.Faulty` — what may be wrong with a text; `parse_eq_error_iff` — these are the errors of reading
  it, and there are no others.
* `Config.obeys_of_load` — a configuration that is loaded obeys the rules.
* `load_from_one_place` — what loading comes to, and what it does not depend on. -/

namespace ChildWatch

open Text

/-- Two systems **agree** on a path if it gets the same answers in both. -/
def FileAccess.Agree (files files' : FileAccess) (path : String) : Prop :=
  files'.isFile path = files.isFile path ∧ files'.read path = files.read path

/-- What is no file of a tree cannot be read: nothing, or a directory. -/
theorem FileTree.exists_error_of_not_isFile {t : FileTree} {path : String}
    (h : t.isFile path = false) : ∃ e, t.read path = .error e := by
  rw [isFile] at h
  rw [read]
  cases hfind : t.find path with
  | error e => exact ⟨e, rfl⟩
  | ok found =>
      obtain ⟨place, entry⟩ := found
      cases entry with
      | directory => exact ⟨.isADirectory, rfl⟩
      | file bytes runnable => simp [hfind] at h

namespace Config

variable {files files' : FileAccess} {search : List String} {asked place : Option String}
  {path text : String}

/-! ## The place -/

/-- **The place that decides** is the path that is asked for; or else the first path of the list that
leads to a file; or else, if none does, no place at all. -/
inductive Decides (files : FileAccess) (search : List String) : Option String → Option String → Prop
  where
  | asked (path : String) : Decides files search (some path) (some path)
  | found {before after : List String} {path : String} (hsearch : search = before ++ path :: after)
    (hbefore : ∀ p ∈ before, files.isFile p = false) (hfile : files.isFile path = true) :
    Decides files search none (some path)
  | nowhere (hnone : ∀ p ∈ search, files.isFile p = false) : Decides files search none none

/-- **There is one such place, and only one.** -/
theorem decides_iff :
    Decides files search asked place ↔ place = asked.or (search.find? files.isFile) := by
  constructor
  · intro h
    cases h with
    | asked => rfl
    | @found before after path hsearch hbefore hfile =>
        have hfound : search.find? files.isFile = some path := by
          rw [List.find?_eq_some_iff_append]
          exact ⟨hfile, before, after, hsearch, by simpa using hbefore⟩
        rw [hfound, Option.none_or]
    | nowhere hnone =>
        have hfound : search.find? files.isFile = none := by
          rw [List.find?_eq_none]
          intro p hp
          simp [hnone p hp]
        rw [hfound, Option.none_or]
  · rintro rfl
    cases asked with
    | some path => exact .asked path
    | none =>
        rw [Option.none_or]
        cases hfound : search.find? files.isFile with
        | some path =>
            obtain ⟨hfile, before, after, hsearch, hbefore⟩ :=
              List.find?_eq_some_iff_append.mp hfound
            exact .found hsearch (by simpa using hbefore) hfile
        | none =>
            refine .nowhere fun p hp => ?_
            simpa using List.find?_eq_none.mp hfound p hp

/-- A path that decides is loaded. -/
theorem load_of_decides (h : Decides files search asked (some path)) :
    load files search asked = loadFile files path := by
  have hplace := decides_iff.mp h
  cases asked with
  | some asked =>
      obtain rfl : path = asked := Option.some.inj hplace
      rfl
  | none =>
      rw [Option.none_or] at hplace
      simp only [load, ← hplace]

/-- Without a place that decides, the default is taken. -/
theorem load_of_nowhere (h : Decides files search asked none) :
    load files search asked = .ok default := by
  cases h with
  | nowhere hnone =>
      have hplace := decides_iff.mp (Decides.nowhere hnone)
      rw [Option.none_or] at hplace
      simp only [load, ← hplace]

/-! ## What becomes of a file -/

/-- The text of a file is read. -/
theorem loadFile_of_text (hread : files.read path = .ok (Utf8.encode text)) :
    loadFile files path = parse text := by
  rw [loadFile, readText, hread]
  simp only [Utf8.decode?_eq_some_iff.mpr rfl]

/-- A file that cannot be read is an error, and so is anything that is no file. -/
theorem loadFile_of_error {e : IoError} (hread : files.read path = .error e) :
    loadFile files path = .error (.configLoadFailed path e.message) := by
  rw [loadFile, readText, hread]

/-- A file whose bytes are no text is an error. -/
theorem loadFile_of_not_text {bytes : List UInt8} (hread : files.read path = .ok bytes)
    (hbytes : ∀ text, bytes ≠ Utf8.encode text) :
    loadFile files path =
      .error (.configLoadFailed path "stream did not contain valid UTF-8") := by
  have hdecode : Utf8.decode? bytes = none := by
    cases hsome : Utf8.decode? bytes with
    | none => rfl
    | some text => exact absurd (Utf8.decode?_eq_some_iff.mp hsome) (hbytes text)
  rw [loadFile, readText, hread]
  simp only [hdecode]
  rfl

/-- Only what is read of a file counts. -/
theorem loadFile_congr (hread : files'.read path = files.read path) :
    loadFile files' path = loadFile files path := by
  rw [loadFile, loadFile, readText, readText, hread]

/-! ## The rules -/

/-- A configuration that **obeys the rules**: no time in it is zero. -/
def Obeys (c : Config) : Prop := c.defaultWaitTimeoutMs ≠ 0 ∧ c.terminateGraceMs ≠ some 0

instance (c : Config) : Decidable c.Obeys := inferInstanceAs (Decidable (_ ∧ _))

/-- The rules let pass what obeys them, as it is. -/
theorem validate_eq_ok_iff {c c' : Config} : c.validate = .ok c' ↔ c' = c ∧ c.Obeys := by
  rw [validate, Obeys]
  by_cases hwait : c.defaultWaitTimeoutMs = 0
  · simp [hwait]
  by_cases hgrace : c.terminateGraceMs = some 0
  · simp [hwait, hgrace]
  · simp [hwait, hgrace, eq_comm]

/-- **What may be wrong with a text**, and the error of it: it gives no settings, or it gives settings
that break a rule, the one for waits before the one for the grace period. -/
inductive Faulty (text : String) : Error → Prop where
  | unread {problem : ConfigProblem} (htext : ofText text = .error problem) :
    Faulty text (.configParseFailed problem)
  | noWait {c : Config} (htext : ofText text = .ok c) (hwait : c.defaultWaitTimeoutMs = 0) :
    Faulty text
      (.configValidationFailed "default_wait_timeout_ms" "Wait timeout must be greater than 0")
  | noGrace {c : Config} (htext : ofText text = .ok c) (hwait : c.defaultWaitTimeoutMs ≠ 0)
    (hgrace : c.terminateGraceMs = some 0) :
    Faulty text
      (.configValidationFailed "terminate_grace_ms" "Grace period must be greater than 0 when set")

/-- **A text is read with an error exactly if that is wrong with it.** -/
theorem parse_eq_error_iff {e : Error} : parse text = .error e ↔ Faulty text e := by
  constructor
  · intro h
    rw [parse] at h
    cases htext : ofText text with
    | error problem =>
        rw [htext] at h
        obtain rfl := Except.error.inj h
        exact .unread htext
    | ok c =>
        simp only [htext, validate] at h
        by_cases hwait : c.defaultWaitTimeoutMs = 0
        · rw [if_pos hwait] at h
          obtain rfl := Except.error.inj h
          exact .noWait htext hwait
        rw [if_neg hwait] at h
        by_cases hgrace : c.terminateGraceMs = some 0
        · rw [if_pos hgrace] at h
          obtain rfl := Except.error.inj h
          exact .noGrace htext hwait hgrace
        · rw [if_neg hgrace] at h
          cases h
  · intro hfaulty
    cases hfaulty with
    | unread htext => rw [parse, htext]
    | noWait htext hwait =>
        simp only [parse, htext, validate, if_pos hwait]
        rfl
    | noGrace htext hwait hgrace =>
        simp only [parse, htext, validate, if_neg hwait, if_pos hgrace]
        rfl

example : Faulty "terminate_grace_ms = 0"
    (.configValidationFailed "terminate_grace_ms" "Grace period must be greater than 0 when set") :=
  parse_eq_error_iff.mp rfl

theorem obeys_of_parse {c : Config} (h : parse text = .ok c) : c.Obeys := by
  rw [parse] at h
  cases htext : ofText text with
  | error p => simp [htext] at h
  | ok read =>
      rw [htext] at h
      obtain ⟨rfl, hobeys⟩ := validate_eq_ok_iff.mp h
      exact hobeys

theorem obeys_of_loadFile {c : Config} (h : loadFile files path = .ok c) : c.Obeys := by
  rw [loadFile] at h
  cases hread : readText files path with
  | error e => simp [hread] at h
  | ok text =>
      rw [hread] at h
      exact obeys_of_parse h

/-- **Whatever is loaded obeys the rules**, the default too. -/
theorem obeys_of_load {c : Config} (h : load files search asked = .ok c) : c.Obeys := by
  have hdecides : Decides files search asked _ := decides_iff.mpr rfl
  cases hplace : asked.or (search.find? files.isFile) with
  | some path =>
      rw [hplace] at hdecides
      rw [load_of_decides hdecides] at h
      exact obeys_of_loadFile h
  | none =>
      rw [hplace] at hdecides
      rw [load_of_nowhere hdecides] at h
      cases h
      decide

/-! ## What does not count -/

/-- What stands behind the place that decides does not count: another system that agrees on the paths
up to that place loads the same, however the list goes on. -/
theorem load_of_agree {before after after' : List String} {path : String}
    (hbefore : ∀ p ∈ before, files.isFile p = false) (hfile : files.isFile path = true)
    (hagree : ∀ p ∈ before ++ [path], files.Agree files' p) :
    load files' (before ++ path :: after') none = load files (before ++ path :: after) none := by
  have hagreePath : files.Agree files' path := hagree path (by simp)
  have hbefore' : ∀ p ∈ before, files'.isFile p = false := by
    intro p hp
    rw [(hagree p (List.mem_append_left _ hp)).1, hbefore p hp]
  have hfile' : files'.isFile path = true := by rw [hagreePath.1, hfile]
  rw [load_of_decides (.found rfl hbefore hfile), load_of_decides (.found rfl hbefore' hfile'),
    loadFile_congr hagreePath.2]

/-- A text that decides and has something wrong with it is an error, whatever the other files are. -/
theorem load_of_faulty {e : Error} (h : Decides files search asked (some path))
    (hread : files.read path = .ok (Utf8.encode text)) (hfaulty : Faulty text e) :
    load files search asked = .error e := by
  rw [load_of_decides h, loadFile_of_text hread, parse_eq_error_iff.mpr hfaulty]

/-- **A configuration comes from one place.** For any files, any list of paths and any path that may
be asked for, there is one place that decides. If it is no path, the default is loaded. If it is a
path, then what cannot be read there, or is no text, is an error for that path, and a text is read
with its faults and all: a text that is malformed or whose settings break the rules is an error, on
every system and with every list where that path decides and holds that text. Another system in which
the path that is asked for gets the same answers loads the same from any list; and one that agrees on
the paths up to the first file loads the same, however the list goes on. What is loaded always obeys
the rules. And in a file tree nothing but a file can be asked for without an error for that path. -/
theorem load_from_one_place (files : FileAccess) (search : List String) (asked : Option String) :
    ∃ place,
      (∀ p, Decides files search asked p ↔ p = place) ∧
      (place = none → load files search asked = .ok default) ∧
      (∀ path, place = some path →
        (∀ e, files.read path = .error e →
          load files search asked = .error (.configLoadFailed path e.message)) ∧
        (∀ bytes, files.read path = .ok bytes → (∀ text, bytes ≠ Utf8.encode text) →
          load files search asked =
            .error (.configLoadFailed path "stream did not contain valid UTF-8")) ∧
        (∀ text, files.read path = .ok (Utf8.encode text) →
          load files search asked = parse text ∧
          ∀ e, Faulty text e → load files search asked = .error e ∧
            ∀ files' search', Decides files' search' asked (some path) →
              files'.read path = files.read path → load files' search' asked = .error e)) ∧
      (∀ path files' search', asked = some path → files.Agree files' path →
        load files' search' asked = load files search asked) ∧
      (∀ before path after files' after', asked = none → search = before ++ path :: after →
        (∀ p ∈ before, files.isFile p = false) → files.isFile path = true →
        (∀ p ∈ before ++ [path], files.Agree files' p) →
        load files' (before ++ path :: after') asked = load files search asked) ∧
      (∀ c, load files search asked = .ok c →
        c.defaultWaitTimeoutMs ≠ 0 ∧ c.terminateGraceMs ≠ some 0) ∧
      (∀ (tree : FileTree) path, tree.isFile path = false →
        ∃ reason, load tree search (some path) = .error (.configLoadFailed path reason)) := by
  refine ⟨asked.or (search.find? files.isFile), fun p => decides_iff, ?_, ?_, ?_, ?_,
    fun c => obeys_of_load, ?_⟩
  · intro hplace
    exact load_of_nowhere (decides_iff.mpr hplace.symm)
  · intro path hplace
    have hdecides : Decides files search asked (some path) := decides_iff.mpr hplace.symm
    refine ⟨?_, ?_, ?_⟩
    · intro e hread
      rw [load_of_decides hdecides, loadFile_of_error hread]
    · intro bytes hread hbytes
      rw [load_of_decides hdecides, loadFile_of_not_text hread hbytes]
    · intro text hread
      refine ⟨?_, fun e hfaulty => ⟨load_of_faulty hdecides hread hfaulty, ?_⟩⟩
      · rw [load_of_decides hdecides, loadFile_of_text hread]
      · intro files' search' hdecides' hsame
        exact load_of_faulty hdecides' (hsame.trans hread) hfaulty
  · rintro path files' search' rfl hagree
    exact loadFile_congr hagree.2
  · rintro before path after files' after' rfl rfl hbefore hfile hagree
    exact load_of_agree hbefore hfile hagree
  · intro tree path hpath
    obtain ⟨e, hread⟩ := FileTree.exists_error_of_not_isFile hpath
    exact ⟨e.message, loadFile_of_error hread⟩

end Config

end ChildWatch
