import ChildWatch.Text.Utf8
import Mathlib.Algebra.Group.Nat.Defs
import Mathlib.Tactic.SplitIfs

/-! # Lossy decoding

A byte that cannot go on with a character ends the one under way, whether that is complete or not.
So a text can be cut before such a byte, and its two sides decoded apart.

* `State.Sound` — what is true of every state that bytes lead to: a character under way takes no byte
  but one for the middle of a character, and it will not be in ASCII.
* `exists_run_append` — decoding can be broken off at any place and taken up again.
* `run_append_of_not_tail` — before a byte that is not for the middle of a character it starts anew.
* `decodeLossy_append_ascii`, `mem_of_mem_decodeLossy` — so a character in ASCII is where its byte is,
  and nowhere else.
* `decodeLossy_encode` — a text is what its bytes decode to. -/

namespace ChildWatch.Text.Utf8

/-! ## States that bytes lead to -/

/-- A byte for **the middle of a character**. -/
def IsTail (b : UInt8) : Prop := 0x80 ≤ b ∧ b ≤ 0xBF

/-- **Sound states.** The next byte of a character under way is one for the middle of a character,
and whatever is still to come, the number of the character will be at least 128. -/
def State.Sound : State → Prop
  | .boundary => True
  | .within bits more lo hi =>
    0x80 ≤ lo ∧ hi ≤ 0xBF ∧ 128 ≤ (bits * 64 + lo.toNat % 64) * 64 ^ (more - 1)

theorem sound_boundary : State.boundary.Sound := trivial

variable {s : State} {b : UInt8}

/-- The first byte of a character begins it, and leads to a sound state. -/
theorem sound_of_lead (h : lead b = some s) :
    s.Sound ∧ ∃ bits more lo hi, s = .within bits more lo hi := by
  unfold lead at h
  simp only [UInt8.le_iff_toNat_le, ← UInt8.toNat_inj, UInt8.reduceToNat] at h
  -- one case for each kind of first byte
  split_ifs at h <;> cases h <;> refine ⟨?_, _, _, _, _, rfl⟩ <;>
    simp only [State.Sound, UInt8.le_iff_toNat_le, UInt8.reduceToNat] <;> omega

/-- No byte of ASCII begins a character of several bytes. -/
theorem not_ascii_of_lead (h : lead b = some s) : ¬ b < 0x80 := by
  unfold lead at h
  simp only [UInt8.le_iff_toNat_le, ← UInt8.toNat_inj, UInt8.reduceToNat] at h
  simp only [UInt8.lt_iff_toNat_lt, UInt8.reduceToNat]
  split_ifs at h <;> omega

/-- All that can come of a byte at a boundary: a character in ASCII, the beginning of another, or a
malformed piece. -/
theorem stepBoundary_cases (b : UInt8) :
    (b < 0x80 ∧ stepBoundary b = ([some (Char.ofNat b.toNat)], .boundary)) ∨
    (¬ b < 0x80 ∧ ∃ s, stepBoundary b = ([], s) ∧ lead b = some s) ∨
    (¬ b < 0x80 ∧ stepBoundary b = ([none], .boundary)) := by
  unfold stepBoundary
  by_cases hb : b < 0x80
  · exact Or.inl ⟨hb, if_pos hb⟩
  · rw [if_neg hb]
    cases hlead : lead b with
    | some s => exact Or.inr (Or.inl ⟨hb, s, rfl, rfl⟩)
    | none => exact Or.inr (Or.inr ⟨hb, rfl⟩)

theorem sound_stepBoundary (b : UInt8) : (stepBoundary b).2.Sound := by
  rcases stepBoundary_cases b with ⟨-, h⟩ | ⟨-, s, h, hlead⟩ | ⟨-, h⟩
  · rw [h]
    trivial
  · rw [h]
    exact (sound_of_lead hlead).1
  · rw [h]
    trivial

/-- A character under way has a number of at least 128 once one more byte has come. -/
theorem le_bits_of_sound {bits more : Nat} {lo hi : UInt8}
    (hs : (State.within bits more lo hi).Sound) (hlo : lo ≤ b) (hhi : b ≤ hi) :
    128 ≤ (bits * 64 + b.toNat % 64) * 64 ^ (more - 1) := by
  obtain ⟨hlo', hhi', hnum⟩ := hs
  rw [UInt8.le_iff_toNat_le] at hlo hhi hlo' hhi'
  simp only [UInt8.reduceToNat] at hlo' hhi'
  have hbits : bits * 64 + lo.toNat % 64 ≤ bits * 64 + b.toNat % 64 := by omega
  exact Nat.le_trans hnum (Nat.mul_le_mul_right _ hbits)

/-- **Every byte leads to a sound state.** -/
theorem sound_step (hs : s.Sound) (b : UInt8) : (step s b).2.Sound := by
  cases s with
  | boundary => exact sound_stepBoundary b
  | within bits more lo hi =>
      rw [step]
      by_cases hb : lo ≤ b ∧ b ≤ hi
      · rw [if_pos hb]
        have hnum := le_bits_of_sound hs hb.1 hb.2
        by_cases hmore : more ≤ 1
        · rw [if_pos hmore]
          trivial
        · rw [if_neg hmore]
          refine ⟨UInt8.le_refl _, UInt8.le_refl _, ?_⟩
          have hpow : 64 ^ (more - 1) = 64 * 64 ^ (more - 1 - 1) := by
            rw [← Nat.pow_succ']
            congr 1
            omega
          rw [hpow, ← Nat.mul_assoc] at hnum
          exact hnum
      · rw [if_neg hb]
        exact sound_stepBoundary b

/-- **A byte that is not for the middle of a character starts anew**: what is under way is ended. -/
theorem step_of_not_tail (hs : s.Sound) (hb : ¬ IsTail b) :
    step s b = (finish s ++ (stepBoundary b).1, (stepBoundary b).2) := by
  cases s with
  | boundary => rfl
  | within bits more lo hi =>
      have hout : ¬ (lo ≤ b ∧ b ≤ hi) := fun hin =>
        hb ⟨UInt8.le_trans hs.1 hin.1, UInt8.le_trans hin.2 hs.2.1⟩
      rw [step, if_neg hout]
      rfl

/-! ## Decoding in parts -/

/-- **Decoding can be broken off** after any bytes, in a sound state, and be taken up again. -/
theorem exists_run_append (hs : s.Sound) (bs : List UInt8) :
    ∃ out t, t.Sound ∧ ∀ more, run s (bs ++ more) = out ++ run t more := by
  induction bs generalizing s with
  | nil => exact ⟨[], s, hs, fun _ => rfl⟩
  | cons b bs ih =>
      obtain ⟨out, t, ht, hrun⟩ := ih (sound_step hs b)
      refine ⟨(step s b).1 ++ out, t, ht, fun more => ?_⟩
      rw [List.cons_append, run, hrun, List.append_assoc]

/-- **Before a byte that is not for the middle of a character decoding starts anew.** -/
theorem run_append_of_not_tail (hs : s.Sound) (hb : ¬ IsTail b) (bs more : List UInt8) :
    run s (bs ++ b :: more) = run s bs ++ run .boundary (b :: more) := by
  obtain ⟨out, t, ht, hrun⟩ := exists_run_append hs bs
  have hbefore : run s bs = out ++ finish t := by
    have hnil := hrun []
    rw [List.append_nil] at hnil
    exact hnil
  have hafter : run t (b :: more) = finish t ++ run .boundary (b :: more) := by
    rw [run, step_of_not_tail ht hb, run, step]
    simp only [List.append_assoc]
  rw [hrun, hbefore, hafter, List.append_assoc]

/-- A byte at a boundary finishes a unit or begins a character. -/
theorem stepBoundary_ne_boundary (h : (stepBoundary b).1 = []) :
    (stepBoundary b).2 ≠ .boundary := by
  rcases stepBoundary_cases b with ⟨-, heq⟩ | ⟨-, s, heq, hlead⟩ | ⟨-, heq⟩
  · simp [heq] at h
  · obtain ⟨-, bits, more, lo, hi, rfl⟩ := sound_of_lead hlead
    simp [heq]
  · simp [heq] at h

/-- So does a byte in any state: where it finishes nothing, a character is under way. -/
theorem step_ne_boundary (h : (step s b).1 = []) : (step s b).2 ≠ .boundary := by
  cases s with
  | boundary => exact stepBoundary_ne_boundary h
  | within bits more lo hi =>
      rw [step] at h ⊢
      by_cases hb : lo ≤ b ∧ b ≤ hi
      · rw [if_pos hb] at h ⊢
        by_cases hmore : more ≤ 1
        · simp [hmore] at h
        · simp [hmore]
      · simp [hb] at h

/-- **Bytes never come to nothing**, nor does a character under way. -/
theorem run_ne_nil {bs : List UInt8} (hne : s ≠ .boundary ∨ bs ≠ []) : run s bs ≠ [] := by
  induction bs generalizing s with
  | nil =>
      cases s with
      | boundary => simp at hne
      | within => simp [run, finish]
  | cons b bs ih =>
      rw [run]
      intro hnil
      obtain ⟨hout, hrest⟩ := List.append_eq_nil_iff.mp hnil
      exact ih (Or.inl (step_ne_boundary hout)) hrest

/-! ## Characters in ASCII -/

/-- A byte of ASCII is not for the middle of a character. -/
theorem not_isTail_of_ascii (hb : b < 0x80) : ¬ IsTail b := by
  rintro ⟨hlo, -⟩
  exact absurd hb (UInt8.not_lt.mpr hlo)

/-- **A byte of ASCII is decoded where it is**, whatever is around it. -/
theorem run_append_ascii (hs : s.Sound) (hb : b < 0x80) (bs more : List UInt8) :
    run s (bs ++ b :: more) =
      run s bs ++ some (Char.ofNat b.toNat) :: run .boundary more := by
  have hstep : step .boundary b = ([some (Char.ofNat b.toNat)], .boundary) := by
    rw [step, stepBoundary, if_pos hb]
  rw [run_append_of_not_tail hs (not_isTail_of_ascii hb), run, hstep]
  rfl

/-- A character of ASCII other than the first, which stands for numbers that are no character's. -/
def IsAscii (c : Char) : Prop := 0 < c.toNat ∧ c.toNat < 128

instance (c : Char) : Decidable (IsAscii c) := inferInstanceAs (Decidable (_ ∧ _))

/-- Only its own number makes a character of ASCII. -/
theorem eq_toNat_of_ofNat {n : Nat} {c : Char} (hc : IsAscii c) (h : Char.ofNat n = c) :
    n = c.toNat := by
  by_cases hn : n.isValidChar
  · subst h
    rw [Char.ofNat, dif_pos hn]
    rfl
  · rw [Char.ofNat, dif_neg hn] at h
    subst h
    exact absurd hc.1 (Nat.lt_irrefl 0)

/-- A character of ASCII comes of its own byte at a boundary. -/
theorem eq_of_mem_stepBoundary {c : Char} (hc : IsAscii c) (h : some c ∈ (stepBoundary b).1) :
    b.toNat = c.toNat := by
  rcases stepBoundary_cases b with ⟨-, heq⟩ | ⟨-, s, heq, -⟩ | ⟨-, heq⟩
  · rw [heq, List.mem_singleton, Option.some_inj] at h
    exact eq_toNat_of_ofNat hc h.symm
  · simp [heq] at h
  · simp [heq] at h

/-- So it does in every sound state: the characters of several bytes are not in ASCII. -/
theorem eq_of_mem_step (hs : s.Sound) {c : Char} (hc : IsAscii c) (h : some c ∈ (step s b).1) :
    b.toNat = c.toNat := by
  cases s with
  | boundary => exact eq_of_mem_stepBoundary hc h
  | within bits more lo hi =>
      rw [step] at h
      by_cases hb : lo ≤ b ∧ b ≤ hi
      · rw [if_pos hb] at h
        by_cases hmore : more ≤ 1
        · rw [if_pos hmore, List.mem_singleton, Option.some_inj] at h
          have hnum := le_bits_of_sound hs hb.1 hb.2
          have hlast : more - 1 = 0 := Nat.sub_eq_zero_of_le hmore
          rw [hlast, Nat.pow_zero, Nat.mul_one] at hnum
          have heq := eq_toNat_of_ofNat hc h.symm
          have hlt := hc.2
          omega
        · simp [hmore] at h
      · simp only [if_neg hb, List.mem_cons, reduceCtorEq, false_or] at h
        exact eq_of_mem_stepBoundary hc h

/-- **A character of ASCII comes of its own byte**: no malformed piece and no other character
makes one. -/
theorem mem_of_mem_run (hs : s.Sound) {c : Char} (hc : IsAscii c) {bs : List UInt8}
    (h : some c ∈ run s bs) : ∃ b ∈ bs, b.toNat = c.toNat := by
  induction bs generalizing s with
  | nil => cases s <;> simp [run, finish] at h
  | cons b bs ih =>
      rw [run, List.mem_append] at h
      rcases h with hnow | hlater
      · exact ⟨b, List.mem_cons_self, eq_of_mem_step hs hc hnow⟩
      · obtain ⟨b', hb', heq⟩ := ih (sound_step hs b) hlater
        exact ⟨b', List.mem_cons_of_mem b hb', heq⟩

/-! ## Lossy decoding -/

/-- The characters that bytes decode to. -/
theorem toList_decodeLossy (bs : List UInt8) :
    (decodeLossy bs).toList = (run .boundary bs).map (·.getD replacement) := by
  rw [decodeLossy, String.toList_ofList, units_eq_run]

/-- **A text may be cut at a byte of ASCII**, and its two sides decoded apart. -/
theorem decodeLossy_append_ascii (hb : b < 0x80) (bs more : List UInt8) :
    (decodeLossy (bs ++ b :: more)).toList =
      (decodeLossy bs).toList ++ Char.ofNat b.toNat :: (decodeLossy more).toList := by
  simp only [toList_decodeLossy]
  rw [run_append_ascii sound_boundary hb, List.map_append, List.map_cons]
  rfl

/-- What stands for a malformed piece is not in ASCII. -/
theorem eq_some_of_getD {c : Char} (hc : IsAscii c) {u : Option Char}
    (h : u.getD replacement = c) : u = some c := by
  cases u with
  | some c' => exact congrArg some h
  | none =>
      have hlt : replacement.toNat < 128 := by
        rw [← h] at hc
        exact hc.2
      exact absurd hlt (by decide)

/-- A character of ASCII in a decoded text comes of its byte. -/
theorem mem_of_mem_decodeLossy {c : Char} (hc : IsAscii c) {bs : List UInt8}
    (h : c ∈ (decodeLossy bs).toList) : ∃ b ∈ bs, b.toNat = c.toNat := by
  rw [toList_decodeLossy, List.mem_map] at h
  obtain ⟨u, hu, heq⟩ := h
  rw [eq_some_of_getD hc heq] at hu
  exact mem_of_mem_run sound_boundary hc hu

/-- Bytes decode to no text only if there are none. -/
theorem decodeLossy_ne_nil {bs : List UInt8} (hne : bs ≠ []) : (decodeLossy bs).toList ≠ [] := by
  rw [toList_decodeLossy, Ne, List.map_eq_nil_iff]
  exact run_ne_nil (Or.inr hne)

/-- **The last character of a decoded text** is in ASCII only if it comes of the last byte. -/
theorem eq_of_getLast?_decodeLossy {c : Char} (hc : IsAscii c) {bs : List UInt8}
    (h : (decodeLossy (bs ++ [b])).toList.getLast? = some c) : b.toNat = c.toNat := by
  obtain ⟨out, t, ht, hrun⟩ := exists_run_append sound_boundary bs
  have hne : run t [b] ≠ [] := run_ne_nil (Or.inr (List.cons_ne_nil b []))
  rw [toList_decodeLossy, hrun, List.getLast?_map, List.getLast?_append,
    List.getLast?_eq_some_getLast hne, Option.some_or, Option.map_some, Option.some_inj] at h
  have hmem := List.getLast_mem hne
  rw [eq_some_of_getD hc h] at hmem
  obtain ⟨b', hb', hnum⟩ := mem_of_mem_run ht hc hmem
  rw [List.mem_singleton.mp hb'] at hnum
  exact hnum

/-! ## Texts and their bytes -/

/-- A byte array as a list, from one of its places on. -/
theorem toList_loop (bytes : ByteArray) (i : Nat) (acc : List UInt8) :
    ByteArray.toList.loop bytes i acc = acc.reverse ++ bytes.data.toList.drop i := by
  fun_induction ByteArray.toList.loop bytes i acc with
  | case1 i acc h ih =>
      have hi : i < bytes.data.toList.length := h
      rw [ih, List.drop_eq_getElem_cons hi]
      simp [ByteArray.get!, h]
  | case2 i acc h =>
      have hi : bytes.data.toList.length ≤ i := Nat.le_of_not_lt h
      rw [List.drop_eq_nil_of_le hi, List.append_nil]

/-- The bytes of a text are those of its characters, one after the other. -/
theorem encode_eq_flatMap (text : String) :
    encode text = text.toList.flatMap String.utf8EncodeChar := by
  have hbytes : text.toByteArray = (text.toList.flatMap String.utf8EncodeChar).toByteArray := by
    conv => lhs; rw [← String.ofList_toList (s := text), String.toByteArray_ofList, List.utf8Encode]
  rw [encode, String.toUTF8_eq_toByteArray, ByteArray.toList, toList_loop, hbytes,
    List.toList_data_toByteArray]
  rfl

/-- The first byte of a character of several bytes finishes nothing. -/
theorem run_lead (h : lead b = some s) (bs : List UInt8) :
    run .boundary (b :: bs) = run s bs := by
  rw [run, step, stepBoundary, if_neg (not_ascii_of_lead h), h]
  rfl

/-- A byte in the middle of a character adds its bits. -/
theorem run_within {bits more : Nat} {lo hi : UInt8} (hb : lo ≤ b ∧ b ≤ hi) (hmore : 1 < more)
    (bs : List UInt8) :
    run (.within bits more lo hi) (b :: bs) =
      run (.within (bits * 64 + b.toNat % 64) (more - 1) 0x80 0xBF) bs := by
  rw [run, step, if_pos hb, if_neg (Nat.not_le.mpr hmore)]
  rfl

/-- The last byte of a character finishes it. -/
theorem run_last {bits : Nat} {lo hi : UInt8} (hb : lo ≤ b ∧ b ≤ hi) (bs : List UInt8) :
    run (.within bits 1 lo hi) (b :: bs) =
      some (Char.ofNat (bits * 64 + b.toNat % 64)) :: run .boundary bs := by
  rw [run, step, if_pos hb, if_pos (Nat.le_refl 1)]
  rfl

/-- The first byte of a character of two bytes. -/
theorem lead_two (h : 0xC2 ≤ b.toNat ∧ b.toNat ≤ 0xDF) :
    lead b = some (.within (b.toNat % 32) 1 0x80 0xBF) := by
  unfold lead
  simp only [UInt8.le_iff_toNat_le, UInt8.reduceToNat, if_pos h]

/-- The first byte of a character of three bytes. -/
theorem lead_three (h : 0xE0 ≤ b.toNat ∧ b.toNat ≤ 0xEF) :
    lead b = some (.within (b.toNat % 16) 2 (if b.toNat = 0xE0 then 0xA0 else 0x80)
      (if b.toNat = 0xED then 0x9F else 0xBF)) := by
  unfold lead
  simp only [UInt8.le_iff_toNat_le, ← UInt8.toNat_inj, UInt8.reduceToNat]
  rw [if_neg (by omega)]
  by_cases hE0 : b.toNat = 0xE0
  · simp [hE0]
  · by_cases hED : b.toNat = 0xED
    · simp [hED]
    · rw [if_neg hE0, if_neg hED, if_neg hE0, if_neg hED, if_pos (by omega)]

/-- The first byte of a character of four bytes. -/
theorem lead_four (h : 0xF0 ≤ b.toNat ∧ b.toNat ≤ 0xF4) :
    lead b = some (.within (b.toNat % 8) 3 (if b.toNat = 0xF0 then 0x90 else 0x80)
      (if b.toNat = 0xF4 then 0x8F else 0xBF)) := by
  unfold lead
  simp only [UInt8.le_iff_toNat_le, ← UInt8.toNat_inj, UInt8.reduceToNat]
  rw [if_neg (by omega), if_neg (by omega), if_neg (by omega), if_neg (by omega)]
  by_cases hF0 : b.toNat = 0xF0
  · simp [hF0]
  · by_cases hF4 : b.toNat = 0xF4
    · simp [hF4]
    · rw [if_neg hF0, if_neg hF0, if_neg hF4, if_neg hF4, if_pos (by omega)]

/-- A byte that carries six bits is one for the middle of a character. -/
theorem toNat_tail (n : Nat) : (UInt8.ofNat (n % 64 + 128)).toNat = n % 64 + 128 := by
  rw [UInt8.toNat_ofNat']
  omega

theorem isTail_ofNat (n : Nat) :
    0x80 ≤ UInt8.ofNat (n % 64 + 128) ∧ UInt8.ofNat (n % 64 + 128) ≤ 0xBF := by
  rw [UInt8.le_iff_toNat_le, UInt8.le_iff_toNat_le, toNat_tail]
  simp only [UInt8.reduceToNat]
  omega

/-- **The bytes of a character decode to it.** -/
theorem run_encodeChar (c : Char) (bs : List UInt8) :
    run .boundary (String.utf8EncodeChar c ++ bs) = some c :: run .boundary bs := by
  have hvalid : c.toNat < 0xD800 ∨ (0xDFFF < c.toNat ∧ c.toNat < 0x110000) := c.valid
  have hnum : c.val.toNat = c.toNat := rfl
  fun_cases String.utf8EncodeChar c with
  | case1 v h =>
    have hb : (UInt8.ofNat v).toNat = c.toNat := by
      rw [UInt8.toNat_ofNat']
      omega
    have hascii : UInt8.ofNat v < 0x80 := by
      simp only [UInt8.lt_iff_toNat_lt, hb, UInt8.reduceToNat]
      omega
    have hrun := run_append_ascii sound_boundary hascii [] bs
    rw [hb, Char.ofNat_toNat] at hrun
    exact hrun
  | case2 v h h' =>
    have hlead : (UInt8.ofNat (v / 64 % 32 + 192)).toNat = v / 64 + 192 := by
      rw [UInt8.toNat_ofNat']
      omega
    have hv : (v / 64 + 192) % 32 * 64 + (v % 64 + 128) % 64 = c.toNat := by omega
    simp only [List.cons_append, List.nil_append]
    rw [run_lead (lead_two (by omega)), run_last (isTail_ofNat v), toNat_tail, hlead, hv,
      Char.ofNat_toNat]
  | case3 v h h' h'' =>
    have hlead : (UInt8.ofNat (v / 4096 % 16 + 224)).toNat = v / 4096 + 224 := by
      rw [UInt8.toNat_ofNat']
      omega
    have hv : ((v / 4096 + 224) % 16 * 64 + (v / 64 % 64 + 128) % 64) * 64 + (v % 64 + 128) % 64 =
        c.toNat := by omega
    have hsecond : (if v / 4096 + 224 = 0xE0 then 0xA0 else 0x80) ≤ UInt8.ofNat (v / 64 % 64 + 128) ∧
        UInt8.ofNat (v / 64 % 64 + 128) ≤ (if v / 4096 + 224 = 0xED then 0x9F else 0xBF) := by
      rw [UInt8.le_iff_toNat_le, UInt8.le_iff_toNat_le, toNat_tail]
      split_ifs <;> simp only [UInt8.reduceToNat] <;> omega
    simp only [List.cons_append, List.nil_append]
    rw [run_lead (lead_three (by omega)), hlead, run_within hsecond (by omega),
      run_last (isTail_ofNat v), toNat_tail, toNat_tail, hv, Char.ofNat_toNat]
  | case4 v h h' h'' =>
    have hlead : (UInt8.ofNat (v / 262144 % 8 + 240)).toNat = v / 262144 + 240 := by
      rw [UInt8.toNat_ofNat']
      omega
    have hv : (((v / 262144 + 240) % 8 * 64 + (v / 4096 % 64 + 128) % 64) * 64 +
        (v / 64 % 64 + 128) % 64) * 64 + (v % 64 + 128) % 64 = c.toNat := by omega
    have hsecond : (if v / 262144 + 240 = 0xF0 then 0x90 else 0x80) ≤
          UInt8.ofNat (v / 4096 % 64 + 128) ∧
        UInt8.ofNat (v / 4096 % 64 + 128) ≤ (if v / 262144 + 240 = 0xF4 then 0x8F else 0xBF) := by
      rw [UInt8.le_iff_toNat_le, UInt8.le_iff_toNat_le, toNat_tail]
      split_ifs <;> simp only [UInt8.reduceToNat] <;> omega
    simp only [List.cons_append, List.nil_append]
    rw [run_lead (lead_four (by omega)), hlead, run_within hsecond (by omega),
      run_within (isTail_ofNat _) (by omega), run_last (isTail_ofNat v), toNat_tail, toNat_tail,
      toNat_tail, hv, Char.ofNat_toNat]

/-- So do the bytes of characters one after the other, whatever is behind them. -/
theorem run_encode_append (cs : List Char) (bs : List UInt8) :
    run .boundary (cs.flatMap String.utf8EncodeChar ++ bs) =
      cs.map some ++ run .boundary bs := by
  induction cs with
  | nil => rfl
  | cons c cs ih =>
      rw [List.flatMap_cons, List.append_assoc, run_encodeChar, ih, List.map_cons, List.cons_append]

theorem run_encode (cs : List Char) :
    run .boundary (cs.flatMap String.utf8EncodeChar) = cs.map some := by
  have hrun := run_encode_append cs []
  rw [List.append_nil] at hrun
  rw [hrun]
  exact List.append_nil _

/-- **A text is what its bytes decode to.** -/
theorem decodeLossy_encode (text : String) : decodeLossy (encode text) = text := by
  rw [← String.toList_inj, toList_decodeLossy, encode_eq_flatMap, run_encode, List.map_map]
  exact List.map_id _

end ChildWatch.Text.Utf8
