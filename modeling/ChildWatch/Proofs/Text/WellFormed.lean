import ChildWatch.Proofs.Text.Decoding

/-! # Well-formed bytes

Bytes that decode without a malformed piece are the bytes of a text, and of one text only.

* `lead_cases` — the first bytes of characters of two, three and four bytes.
* `encodeChar_two`, `encodeChar_three`, `encodeChar_four` — such a character has the bytes that its
  number was put together from.
* `exists_encodeChar` — where decoding finds no malformed piece, it finds the bytes of a character.
* `decode?_eq_some_iff` — a byte string has a text exactly if it is the bytes of the text. -/

namespace ChildWatch.Text.Utf8

variable {s : State} {b b₀ b₁ b₂ b₃ : UInt8}

/-- **The first bytes of characters**, by the number of bytes, and what may come second. -/
theorem lead_cases (h : lead b = some s) :
    (0xC2 ≤ b.toNat ∧ b.toNat ≤ 0xDF ∧ s = .within (b.toNat % 32) 1 0x80 0xBF) ∨
    (0xE0 ≤ b.toNat ∧ b.toNat ≤ 0xEF ∧
      s = .within (b.toNat % 16) 2 (if b.toNat = 0xE0 then 0xA0 else 0x80)
        (if b.toNat = 0xED then 0x9F else 0xBF)) ∨
    (0xF0 ≤ b.toNat ∧ b.toNat ≤ 0xF4 ∧
      s = .within (b.toNat % 8) 3 (if b.toNat = 0xF0 then 0x90 else 0x80)
        (if b.toNat = 0xF4 then 0x8F else 0xBF)) := by
  by_cases htwo : 0xC2 ≤ b.toNat ∧ b.toNat ≤ 0xDF
  · rw [lead_two htwo] at h
    exact Or.inl ⟨htwo.1, htwo.2, (Option.some.inj h).symm⟩
  by_cases hthree : 0xE0 ≤ b.toNat ∧ b.toNat ≤ 0xEF
  · rw [lead_three hthree] at h
    exact Or.inr (Or.inl ⟨hthree.1, hthree.2, (Option.some.inj h).symm⟩)
  by_cases hfour : 0xF0 ≤ b.toNat ∧ b.toNat ≤ 0xF4
  · rw [lead_four hfour] at h
    exact Or.inr (Or.inr ⟨hfour.1, hfour.2, (Option.some.inj h).symm⟩)
  · exfalso
    unfold lead at h
    simp only [UInt8.le_iff_toNat_le, ← UInt8.toNat_inj, UInt8.reduceToNat] at h
    split_ifs at h <;> omega

/-- A number that stands for a character is the number of that character. -/
theorem toNat_val_ofNat {n : Nat} (h : n < 0xD800 ∨ (0xDFFF < n ∧ n < 0x110000)) :
    (Char.ofNat n).val.toNat = n := by
  have hvalid : n.isValidChar := h
  rw [Char.ofNat, dif_pos hvalid]
  rfl

/-- A byte is the one of its number. -/
theorem ofNat_eq {n : Nat} (h : n = b.toNat) : UInt8.ofNat n = b := by
  rw [h, UInt8.ofNat_toNat]

/-! ## The bytes of a character -/

/-- The bytes of a character of two bytes. -/
theorem encodeChar_two (h₀ : 0xC2 ≤ b₀.toNat ∧ b₀.toNat ≤ 0xDF)
    (h₁ : 0x80 ≤ b₁.toNat ∧ b₁.toNat ≤ 0xBF) :
    String.utf8EncodeChar (Char.ofNat (b₀.toNat % 32 * 64 + b₁.toNat % 64)) = [b₀, b₁] := by
  generalize hn : b₀.toNat % 32 * 64 + b₁.toNat % 64 = n
  rw [String.utf8EncodeChar, toNat_val_ofNat (by omega)]
  rw [if_neg (by omega), if_pos (by omega), ofNat_eq (b := b₀) (by omega),
    ofNat_eq (b := b₁) (by omega)]

/-- The bytes of a character of three bytes; the bounds of the second exclude what two bytes would
do for, and the numbers that stand for no character. -/
theorem encodeChar_three (h₀ : 0xE0 ≤ b₀.toNat ∧ b₀.toNat ≤ 0xEF)
    (h₁ : (if b₀.toNat = 0xE0 then 0xA0 else 0x80) ≤ b₁.toNat ∧
      b₁.toNat ≤ (if b₀.toNat = 0xED then 0x9F else 0xBF))
    (h₂ : 0x80 ≤ b₂.toNat ∧ b₂.toNat ≤ 0xBF) :
    String.utf8EncodeChar
      (Char.ofNat ((b₀.toNat % 16 * 64 + b₁.toNat % 64) * 64 + b₂.toNat % 64)) =
        [b₀, b₁, b₂] := by
  generalize hn : (b₀.toNat % 16 * 64 + b₁.toNat % 64) * 64 + b₂.toNat % 64 = n
  have hsecond : 0x80 ≤ b₁.toNat ∧ b₁.toNat ≤ 0xBF := by split_ifs at h₁ <;> omega
  have hlong : 0x800 ≤ n := by split_ifs at h₁ <;> omega
  have hvalid : n < 0xD800 ∨ (0xDFFF < n ∧ n < 0x110000) := by split_ifs at h₁ <;> omega
  rw [String.utf8EncodeChar, toNat_val_ofNat hvalid]
  rw [if_neg (by omega), if_neg (by omega), if_pos (by omega), ofNat_eq (b := b₀) (by omega),
    ofNat_eq (b := b₁) (by omega), ofNat_eq (b := b₂) (by omega)]

/-- The bytes of a character of four bytes; the bounds of the second exclude what three bytes would
do for, and the numbers beyond the last character. -/
theorem encodeChar_four (h₀ : 0xF0 ≤ b₀.toNat ∧ b₀.toNat ≤ 0xF4)
    (h₁ : (if b₀.toNat = 0xF0 then 0x90 else 0x80) ≤ b₁.toNat ∧
      b₁.toNat ≤ (if b₀.toNat = 0xF4 then 0x8F else 0xBF))
    (h₂ : 0x80 ≤ b₂.toNat ∧ b₂.toNat ≤ 0xBF) (h₃ : 0x80 ≤ b₃.toNat ∧ b₃.toNat ≤ 0xBF) :
    String.utf8EncodeChar
      (Char.ofNat (((b₀.toNat % 8 * 64 + b₁.toNat % 64) * 64 + b₂.toNat % 64) * 64 +
        b₃.toNat % 64)) = [b₀, b₁, b₂, b₃] := by
  generalize hn :
    ((b₀.toNat % 8 * 64 + b₁.toNat % 64) * 64 + b₂.toNat % 64) * 64 + b₃.toNat % 64 = n
  have hsecond : 0x80 ≤ b₁.toNat ∧ b₁.toNat ≤ 0xBF := by split_ifs at h₁ <;> omega
  have hrange : 0x10000 ≤ n ∧ n < 0x110000 := by split_ifs at h₁ <;> omega
  rw [String.utf8EncodeChar, toNat_val_ofNat (by omega)]
  rw [if_neg (by omega), if_neg (by omega), if_neg (by omega), ofNat_eq (b := b₀) (by omega),
    ofNat_eq (b := b₁) (by omega), ofNat_eq (b := b₂) (by omega), ofNat_eq (b := b₃) (by omega)]

/-! ## Bytes without a malformed piece -/

/-- A character under way is not malformed only if a fitting byte comes next. -/
theorem exists_next {bits more : Nat} {lo hi : UInt8} {bs : List UInt8}
    (h : (run (.within bits more lo hi) bs).all Option.isSome = true) :
    ∃ b rest, bs = b :: rest ∧ lo ≤ b ∧ b ≤ hi := by
  cases bs with
  | nil => simp [run, finish] at h
  | cons b rest =>
      by_cases hb : lo ≤ b ∧ b ≤ hi
      · exact ⟨b, rest, rfl, hb⟩
      · simp [run, step, hb] at h

/-- **Bytes without a malformed piece begin with those of a character**, which is decoded first. -/
theorem exists_encodeChar {bs : List UInt8} (hne : bs ≠ [])
    (h : (run .boundary bs).all Option.isSome = true) :
    ∃ c rest, bs = String.utf8EncodeChar c ++ rest := by
  obtain ⟨b₀, rest, rfl⟩ := List.exists_cons_of_ne_nil hne
  rcases stepBoundary_cases b₀ with ⟨hb, -⟩ | ⟨-, s, -, hlead⟩ | ⟨-, hstep⟩
  · refine ⟨Char.ofNat b₀.toNat, rest, ?_⟩
    simp only [UInt8.lt_iff_toNat_lt, UInt8.reduceToNat] at hb
    rw [String.utf8EncodeChar, toNat_val_ofNat (by omega)]
    rw [if_pos (by omega), UInt8.ofNat_toNat, List.singleton_append]
  · rw [run_lead hlead] at h
    rcases lead_cases hlead with ⟨hlo, hhi, rfl⟩ | ⟨hlo, hhi, rfl⟩ | ⟨hlo, hhi, rfl⟩
    · obtain ⟨b₁, rest, rfl, h₁⟩ := exists_next h
      simp only [UInt8.le_iff_toNat_le, UInt8.reduceToNat] at h₁
      exact ⟨_, rest, by rw [encodeChar_two ⟨hlo, hhi⟩ h₁]; rfl⟩
    · obtain ⟨b₁, rest, rfl, h₁⟩ := exists_next h
      rw [run_within h₁ (by decide)] at h
      obtain ⟨b₂, rest, rfl, h₂⟩ := exists_next h
      simp only [UInt8.le_iff_toNat_le, apply_ite UInt8.toNat, UInt8.reduceToNat] at h₁ h₂
      exact ⟨_, rest, by rw [encodeChar_three ⟨hlo, hhi⟩ h₁ h₂]; rfl⟩
    · obtain ⟨b₁, rest, rfl, h₁⟩ := exists_next h
      rw [run_within h₁ (by decide)] at h
      obtain ⟨b₂, rest, rfl, h₂⟩ := exists_next h
      rw [run_within h₂ (by decide)] at h
      obtain ⟨b₃, rest, rfl, h₃⟩ := exists_next h
      simp only [UInt8.le_iff_toNat_le, apply_ite UInt8.toNat, UInt8.reduceToNat] at h₁ h₂ h₃
      exact ⟨_, rest, by rw [encodeChar_four ⟨hlo, hhi⟩ h₁ h₂ h₃]; rfl⟩
  · rw [run, step, hstep] at h
    simp at h

/-- So they are the bytes of characters throughout. The induction is on how many bytes are left. -/
theorem exists_text {bs : List UInt8} (h : (run .boundary bs).all Option.isSome = true) :
    ∃ cs : List Char, bs = cs.flatMap String.utf8EncodeChar := by
  induction hlength : bs.length using Nat.strongRecOn generalizing bs with
  | ind n ih =>
      by_cases hne : bs = []
      · exact ⟨[], hne⟩
      obtain ⟨c, rest, rfl⟩ := exists_encodeChar hne h
      rw [run_encodeChar, List.all_cons, Bool.and_eq_true] at h
      have hshorter : rest.length < n := by
        have hpos := String.length_utf8EncodeChar c ▸ Char.utf8Size_pos c
        rw [← hlength, List.length_append]
        omega
      obtain ⟨cs, hrest⟩ := ih rest.length hshorter h.2 rfl
      exact ⟨c :: cs, by rw [List.flatMap_cons, ← hrest]⟩

/-- **A byte string has a text exactly if it is the bytes of that text.** -/
theorem decode?_eq_some_iff {bs : List UInt8} {text : String} :
    decode? bs = some text ↔ bs = encode text := by
  have hlossy (h : (units bs).all Option.isSome = true) : decode? bs = some (decodeLossy bs) :=
    if_pos h
  constructor
  · intro hdecode
    by_cases hall : (units bs).all Option.isSome = true
    · obtain ⟨cs, hcs⟩ := exists_text (units_eq_run bs ▸ hall)
      have hbytes : bs = encode (String.ofList cs) := by
        rw [encode_eq_flatMap, String.toList_ofList, ← hcs]
      rw [hlossy hall, hbytes, decodeLossy_encode, Option.some_inj] at hdecode
      rw [hbytes, hdecode]
    · rw [decode?, if_neg hall] at hdecode
      cases hdecode
  · rintro rfl
    have hall : (units (encode text)).all Option.isSome = true := by
      rw [units_eq_run, encode_eq_flatMap, run_encode]
      simp
    rw [decode?, if_pos hall]
    exact congrArg some (decodeLossy_encode text)

end ChildWatch.Text.Utf8
