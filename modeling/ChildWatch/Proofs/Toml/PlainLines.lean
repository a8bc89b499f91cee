import ChildWatch.Toml.Document

/-! # Documents of plain lines

The simplest documents are made of lines `key = value`, whose keys are bare and whose values are
numbers or words in quotes. Reading gives their keys and values back, in the order of the lines.

* `Scalar.ofWord_toDigits` — a number is read back from its digits.
* `PlainValue`, `PlainLine` — what may stand in such a line; `PlainLine.Lined` — a text of them.
* `Reader.value_plain`, `Document.pair_plain` — one value, one line; `Document.lines_plain` — all of
  them, by induction.
* `Document.parse_lined` — the whole text. -/

namespace ChildWatch.Toml

/-! ## Numbers -/

/-- Characters are told apart by a test that only one of them passes. -/
theorem ne_of_passes {test : Char → Bool} {k : Char} (hk : test k = true) (other : Char)
    (hother : test other = false) : k ≠ other := by
  rintro rfl
  rw [hk] at hother
  cases hother

/-- Digits with no low line between them are taken as they are. -/
theorem plainDigits?_of_isDigit {cs : List Char} (hne : cs ≠ [])
    (hdigits : ∀ c ∈ cs, c.isDigit = true) : plainDigits? Char.isDigit cs = some cs := by
  induction cs with
  | nil => exact absurd rfl hne
  | cons d rest ih =>
      have hd : d.isDigit = true := hdigits d List.mem_cons_self
      have hrest : ∀ c ∈ rest, c.isDigit = true := fun c hc => hdigits c (List.mem_cons_of_mem d hc)
      cases rest with
      | nil => simp [plainDigits?, hd]
      | cons e more =>
          have he : e ≠ '_' := ne_of_passes (hrest e List.mem_cons_self) _ (by decide)
          have hmore := ih (List.cons_ne_nil e more) hrest
          simp [plainDigits?, hd, he, hmore]

/-- The value of digits does not depend on the way it is worked out. -/
theorem digitsValue_eq_ofDigitChars {cs : List Char} (hdigits : ∀ c ∈ cs, c.isDigit = true) :
    digitsValue 10 cs = Nat.ofDigitChars 10 cs 0 := by
  have hfold (sum : Nat) : cs.foldl (fun n d => 10 * n + (Reader.hexValue? d).getD 0) sum =
      Nat.ofDigitChars 10 cs sum := by
    induction cs generalizing sum with
    | nil => rfl
    | cons d rest ih =>
        have hd : d.isDigit = true := hdigits d List.mem_cons_self
        rw [List.foldl_cons, ih fun c hc => hdigits c (List.mem_cons_of_mem d hc),
          Reader.hexValue?, if_pos hd]
        rfl
  exact hfold 0

/-- The digits of a number begin with a zero only if it is zero. -/
theorem head?_toDigits_ne {n : Nat} (hn : 0 < n) : (Nat.toDigits 10 n).head? ≠ some '0' := by
  induction n using Nat.strongRecOn with
  | ind n ih =>
      rcases Nat.lt_or_ge n 10 with hlt | hge
      · rw [Nat.toDigits_of_lt_base hlt]
        intro hhead
        have hdigit : n.digitChar = '0' := by simpa using hhead
        have hall : ∀ k < 10, 0 < k → k.digitChar ≠ '0' := by decide
        exact hall n hlt hn hdigit
      · have hrest := ih (n / 10) (by omega) (by omega)
        rw [Nat.toDigits_of_base_le (by omega) hge]
        obtain ⟨d, ds, heq⟩ :=
          List.exists_cons_of_ne_nil (Nat.toDigits_ne_nil (n := n / 10) (b := 10))
        rw [heq] at hrest ⊢
        exact hrest

variable (n : Nat)

/-- The digits of a number. -/
theorem isDigit_toDigits : ∀ c ∈ Nat.toDigits 10 n, c.isDigit = true :=
  fun _ hc => Nat.isDigit_of_mem_toDigits (by omega) (by omega) hc

theorem wholeDigits?_toDigits : wholeDigits? (Nat.toDigits 10 n) = some (Nat.toDigits 10 n) := by
  have hplain := plainDigits?_of_isDigit Nat.toDigits_ne_nil (isDigit_toDigits n)
  rcases Nat.eq_zero_or_pos n with rfl | hn
  · rfl
  · have hhead := head?_toDigits_ne hn
    generalize Nat.toDigits 10 n = cs at hplain hhead
    unfold wholeDigits?
    split
    · simp at hhead
    · exact hplain

/-- **The digits of a number are read as the number.** -/
theorem integer?_toDigits : integer? (Nat.toDigits 10 n) = some (n : Int) := by
  have hdigits := isDigit_toDigits n
  have hwhole := wholeDigits?_toDigits n
  have hvalue : digitsValue 10 (Nat.toDigits 10 n) = n := by
    rw [digitsValue_eq_ofDigitChars hdigits, Nat.ofDigitChars_toDigits (by omega) (by omega)]
  -- a sign or the letter of a base is no digit
  unfold integer?
  split
  case h_6 => rw [hwhole, Option.map_some, hvalue]
  all_goals
    next heq =>
      rw [heq] at hdigits
      simp at hdigits

/-- **So is the word that they make.** -/
theorem Scalar.ofWord_toDigits (hn : (n : Int) ≤ maxInteger) :
    ofWord (Nat.toDigits 10 n) = .ok (.integer n) := by
  have hword {word : String} (k : Char) (hk : k ∈ word.toList) (hdigit : k.isDigit = false) :
      String.ofList (Nat.toDigits 10 n) ≠ word := by
    rintro rfl
    rw [String.toList_ofList] at hk
    rw [isDigit_toDigits n k hk] at hdigit
    cases hdigit
  have hmin : minInteger ≤ (n : Int) := by
    rw [minInteger]
    omega
  rw [ofWord, if_neg (hword 't' (by decide) (by decide)),
    if_neg (hword 'f' (by decide) (by decide)), integer?_toDigits]
  simp only [if_pos (And.intro hn hmin)]

/-! ## Values -/

/-- A character that **stands for itself** in double quotes. -/
def Reader.isLiteral (k : Char) : Bool := isPlain k && k != '"' && k != '\\'

/-- A **plain value**: a number from zero on, or a word in quotes. -/
inductive PlainValue where
  | number (n : Nat)
  | word (w : String)

namespace PlainValue

/-- The text of a value. -/
def text : PlainValue → String
  | number n => toString n
  | word w => "\"" ++ w ++ "\""

/-- What a value is in a document. -/
def node : PlainValue → Node
  | number n => .scalar (.integer n)
  | word w => .scalar (.string w)

/-- **Fitting values**: a number that is not beyond what a document may hold, a word of characters
that stand for themselves. -/
def Fits : PlainValue → Prop
  | number n => (n : Int) ≤ Scalar.maxInteger
  | word w => ∀ k ∈ w.toList, Reader.isLiteral k = true

end PlainValue

namespace Reader

variable {c : Cursor} {tail : List Char}

/-- **A line ends**: a line feed comes, alone or after a carriage return, and then the tail; or there
is nothing more. -/
inductive LineEnds : List Char → List Char → Prop where
  | lineFeed (tail : List Char) : LineEnds ('\n' :: tail) tail
  | returned (tail : List Char) : LineEnds ('\r' :: '\n' :: tail) tail
  | atEnd : LineEnds [] []

/-- A run of characters that pass a test, up to one that fails it or to the end. -/
theorem takeWhile_append {p : Char → Bool} {run rest : List Char} (hc : c.rest = run ++ rest)
    (hrun : ∀ c ∈ run, p c = true) (hrest : ∀ k ∈ rest.head?, p k = false) :
    (c.takeWhile p).1 = run ∧ (c.takeWhile p).2.rest = rest := by
  have hnothing : rest.takeWhile p = [] ∧ rest.dropWhile p = rest := by
    cases rest with
    | nil => exact ⟨rfl, rfl⟩
    | cons k more => simp [hrest k rfl]
  simp [Cursor.takeWhile, hc, List.takeWhile_append_of_pos hrun,
    List.dropWhile_append_of_pos hrun, hnothing]

variable {rest : List Char}

/-- A test that no line end passes is not passed where a line ends. -/
theorem LineEnds.head (hrest : LineEnds rest tail) {p : Char → Bool} (hfeed : p '\n' = false)
    (hreturn : p '\r' = false) : ∀ k ∈ rest.head?, p k = false := by
  cases hrest with
  | lineFeed => simpa using hfeed
  | returned => simpa using hreturn
  | atEnd => simp

/-- A word of digits is read as their number, if the line ends there. -/
theorem readWord_toDigits {n : Nat} (hn : (n : Int) ≤ Scalar.maxInteger)
    (hends : LineEnds rest tail) (hc : c.rest = Nat.toDigits 10 n ++ rest) :
    ∃ next, readWord c = .ok (.integer n, next) ∧ next.rest = rest := by
  have hword : ∀ k ∈ Nat.toDigits 10 n, isWordChar k = true := by
    intro k hk
    simp [isWordChar, Char.isAlphanum, isDigit_toDigits n k hk]
  obtain ⟨hrun, hrest⟩ := takeWhile_append hc hword (hends.head (by decide) (by decide))
  rw [readWord]
  generalize c.takeWhile isWordChar = taken at hrun hrest ⊢
  obtain ⟨word, next⟩ := taken
  obtain rfl : word = Nat.toDigits 10 n := hrun
  have hjoins : joinsTime (Nat.toDigits 10 n) next.rest = false := by
    have hnext : next.rest = rest := hrest
    rw [hnext]
    cases hends with
    | lineFeed => simp [joinsTime]
    | returned => simp [joinsTime]
    | atEnd => simp [joinsTime]
  simp only [hjoins, Bool.false_eq_true, if_false, List.isEmpty_iff, Nat.toDigits_ne_nil,
    Scalar.ofWord_toDigits n hn]
  exact ⟨_, rfl, hrest⟩

/-- The characters of a word are read up to the quote that closes it. The induction is on those that
are left; `done` are the ones before. -/
theorem oneLine_plain {fuel : Nat} {done word : List Char} (hfuel : word.length < fuel)
    (hword : ∀ k ∈ word, isLiteral k = true)
    (hc : c.rest = word ++ '"' :: tail) :
    ∃ next, oneLine '"' fuel done c = .ok (String.ofList (done.reverse ++ word), next) ∧
      next.rest = tail := by
  induction word generalizing fuel done c with
  | nil =>
      obtain ⟨fuel, rfl⟩ := Nat.exists_eq_succ_of_ne_zero (Nat.ne_of_gt hfuel)
      rw [oneLine, hc, List.append_nil]
      exact ⟨_, if_pos rfl, rfl⟩
  | cons k word ih =>
      obtain ⟨fuel, rfl⟩ := Nat.exists_eq_succ_of_ne_zero (Nat.ne_zero_of_lt hfuel)
      obtain ⟨⟨hplain, hquote⟩, hescape⟩ : (isPlain k = true ∧ k ≠ '"') ∧ k ≠ '\\' := by
        simpa [isLiteral] using hword k List.mem_cons_self
      have hdone : done.reverse ++ k :: word = (k :: done).reverse ++ word := by simp
      have hword' : ∀ k ∈ word, isLiteral k = true :=
        fun k' hk' => hword k' (List.mem_cons_of_mem k hk')
      rw [oneLine, hc, hdone]
      simp only [List.cons_append, if_neg hquote, hescape, false_and, if_false, hplain, if_true]
      exact ih (Nat.lt_of_succ_lt_succ hfuel) hword' rfl

/-- A word in quotes is read as it is. -/
theorem readString_plain {word : List Char}
    (hword : ∀ k ∈ word, isLiteral k = true) (hends : LineEnds rest tail)
    (hc : c.rest = '"' :: (word ++ '"' :: rest)) :
    ∃ next, readString true c = .ok (String.ofList word, next) ∧ next.rest = rest := by
  -- three quotes would begin a string of several lines; behind an empty word the line ends
  have hsingle : (c.rest.take 3 == ['"', '"', '"']) = false := by
    rw [hc]
    cases word with
    | nil => cases hends <;> simp
    | cons k rest =>
        have hk : k ≠ '"' := ne_of_passes (hword k List.mem_cons_self) '"' (by decide)
        simp [hk]
  rw [readString, hc]
  simp only [← hc, hsingle, Bool.and_false, Bool.false_eq_true, if_false]
  have hfuel : word.length < (word ++ '"' :: rest).length + 1 := by
    rw [List.length_append]
    omega
  exact oneLine_plain hfuel hword rfl

/-- **A plain value is read as it is**, if the line ends there. -/
theorem value_plain {v : PlainValue} (hv : v.Fits) (hends : LineEnds rest tail)
    (hc : c.rest = v.text.toList ++ rest) (fuel depth : Nat) :
    ∃ next, value (fuel + 1) depth c = .ok (v.node, next) ∧ next.rest = rest := by
  cases v with
  | number n =>
      rw [PlainValue.text, Nat.toString_eq_repr, Nat.toList_repr] at hc
      obtain ⟨next, hread, hnext⟩ := readWord_toDigits hv hends hc
      refine ⟨next, ?_, hnext⟩
      obtain ⟨d, ds, heq⟩ := List.exists_cons_of_ne_nil (Nat.toDigits_ne_nil (n := n) (b := 10))
      have hd : d.isDigit = true := isDigit_toDigits n d (heq ▸ List.mem_cons_self)
      have hquote : d ≠ '"' ∧ d ≠ '\'' :=
        ⟨ne_of_passes hd _ (by decide), ne_of_passes hd _ (by decide)⟩
      have hbracket : d ≠ '[' ∧ d ≠ '\x7B' :=
        ⟨ne_of_passes hd _ (by decide), ne_of_passes hd _ (by decide)⟩
      rw [value, hread, hc, heq]
      simp [hquote, hbracket, PlainValue.node]
  | word w =>
      have hlist : c.rest = '"' :: (w.toList ++ '"' :: rest) := by
        rw [hc, PlainValue.text]
        simp
      obtain ⟨next, hread, hnext⟩ := readString_plain hv hends hlist
      refine ⟨next, ?_, hnext⟩
      rw [value, hread, hlist, String.ofList_toList]
      rfl

/-! ## Blanks and line ends -/

/-- What is no blank is not passed over. -/
theorem skipBlanks_eq {k : Char} (hk : isBlank k = false) (hc : c.rest = k :: tail) :
    (skipBlanks c).rest = k :: tail := by
  simp [skipBlanks, Cursor.takeWhile, hc, hk]

/-- A blank is. -/
theorem skipBlanks_blank {k : Char} (hk : isBlank k = false) (hc : c.rest = ' ' :: k :: tail) :
    (skipBlanks c).rest = k :: tail := by
  have hblank : isBlank ' ' = true := by decide
  simp [skipBlanks, Cursor.takeWhile, hc, hblank, hk]

/-- What is no comment is not passed over. -/
theorem skipComment_eq {k : Char} (hk : k ≠ '#') (hc : c.rest = k :: tail) : skipComment c = c := by
  simp [skipComment, hc, hk]

/-- At the end of a text there are no blanks. -/
theorem skipBlanks_nil (hc : c.rest = []) : (skipBlanks c).rest = [] := by
  rw [skipBlanks, Cursor.takeWhile, hc]
  rfl

/-- Nor is there a comment. -/
theorem skipComment_nil (hc : c.rest = []) : skipComment c = c := by
  rw [skipComment, hc]

/-- Where a line ends, the rest of it holds nothing more. -/
theorem finishLine_of_lineEnds (hends : LineEnds c.rest tail) :
    ∃ next, finishLine c = .ok next ∧ next.rest = tail := by
  generalize hc : c.rest = rest at hends
  cases hends with
  | lineFeed =>
      have hblanks : (skipBlanks c).rest = '\n' :: tail := skipBlanks_eq (by decide) hc
      refine ⟨(skipBlanks c).drop 1, ?_, ?_⟩
      · simp only [finishLine, skipComment_eq (by decide) hblanks, lineEnd?, hblanks]
      · rw [Cursor.drop, hblanks]
        rfl
  | returned =>
      have hblanks : (skipBlanks c).rest = '\r' :: '\n' :: tail := skipBlanks_eq (by decide) hc
      refine ⟨(skipBlanks c).drop 2, ?_, ?_⟩
      · simp only [finishLine, skipComment_eq (by decide) hblanks, lineEnd?, hblanks]
      · rw [Cursor.drop, hblanks]
        rfl
  | atEnd =>
      have hblanks := skipBlanks_nil hc
      refine ⟨skipBlanks c, ?_, hblanks⟩
      simp only [finishLine, skipComment_nil hblanks, lineEnd?, hblanks, List.isEmpty_nil, if_true]

/-- Nothing is passed over at the end of a text. -/
theorem skipSpace_nil (hc : c.rest = []) : (skipSpace c).rest = [] := by
  have hblanks := skipBlanks_nil hc
  have hcomment := skipComment_nil hblanks
  rw [skipSpace, skipLines, hcomment, lineEnd?, hblanks]
  exact hblanks

/-! ## Keys -/

/-- A key has no blanks. -/
theorem isBlank_of_isKeyChar {k : Char} (hk : isKeyChar k = true) : isBlank k = false := by
  simp [isBlank, ne_of_passes hk ' ' (by decide),
    ne_of_passes hk '\t' (by decide)]

/-- Nothing is passed over before a key. -/
theorem skipSpace_key {k : Char} (hk : isKeyChar k = true) (hc : c.rest = k :: tail) :
    (skipSpace c).rest = k :: tail := by
  have hblanks : (skipBlanks c).rest = k :: tail :=
    skipBlanks_eq (isBlank_of_isKeyChar hk) hc
  have hcomment := skipComment_eq (ne_of_passes hk _ (by decide)) hblanks
  rw [skipSpace, skipLines, hcomment, lineEnd?, hblanks]
  simp [ne_of_passes hk '\n' (by decide),
    ne_of_passes hk '\r' (by decide), hblanks]

/-- A bare key is read up to the blank behind it. -/
theorem keyPart_plain {key : List Char} (hne : key ≠ []) (hkey : ∀ k ∈ key, isKeyChar k = true)
    (hc : c.rest = key ++ ' ' :: tail) :
    ∃ span next, keyPart c = .ok (⟨String.ofList key, span⟩, next) ∧ next.rest = ' ' :: tail := by
  have hstop : ∀ k ∈ (' ' :: tail).head?, isKeyChar k = false := by simp [isKeyChar]
  obtain ⟨hrun, hrest⟩ := takeWhile_append hc hkey hstop
  obtain ⟨k, ks, rfl⟩ := List.exists_cons_of_ne_nil hne
  have hk : isKeyChar k = true := hkey k List.mem_cons_self
  refine ⟨⟨c.pos, (c.takeWhile isKeyChar).2.pos⟩, (c.takeWhile isKeyChar).2, ?_, hrest⟩
  rw [keyPart, hc]
  simp [hrun, ne_of_passes hk '"' (by decide),
    ne_of_passes hk '\'' (by decide)]

/-- **A bare key is read**, and the blank behind it is passed over. -/
theorem readKey_plain {key : List Char} (hne : key ≠ []) (hkey : ∀ k ∈ key, isKeyChar k = true)
    (hc : c.rest = key ++ ' ' :: '=' :: tail) :
    ∃ span next, readKey c = .ok (([], ⟨String.ofList key, span⟩), next) ∧
      next.rest = '=' :: tail := by
  have hstart : (skipBlanks c).rest = key ++ ' ' :: '=' :: tail := by
    obtain ⟨k, ks, rfl⟩ := List.exists_cons_of_ne_nil hne
    exact skipBlanks_eq (isBlank_of_isKeyChar (hkey k List.mem_cons_self)) hc
  obtain ⟨span, next, hpart, hnext⟩ := keyPart_plain hne hkey hstart
  have hequals : (skipBlanks next).rest = '=' :: tail := skipBlanks_blank (by decide) hnext
  refine ⟨span, skipBlanks next, ?_, hequals⟩
  simp [readKey, keyPath, hpart, hequals]

/-! ## Values behind an equals sign -/

/-- A plain value does not begin with a blank. -/
theorem exists_text_eq_cons (v : PlainValue) :
    ∃ k more, v.text.toList = k :: more ∧ isBlank k = false := by
  cases v with
  | number n =>
      obtain ⟨d, ds, heq⟩ := List.exists_cons_of_ne_nil (Nat.toDigits_ne_nil (n := n) (b := 10))
      have hd : d.isDigit = true := isDigit_toDigits n d (heq ▸ List.mem_cons_self)
      refine ⟨d, ds, ?_, ?_⟩
      · rw [PlainValue.text, Nat.toString_eq_repr, Nat.toList_repr, heq]
      · exact isBlank_of_isKeyChar (by simp [isKeyChar, Char.isAlphanum, hd])
  | word w => exact ⟨'"', w.toList ++ ['"'], by simp [PlainValue.text], by decide⟩

/-- **A plain value is read behind its equals sign**, and a blank. -/
theorem readValue_plain {v : PlainValue} (hv : v.Fits) (hends : LineEnds rest tail)
    (hc : c.rest = '=' :: ' ' :: (v.text.toList ++ rest)) :
    ∃ start span next, expect '=' c = .ok start ∧
      readValue (skipBlanks start) = .ok ((span, v.node), next) ∧ next.rest = rest := by
  obtain ⟨k, more, htext, hk⟩ := exists_text_eq_cons v
  have hdrop : (c.drop 1).rest = ' ' :: k :: (more ++ rest) := by
    rw [Cursor.drop, hc, htext]
    rfl
  have hstart : (skipBlanks (c.drop 1)).rest = v.text.toList ++ rest := by
    rw [skipBlanks_blank hk hdrop, htext, List.cons_append]
  generalize hcursor : skipBlanks (c.drop 1) = start at hstart
  obtain ⟨next, hread, hnext⟩ := value_plain hv hends hstart (2 * start.rest.length + 1) maxDepth
  refine ⟨c.drop 1, ⟨start.pos, next.pos⟩, next, ?_, ?_, hnext⟩
  · simp [expect, hc]
  · rw [hcursor, readValue, hread]
    rfl

end Reader

/-! ## Lines -/

/-- A **plain line**: a bare key and a plain value. -/
structure PlainLine where
  key : String
  value : PlainValue
  key_ne : key.toList ≠ []
  isKeyChar_key : ∀ k ∈ key.toList, Reader.isKeyChar k = true
  value_fits : value.Fits

namespace PlainLine

/-- A line without its end. -/
def setting (l : PlainLine) : String := l.key ++ " = " ++ l.value.text

/-- The text of a line. -/
def text (l : PlainLine) : String := l.setting ++ "\n"

/-- What a line says. -/
def named (l : PlainLine) : String × Node := (l.key, l.value.node)

theorem toList_setting (l : PlainLine) :
    l.setting.toList = l.key.toList ++ ' ' :: '=' :: ' ' :: l.value.text.toList := by
  simp [setting]

/-- A line begins with its key. -/
theorem exists_setting_eq_cons (l : PlainLine) :
    ∃ k more, l.setting.toList = k :: more ∧ Reader.isKeyChar k = true := by
  obtain ⟨k, ks, hkey⟩ := List.exists_cons_of_ne_nil l.key_ne
  have htext := l.toList_setting
  rw [hkey, List.cons_append] at htext
  exact ⟨k, _, htext, l.isKeyChar_key k (hkey ▸ List.mem_cons_self)⟩

/-- A text **made of lines**, in their order: each ends in a line feed, alone or after a carriage
return, and the last of them may do without. -/
inductive Lined : List PlainLine → List Char → Prop where
  | nil : Lined [] []
  | cons {l : PlainLine} {ls : List PlainLine} {rest tail : List Char}
    (hends : Reader.LineEnds rest tail) (hmore : Lined ls tail) :
    Lined (l :: ls) (l.setting.toList ++ rest)

/-- Lines that end in a line feed each. -/
theorem lined_flatMap (ls : List PlainLine) : Lined ls (ls.flatMap (·.text.toList)) := by
  induction ls with
  | nil => exact .nil
  | cons l rest ih =>
      have htext : l.text.toList = l.setting.toList ++ ['\n'] := by simp [text]
      rw [List.flatMap_cons, htext, List.append_assoc, List.singleton_append]
      exact .cons (.lineFeed _) ih

/-- A text has a character for each of its lines. -/
theorem Lined.length_le {ls : List PlainLine} {chars : List Char} (h : Lined ls chars) :
    ls.length ≤ chars.length := by
  induction h with
  | nil => exact Nat.le_refl 0
  | @cons l ls rest tail hends _ ih =>
      obtain ⟨k, more, htext, -⟩ := l.exists_setting_eq_cons
      have htail : tail.length ≤ rest.length := by
        cases hends with
        | lineFeed => exact Nat.le_succ _
        | returned => exact Nat.le_add_right _ 2
        | atEnd => exact Nat.le_refl 0
      rw [htext, List.length_append, List.length_cons, List.length_cons]
      omega

/-- A text begins with the key of its first line. -/
theorem Lined.head {ls : List PlainLine} {chars : List Char} (h : Lined ls chars) :
    chars = [] ∨ ∃ k more, chars = k :: more ∧ Reader.isKeyChar k = true := by
  cases h with
  | nil => exact Or.inl rfl
  | @cons l _ rest _ _ _ =>
      obtain ⟨k, more, htext, hk⟩ := l.exists_setting_eq_cons
      exact Or.inr ⟨k, more ++ rest, by rw [htext, List.cons_append], hk⟩

end PlainLine

/-- What an entry says, without the places that it stands at. -/
def Entry.named (e : Entry) : String × Node := (e.1.text, e.2.2)

/-- One more entry brings one more key. -/
theorem Entry.find?_concat_eq_none {entries : List Entry} {entry : Entry} {key : String}
    (hold : Entry.find? entries key = none) (hne : entry.1.text ≠ key) :
    Entry.find? (entries ++ [entry]) key = none := by
  rw [Entry.find?] at hold ⊢
  rw [List.find?_append, hold]
  simp [hne]

namespace Document

open Reader

variable {s : State} {c : Cursor} {rest tail : List Char}

/-- **One plain line** adds its key and its value, if the key is new. -/
theorem pair_plain (l : PlainLine) (hheader : s.header = [])
    (hnew : Entry.find? s.root l.key = none) (hends : LineEnds rest tail)
    (hc : c.rest = l.setting.toList ++ rest) :
    ∃ entry next, pair s c = .ok (⟨s.root ++ [entry], []⟩, next) ∧
      Entry.named entry = l.named ∧ next.rest = rest := by
  rw [l.toList_setting, List.append_assoc, List.cons_append, List.cons_append,
    List.cons_append] at hc
  obtain ⟨keySpan, next, hkey, hnext⟩ := readKey_plain l.key_ne l.isKeyChar_key hc
  obtain ⟨start, span, last, hequals, hvalue, hlast⟩ := readValue_plain l.value_fits hends hnext
  refine ⟨(⟨l.key, keySpan⟩, span, l.value.node), last, ?_, rfl, hlast⟩
  have hinsert : Table.insertUnder s.root s.header [] ⟨l.key, keySpan⟩ span l.value.node =
      .ok (s.root ++ [(⟨l.key, keySpan⟩, span, l.value.node)]) := by
    rw [hheader]
    simp [Table.insertUnder, Table.insert, Table.descend, hnew]
  rw [String.ofList_toList] at hkey
  simp only [pair, hkey, bind, Except.bind, hequals, hvalue, hinsert, pure, Except.pure]
  rw [hheader]

/-- **Plain lines add their keys and values**, in their order. The induction is on the lines. -/
theorem lines_plain {ls : List PlainLine} {fuel : Nat} (hfuel : ls.length < fuel)
    (hheader : s.header = [])
    (hnew : ∀ l ∈ ls, Entry.find? s.root l.key = none) (hdistinct : (ls.map (·.key)).Nodup)
    (hc : PlainLine.Lined ls c.rest) :
    ∃ entries next, lines fuel s c = .ok (⟨s.root ++ entries, []⟩, next) ∧
      entries.map Entry.named = ls.map PlainLine.named := by
  generalize hchars : c.rest = chars at hc
  induction hc generalizing fuel s c with
  | nil =>
      obtain ⟨fuel, rfl⟩ := Nat.exists_eq_succ_of_ne_zero (Nat.ne_zero_of_lt hfuel)
      refine ⟨[], skipSpace c, ?_, rfl⟩
      simp only [lines, skipSpace_nil hchars, List.append_nil, ← hheader]
  | @cons l ls rest tail hends hmore ih =>
      obtain ⟨fuel, rfl⟩ := Nat.exists_eq_succ_of_ne_zero (Nat.ne_zero_of_lt hfuel)
      rw [List.map_cons, List.nodup_cons] at hdistinct
      obtain ⟨hfirst, hdistinct⟩ := hdistinct
      obtain ⟨k, more, htext, hk⟩ := l.exists_setting_eq_cons
      have hbegin : c.rest = k :: (more ++ rest) := by
        rw [hchars, htext, List.cons_append]
      have hspace := skipSpace_key hk hbegin
      have hspace' : (skipSpace c).rest = l.setting.toList ++ rest := by
        rw [hspace, ← hbegin, hchars]
      obtain ⟨entry, next, hpair, hnamed, hnext⟩ :=
        pair_plain l hheader (hnew l List.mem_cons_self) hends hspace'
      obtain ⟨after, hfinish, hafter⟩ := finishLine_of_lineEnds (hnext ▸ hends)
      have hkey : entry.1.text = l.key := congrArg Prod.fst hnamed
      have hnew' : ∀ l' ∈ ls, Entry.find? (s.root ++ [entry]) l'.key = none := by
        intro l' hl'
        apply Entry.find?_concat_eq_none (hnew l' (List.mem_cons_of_mem l hl'))
        rw [hkey]
        intro heq
        exact hfirst (heq ▸ List.mem_map_of_mem hl')
      obtain ⟨entries, last, hlines, hall⟩ := ih (Nat.lt_of_succ_lt_succ hfuel)
        (s := ⟨s.root ++ [entry], []⟩) rfl hnew' hdistinct hafter
      refine ⟨entry :: entries, last, ?_, ?_⟩
      · have hbracket : k ≠ '[' := ne_of_passes hk _ (by decide)
        simp only [lines, hspace, if_neg hbracket, bind, Except.bind, hpair, hfinish, hlines,
          List.append_assoc, List.singleton_append]
      · rw [List.map_cons, List.map_cons, hnamed, hall]

/-- **A text of plain lines** with different keys is read as their keys and values. -/
theorem parse_lined {ls : List PlainLine} {text : String} (hdistinct : (ls.map (·.key)).Nodup)
    (htext : PlainLine.Lined ls text.toList) :
    ∃ entries wide, parse text = .ok (entries, wide) ∧
      entries.map Entry.named = ls.map PlainLine.named := by
  have hmark : skipMark (.ofText text.toList) = .ofText text.toList := by
    rcases htext.head with hempty | ⟨k, more, hchars, hk⟩
    · rw [hempty]
      rfl
    · have hne : k ≠ '\uFEFF' := ne_of_passes hk _ (by decide)
      simp [skipMark, Cursor.ofText, hchars, hne]
  obtain ⟨entries, next, hlines, hnamed⟩ :=
    lines_plain (s := ⟨[], []⟩) (c := .ofText text.toList)
      (Nat.lt_succ_of_le htext.length_le) rfl (fun _ _ => rfl) hdistinct htext
  refine ⟨entries, next.wide, ?_, hnamed⟩
  have hrest : (Cursor.ofText text.toList).rest = text.toList := rfl
  simp only [parse, hmark, hrest, hlines]
  rfl

end Document

end ChildWatch.Toml
