import Mathlib.Data.List.TakeWhile
import Mathlib.Tactic.IntervalCases
import Scaffold.Document.Json.Printer
import Scaffold.Document.Json.Token

/-!
# The tokens of a stored document

A document that is stored is laid out over lines, and what is laid out is read as the row of tokens
that its shape calls for. Nothing depends on where a token stands, so the places are left open. A
token ends where the next one starts for all tokens but numbers, and what follows a value in a
stored document is never part of a number.
-/

namespace Scaffold.Document.Json

/-! ### Texts -/

lemma valueIn?_hexDigits : ∀ n < 32, Text.valueIn? 16 (Text.hexDigits 4 n) = some n := by decide

/-- A control character that is written as its code is read as itself. -/
lemma textFrom_codeEscape (start position : Nat) (before : List Char) {c : Char}
    (hc : c.toNat < 32) (x : Char) (rest : List Char) :
    textFrom start position before ('\\' :: 'u' :: Text.hexDigits 4 c.toNat ++ x :: rest) =
      textFrom start (position + 6) (c :: before) (x :: rest) := by
  have hvalue := valueIn?_hexDigits c.toNat hc
  have hhigh : isHighHalf c.toNat = false := by
    rw [isHighHalf, Bool.and_eq_false_iff, decide_eq_false_iff_not]
    exact .inl (by omega)
  have hlow : isLowHalf c.toNat = false := by
    rw [isLowHalf, Bool.and_eq_false_iff, decide_eq_false_iff_not]
    exact .inl (by omega)
  have hback : Char.ofNat c.toNat = c := Char.ofNat_toNat c
  simp only [Text.hexDigits, List.nil_append, List.cons_append] at hvalue ⊢
  -- A second code escape right after the first one is looked at together with it.
  by_cases hpair : ∃ e f g h more, x = '\\' ∧ rest = 'u' :: e :: f :: g :: h :: more
  · obtain ⟨e, f, g, h, more, rfl, rfl⟩ := hpair
    rw [textFrom.eq_2]
    simp only [hvalue, hhigh, hlow, hback]
    simp
  · have hnot : ∀ (e f g h : Char) (more : List Char), x = '\\' →
        rest = 'u' :: e :: f :: g :: h :: more → False := fun e f g h more hx hr =>
      hpair ⟨e, f, g, h, more, hx, hr⟩
    rw [textFrom.eq_3 _ _ _ _ _ _ _ _ _ hnot]
    simp only [hvalue, hhigh, hlow, hback]
    simp

/-- A character is read as it is written, whatever follows. -/
lemma textFrom_escape (start position : Nat) (before : List Char) (c x : Char)
    (rest : List Char) :
    textFrom start position before (escape c ++ x :: rest) =
      textFrom start (position + (escape c).length) (c :: before) (x :: rest) := by
  unfold escape
  iterate 7
    split
    · next h => simp [h, textFrom, escaped?]
  split
  · next h => exact textFrom_codeEscape start position before h x rest
  · next hbackslash _ _ _ _ _ hcontrol => simp [textFrom, hbackslash, hcontrol]

lemma textFrom_flatMap_escape (start position : Nat) (before t rest : List Char) :
    textFrom start position before (t.flatMap escape ++ '"' :: rest) =
      .ok (String.ofList (before.reverse ++ t), position + (t.flatMap escape).length + 1) := by
  induction t generalizing position before with
  | nil => simp [textFrom]
  | cons c t ih =>
    obtain ⟨x, more, hmore⟩ : ∃ x more, t.flatMap escape ++ '"' :: rest = x :: more :=
      List.exists_cons_of_ne_nil (by simp)
    rw [List.flatMap_cons, List.append_assoc, hmore, textFrom_escape, ← hmore, ih]
    simp [Nat.add_assoc]

/-! ### Integers -/

lemma isDigit_iff {c : Char} : isDigit c = true ↔ 48 ≤ c.toNat ∧ c.toNat ≤ 57 := by
  rw [isDigit, Text.plainDigit?]
  split <;> simp_all

lemma isDigit_of_mem_toDigits {n : Nat} {c : Char} (h : c ∈ Nat.toDigits 10 n) :
    isDigit c = true := by
  have hc := Nat.isDigit_of_mem_toDigits (by decide) (by decide) h
  rw [Char.isDigit, Bool.and_eq_true, decide_eq_true_eq, decide_eq_true_eq] at hc
  rw [isDigit_iff]
  exact ⟨hc.1, hc.2⟩

/-- Digits with no zero in front are those of a number that is not zero. -/
lemma head_toDigits {n : Nat} (h : 0 < n) : ∃ c ds, Nat.toDigits 10 n = c :: ds ∧ c ≠ '0' := by
  induction n using Nat.strongRecOn with
  | ind n ih =>
    rcases Nat.lt_or_ge n 10 with hlt | hge
    · refine ⟨n.digitChar, [], Nat.toDigits_of_lt_base hlt, ?_⟩
      interval_cases n <;> decide
    · obtain ⟨c, ds, hds, hc⟩ := ih (n / 10) (by omega) (by omega)
      refine ⟨c, ds ++ [(n % 10).digitChar], ?_, hc⟩
      rw [Nat.toDigits_of_base_le (by decide) hge, hds, List.cons_append]

lemma digitsValue_toDigits (n : Nat) : digitsValue (Nat.toDigits 10 n) = n := by
  have h := Nat.ofDigitChars_toDigits (b := 10) (n := n) (by decide) (by decide)
  simp only [Nat.ofDigitChars, Nat.mul_comm 10] at h
  exact h

/-- What can follow a value in a stored document. -/
def EndsValue (t : List Char) : Prop := ∀ c ∈ t.head?, c = ',' ∨ c = '\n'

lemma takeWhile_isDigit_of_endsValue {t : List Char} (h : EndsValue t) :
    t.takeWhile isDigit = [] := by
  cases t with
  | nil => rfl
  | cons c rest =>
    rcases h c rfl with rfl | rfl
    · rfl
    · rfl

lemma wholeDigits_toDigits (n : Nat) {t : List Char} (h : EndsValue t) :
    wholeDigits (Nat.toDigits 10 n ++ t) = Nat.toDigits 10 n := by
  rcases Nat.eq_zero_or_pos n with rfl | hn
  · rfl
  · obtain ⟨c, ds, hds, hc⟩ := head_toDigits hn
    have hwhole : wholeDigits (Nat.toDigits 10 n ++ t) =
        (Nat.toDigits 10 n ++ t).takeWhile isDigit := by
      rw [hds, List.cons_append, wholeDigits.eq_2 _ fun rest hrest => hc (List.cons.inj hrest).1]
    rw [hwhole, List.takeWhile_append_of_pos fun c hc => isDigit_of_mem_toDigits hc,
      takeWhile_isDigit_of_endsValue h, List.append_nil]

/-- Whether an integer has few enough digits to be read. -/
def isShort (n : Int) : Bool := n.natAbs < Number.tenTo Text.maxDigits

/-- The token that an integer is read as. -/
def intToken (n : Int) : Token :=
  if isShort n then .atom (.int n) else .tooLong (Nat.toDigits 10 n.natAbs).length

lemma isShort_iff {n : Int} : isShort n = true ↔ n.natAbs < 10 ^ Text.maxDigits := by
  rw [isShort, decide_eq_true_eq, Number.tenTo, Nat.pow_eq]

lemma isShort_iff_length (n : Int) :
    isShort n = true ↔ (Nat.toDigits 10 n.natAbs).length ≤ Text.maxDigits := by
  have h := Nat.length_toDigits_le_iff (b := 10) (n := n.natAbs) (k := Text.maxDigits) (by decide)
    (by decide)
  rw [h, isShort_iff]

lemma number?_toDigits (negative : Bool) (n : Nat) {t : List Char} (h : EndsValue t) :
    number? negative (Nat.toDigits 10 n ++ t) =
      some (intToken (Number.Binary64.withSign negative n), (Nat.toDigits 10 n).length) := by
  have hfraction : fractionDigits t = [] := by
    cases t with
    | nil => rfl
    | cons c rest =>
      rcases h c rfl with rfl | rfl
      · rfl
      · rfl
  have hexponent : exponentPart? t = none := by
    cases t with
    | nil => rfl
    | cons c rest =>
      rcases h c rfl with rfl | rfl
      · rfl
      · rfl
  have habs : (Number.Binary64.withSign negative n).natAbs = n := by
    cases negative <;> simp [Number.Binary64.withSign]
  have hshort := isShort_iff_length (Number.Binary64.withSign negative n)
  rw [habs, ← not_lt] at hshort
  rw [number?, wholeDigits_toDigits n h]
  simp only [if_neg Nat.toDigits_ne_nil, List.drop_left, hfraction, hexponent, if_pos,
    List.drop_zero, Option.isNone_none, and_self, digitsValue_toDigits, intToken, habs]
  by_cases hlong : Text.maxDigits < (Nat.toDigits 10 n).length
  · rw [if_pos hlong, if_neg (mt hshort.mp (not_not.mpr hlong))]
  · rw [if_neg hlong, if_pos (hshort.mpr hlong)]

lemma word?_digit {c : Char} (hc : isDigit c = true) (t : List Char) : word? (c :: t) = none := by
  rw [isDigit_iff] at hc
  have hne : ∀ d : Char, ¬ (48 ≤ d.toNat ∧ d.toNat ≤ 57) → (d == c) = false := by
    rintro d hd
    rw [beq_eq_false_iff_ne]
    rintro rfl
    exact hd hc
  simp [word?, words, List.isPrefixOf, hne]

lemma word?_minus_digit {c : Char} (hc : isDigit c = true) (t : List Char) :
    word? ('-' :: c :: t) = none := by
  have hne : ('I' == c) = false := by
    rw [beq_eq_false_iff_ne]
    rintro rfl
    cases hc
  simp [word?, words, List.isPrefixOf, hne]

lemma toList_toString_int (n : Int) :
    (toString n).toList = (if n < 0 then ['-'] else []) ++ Nat.toDigits 10 n.natAbs := by
  cases n with
  | ofNat n => simp [toString, Int.repr, Nat.toList_repr]
  | negSucc n => simp [toString, Int.repr, Nat.toList_repr, Int.negSucc_lt_zero]

lemma not_mem_toString_int {c : Char} (hdigit : isDigit c = false) (hminus : c ≠ '-') (n : Int) :
    c ∉ (toString n).toList := by
  rw [toList_toString_int, List.mem_append, not_or]
  refine ⟨by split <;> simp [hminus], fun hmem => ?_⟩
  rw [isDigit_of_mem_toDigits hmem] at hdigit
  cases hdigit

lemma atom?_int (n : Int) {t : List Char} (h : EndsValue t) :
    atom? ((toString n).toList ++ t) = some (intToken n, (toString n).toList.length) := by
  obtain ⟨c, ds, hds⟩ := List.exists_cons_of_ne_nil (Nat.toDigits_ne_nil (b := 10) (n := n.natAbs))
  have hc : isDigit c = true := isDigit_of_mem_toDigits (n := n.natAbs) (by simp [hds])
  have hminus : c ≠ '-' := by
    rintro rfl
    cases hc
  rw [toList_toString_int]
  rcases lt_or_ge n 0 with hn | hn
  · have hword := word?_minus_digit hc (ds ++ t)
    have hnumber := number?_toDigits true n.natAbs h
    have hsign : Number.Binary64.withSign true n.natAbs = n := by
      simp only [Number.Binary64.withSign, if_true, Int.ofNat_eq_natCast]
      omega
    rw [hsign, hds, List.cons_append] at hnumber
    rw [if_pos hn, hds]
    simp only [List.cons_append, List.nil_append, atom?, hword, hnumber, Option.map_some,
      List.length_cons]
  · have hword := word?_digit hc (ds ++ t)
    have hnumber := number?_toDigits false n.natAbs h
    have hsign : Number.Binary64.withSign false n.natAbs = n := by
      simp only [Number.Binary64.withSign, Bool.false_eq_true, if_false, Int.ofNat_eq_natCast]
      omega
    rw [hsign, hds, List.cons_append] at hnumber
    rw [if_neg (not_lt.mpr hn), hds, List.nil_append, List.cons_append, atom?.eq_def]
    simp only [hword]
    split
    · next heq => exact absurd (List.cons.inj heq).1 hminus
    · exact hnumber

/-! ### Rows of tokens -/

/-- A text is read as the given tokens wherever it stands, if what follows can follow a value. -/
def ReadAs (t : List Char) (tokens : List Token) : Prop :=
  ∀ rest position, EndsValue rest → ∃ xs next, xs.map Lexeme.token = tokens ∧
    tokensFrom position (t ++ rest) = xs ++ tokensFrom next rest

namespace ReadAs

variable {t u : List Char} {ts us : List Token}

lemma nil : ReadAs [] [] := fun _ position _ => ⟨[], position, rfl, rfl⟩

lemma append (ht : ReadAs t ts) (hu : ReadAs u us) (hends : ∀ rest, EndsValue (u ++ rest)) :
    ReadAs (t ++ u) (ts ++ us) := by
  intro rest position hrest
  obtain ⟨xs, next, hxs, hfirst⟩ := ht (u ++ rest) position (hends rest)
  obtain ⟨ys, next', hys, hsecond⟩ := hu rest next hrest
  refine ⟨xs ++ ys, next', by rw [List.map_append, hxs, hys], ?_⟩
  rw [List.append_assoc, hfirst, hsecond, List.append_assoc]

lemma space {c : Char} (hc : isSpace c = true) (ht : ReadAs t ts) : ReadAs (c :: t) ts := by
  intro rest position hrest
  obtain ⟨xs, next, hxs, hread⟩ := ht rest (position + 1) hrest
  refine ⟨xs, next, hxs, ?_⟩
  rw [List.cons_append, tokensFrom, if_pos hc, hread]

lemma newLine (level : Nat) (ht : ReadAs t ts) : ReadAs (newLine level ++ t) ts := by
  suffices h : ∀ n, ReadAs (List.replicate n ' ' ++ t) ts from (h (2 * level)).space rfl
  intro n
  induction n with
  | zero => exact ht
  | succ n ih => exact ih.space rfl

lemma mark {c : Char} {token : Token} (hc : mark? c = some token) (ht : ReadAs t ts) :
    ReadAs (c :: t) (token :: ts) := by
  intro rest position hrest
  obtain ⟨xs, next, hxs, hread⟩ := ht rest (position + 1) hrest
  have hspace : isSpace c = false := by
    by_contra h
    simp only [isSpace, Bool.not_eq_false, Bool.or_eq_true, decide_eq_true_eq] at h
    rcases h with ((rfl | rfl) | rfl) | rfl <;> cases hc
  have hquote : c ≠ '"' := by
    rintro rfl
    cases hc
  refine ⟨⟨position, token⟩ :: xs, next, by rw [List.map_cons, hxs], ?_⟩
  rw [List.cons_append, tokensFrom, hspace, if_neg Bool.false_ne_true, if_neg hquote]
  simp only [hc, hread, List.cons_append]

lemma text (s : String) (ht : ReadAs t ts) : ReadAs (printText s ++ t) (.text s :: ts) := by
  intro rest position hrest
  have htext := textFrom_flatMap_escape position (position + 1) [] s.toList (t ++ rest)
  rw [List.reverse_nil, List.nil_append, String.ofList_toList] at htext
  obtain ⟨xs, next, hxs, hread⟩ :=
    ht rest (position + 1 + (s.toList.flatMap escape).length + 1) hrest
  refine ⟨⟨position, .text s⟩ :: xs, next, by rw [List.map_cons, hxs], ?_⟩
  have hshape : printText s ++ t ++ rest =
      '"' :: (s.toList.flatMap escape ++ '"' :: (t ++ rest)) := by simp [printText]
  rw [hshape, tokensFrom, if_neg (by decide), if_pos rfl, htext]
  simp only
  have hdrop : (s.toList.flatMap escape ++ '"' :: (t ++ rest)).drop
      (position + 1 + (s.toList.flatMap escape).length + 1 - position - 1) = t ++ rest := by
    have hlength : position + 1 + (s.toList.flatMap escape).length + 1 - position - 1 =
        (s.toList.flatMap escape).length + 1 := by omega
    rw [hlength, List.drop_append, List.drop_of_length_le (by omega)]
    simp
  rw [hdrop, hread, List.cons_append]

/-- A word or a number is read as one token if no other token starts like it. -/
lemma atom {c : Char} {token : Token} (hspace : isSpace c = false) (hquote : c ≠ '"')
    (hmark : mark? c = none)
    (hatom : ∀ rest, EndsValue rest → atom? (c :: t ++ rest) = some (token, t.length + 1)) :
    ReadAs (c :: t) [token] := by
  intro rest position hrest
  refine ⟨[⟨position, token⟩], position + (t.length + 1), rfl, ?_⟩
  have h := hatom rest hrest
  rw [List.cons_append] at h
  rw [List.cons_append, tokensFrom, hspace, if_neg Bool.false_ne_true, if_neg hquote]
  simp only [hmark, h, Nat.add_sub_cancel, List.drop_left, List.singleton_append]

lemma int (n : Int) : ReadAs (toString n).toList [intToken n] := by
  obtain ⟨c, more, hmore, hc⟩ : ∃ c more, (toString n).toList = c :: more ∧
      (c = '-' ∨ isDigit c = true) := by
    obtain ⟨d, ds, hds⟩ :=
      List.exists_cons_of_ne_nil (Nat.toDigits_ne_nil (b := 10) (n := n.natAbs))
    have hd : isDigit d = true := isDigit_of_mem_toDigits (n := n.natAbs) (by simp [hds])
    rw [toList_toString_int, hds]
    split
    · exact ⟨'-', d :: ds, rfl, .inl rfl⟩
    · exact ⟨d, ds, rfl, .inr hd⟩
  have hatom : ∀ rest, EndsValue rest →
      atom? (c :: more ++ rest) = some (intToken n, more.length + 1) := by
    intro rest hrest
    rw [← hmore, atom?_int n hrest, hmore, List.length_cons]
  rw [hmore]
  rcases hc with rfl | hc
  · exact atom rfl (by decide) rfl hatom
  · have hother := isDigit_iff.mp hc
    refine atom ?_ ?_ ?_ hatom
    · by_contra h
      simp only [isSpace, Bool.not_eq_false, Bool.or_eq_true, decide_eq_true_eq] at h
      rcases h with ((rfl | rfl) | rfl) | rfl <;> cases hc
    · rintro rfl
      cases hc
    · unfold mark?
      split <;> first | rfl | cases hc

lemma bool (b : Bool) : ReadAs (printScalar (.bool b)) [.atom (.bool b)] := by
  cases b with
  | false =>
    refine atom (c := 'f') (t := "alse".toList) rfl (by decide) rfl fun rest _ => ?_
    simp [atom?, word?, words, List.isPrefixOf, show "false".length = 5 from rfl]
  | true =>
    refine atom (c := 't') (t := "rue".toList) rfl (by decide) rfl fun rest _ => ?_
    simp [atom?, word?, words, List.isPrefixOf, show "true".length = 4 from rfl]

lemma null : ReadAs (printScalar .null) [.atom .null] := by
  refine atom (c := 'n') (t := "ull".toList) rfl (by decide) rfl fun rest _ => ?_
  simp [atom?, word?, words, List.isPrefixOf, show "null".length = 4 from rfl]

end ReadAs

end Scaffold.Document.Json
