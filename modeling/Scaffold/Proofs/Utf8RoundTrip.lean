import Scaffold.Proofs.ErrorLists
import Scaffold.Text.Utf8

/-!
# UTF-8 there and back

Reading the bytes of a text gives the text, and a sequence of bytes that can be read is the bytes of
what is read: every text has one form. Both directions go character by character, each over the four
lengths of a character.
-/

namespace Scaffold.Text.Utf8

lemma toNat_toUInt8 {n : Nat} (h : n < 256) : n.toUInt8.toNat = n := by
  rw [Nat.toUInt8, UInt8.toNat_ofNat', Nat.mod_eq_of_lt (by omega)]

lemma toUInt8_of_toNat {n : Nat} {b : UInt8} (h : n = b.toNat) : n.toUInt8 = b := by
  rw [h, Nat.toUInt8, UInt8.ofNat_toNat]

lemma toNat_bounds (c : Char) :
    c.toNat < 0xD800 ∨ (0xDFFF < c.toNat ∧ c.toNat < 0x110000) := c.valid

lemma toNat_ofNat {n : Nat} (h : n < 0xD800 ∨ (0xDFFF < n ∧ n < 0x110000)) :
    (Char.ofNat n).toNat = n := by
  have hvalid : n.isValidChar := h
  rw [Char.ofNat, dif_pos hvalid]
  rfl

@[simp] lemma encode_nil : encode [] = [] := rfl

@[simp] lemma encode_cons (c : Char) (t : List Char) :
    encode (c :: t) = encodeChar c ++ encode t := rfl

@[simp] lemma encode_append (t u : List Char) : encode (t ++ u) = encode t ++ encode u :=
  List.flatMap_append

/-! ### Single characters -/

lemma toNat_trailing (n : Nat) : (0x80 + n % 64).toUInt8.toNat = 0x80 + n % 64 :=
  toNat_toUInt8 (by omega)

lemma isContinuation_trailing (n : Nat) : isContinuation (0x80 + n % 64).toUInt8 = true := by
  rw [isContinuation, toNat_trailing, Bool.and_eq_true, decide_eq_true_eq, decide_eq_true_eq]
  omega

lemma payload_trailing (n : Nat) : payload (0x80 + n % 64).toUInt8 = n % 64 := by
  rw [payload, toNat_trailing]
  omega

section Reading

variable {a b d e : UInt8} (position : Nat) (rest : List UInt8)

lemma decodeFrom_of_one (ha : a.toNat < 0x80) :
    decodeFrom position (a :: rest) =
      (decodeFrom (position + 1) rest).map (Char.ofNat a.toNat :: ·) := by
  rw [decodeFrom.eq_def]
  exact if_pos ha

lemma decodeFrom_of_two (ha : 0xC2 ≤ a.toNat) (ha' : a.toNat < 0xE0)
    (hb : isContinuation b = true) :
    decodeFrom position (a :: b :: rest) =
      (decodeFrom (position + 2) rest).map
        (Char.ofNat (a.toNat % 32 * 64 + payload b) :: ·) := by
  rw [decodeFrom.eq_def]
  simp only
  rw [if_neg (by omega), if_neg (by omega), if_pos ha', if_pos hb]

lemma decodeFrom_of_three (ha : 0xE0 ≤ a.toNat) (ha' : a.toNat < 0xF0)
    (hb : isSecond a b = true) (hd : isContinuation d = true) :
    decodeFrom position (a :: b :: d :: rest) =
      (decodeFrom (position + 3) rest).map
        (Char.ofNat (a.toNat % 16 * 4096 + payload b * 64 + payload d) :: ·) := by
  rw [decodeFrom.eq_def]
  simp only
  rw [if_neg (by omega), if_neg (by omega), if_neg (by omega), if_pos ha', if_pos hb, if_pos hd]

lemma decodeFrom_of_four (ha : 0xF0 ≤ a.toNat) (ha' : a.toNat < 0xF5)
    (hb : isSecond a b = true) (hd : isContinuation d = true) (he : isContinuation e = true) :
    decodeFrom position (a :: b :: d :: e :: rest) =
      (decodeFrom (position + 4) rest).map
        (Char.ofNat
          (a.toNat % 8 * 262144 + payload b * 4096 + payload d * 64 + payload e) :: ·) := by
  rw [decodeFrom.eq_def]
  simp only
  rw [if_neg (by omega), if_neg (by omega), if_neg (by omega), if_neg (by omega), if_pos ha',
    if_pos hb, if_pos hd, if_pos he]

end Reading

/-! ### From a text to its bytes and back -/

/-- The bytes of a character are read as the character, whatever follows them. -/
lemma decodeFrom_encodeChar (position : Nat) (c : Char) (rest : List UInt8) :
    decodeFrom position (encodeChar c ++ rest) =
      (decodeFrom (position + (encodeChar c).length) rest).map (c :: ·) := by
  have hc := toNat_bounds c
  have hback : Char.ofNat c.toNat = c := Char.ofNat_toNat c
  simp only [encodeChar]
  split
  · next h1 =>
    have ha := toNat_toUInt8 (n := c.toNat) (by omega)
    rw [List.singleton_append, decodeFrom_of_one _ _ (by omega), ha, hback]
    rfl
  split
  · next h1 h2 =>
    have ha := toNat_toUInt8 (n := 0xC0 + c.toNat / 64) (by omega)
    have hn : (0xC0 + c.toNat / 64) % 32 * 64 + c.toNat % 64 = c.toNat := by omega
    simp only [List.cons_append, List.nil_append]
    rw [decodeFrom_of_two _ _ (by omega) (by omega) (isContinuation_trailing _), ha,
      payload_trailing, hn, hback]
    rfl
  split
  · next h1 h2 h3 =>
    have ha := toNat_toUInt8 (n := 0xE0 + c.toNat / 4096) (by omega)
    have hn : (0xE0 + c.toNat / 4096) % 16 * 4096 + c.toNat / 64 % 64 * 64 + c.toNat % 64 =
        c.toNat := by omega
    have hsecond : isSecond (0xE0 + c.toNat / 4096).toUInt8 (0x80 + c.toNat / 64 % 64).toUInt8 =
        true := by
      simp only [isSecond, isContinuation_trailing, ha, toNat_trailing, Bool.true_and,
        Bool.and_eq_true, Bool.or_eq_true, bne_iff_ne, decide_eq_true_eq]
      omega
    simp only [List.cons_append, List.nil_append]
    rw [decodeFrom_of_three _ _ (by omega) (by omega) hsecond (isContinuation_trailing _), ha,
      payload_trailing, payload_trailing, hn, hback]
    rfl
  · next h1 h2 h3 =>
    have ha := toNat_toUInt8 (n := 0xF0 + c.toNat / 262144) (by omega)
    have hn : (0xF0 + c.toNat / 262144) % 8 * 262144 + c.toNat / 4096 % 64 * 4096 +
        c.toNat / 64 % 64 * 64 + c.toNat % 64 = c.toNat := by omega
    have hsecond : isSecond (0xF0 + c.toNat / 262144).toUInt8
        (0x80 + c.toNat / 4096 % 64).toUInt8 = true := by
      simp only [isSecond, isContinuation_trailing, ha, toNat_trailing, Bool.true_and,
        Bool.and_eq_true, Bool.or_eq_true, bne_iff_ne, decide_eq_true_eq]
      omega
    simp only [List.cons_append, List.nil_append]
    rw [decodeFrom_of_four _ _ (by omega) (by omega) hsecond (isContinuation_trailing _)
      (isContinuation_trailing _), ha, payload_trailing, payload_trailing, payload_trailing, hn,
      hback]
    rfl

lemma decodeFrom_encode (position : Nat) (t : List Char) :
    decodeFrom position (encode t) = .ok t := by
  induction t generalizing position with
  | nil => rw [encode_nil, decodeFrom]
  | cons c rest ih =>
    rw [encode_cons, decodeFrom_encodeChar, ih]
    rfl

theorem decode_encode (t : List Char) : decode (encode t) = .ok t := decodeFrom_encode 0 t

lemma encode_injective {t u : List Char} (h : encode t = encode u) : t = u := by
  have hdecode := decode_encode t
  rw [h, decode_encode] at hdecode
  exact (Except.ok.inj hdecode).symm

/-! ### From bytes to a text and back -/

section Bytes

variable {a b d e : UInt8}

lemma encodeChar_of_one (ha : a.toNat < 0x80) : encodeChar (Char.ofNat a.toNat) = [a] := by
  have hn := toNat_ofNat (n := a.toNat) (by omega)
  rw [encodeChar, hn, if_pos ha, toUInt8_of_toNat rfl]

lemma encodeChar_of_two (ha : 0xC2 ≤ a.toNat) (ha' : a.toNat < 0xE0)
    (hb : isContinuation b = true) :
    encodeChar (Char.ofNat (a.toNat % 32 * 64 + payload b)) = [a, b] := by
  rw [isContinuation, Bool.and_eq_true, decide_eq_true_eq, decide_eq_true_eq] at hb
  have hn := toNat_ofNat (n := a.toNat % 32 * 64 + payload b) (by rw [payload]; omega)
  rw [encodeChar, hn, payload]
  rw [if_neg (by omega), if_pos (by omega), toUInt8_of_toNat (b := a) (by omega),
    toUInt8_of_toNat (b := b) (by omega)]

lemma encodeChar_of_three (ha : 0xE0 ≤ a.toNat) (ha' : a.toNat < 0xF0)
    (hb : isSecond a b = true) (hd : isContinuation d = true) :
    encodeChar (Char.ofNat (a.toNat % 16 * 4096 + payload b * 64 + payload d)) = [a, b, d] := by
  simp only [isSecond, isContinuation, Bool.and_eq_true, Bool.or_eq_true, bne_iff_ne,
    decide_eq_true_eq] at hb hd
  have hn := toNat_ofNat (n := a.toNat % 16 * 4096 + payload b * 64 + payload d)
    (by rw [payload, payload]; omega)
  rw [encodeChar, hn, payload, payload]
  rw [if_neg (by omega), if_neg (by omega), if_pos (by omega),
    toUInt8_of_toNat (b := a) (by omega), toUInt8_of_toNat (b := b) (by omega),
    toUInt8_of_toNat (b := d) (by omega)]

lemma encodeChar_of_four (ha : 0xF0 ≤ a.toNat) (ha' : a.toNat < 0xF5)
    (hb : isSecond a b = true) (hd : isContinuation d = true) (he : isContinuation e = true) :
    encodeChar (Char.ofNat
      (a.toNat % 8 * 262144 + payload b * 4096 + payload d * 64 + payload e)) = [a, b, d, e] := by
  simp only [isSecond, isContinuation, Bool.and_eq_true, Bool.or_eq_true, bne_iff_ne,
    decide_eq_true_eq] at hb hd he
  have hn := toNat_ofNat
    (n := a.toNat % 8 * 262144 + payload b * 4096 + payload d * 64 + payload e)
    (by rw [payload, payload, payload]; omega)
  rw [encodeChar, hn, payload, payload, payload]
  rw [if_neg (by omega), if_neg (by omega), if_neg (by omega),
    toUInt8_of_toNat (b := a) (by omega), toUInt8_of_toNat (b := b) (by omega),
    toUInt8_of_toNat (b := d) (by omega), toUInt8_of_toNat (b := e) (by omega)]

end Bytes

lemma encode_of_decodeFrom {position : Nat} {bytes : List UInt8} {t : List Char}
    (h : decodeFrom position bytes = .ok t) : encode t = bytes := by
  -- Only four of the cases read a character; in all others the reading has stopped.
  fun_induction decodeFrom position bytes generalizing t with
  | case1 => rw [← Except.ok.inj h, encode_nil]
  | case2 position a rest n ha =>
    rename_i ih
    obtain ⟨t, ht, rfl⟩ := map_eq_ok_iff.mp h
    rw [encode_cons, ih ht, encodeChar_of_one ha, List.singleton_append]
  | case5 position a n _ ha ha' b rest hb =>
    rename_i ih
    obtain ⟨t, ht, rfl⟩ := map_eq_ok_iff.mp h
    rw [encode_cons, ih ht, encodeChar_of_two (by omega) ha' hb]
    rfl
  | case9 position a n _ _ ha ha' b hb d rest hd =>
    rename_i ih
    obtain ⟨t, ht, rfl⟩ := map_eq_ok_iff.mp h
    rw [encode_cons, ih ht, encodeChar_of_three (by omega) ha' hb hd]
    rfl
  | case15 position a n _ _ _ ha ha' b hb d hd e rest he =>
    rename_i ih
    obtain ⟨t, ht, rfl⟩ := map_eq_ok_iff.mp h
    rw [encode_cons, ih ht, encodeChar_of_four (by omega) ha' hb hd he]
    rfl
  | _ => cases h

theorem encode_of_decode {bytes : List UInt8} {t : List Char} (h : decode bytes = .ok t) :
    encode t = bytes := encode_of_decodeFrom h

end Scaffold.Text.Utf8
