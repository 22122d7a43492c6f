import AutoProxy.Base64
import AutoProxy.Proofs.Text.Ascii
import AutoProxy.Proofs.Text.Lines
import AutoProxy.Proofs.Text.Utf8
import Mathlib

/-! The standard encoding, and that it is recognized and read back with blanks strewn in. -/
namespace AutoProxy.Base64

/-- The character of six bits. -/
def digit (six : Nat) : Char :=
  "ABCDEFGHIJKLMNOPQRSTUVWXYZabcdefghijklmnopqrstuvwxyz0123456789+/".toList.getD six '='

/-- Three bytes are four characters; pads fill up a last group of fewer. -/
def encode : Bytes → Text
  | [] => []
  | [a] => [digit (a.toNat / 4), digit (a.toNat % 4 * 16), '=', '=']
  | [a, b] =>
    [digit (a.toNat / 4), digit (a.toNat % 4 * 16 + b.toNat / 16), digit (b.toNat % 16 * 4), '=']
  | a :: b :: c :: bytes =>
    digit (a.toNat / 4) :: digit (a.toNat % 4 * 16 + b.toNat / 16) ::
      digit (b.toNat % 16 * 4 + c.toNat / 64) :: digit (c.toNat % 64) :: encode bytes

/-- What stands in encoded text, blanks aside. -/
def isEncodedChar (c : Char) : Bool := (sextet? c).isSome || c = '='

variable {six : Nat} {k : Cursor} {c : Char} {t text : Text} {bytes : Bytes}

theorem sextet?_digit : ∀ six < 64, sextet? (digit six) = some six := by
  decide +kernel

theorem sextet?_pad : sextet? '=' = none := rfl

theorem ne_pad_of_sextet? (h : sextet? c = some six) : c ≠ '=' := by
  rintro rfl
  rw [sextet?_pad] at h
  cases h

theorem digit_ne_pad (h : six < 64) : digit six ≠ '=' := ne_pad_of_sextet? (sextet?_digit six h)

theorem isEncodedChar_digit (h : six < 64) : isEncodedChar (digit six) = true := by
  simp [isEncodedChar, sextet?_digit six h]

/-- The alphabet and the pad are ASCII. -/
theorem toNat_lt_of_isEncodedChar (h : isEncodedChar c = true) : c.toNat < 0x80 := by
  by_cases halnum : c.isAlphanum = true
  · exact Text.toNat_lt_of_isAlphanum halnum
  · simp only [Char.isAlphanum, Char.isAlpha, Bool.or_eq_true, not_or] at halnum
    simp only [isEncodedChar, sextet?, if_neg halnum.1.1, if_neg halnum.1.2, if_neg halnum.2] at h
    split_ifs at h with hplus hslash
    · subst hplus
      decide
    · subst hslash
      decide
    · have hpad : c = '=' := by simpa using h
      subst hpad
      decide

theorem isBlank_of_isEncodedChar (h : isEncodedChar c = true) : Text.isBlank c = false := by
  have hascii : ∀ n < 0x80, isEncodedChar (Char.ofNat n) = true →
      Text.isBlank (Char.ofNat n) = false := by
    decide +kernel
  exact Text.forall_ascii (P := fun c => isEncodedChar c = true → Text.isBlank c = false) hascii
    (toNat_lt_of_isEncodedChar h) h

theorem all_isEncodedChar_encode (bytes : Bytes) : (encode bytes).all isEncodedChar = true := by
  have hpad : isEncodedChar '=' = true := rfl
  fun_induction encode bytes with
  | case1 => rfl
  | case2 a =>
    have ha := a.toNat_lt
    simp (disch := omega) only [List.all_cons, isEncodedChar_digit, hpad, List.all_nil,
      Bool.and_self]
  | case3 a b =>
    have ha := a.toNat_lt
    have hb := b.toNat_lt
    simp (disch := omega) only [List.all_cons, isEncodedChar_digit, hpad, List.all_nil,
      Bool.and_self]
  | case4 a b c bytes ih =>
    have ha := a.toNat_lt
    have hb := b.toNat_lt
    have hc := c.toNat_lt
    simp (disch := omega) only [List.all_cons, isEncodedChar_digit, ih, Bool.and_self]

theorem decodeFrom_digit (h : six < 64) :
    decodeFrom k (digit six :: t) = (decodeFrom (k.push six).2 t).map ((k.push six).1 ++ ·) := by
  simp only [decodeFrom, if_neg (digit_ne_pad h), sextet?_digit six h]
  cases decodeFrom (k.push six).2 t <;> rfl

/-- From the third place of a group on, a pad that does not complete it is counted. -/
theorem decodeFrom_pad (hplace : 2 ≤ k.place) (hpads : k.place + (k.pads + 1) < 4) :
    decodeFrom k ('=' :: t) = decodeFrom { k with pads := k.pads + 1 } t := by
  rw [decodeFrom, if_pos rfl, if_neg (by omega), if_neg (by omega)]

/-- What stands behind the pad that completes a group is not read. -/
theorem decodeFrom_last_pad (hplace : 2 ≤ k.place) (hpads : 4 ≤ k.place + (k.pads + 1)) :
    decodeFrom k ('=' :: t) = .ok [] := by
  rw [decodeFrom, if_pos rfl, if_neg (by omega), if_pos hpads]

/-- Whatever the cursor counts, bytes encoded from the start of a group read back. -/
theorem decodeFrom_encode (bytes : Bytes) (count bits pads : Nat) :
    decodeFrom ⟨0, count, bits, pads⟩ (encode bytes) = .ok bytes := by
  fun_induction encode bytes generalizing count bits pads with
  | case1 => rfl
  | case2 a =>
    have ha := a.toNat_lt
    rw [decodeFrom_digit (by omega), decodeFrom_digit (by omega), decodeFrom_pad,
      decodeFrom_last_pad]
    · have h1 : UInt8.ofNat (a.toNat / 4 * 4 + a.toNat % 4 * 16 / 16) = a :=
        Utf8.ofNat_eq_of_toNat (by omega)
      simp only [Cursor.push, Except.map, h1, List.nil_append, List.append_nil]
    all_goals simp [Cursor.push]
  | case3 a b =>
    have ha := a.toNat_lt
    have hb := b.toNat_lt
    rw [decodeFrom_digit (by omega), decodeFrom_digit (by omega), decodeFrom_digit (by omega),
      decodeFrom_last_pad]
    · have h1 : UInt8.ofNat (a.toNat / 4 * 4 + (a.toNat % 4 * 16 + b.toNat / 16) / 16) = a :=
        Utf8.ofNat_eq_of_toNat (by omega)
      have h2 : UInt8.ofNat ((a.toNat % 4 * 16 + b.toNat / 16) % 16 * 16 +
          b.toNat % 16 * 4 / 4) = b :=
        Utf8.ofNat_eq_of_toNat (by omega)
      simp only [Cursor.push, Except.map, h1, h2, List.nil_append, List.append_nil,
        List.singleton_append]
    all_goals simp [Cursor.push]
  | case4 a b c bytes ih =>
    have ha := a.toNat_lt
    have hb := b.toNat_lt
    have hc := c.toNat_lt
    rw [decodeFrom_digit (by omega), decodeFrom_digit (by omega), decodeFrom_digit (by omega),
      decodeFrom_digit (by omega)]
    -- Each byte comes together from the bits of two neighbouring characters.
    have h1 : UInt8.ofNat (a.toNat / 4 * 4 + (a.toNat % 4 * 16 + b.toNat / 16) / 16) = a :=
      Utf8.ofNat_eq_of_toNat (by omega)
    have h2 : UInt8.ofNat ((a.toNat % 4 * 16 + b.toNat / 16) % 16 * 16 +
        (b.toNat % 16 * 4 + c.toNat / 64) / 4) = b :=
      Utf8.ofNat_eq_of_toNat (by omega)
    have h3 : UInt8.ofNat ((b.toNat % 16 * 4 + c.toNat / 64) % 4 * 64 + c.toNat % 64) = c :=
      Utf8.ofNat_eq_of_toNat (by omega)
    simp only [Cursor.push, ih, Except.map, h1, h2, h3, List.nil_append, List.singleton_append]

/-- A text of nothing but data and pads is read as it is. -/
theorem decode_eq_decodeFrom (h : t.all isEncodedChar = true) : decode t = decodeFrom .start t := by
  rw [decode, if_pos]
  rw [List.all_eq_true] at h ⊢
  intro c hc
  exact decide_eq_true (toNat_lt_of_isEncodedChar (h c hc))

/-- Reading begins at an empty cursor, where what was encoded comes back as it was. -/
theorem decode_encode (bytes : Bytes) : decode (encode bytes) = .ok bytes := by
  rw [decode_eq_decodeFrom (all_isEncodedChar_encode bytes)]
  exact decodeFrom_encode bytes 0 0 0

example : encode (Utf8.encode "gfw!".toList) = "Z2Z3IQ==".toList := by decide

/-- `t` is the encoding of `text` with blanks strewn in. -/
def Encodes (t text : Text) : Prop := t.filter (!Text.isBlank ·) = encode (Utf8.encode text)

theorem encodes_encode (text : Text) : Encodes (encode (Utf8.encode text)) text := by
  rw [Encodes, List.filter_eq_self]
  intro c hc
  simp [isBlank_of_isEncodedChar (List.all_eq_true.mp (all_isEncodedChar_encode _) c hc)]

theorem decodeText_of_encodes (h : Encodes t text) : decodeText t = .ok text := by
  rw [decodeText, h, decode_encode]
  simp only [Utf8.decode_encode]

theorem encode_eq_nil_iff : encode bytes = [] ↔ bytes = [] := by
  fun_cases encode bytes <;> simp

/-- A text that encodes another, if not the empty one, is taken for encoded. -/
theorem looksEncoded_of_encodes (h : Encodes t text) (htext : text ≠ []) :
    looksEncoded t = true := by
  have hall : t.all (fun c => isEncodedChar c || Text.isBlank c) = true := by
    rw [List.all_eq_true]
    intro c hc
    by_cases hblank : Text.isBlank c = true
    · rw [hblank, Bool.or_true]
    · have hmem : c ∈ t.filter (!Text.isBlank ·) := List.mem_filter.mpr ⟨hc, by simp [hblank]⟩
      rw [h] at hmem
      rw [List.all_eq_true.mp (all_isEncodedChar_encode _) c hmem, Bool.true_or]
  have hblank : Text.isAllBlank t = false := by
    rw [← Bool.not_eq_true]
    intro hblank
    have hnil : t.filter (!Text.isBlank ·) = [] := by
      rw [List.filter_eq_nil_iff]
      intro c hc
      simp [List.all_eq_true.mp hblank c hc]
    rw [h, encode_eq_nil_iff, Utf8.encode_eq_nil_iff] at hnil
    exact htext hnil
  rw [looksEncoded, hblank]
  exact hall

/-- Line ends are blanks, and blanks do not count. -/
theorem looksEncoded_unifyLineEnds (t : Text) :
    looksEncoded (Text.unifyLineEnds t) = looksEncoded t := by
  rw [looksEncoded, Text.isAllBlank_unifyLineEnds, Text.all_unifyLineEnds rfl, looksEncoded]

theorem Encodes.unifyLineEnds (h : Encodes t text) : Encodes (Text.unifyLineEnds t) text := by
  rw [Encodes, Text.filter_unifyLineEnds rfl rfl]
  exact h

/-- Of four characters the first gives no byte, the others one each. -/
theorem push_place_length (hk : k.place < 4) (six : Nat) :
    (k.push six).2.place < 4 ∧
      4 * (k.push six).1.length + (4 - (k.push six).2.place) % 4 = (4 - k.place) % 4 + 3 := by
  obtain ⟨place, count, bits, pads⟩ := k
  simp only at hk
  interval_cases place <;> simp [Cursor.push]

/-- Four characters give three bytes at most. What the group under way has read counts too. -/
theorem length_decodeFrom_le (hk : k.place < 4) (h : decodeFrom k t = .ok bytes) :
    4 * bytes.length ≤ 3 * t.length + (4 - k.place) % 4 := by
  fun_induction decodeFrom k t generalizing bytes with
  | case1 k hplace =>
    cases h
    simp
  | case2 k _ hplace => cases h
  | case3 k _ _ => cases h
  | case4 k t hplace ih =>
    have hrest := ih hk h
    simp only [List.length_cons]
    omega
  | case5 k t _ hpads =>
    cases h
    simp
  | case6 k t _ hpads ih =>
    have hrest : 4 * bytes.length ≤ 3 * t.length + (4 - k.place) % 4 := ih hk h
    simp only [List.length_cons]
    omega
  | case7 k c t _ hc ih =>
    have hrest := ih hk h
    simp only [List.length_cons]
    omega
  | case8 k c t _ six hsix first k' hpush rest hok ih =>
    cases h
    obtain ⟨hplace, hlength⟩ := push_place_length hk six
    simp only [hpush] at hplace hlength
    have hrest := ih hplace hok
    simp only [List.length_cons, List.length_append]
    omega
  | case9 => cases h

/-- Four characters stand for three bytes at most. -/
theorem length_le_of_decode (h : decode t = .ok bytes) : 4 * bytes.length ≤ 3 * t.length := by
  rw [decode] at h
  split at h
  · exact length_decodeFrom_le (by decide) h
  · cases h

/-- A text is shorter than its encoding by a quarter or more. -/
theorem length_le_of_decodeText (h : decodeText t = .ok text) :
    4 * text.length ≤ 3 * (t.filter (!Text.isBlank ·)).length := by
  rw [decodeText] at h
  split at h
  · cases h
  · next bytes hdecode =>
    have hbytes := length_le_of_decode hdecode
    split at h
    · next text hutf8 =>
      cases h
      have htext := Utf8.length_le_of_decode hutf8
      omega
    · cases h

theorem decodeText_unifyLineEnds (t : Text) : decodeText (Text.unifyLineEnds t) = decodeText t := by
  rw [decodeText, Text.filter_unifyLineEnds rfl rfl, decodeText]

end AutoProxy.Base64
