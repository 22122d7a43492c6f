import AutoProxy.Text.Utf8
import Mathlib

/-! What UTF-8 encodes reads back, and what reads strictly is what UTF-8 encodes. -/
namespace AutoProxy.Utf8

variable {b : UInt8} {n k low high : Nat} {s : Sequence} {rest : Bytes} {t : Text}

theorem toNat_continuation (n shift : Nat) :
    (continuation n shift).toNat = 0x80 + n >>> shift % 64 := by
  rw [continuation, UInt8.toNat_ofNat']
  have := Nat.mod_lt (n >>> shift) (by decide : 0 < 64)
  omega

/-- A byte that begins a sequence gives nothing yet. -/
theorem piecesFrom_of_start (h : start b = .inr s) :
    piecesFrom none (b :: rest) = piecesFrom (some s) rest := by
  simp [piecesFrom, h]

/-- A byte within the bounds, with more to come. -/
theorem piecesFrom_push {first : UInt8} {length value : Nat} {bounds : List (Nat × Nat)}
    (hlow : low ≤ b.toNat) (hhigh : b.toNat ≤ high) (hbounds : bounds ≠ []) :
    piecesFrom (some ⟨first, length, value, (low, high) :: bounds⟩) (b :: rest) =
      piecesFrom (some ⟨first, length + 1, value * 64 + b.toNat % 64, bounds⟩) rest := by
  simp [piecesFrom, Sequence.push, hlow, hhigh, hbounds]

/-- The last byte of a sequence. -/
theorem piecesFrom_push_last {first : UInt8} {length value : Nat}
    (hlow : low ≤ b.toNat) (hhigh : b.toNat ≤ high) :
    piecesFrom (some ⟨first, length, value, [(low, high)]⟩) (b :: rest) =
      .char (Char.ofNat (value * 64 + b.toNat % 64)) :: piecesFrom none rest := by
  simp [piecesFrom, Sequence.push, hlow, hhigh]

/-- The bounds of the second of three bytes. -/
def secondOfThree (k : Nat) : Nat × Nat :=
  if k = 0 then (0xA0, 0xBF) else if k = 0xD then (0x80, 0x9F) else (0x80, 0xBF)

/-- The bounds of the second of four bytes. -/
def secondOfFour (k : Nat) : Nat × Nat :=
  if k = 0 then (0x90, 0xBF) else if k = 4 then (0x80, 0x8F) else (0x80, 0xBF)

/-- The second byte keeps out what two bytes could say, and the surrogates. -/
theorem within_secondOfThree_iff :
    ((secondOfThree k).1 ≤ n ∧ n ≤ (secondOfThree k).2) ↔
      0x80 ≤ n ∧ n ≤ 0xBF ∧ (k = 0 → 0xA0 ≤ n) ∧ (k = 0xD → n ≤ 0x9F) := by
  rw [secondOfThree]
  split_ifs <;> simp only <;> omega

/-- The second byte keeps out what three bytes could say, and what is beyond the last character. -/
theorem within_secondOfFour_iff :
    ((secondOfFour k).1 ≤ n ∧ n ≤ (secondOfFour k).2) ↔
      0x80 ≤ n ∧ n ≤ 0xBF ∧ (k = 0 → 0x90 ≤ n) ∧ (k = 4 → n ≤ 0x8F) := by
  rw [secondOfFour]
  split_ifs <;> simp only <;> omega

/-- The first two of these values would spell ASCII in two bytes, so they begin nothing. -/
theorem start_two (hb : b.toNat = 0xC0 + k) (hlow : 2 ≤ k) (hhigh : k < 32) :
    start b = .inr ⟨b, 1, k, [(0x80, 0xBF)]⟩ := by
  have h1 : ¬ 0xC0 + k < 0x80 := by omega
  have h2 : ¬ 0xC0 + k < 0xC2 := by omega
  have h3 : 0xC0 + k < 0xE0 := by omega
  simp only [start, hb, if_neg h1, if_neg h2, if_pos h3, Nat.add_sub_cancel_left]

theorem start_three (hb : b.toNat = 0xE0 + k) (hk : k < 16) :
    start b = .inr ⟨b, 1, k, [secondOfThree k, (0x80, 0xBF)]⟩ := by
  have h1 : ¬ 0xE0 + k < 0x80 := by omega
  have h2 : ¬ 0xE0 + k < 0xC2 := by omega
  have h3 : ¬ 0xE0 + k < 0xE0 := by omega
  have h4 : 0xE0 + k < 0xF0 := by omega
  simp only [start, hb, if_neg h1, if_neg h2, if_neg h3, if_pos h4, secondOfThree,
    Nat.add_sub_cancel_left]
  rcases Nat.eq_zero_or_pos k with rfl | hpos
  · rfl
  · by_cases hD : k = 0xD
    · subst hD
      rfl
    · have h5 : ¬ 0xE0 + k = 0xE0 := by omega
      have h6 : ¬ 0xE0 + k = 0xED := by omega
      rw [if_neg h5, if_neg h6, if_neg (by omega), if_neg hD]

theorem start_four (hb : b.toNat = 0xF0 + k) (hk : k ≤ 4) :
    start b = .inr ⟨b, 1, k, [secondOfFour k, (0x80, 0xBF), (0x80, 0xBF)]⟩ := by
  simp only [start, hb]
  interval_cases k <;> rfl

theorem piecesFrom_one (hn : n < 0x80) :
    piecesFrom none (UInt8.ofNat n :: rest) = .char (Char.ofNat n) :: piecesFrom none rest := by
  have hb : (UInt8.ofNat n).toNat = n := by rw [UInt8.toNat_ofNat']; omega
  simp [piecesFrom, start, hb, hn]

theorem piecesFrom_two (hlow : 0x80 ≤ n) (hhigh : n < 0x800) :
    piecesFrom none (UInt8.ofNat (0xC0 + n >>> 6) :: continuation n 0 :: rest) =
      .char (Char.ofNat n) :: piecesFrom none rest := by
  have hb : (UInt8.ofNat (0xC0 + n >>> 6)).toNat = 0xC0 + n >>> 6 := by
    rw [UInt8.toNat_ofNat']; omega
  have h0 := toNat_continuation n 0
  rw [piecesFrom_of_start (start_two hb (by omega) (by omega)),
    piecesFrom_push_last (by omega) (by omega), h0]
  congr 3
  omega

/-- The surrogates are left out, for no character has such a number. -/
theorem piecesFrom_three (hlow : 0x800 ≤ n) (hhigh : n < 0x10000)
    (hsurrogate : ¬ (0xD800 ≤ n ∧ n < 0xE000)) :
    piecesFrom none
        (UInt8.ofNat (0xE0 + n >>> 12) :: continuation n 6 :: continuation n 0 :: rest) =
      .char (Char.ofNat n) :: piecesFrom none rest := by
  have hb : (UInt8.ofNat (0xE0 + n >>> 12)).toNat = 0xE0 + n >>> 12 := by
    rw [UInt8.toNat_ofNat']; omega
  have h6 := toNat_continuation n 6
  have h0 := toNat_continuation n 0
  -- The bounds keep out overlong forms and surrogates, and `n` is neither.
  have hsecond : (secondOfThree (n >>> 12)).1 ≤ (continuation n 6).toNat ∧
      (continuation n 6).toNat ≤ (secondOfThree (n >>> 12)).2 :=
    within_secondOfThree_iff.mpr (by omega)
  rw [piecesFrom_of_start (start_three hb (by omega)),
    piecesFrom_push hsecond.1 hsecond.2 (by simp), piecesFrom_push_last (by omega) (by omega),
    h6, h0]
  congr 3
  omega

theorem piecesFrom_four (hlow : 0x10000 ≤ n) (hhigh : n < 0x110000) :
    piecesFrom none (UInt8.ofNat (0xF0 + n >>> 18) :: continuation n 12 :: continuation n 6 ::
        continuation n 0 :: rest) =
      .char (Char.ofNat n) :: piecesFrom none rest := by
  have hb : (UInt8.ofNat (0xF0 + n >>> 18)).toNat = 0xF0 + n >>> 18 := by
    rw [UInt8.toNat_ofNat']; omega
  have h12 := toNat_continuation n 12
  have h6 := toNat_continuation n 6
  have h0 := toNat_continuation n 0
  have hsecond : (secondOfFour (n >>> 18)).1 ≤ (continuation n 12).toNat ∧
      (continuation n 12).toNat ≤ (secondOfFour (n >>> 18)).2 :=
    within_secondOfFour_iff.mpr (by omega)
  rw [piecesFrom_of_start (start_four hb (by omega)),
    piecesFrom_push hsecond.1 hsecond.2 (by simp), piecesFrom_push (by omega) (by omega) (by simp),
    piecesFrom_push_last (by omega) (by omega), h12, h6, h0]
  congr 3
  omega

/-- The bytes of a character read as this character, whatever follows. -/
theorem piecesFrom_encodeChar (c : Char) (rest : Bytes) :
    piecesFrom none (encodeChar c ++ rest) = .char c :: piecesFrom none rest := by
  have hvalid : c.toNat < 0xD800 ∨ (0xDFFF < c.toNat ∧ c.toNat < 0x110000) := c.valid
  have hc : Char.ofNat c.toNat = c := Char.ofNat_toNat c
  simp only [encodeChar]
  split_ifs with h1 h2 h3
  · rw [List.singleton_append, piecesFrom_one h1, hc]
  · simp only [List.cons_append, List.nil_append]
    rw [piecesFrom_two (by omega) h2, hc]
  · simp only [List.cons_append, List.nil_append]
    rw [piecesFrom_three (by omega) h3 (by omega), hc]
  · simp only [List.cons_append, List.nil_append]
    rw [piecesFrom_four (by omega) (by omega), hc]

theorem pieces_encode (t : Text) : pieces (encode t) = t.map .char := by
  induction t with
  | nil => rfl
  | cons c t ih =>
    rw [pieces, encode, List.flatMap_cons, piecesFrom_encodeChar]
    exact congrArg (Piece.char c :: ·) ih

/-- Strict reading fails at ill-formed pieces and nowhere else. -/
theorem decodeFrom_map_char (position : Nat) (t : Text) :
    decodeFrom position (t.map .char) = .ok t := by
  induction t generalizing position with
  | nil => rfl
  | cons c t ih => rw [List.map_cons, decodeFrom, ih]

/-- No text is refused, whatever its characters. -/
theorem decode_encode (t : Text) : decode (encode t) = .ok t := by
  rw [decode, pieces_encode, decodeFrom_map_char]

/-- In what was encoded there is nothing to lose. -/
theorem decodeLossy_encode (t : Text) : decodeLossy (encode t) = t := by
  rw [decodeLossy, pieces_encode, List.map_map]
  exact List.map_id' t

theorem encode_eq_nil_iff : encode t = [] ↔ t = [] := by
  cases t with
  | nil => simp [encode]
  | cons c t =>
    have hc : encodeChar c ≠ [] := by
      simp only [encodeChar]
      split_ifs <;> simp
    simp [encode, hc]

/-- Each piece has a byte of its own, beside the sequence that is under way. -/
theorem length_piecesFrom_le (o : Option Sequence) (bytes : Bytes) :
    (piecesFrom o bytes).length ≤ bytes.length + o.toList.length := by
  fun_induction piecesFrom o bytes with
  | case1 => simp
  | case2 s => simp
  | case3 b bytes p _ ih => simpa using ih
  | case4 b bytes s _ ih => simpa using ih
  | case5 s b bytes p _ ih =>
    simp only [List.length_cons, Option.toList_none, List.length_nil] at ih ⊢
    omega
  | case6 s b bytes u _ ih =>
    simp only [List.length_cons, Option.toList_some] at ih ⊢
    omega
  | case7 s b bytes _ ih₁ ih₂ =>
    cases start b with
    | inl p =>
      simp only [List.length_cons, Option.toList_some, Option.toList_none,
        List.length_nil] at ih₁ ⊢
      omega
    | inr u => simpa using ih₂ u

/-- If strict reading comes through, no piece was ill-formed. -/
theorem eq_map_of_decodeFrom {position : Nat} {ps : List Piece}
    (h : decodeFrom position ps = .ok t) : ps = t.map .char := by
  fun_induction decodeFrom position ps generalizing t with
  | case1 =>
    cases h
    rfl
  | case2 => cases h
  | case3 position c ps u hrest ih =>
    cases h
    rw [ih hrest, List.map_cons]
  | case4 position c ps e hrest ih => cases h

theorem length_le_of_decode {bytes : Bytes} (h : decode bytes = .ok t) :
    t.length ≤ bytes.length := by
  have hpieces : piecesFrom none bytes = t.map .char := eq_map_of_decodeFrom h
  have hlength := length_piecesFrom_le none bytes
  rw [hpieces, List.length_map] at hlength
  exact hlength

/-- Whatever bytes within the bounds follow those of `read`, together they encode the character
whose value they add up to. -/
def Spells (read : Bytes) (value : Nat) : List (Nat × Nat) → Prop
  | [] => encodeChar (Char.ofNat value) = read
  | (low, high) :: bounds =>
    ∀ b : UInt8, low ≤ b.toNat → b.toNat ≤ high →
      Spells (read ++ [b]) (value * 64 + b.toNat % 64) bounds

/-- What `read` comes to: a character that it encodes or a sequence that it begins, unless it is
ill-formed. -/
def ComesTo (read : Bytes) : Piece ⊕ Sequence → Prop
  | .inl (.char c) => encodeChar c = read
  | .inl (.illFormed ..) => True
  | .inr s => Spells read s.value s.bounds

theorem ofNat_eq_of_toNat (h : n = b.toNat) : UInt8.ofNat n = b := by
  rw [h, UInt8.ofNat_toNat]

theorem continuation_eq {shift : Nat} (h : 0x80 + n >>> shift % 64 = b.toNat) :
    continuation n shift = b := ofNat_eq_of_toNat h

/-- This is only so for numbers of characters: any other gives the first character. -/
theorem toNat_charOfNat (h : n < 0xD800 ∨ 0xDFFF < n ∧ n < 0x110000) :
    (Char.ofNat n).toNat = n := by
  rw [Char.toNat_ofNat, if_pos h]

theorem spells_two (hb : b.toNat = 0xC0 + k) (hlow : 2 ≤ k) (hhigh : k < 32) :
    Spells [b] k [(0x80, 0xBF)] := by
  intro c hc hc'
  have hn : (Char.ofNat (k * 64 + c.toNat % 64)).toNat = k * 64 + c.toNat % 64 :=
    toNat_charOfNat (by omega)
  simp only [Spells, encodeChar, hn]
  rw [if_neg (by omega), if_pos (by omega), ofNat_eq_of_toNat (b := b) (by omega),
    continuation_eq (b := c) (by omega)]
  rfl

theorem spells_three (hb : b.toNat = 0xE0 + k) (hk : k < 16) :
    Spells [b] k [secondOfThree k, (0x80, 0xBF)] := by
  intro c hc hc' d hd hd'
  obtain ⟨hlow, hhigh, hoverlong, hsurrogate⟩ := within_secondOfThree_iff.mp ⟨hc, hc'⟩
  have hn : (Char.ofNat ((k * 64 + c.toNat % 64) * 64 + d.toNat % 64)).toNat =
      (k * 64 + c.toNat % 64) * 64 + d.toNat % 64 :=
    toNat_charOfNat (by omega)
  simp only [Spells, encodeChar, hn]
  rw [if_neg (by omega), if_neg (by omega), if_pos (by omega),
    ofNat_eq_of_toNat (b := b) (by omega), continuation_eq (b := c) (by omega),
    continuation_eq (b := d) (by omega)]
  rfl

theorem spells_four (hb : b.toNat = 0xF0 + k) (hk : k ≤ 4) :
    Spells [b] k [secondOfFour k, (0x80, 0xBF), (0x80, 0xBF)] := by
  intro c hc hc' d hd hd' e he he'
  obtain ⟨hlow, hhigh, hoverlong, hlast⟩ := within_secondOfFour_iff.mp ⟨hc, hc'⟩
  have hn : (Char.ofNat (((k * 64 + c.toNat % 64) * 64 + d.toNat % 64) * 64 +
      e.toNat % 64)).toNat = ((k * 64 + c.toNat % 64) * 64 + d.toNat % 64) * 64 + e.toNat % 64 :=
    toNat_charOfNat (by omega)
  simp only [Spells, encodeChar, hn]
  rw [if_neg (by omega), if_neg (by omega), if_neg (by omega),
    ofNat_eq_of_toNat (b := b) (by omega), continuation_eq (b := c) (by omega),
    continuation_eq (b := d) (by omega), continuation_eq (b := e) (by omega)]
  rfl

/-- All first bytes are gone through by the ranges in which they begin a sequence. -/
theorem comesTo_start (b : UInt8) : ComesTo [b] (start b) := by
  have hb := b.toNat_lt
  rcases Nat.lt_or_ge b.toNat 0x80 with h1 | h1
  · rw [start, if_pos h1, ComesTo, encodeChar, toNat_charOfNat (by omega), if_pos h1,
      UInt8.ofNat_toNat]
  rcases Nat.lt_or_ge b.toNat 0xC2 with h2 | h2
  · rw [start, if_neg (by omega), if_pos h2]
    trivial
  rcases Nat.lt_or_ge b.toNat 0xE0 with h3 | h3
  · obtain ⟨k, hk⟩ : ∃ k, b.toNat = 0xC0 + k := ⟨b.toNat - 0xC0, by omega⟩
    have hlow : 2 ≤ k := by omega
    have hhigh : k < 32 := by omega
    rw [start_two hk hlow hhigh]
    exact spells_two hk hlow hhigh
  rcases Nat.lt_or_ge b.toNat 0xF0 with h4 | h4
  · obtain ⟨k, hk⟩ : ∃ k, b.toNat = 0xE0 + k := ⟨b.toNat - 0xE0, by omega⟩
    have hhigh : k < 16 := by omega
    rw [start_three hk hhigh]
    exact spells_three hk hhigh
  rcases Nat.lt_or_ge b.toNat 0xF5 with h5 | h5
  · obtain ⟨k, hk⟩ : ∃ k, b.toNat = 0xF0 + k := ⟨b.toNat - 0xF0, by omega⟩
    have hhigh : k ≤ 4 := by omega
    rw [start_four hk hhigh]
    exact spells_four hk hhigh
  · simp (disch := omega) only [start, if_neg]
    trivial

/-- Only a byte within the bounds is taken, and the sequence spells something with each of those. -/
theorem comesTo_push {read : Bytes} {p : Piece ⊕ Sequence} (h : Spells read s.value s.bounds)
    (hpush : s.push b = some p) : ComesTo (read ++ [b]) p := by
  obtain ⟨first, length, value, bounds⟩ := s
  simp only [Sequence.push] at hpush
  cases bounds with
  | nil => cases hpush
  | cons bound bounds =>
    simp only [Bool.and_eq_true, decide_eq_true_eq] at hpush
    split_ifs at hpush with hbound hlast
    · cases hpush
      rw [List.isEmpty_iff] at hlast
      subst hlast
      exact h b hbound.1 hbound.2
    · cases hpush
      exact h b hbound.1 hbound.2

/-- Bytes without an ill-formed part, with those of the sequence under way before them, are what
their characters encode. -/
theorem encode_of_piecesFrom {read bytes : Bytes} {o : Option Sequence}
    (h : piecesFrom o bytes = t.map .char)
    (hread : o.elim (read = []) fun s => Spells read s.value s.bounds) :
    encode t = read ++ bytes := by
  fun_induction piecesFrom o bytes generalizing t read with
  | case1 =>
    have ht : t = [] := List.map_eq_nil_iff.mp h.symm
    rw [ht, show read = [] from hread]
    rfl
  | case2 s =>
    obtain ⟨c, t', rfl, hpiece, hrest⟩ := List.map_eq_cons_iff.mp h.symm
    cases hpiece
  | case3 b bytes p hstart ih =>
    obtain ⟨c, t', rfl, rfl, hrest⟩ := List.map_eq_cons_iff.mp h.symm
    have hb := comesTo_start b
    rw [hstart] at hb
    rw [encode, List.flatMap_cons, show encodeChar c = [b] from hb, show read = [] from hread]
    exact congrArg (b :: ·) (ih hrest.symm rfl)
  | case4 b bytes s hstart ih =>
    have hb := comesTo_start b
    rw [hstart] at hb
    rw [show read = [] from hread]
    exact ih h hb
  | case5 s b bytes p hpush ih =>
    obtain ⟨c, t', rfl, rfl, hrest⟩ := List.map_eq_cons_iff.mp h.symm
    have hb : encodeChar c = read ++ [b] := comesTo_push hread hpush
    have ht : encode t' = bytes := ih hrest.symm rfl
    rw [encode, List.flatMap_cons, hb, ← encode, ht, List.append_assoc, List.singleton_append]
  | case6 s b bytes u hpush ih =>
    have hb : encode t = (read ++ [b]) ++ bytes := ih h (comesTo_push hread hpush)
    rw [hb, List.append_assoc, List.singleton_append]
  | case7 s b bytes hpush ih₁ ih₂ =>
    obtain ⟨c, t', rfl, hpiece, hrest⟩ := List.map_eq_cons_iff.mp h.symm
    cases hpiece

/-- Strict reading takes nothing but what it would write. -/
theorem encode_of_decode {bytes : Bytes} (h : decode bytes = .ok t) : encode t = bytes := by
  have hpieces : piecesFrom none bytes = t.map .char := eq_map_of_decodeFrom h
  have hencode : encode t = [] ++ bytes := encode_of_piecesFrom hpieces rfl
  rwa [List.nil_append] at hencode

end AutoProxy.Utf8
