import AutoProxy.Proofs.Base64

/-! What of a text its decoding keeps: the data up to the first pads that complete a group. -/
namespace AutoProxy.Base64

/-- The characters that hold data. -/
def data (t : Text) : Text := t.filter fun c => !Text.isBlank c && c != '='

/-- How many pads end `t`, blanks aside. -/
def endPads (t : Text) : Nat := ((t.filter (!Text.isBlank ·)).rtakeWhile (· = '=')).length

/-- The pads that end `t` complete its last group. -/
def Closes (t : Text) : Prop :=
  2 ≤ (data t).length % 4 ∧ 4 ≤ (data t).length % 4 + endPads t

instance (t : Text) : Decidable (Closes t) := inferInstanceAs (Decidable (_ ∧ _))

/-- The encoding of `bytes` without its padding. -/
def unpadded (bytes : Bytes) : Text := (encode bytes).filter (· != '=')

/-- The bits that the last of `count` data characters has to spare. -/
def spareBits (count : Nat) : Nat :=
  match count % 4 with
  | 2 => 4
  | 3 => 2
  | _ => 0

/-- `code` is `t`, or differs from it in the spare bits of the last character. -/
def Restates (code t : Text) : Prop :=
  code = t ∨ ∃ front c d m n, code = front ++ [c] ∧ t = front ++ [d] ∧
    sextet? c = some m ∧ sextet? d = some n ∧
    m / 2 ^ spareBits t.length = n / 2 ^ spareBits t.length

/-- The bytes that data characters complete, one after the other. -/
def Cursor.run (k : Cursor) : List Nat → Bytes
  | [] => []
  | six :: sixes => (k.push six).1 ++ (k.push six).2.run sixes

/-- The cursor stands behind `seen`, and no pads have ended the data there. -/
structure Cursor.After (k : Cursor) (seen : Text) : Prop where
  place_eq : k.place = (data seen).length % 4
  pads_eq : 2 ≤ k.place → k.pads = endPads seen
  not_closes : ¬ Closes seen

variable {six : Nat} {sixes : List Nat} {k : Cursor} {c : Char} {seen t read rest code text : Text}
  {bytes : Bytes}

/-- Each value is shown by one character only: checked on ASCII, where all of them are. -/
theorem digit_of_sextet? (h : sextet? c = some six) : six < 64 ∧ digit six = c := by
  have hascii : ∀ n < 0x80,
      (sextet? (Char.ofNat n)).all (fun six => six < 64 && digit six = Char.ofNat n) = true := by
    decide +kernel
  have hc : isEncodedChar c = true := by simp [isEncodedChar, h]
  have hall := Text.forall_ascii (P := fun c => (sextet? c).all
    (fun six => six < 64 && digit six = c) = true) hascii (toNat_lt_of_isEncodedChar hc)
  simpa [h] using hall

theorem isBlank_of_sextet? (h : sextet? c = some six) : Text.isBlank c = false :=
  isBlank_of_isEncodedChar (by simp [isEncodedChar, h])

theorem data_append (t rest : Text) : data (t ++ rest) = data t ++ data rest :=
  List.filter_append ..

theorem data_concat_pad (t : Text) : data (t ++ ['=']) = data t := by
  rw [data_append]
  exact List.append_nil _

theorem data_concat (h : sextet? c = some six) (t : Text) : data (t ++ [c]) = data t ++ [c] := by
  simp [data, isBlank_of_sextet? h, ne_pad_of_sextet? h]

theorem endPads_concat_pad (t : Text) : endPads (t ++ ['=']) = endPads t + 1 := by
  have hpad : ['='].filter (!Text.isBlank ·) = ['='] := rfl
  rw [endPads, List.filter_append, hpad, List.rtakeWhile_concat_pos _ _ _ (by simp),
    List.length_append, endPads]
  rfl

/-- Data behind pads makes them pads inside the text. -/
theorem endPads_concat (h : sextet? c = some six) (t : Text) : endPads (t ++ [c]) = 0 := by
  have hc : [c].filter (!Text.isBlank ·) = [c] := by simp [isBlank_of_sextet? h]
  rw [endPads, List.filter_append, hc,
    List.rtakeWhile_concat_neg _ _ _ (by simp [ne_pad_of_sextet? h])]
  rfl

/-- At the start of a text nothing was seen. -/
theorem after_start : Cursor.start.After [] := ⟨rfl, by simp [Cursor.start], by decide⟩

/-- Pads before the second character of a group are passed over. -/
theorem Cursor.After.pass_pad (hk : k.After seen) (hplace : k.place < 2) :
    k.After (seen ++ ['=']) := by
  have heq := hk.place_eq
  refine ⟨by rw [data_concat_pad, heq], by omega, ?_⟩
  rw [Closes, data_concat_pad]
  omega

/-- A pad that does not complete the group yet is counted. -/
theorem Cursor.After.pad (hk : k.After seen) (hplace : 2 ≤ k.place)
    (hpads : k.place + (k.pads + 1) < 4) :
    Cursor.After { k with pads := k.pads + 1 } (seen ++ ['=']) := by
  have heq := hk.place_eq
  have hend := hk.pads_eq hplace
  refine ⟨by rw [data_concat_pad]; exact heq, ?_, ?_⟩
  · intro _
    rw [endPads_concat_pad, ← hend]
  · rw [Closes, data_concat_pad, endPads_concat_pad]
    omega

/-- The pad that completes the group ends the data. -/
theorem Cursor.After.closes_pad (hk : k.After seen) (hplace : 2 ≤ k.place)
    (hpads : 4 ≤ k.place + (k.pads + 1)) : Closes (seen ++ ['=']) := by
  have heq := hk.place_eq
  have hend := hk.pads_eq hplace
  rw [Closes, data_concat_pad, endPads_concat_pad]
  omega

/-- Data moves the cursor on by one place, and pads before it do not count any more. -/
theorem push_place (hk : k.place < 4) (six : Nat) :
    (k.push six).2.place = (k.place + 1) % 4 ∧ (k.push six).2.pads = 0 := by
  obtain ⟨place, count, bits, pads⟩ := k
  simp only at hk
  interval_cases place <;> simp [Cursor.push]

theorem Cursor.After.push (hk : k.After seen) (h : sextet? c = some six) :
    (k.push six).2.After (seen ++ [c]) := by
  have heq := hk.place_eq
  have hlt : k.place < 4 := by omega
  obtain ⟨hplace, hpads⟩ := push_place hlt six
  refine ⟨?_, ?_, ?_⟩
  · rw [hplace, data_concat h, List.length_append, List.length_singleton]
    omega
  · intro _
    rw [hpads, endPads_concat h]
  · rw [Closes, endPads_concat h]
    omega

/-- Pads that were counted have no part in the bytes that come out. -/
theorem Cursor.run_pads (k : Cursor) (pads : Nat) (sixes : List Nat) :
    Cursor.run { k with pads := pads } sixes = k.run sixes := by
  cases sixes <;> rfl

/-- What is read is all of the text, or what comes before and with the pads that complete a
group. -/
theorem exists_read (hk : k.After seen) (ht : t.all isEncodedChar = true)
    (h : decodeFrom k t = .ok bytes) :
    ∃ read rest, t = read ++ rest ∧ bytes = k.run (read.filterMap sextet?) ∧
      (Closes (seen ++ read) ∨ rest = [] ∧ (data (seen ++ read)).length % 4 = 0) := by
  fun_induction decodeFrom k t generalizing seen bytes with
  | case1 k hplace =>
    cases h
    refine ⟨[], [], rfl, rfl, .inr ⟨rfl, ?_⟩⟩
    rw [List.append_nil, ← hk.place_eq, hplace]
  | case2 => cases h
  | case3 => cases h
  | case4 k t hplace ih =>
    rw [List.all_cons, Bool.and_eq_true] at ht
    obtain ⟨read, rest, rfl, hbytes, hend⟩ := ih (hk.pass_pad hplace) ht.2 h
    refine ⟨'=' :: read, rest, rfl, ?_, by simpa using hend⟩
    rw [List.filterMap_cons_none sextet?_pad, hbytes]
  | case5 k t hplace hpads =>
    cases h
    exact ⟨['='], t, rfl, rfl, .inl (hk.closes_pad (by omega) hpads)⟩
  | case6 k t hplace hpads ih =>
    rw [List.all_cons, Bool.and_eq_true] at ht
    obtain ⟨read, rest, rfl, hbytes, hend⟩ := ih (hk.pad (by omega) (by omega)) ht.2 h
    refine ⟨'=' :: read, rest, rfl, ?_, by simpa using hend⟩
    rw [List.filterMap_cons_none sextet?_pad, hbytes, Cursor.run_pads]
  | case7 k c t hc hsix ih =>
    simp [isEncodedChar, hc, hsix] at ht
  | case8 k c t hc six hsix first k' hpush rest hok ih =>
    cases h
    rw [List.all_cons, Bool.and_eq_true] at ht
    have hk' := hk.push hsix
    rw [hpush] at hk'
    obtain ⟨read, rest, rfl, hbytes, hend⟩ := ih hk' ht.2 hok
    refine ⟨c :: read, rest, rfl, ?_, by simpa using hend⟩
    rw [List.filterMap_cons_some hsix, Cursor.run, hpush, hbytes]
  | case9 => cases h

/-- Nothing behind the pads that complete a group is looked at. -/
theorem decodeFrom_append (hk : k.After seen) (ht : t.all isEncodedChar = true)
    (hclose : Closes (seen ++ t)) (rest : Text) : decodeFrom k (t ++ rest) = decodeFrom k t := by
  induction t generalizing k seen with
  | nil =>
    -- A cursor that reads on has not passed pads that end the data.
    rw [List.append_nil] at hclose
    exact absurd hclose hk.not_closes
  | cons c t ih =>
    rw [List.all_cons, Bool.and_eq_true] at ht
    rw [List.append_cons] at hclose
    rw [List.cons_append, decodeFrom, decodeFrom]
    by_cases hc : c = '='
    · subst hc
      simp only [if_pos]
      split_ifs with hplace hpads
      · exact ih (hk.pass_pad hplace) ht.2 hclose
      · rfl -- The data end here on both sides.
      · exact ih (hk.pad (by omega) (by omega)) ht.2 hclose
    · simp only [if_neg hc]
      cases hsix : sextet? c with
      | none => simp [isEncodedChar, hc, hsix] at ht
      | some six => simp only [ih (hk.push hsix) ht.2 hclose]

theorem filter_digit (h : six < 64) (t : Text) :
    (digit six :: t).filter (· != '=') = digit six :: t.filter (· != '=') :=
  List.filter_cons_of_pos (by simpa using digit_ne_pad h)

theorem unpadded_one (a : UInt8) :
    unpadded [a] = [digit (a.toNat / 4), digit (a.toNat % 4 * 16)] := by
  have ha := a.toNat_lt
  rw [unpadded, encode, filter_digit (by omega), filter_digit (by omega)]
  rfl

theorem unpadded_two (a b : UInt8) :
    unpadded [a, b] =
      [digit (a.toNat / 4), digit (a.toNat % 4 * 16 + b.toNat / 16), digit (b.toNat % 16 * 4)] := by
  have ha := a.toNat_lt
  have hb := b.toNat_lt
  rw [unpadded, encode, filter_digit (by omega), filter_digit (by omega), filter_digit (by omega)]
  rfl

/-- Three bytes make four characters without a pad, so the next bytes begin a group of their own. -/
theorem unpadded_three (a b c : UInt8) (bytes : Bytes) :
    unpadded (a :: b :: c :: bytes) =
      [digit (a.toNat / 4), digit (a.toNat % 4 * 16 + b.toNat / 16),
        digit (b.toNat % 16 * 4 + c.toNat / 64), digit (c.toNat % 64)] ++ unpadded bytes := by
  have ha := a.toNat_lt
  have hb := b.toNat_lt
  have hc := c.toNat_lt
  rw [unpadded, encode, filter_digit (by omega), filter_digit (by omega), filter_digit (by omega),
    filter_digit (by omega)]
  rfl

/-- A whole group in front, the same on both sides. -/
theorem Restates.append (h : Restates code t) (front : Text) (hfront : front.length % 4 = 0) :
    Restates (front ++ code) (front ++ t) := by
  have hspare : spareBits (front ++ t).length = spareBits t.length := by
    rw [spareBits, spareBits, List.length_append, Nat.add_mod, hfront, Nat.zero_add, Nat.mod_mod]
  rcases h with rfl | ⟨same, c, d, m, n, rfl, rfl, hm, hn, hbits⟩
  · exact .inl rfl
  · rw [← hspare] at hbits
    exact .inr ⟨front ++ same, c, d, m, n, by simp, by simp, hm, hn, hbits⟩

theorem Restates.length_eq (h : Restates code t) : code.length = t.length := by
  rcases h with rfl | ⟨front, c, d, m, n, rfl, rfl, -⟩
  · rfl
  · rw [List.length_append, List.length_append, List.length_singleton, List.length_singleton]

theorem toNat_ofNat_of_lt {n : Nat} (h : n < 256) : (UInt8.ofNat n).toNat = n :=
  UInt8.toNat_ofNat_of_lt' h

/-- Two characters stand for one byte; the second comes back without its four low bits. -/
theorem unpadded_of_two {a b : Nat} (ha : a < 64) (hb : b < 64) :
    unpadded [UInt8.ofNat (a * 4 + b / 16)] = [digit a, digit (b / 16 * 16)] := by
  have h1 : (UInt8.ofNat (a * 4 + b / 16)).toNat = a * 4 + b / 16 := toNat_ofNat_of_lt (by omega)
  have ha' : (a * 4 + b / 16) / 4 = a := by omega
  have hb' : (a * 4 + b / 16) % 4 * 16 = b / 16 * 16 := by omega
  rw [unpadded_one, h1, ha', hb']

/-- Three characters stand for two bytes; the last comes back without its two low bits. -/
theorem unpadded_of_three {a b c : Nat} (ha : a < 64) (hb : b < 64) (hc : c < 64) :
    unpadded [UInt8.ofNat (a * 4 + b / 16), UInt8.ofNat (b % 16 * 16 + c / 4)] =
      [digit a, digit b, digit (c / 4 * 4)] := by
  have h1 : (UInt8.ofNat (a * 4 + b / 16)).toNat = a * 4 + b / 16 := toNat_ofNat_of_lt (by omega)
  have h2 : (UInt8.ofNat (b % 16 * 16 + c / 4)).toNat = b % 16 * 16 + c / 4 :=
    toNat_ofNat_of_lt (by omega)
  have ha' : (a * 4 + b / 16) / 4 = a := by omega
  have hb' : (a * 4 + b / 16) % 4 * 16 + (b % 16 * 16 + c / 4) / 16 = b := by omega
  have hc' : (b % 16 * 16 + c / 4) % 16 * 4 = c / 4 * 4 := by omega
  rw [unpadded_two, h1, h2, ha', hb', hc']

/-- A full group comes back as it was. -/
theorem unpadded_of_four {a b c d : Nat} (ha : a < 64) (hb : b < 64) (hc : c < 64) (hd : d < 64)
    (bytes : Bytes) :
    unpadded (UInt8.ofNat (a * 4 + b / 16) :: UInt8.ofNat (b % 16 * 16 + c / 4) ::
        UInt8.ofNat (c % 4 * 64 + d) :: bytes) =
      [digit a, digit b, digit c, digit d] ++ unpadded bytes := by
  have h1 : (UInt8.ofNat (a * 4 + b / 16)).toNat = a * 4 + b / 16 := toNat_ofNat_of_lt (by omega)
  have h2 : (UInt8.ofNat (b % 16 * 16 + c / 4)).toNat = b % 16 * 16 + c / 4 :=
    toNat_ofNat_of_lt (by omega)
  have h3 : (UInt8.ofNat (c % 4 * 64 + d)).toNat = c % 4 * 64 + d := toNat_ofNat_of_lt (by omega)
  have ha' : (a * 4 + b / 16) / 4 = a := by omega
  have hb' : (a * 4 + b / 16) % 4 * 16 + (b % 16 * 16 + c / 4) / 16 = b := by omega
  have hc' : (b % 16 * 16 + c / 4) % 16 * 4 + (c % 4 * 64 + d) / 64 = c := by omega
  have hd' : (c % 4 * 64 + d) % 64 = d := by omega
  rw [unpadded_three, h1, h2, h3, ha', hb', hc', hd']

/-- Data characters from the start of a group, and what encodes the bytes that they complete. -/
theorem restates_run (sixes : List Nat) (count bits pads : Nat) (hsixes : ∀ six ∈ sixes, six < 64)
    (hlength : sixes.length % 4 ≠ 1) :
    Restates (unpadded (Cursor.run ⟨0, count, bits, pads⟩ sixes)) (sixes.map digit) := by
  match sixes with
  | [] => exact .inl rfl
  | [a] => exact absurd rfl hlength
  | [a, b] =>
    simp only [List.forall_mem_cons] at hsixes
    obtain ⟨ha, hb, -⟩ := hsixes
    -- The one byte has no room for the four low bits of `b`.
    have hcode := unpadded_of_two ha hb
    exact .inr ⟨[digit a], _, _, _, _, hcode, rfl, sextet?_digit _ (by omega), sextet?_digit _ hb,
      show b / 16 * 16 / 16 = b / 16 by omega⟩
  | [a, b, c] =>
    simp only [List.forall_mem_cons] at hsixes
    obtain ⟨ha, hb, hc, -⟩ := hsixes
    have hcode := unpadded_of_three ha hb hc
    exact .inr ⟨[digit a, digit b], _, _, _, _, hcode, rfl, sextet?_digit _ (by omega),
      sextet?_digit _ hc, show c / 4 * 4 / 4 = c / 4 by omega⟩
  | a :: b :: c :: d :: sixes =>
    simp only [List.forall_mem_cons] at hsixes
    obtain ⟨ha, hb, hc, hd, hsixes⟩ := hsixes
    have hrest : sixes.length % 4 ≠ 1 := by
      simp only [List.length_cons] at hlength
      omega
    have hcode := unpadded_of_four ha hb hc hd (Cursor.run ⟨0, count + 4, 0, 0⟩ sixes)
    have ih := restates_run sixes (count + 4) 0 0 hsixes hrest
    have hgroup := ih.append [digit a, digit b, digit c, digit d] (by simp)
    rw [← hcode] at hgroup
    exact hgroup

/-- The values of the data, written again, are the data. -/
theorem map_digit_filterMap (ht : t.all isEncodedChar = true) :
    (t.filterMap sextet?).map digit = data t := by
  induction t with
  | nil => rfl
  | cons c t ih =>
    rw [List.all_cons, Bool.and_eq_true] at ht
    rw [← List.singleton_append, data_append, List.filterMap_append, List.map_append, ih ht.2]
    congr 1
    cases hsix : sextet? c with
    | none =>
      have hc : c = '=' := by simpa [isEncodedChar, hsix] using ht.1
      subst hc
      rfl
    | some six =>
      have hdata := data_concat hsix []
      rw [List.nil_append] at hdata
      rw [hdata, List.filterMap_cons_some hsix, List.filterMap_nil, List.map_singleton,
        (digit_of_sextet? hsix).2]
      rfl

theorem forall_filterMap_lt (t : Text) : ∀ six ∈ t.filterMap sextet?, six < 64 := by
  intro six hmem
  obtain ⟨c, -, hc⟩ := List.mem_filterMap.mp hmem
  exact (digit_of_sextet? hc).1

/-- What decoding reads, it keeps. -/
theorem exists_restated (ht : t.all isEncodedChar = true) (h : decodeFrom .start t = .ok bytes) :
    ∃ read rest, t = read ++ rest ∧ Restates (unpadded bytes) (data read) ∧
      (Closes read ∨ rest = [] ∧ (data read).length % 4 = 0) := by
  obtain ⟨read, rest, rfl, rfl, hend⟩ := exists_read after_start ht h
  rw [List.all_append, Bool.and_eq_true] at ht
  have hdata := map_digit_filterMap ht.1
  have hlength : (read.filterMap sextet?).length % 4 ≠ 1 := by
    rw [← List.length_map (f := digit), hdata]
    rcases hend with hclose | ⟨-, hwhole⟩
    · have := hclose.1
      rw [List.nil_append] at this
      omega
    · rw [List.nil_append] at hwhole
      omega
  refine ⟨read, rest, rfl, ?_, hend⟩
  rw [← hdata]
  exact restates_run _ 0 0 0 (forall_filterMap_lt read) hlength

theorem data_filter (t : Text) : data (t.filter (!Text.isBlank ·)) = data t := by
  rw [data, List.filter_filter, data]
  congr 1
  funext c
  cases Text.isBlank c <;> simp

/-- Blanks have no part in whether pads complete a group. -/
theorem closes_filter_iff (t : Text) : Closes (t.filter (!Text.isBlank ·)) ↔ Closes t := by
  rw [Closes, Closes, data_filter, endPads, endPads, List.filter_filter]
  simp only [Bool.and_self]

theorem all_isEncodedChar_of_looksEncoded (h : looksEncoded t = true) :
    (t.filter (!Text.isBlank ·)).all isEncodedChar = true := by
  rw [looksEncoded, Bool.and_eq_true, List.all_eq_true] at h
  rw [List.all_eq_true]
  intro c hc
  obtain ⟨hmem, hfilter⟩ := List.mem_filter.mp hc
  have hblank : Text.isBlank c = false := by simpa using hfilter
  have hchar := h.2 c hmem
  rw [hblank, Bool.or_false] at hchar
  exact hchar

/-- What decoding reads of a text of the alphabet and blanks, it keeps. -/
theorem exists_restated_of_decodeText
    (ht : (t.filter (!Text.isBlank ·)).all isEncodedChar = true) (h : decodeText t = .ok text) :
    ∃ read rest, t = read ++ rest ∧ Restates (unpadded (Utf8.encode text)) (data read) ∧
      (Closes read ∨ data rest = [] ∧ (data t).length % 4 = 0) := by
  rw [decodeText, decode_eq_decodeFrom ht] at h
  cases hdecode : decodeFrom .start (t.filter (!Text.isBlank ·)) with
  | error e => simp [hdecode] at h
  | ok bytes =>
    have hbytes : Utf8.encode text = bytes := by
      cases hutf8 : Utf8.decode bytes with
      | error e => simp [hdecode, hutf8] at h
      | ok text' =>
        simp only [hdecode, hutf8, Except.ok.injEq] at h
        rw [← h, Utf8.encode_of_decode hutf8]
    obtain ⟨read', rest', hsplit, hcode, hend⟩ := exists_restated ht hdecode
    obtain ⟨read, rest, rfl, rfl, rfl⟩ := List.filter_eq_append_iff.mp hsplit
    rw [data_filter, ← hbytes] at hcode
    refine ⟨read, rest, rfl, hcode, ?_⟩
    rcases hend with hclose | ⟨hrest, hwhole⟩
    · exact .inl ((closes_filter_iff read).mp hclose)
    · have hnil : data rest = [] := by
        rw [← data_filter, hrest]
        rfl
      rw [data_filter] at hwhole
      rw [data_append, hnil, List.append_nil]
      exact .inr ⟨rfl, hwhole⟩

/-- Behind pads that complete a group nothing is read, be it data or not. -/
theorem decodeText_append (ht : ((read ++ rest).filter (!Text.isBlank ·)).all isEncodedChar = true)
    (hclose : Closes read) : decodeText (read ++ rest) = decodeText read := by
  have hread := ht
  rw [List.filter_append, List.all_append, Bool.and_eq_true] at hread
  have hclose' : Closes ([] ++ read.filter (!Text.isBlank ·)) := (closes_filter_iff read).mpr hclose
  rw [decodeText, decode_eq_decodeFrom ht, List.filter_append,
    decodeFrom_append after_start hread.1 hclose', ← decode_eq_decodeFrom hread.1, decodeText]

/-- A decoded text encodes to the data of the text it was decoded from, except where data follow
pads that complete a group. Such data are dropped without a fault: text or fault are those of what
comes before. Data that neither make up whole groups nor are closed by pads do not decode. -/
theorem restates_data_iff (t : Text) (h : looksEncoded t = true) :
    (∀ text, decodeText t = .ok text →
      (Restates (unpadded (Utf8.encode text)) (data t) ↔
        ¬ ∃ read rest, t = read ++ rest ∧ Closes read ∧ data rest ≠ []) ∧
      ((data t).length % 4 = 0 ∨ ∃ read rest, t = read ++ rest ∧ Closes read)) ∧
    ∀ read rest, t = read ++ rest → Closes read → decodeText t = decodeText read := by
  have ht := all_isEncodedChar_of_looksEncoded h
  refine ⟨?_, ?_⟩
  · intro text htext
    obtain ⟨read, rest, rfl, hcode, hend⟩ := exists_restated_of_decodeText ht htext
    refine ⟨⟨?_, ?_⟩, ?_⟩
    · -- The code of what is read before data that are dropped is too short.
      rintro hwhole ⟨first, dropped, hsplit, hclose, hdropped⟩
      rw [hsplit] at ht htext hwhole
      rw [decodeText_append ht hclose] at htext
      rw [List.filter_append, List.all_append, Bool.and_eq_true] at ht
      obtain ⟨read', rest', rfl, hcode', -⟩ := exists_restated_of_decodeText ht.1 htext
      have hlong := hwhole.length_eq
      have hshort := hcode'.length_eq
      have hpos := List.length_pos_of_ne_nil hdropped
      rw [data_append, List.length_append, data_append, List.length_append] at hlong
      omega
    · intro hnone
      have hrest : data rest = [] := by
        rcases hend with hclose | ⟨hrest, -⟩
        · by_contra hrest
          exact hnone ⟨read, rest, rfl, hclose, hrest⟩
        · exact hrest
      rw [data_append, hrest, List.append_nil]
      exact hcode
    · rcases hend with hclose | ⟨-, hwhole⟩
      · exact .inr ⟨read, rest, rfl, hclose⟩
      · exact .inl hwhole
  · rintro read rest rfl hclose
    exact decodeText_append ht hclose

/-- Two lists, each encoded and padded on its own: the second one is dropped. -/
theorem restates_data_iff_two_lists :
    let first := "fHxhLmNvbQo=\n".toList
    let second := "fHxiLmNvbQo=\n".toList
    looksEncoded (first ++ second) = true ∧ decodeText (first ++ second) = decodeText first ∧
      ¬ Restates (unpadded (Utf8.encode "||a.com\n".toList)) (data (first ++ second)) := by
  intro first second
  have hlooks : looksEncoded (first ++ second) = true := by decide +kernel
  have hclose : Closes first := by decide +kernel
  have hdecode : decodeText first = .ok "||a.com\n".toList := by decide +kernel
  obtain ⟨hkept, happend⟩ := restates_data_iff (first ++ second) hlooks
  have hsame := happend first second rfl hclose
  refine ⟨hlooks, hsame, fun hwhole => ?_⟩
  exact (hkept _ (hsame.trans hdecode)).1.mp hwhole ⟨first, second, rfl, hclose, by decide +kernel⟩

/-- Decoding does drop data without a fault. -/
theorem not_restates_two_lists :
    ¬ ∀ t text, looksEncoded t = true → decodeText t = .ok text →
      Restates (unpadded (Utf8.encode text)) (data t) := by
  intro hall
  have hwhole := hall "fHxhLmNvbQo=fHxiLmNvbQo=".toList "||a.com\n".toList (by decide +kernel)
    (by decide +kernel)
  have hlength : (unpadded (Utf8.encode "||a.com\n".toList)).length ≠
      (data "fHxhLmNvbQo=fHxiLmNvbQo=".toList).length := by
    decide +kernel
  exact hlength hwhole.length_eq

end AutoProxy.Base64
