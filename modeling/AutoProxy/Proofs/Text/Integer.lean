import AutoProxy.Proofs.Text.Blank
import AutoProxy.Text.Integer
import Mathlib.Data.Nat.Digits.Defs

/-! Which texts are integer literals, and what they stand for. -/
namespace AutoProxy

namespace Text

variable {c : Char} {d : Nat}

theorem isBlank_of_digitValue? (hc : digitValue? c = some d) : isBlank c = false := by
  have hranges : ∀ r ∈ decimalDigits, 0x20 < r.1 ∧ (r.2 < 0x85 ∨
      (0xA0 < r.1 ∧ r.2 < 0x1680) ∨ (0x1680 < r.1 ∧ r.2 < 0x2000) ∨ 0x3000 < r.1) := by
    decide +kernel
  obtain ⟨r, hfound, -⟩ := Option.map_eq_some_iff.mp hc
  have hr := hranges r (List.mem_of_find?_eq_some hfound)
  have hin := List.find?_some hfound
  simp only [Bool.and_eq_true, decide_eq_true_eq] at hin
  simp only [isBlank, Bool.or_eq_false_iff, Bool.and_eq_false_iff, decide_eq_false_iff_not,
    beq_eq_false_iff_ne, ne_eq]
  omega

end Text

namespace Integer

/-- Decimal digits of any scripts, with at most one underscore between two of them. -/
inductive Spells : Text → List Nat → Prop where
  | last {c d} (hc : Text.digitValue? c = some d) : Spells [c] [d]
  | digit {c d t ds} (hc : Text.digitValue? c = some d) (ht : Spells t ds) :
      Spells (c :: t) (d :: ds)
  | underscore {c d t ds} (hc : Text.digitValue? c = some d) (ht : Spells t ds) :
      Spells (c :: '_' :: t) (d :: ds)

/-- What is read of a text: digits, or what may stand behind one. -/
inductive Consumed : Bool → Text → List Nat → Prop where
  | digits {b t ds} (ht : Spells t ds) : Consumed b t ds
  | nothing : Consumed false [] []
  | underscore {t ds} (ht : Spells t ds) : Consumed false ('_' :: t) ds

/-- The value of a literal. Zeros in front of it count among its digits. -/
inductive Denotes : Text → Int → Prop where
  | plain {t ds} (ht : Spells t ds) (hlength : ds.length ≤ 4300) :
      Denotes t (Nat.ofDigits 10 ds.reverse : Nat)
  | plus {t ds} (ht : Spells t ds) (hlength : ds.length ≤ 4300) :
      Denotes ('+' :: t) (Nat.ofDigits 10 ds.reverse : Nat)
  | minus {t ds} (ht : Spells t ds) (hlength : ds.length ≤ 4300) :
      Denotes ('-' :: t) (-(Nat.ofDigits 10 ds.reverse : Nat))

/-- A literal with blanks around it. -/
def Reads (t : Text) (n : Int) : Prop :=
  ∃ front literal back, t = front ++ (literal ++ back) ∧ front.all isMargin = true ∧
    back.all isMargin = true ∧ Denotes literal n

/-- Digits end in front of this text. -/
def Stops (t : Text) : Prop := ∀ c, t.head? = some c → Text.digitValue? c = none ∧ c ≠ '_'

variable {c : Char} {d : Nat} {t u literal rest : Text} {ds : List Nat} {n : Int} {b : Bool}

theorem isBlank_of_isMargin (hc : isMargin c = true) : Text.isBlank c = true := by
  rw [isMargin, Bool.and_eq_true] at hc
  exact hc.1

/-- Margins are blanks, and digits do not go on behind a blank. -/
theorem stops_of_margins (h : t.all isMargin = true) : Stops t := by
  intro c hc
  have hblank := isBlank_of_isMargin (List.all_eq_true.mp h c (List.mem_of_mem_head? hc))
  constructor
  · cases hd : Text.digitValue? c with
    | none => rfl
    | some d => exact absurd (Text.isBlank_of_digitValue? hd) (by simp [hblank])
  · rintro rfl
    exact absurd hblank (by decide)

/-- At the end of a literal there are no more digits to read. -/
theorem digits?_of_stops (h : Stops rest) : digits? false rest = some ([], rest) := by
  cases rest with
  | nil => rfl
  | cons c t =>
    obtain ⟨hd, hc⟩ := h c rfl
    simp [digits?, hd, hc]

/-- Digits are read up to where they end. -/
theorem digits?_append (h : Spells literal ds) (hrest : Stops rest) (b : Bool) :
    digits? b (literal ++ rest) = some (ds, rest) := by
  induction h generalizing b with
  | last hc => simp [digits?, hc, digits?_of_stops hrest]
  | digit hc _ ih => simp [digits?, hc, ih]
  | underscore hc _ ih =>
    have hmark : Text.digitValue? '_' = none := by decide +kernel
    simp [digits?, hc, hmark, ih]

theorem Consumed.cons (h : Consumed false t ds) (hc : Text.digitValue? c = some d) :
    Spells (c :: t) (d :: ds) := by
  cases h with
  | digits ht => exact .digit hc ht
  | nothing => exact .last hc
  | underscore ht => exact .underscore hc ht

theorem Consumed.spells (h : Consumed true t ds) : Spells t ds := by
  cases h with
  | digits ht => exact ht

/-- What was read is a literal by the grammar, and what is left stands behind it. -/
theorem consumed_of_digits? (h : digits? b t = some (ds, rest)) :
    ∃ literal, t = literal ++ rest ∧ Consumed b literal ds := by
  induction t generalizing b ds with
  | nil =>
    cases b with
    | true => cases h
    | false =>
      cases h
      exact ⟨[], rfl, .nothing⟩
  | cons c t ih =>
    rw [digits?] at h
    match hc : Text.digitValue? c with
    | some d =>
      rw [hc] at h
      obtain ⟨⟨ds, rest⟩, hread, hds⟩ := Option.map_eq_some_iff.mp h
      cases hds
      obtain ⟨literal, rfl, hliteral⟩ := ih hread
      exact ⟨c :: literal, rfl, .digits (hliteral.cons hc)⟩
    | none =>
      rw [hc] at h
      cases b with
      | true => cases h
      | false =>
        by_cases hmark : c = '_'
        · subst hmark
          obtain ⟨literal, rfl, hliteral⟩ := ih h
          exact ⟨'_' :: literal, rfl, .underscore hliteral.spells⟩
        · simp only [Bool.false_eq_true, if_false, hmark] at h
          cases h
          exact ⟨[], rfl, .nothing⟩

/-- The value of the digits does not depend on how it is computed. -/
theorem ofDigits_eq (ds : List Nat) : ofDigits ds = Nat.ofDigits 10 ds.reverse := by
  rw [ofDigits, Nat.ofDigits_eq_foldr, List.foldr_reverse]
  simp [Nat.add_comm]

theorem unsigned_eq_ok_iff {m : Nat} : unsigned t u = .ok m ↔
    ∃ literal back ds, u = literal ++ back ∧ back.all isMargin = true ∧ Spells literal ds ∧
      ds.length ≤ 4300 ∧ m = Nat.ofDigits 10 ds.reverse := by
  constructor
  · intro h
    rw [unsigned] at h
    match hread : digits? true u with
    | none =>
      rw [hread] at h
      cases h
    | some (ds, rest) =>
      rw [hread] at h
      obtain ⟨literal, rfl, hliteral⟩ := consumed_of_digits? hread
      dsimp only at h
      split at h
      · cases h
      next hlength =>
      split at h
      next hback =>
        cases h
        exact ⟨literal, rest, ds, rfl, hback, hliteral.spells, Nat.le_of_not_lt hlength,
          ofDigits_eq ds⟩
      · cases h
  · rintro ⟨literal, back, ds, rfl, hback, hliteral, hlength, rfl⟩
    have hshort : ¬maxDigits < ds.length := Nat.not_lt_of_le hlength
    rw [unsigned, digits?_append hliteral (stops_of_margins hback)]
    dsimp only
    rw [if_neg hshort, if_pos hback, ofDigits_eq]

theorem ofText_eq (t : Text) : ofText t =
    match unsigned t (signed (t.dropWhile isMargin)).2 with
    | .ok m => .ok (if (signed (t.dropWhile isMargin)).1 then -(m : Int) else m)
    | .error e => .error e :=
  rfl

theorem Spells.head (h : Spells t ds) : ∃ c u d, t = c :: u ∧ Text.digitValue? c = some d := by
  cases h with
  | last hc => exact ⟨_, _, _, rfl, hc⟩
  | digit hc _ => exact ⟨_, _, _, rfl, hc⟩
  | underscore hc _ => exact ⟨_, _, _, rfl, hc⟩

theorem signed_of_spells (h : Spells t ds) (u : Text) : signed (t ++ u) = (false, t ++ u) := by
  have hminus : Text.digitValue? '-' = none := by decide +kernel
  have hplus : Text.digitValue? '+' = none := by decide +kernel
  obtain ⟨c, t, d, rfl, hc⟩ := h.head
  rw [List.cons_append, signed]
  · rintro u ⟨rfl, -⟩
    cases hminus.symm.trans hc
  · rintro u ⟨rfl, -⟩
    cases hplus.symm.trans hc

/-- There is one sign at most. -/
theorem signed_cases (t : Text) :
    (∃ u, t = '-' :: u ∧ signed t = (true, u)) ∨ (∃ u, t = '+' :: u ∧ signed t = (false, u)) ∨
      signed t = (false, t) := by
  unfold signed
  split
  · exact .inl ⟨_, rfl, rfl⟩
  · exact .inr (.inl ⟨_, rfl, rfl⟩)
  · exact .inr (.inr rfl)

/-- No number begins with a blank, so the margin before it ends where it begins. -/
theorem Denotes.head (h : Denotes t n) : ∃ c u, t = c :: u ∧ Text.isBlank c = false := by
  cases h with
  | plain ht _ =>
    obtain ⟨c, u, d, rfl, hc⟩ := ht.head
    exact ⟨c, u, rfl, Text.isBlank_of_digitValue? hc⟩
  | plus => exact ⟨'+', _, rfl, rfl⟩
  | minus => exact ⟨'-', _, rfl, rfl⟩

theorem Denotes.dropWhile_margin {front : Text} (h : Denotes t n)
    (hfront : front.all isMargin = true) (u : Text) :
    (front ++ (t ++ u)).dropWhile isMargin = t ++ u := by
  obtain ⟨c, t, rfl, hc⟩ := h.head
  have hplain : ¬isMargin c = true := fun hmargin => by
    simp [isBlank_of_isMargin hmargin] at hc
  rw [List.dropWhile_append_of_pos (List.all_eq_true.mp hfront), List.cons_append,
    List.dropWhile_cons_of_neg hplain]

/-- Every literal that the grammar derives is read as its number. -/
theorem ofText_of_reads (h : Reads t n) : ofText t = .ok n := by
  obtain ⟨front, literal, back, rfl, hfront, hback, hliteral⟩ := h
  have hbody := hliteral.dropWhile_margin hfront back
  rw [ofText_eq, hbody]
  cases hliteral with
  | plain ht hlength =>
    rw [signed_of_spells ht,
      unsigned_eq_ok_iff.mpr ⟨_, _, _, rfl, hback, ht, hlength, rfl⟩]
    rfl
  | plus ht hlength =>
    rw [List.cons_append, signed,
      unsigned_eq_ok_iff.mpr ⟨_, _, _, rfl, hback, ht, hlength, rfl⟩]
    rfl
  | minus ht hlength =>
    rw [List.cons_append, signed,
      unsigned_eq_ok_iff.mpr ⟨_, _, _, rfl, hback, ht, hlength, rfl⟩]
    rfl

/-- By the cases of the sign: what was read puts a literal together. -/
theorem reads_of_ofText (h : ofText t = .ok n) : Reads t n := by
  have hfront : (t.takeWhile isMargin).all isMargin = true := List.all_takeWhile
  have hparts {u : Text} (hu : t.dropWhile isMargin = u) : t = t.takeWhile isMargin ++ u := by
    rw [← hu, List.takeWhile_append_dropWhile]
  rw [ofText_eq] at h
  match hread : unsigned t (signed (t.dropWhile isMargin)).2 with
  | .error e =>
    rw [hread] at h
    cases h
  | .ok m =>
    rw [hread] at h
    obtain ⟨literal, back, ds, hbody, hback, hliteral, hlength, rfl⟩ := unsigned_eq_ok_iff.mp hread
    rcases signed_cases (t.dropWhile isMargin) with ⟨u, hu, hsigned⟩ | ⟨u, hu, hsigned⟩ | hsigned
    · rw [hsigned] at h hbody
      cases hbody
      cases h
      exact ⟨_, _, _, hparts hu, hfront, hback, .minus hliteral hlength⟩
    · rw [hsigned] at h hbody
      cases hbody
      cases h
      exact ⟨_, _, _, hparts hu, hfront, hback, .plus hliteral hlength⟩
    · rw [hsigned] at h hbody
      cases h
      exact ⟨_, _, _, hparts hbody, hfront, hback, .plain hliteral hlength⟩

/-- Just the literals with blanks around them are read, each as what it stands for. -/
theorem ofText_eq_ok_iff : ofText t = .ok n ↔ Reads t n := ⟨reads_of_ofText, ofText_of_reads⟩

example : ofText " -٠_٣\n".toList = .ok (-3) := by decide +kernel

/-- Nothing stands around a literal in a trimmed text. -/
theorem ofText_trim_eq_ok_iff : ofText (Text.trim t) = .ok n ↔ Denotes (Text.trim t) n := by
  rw [ofText_eq_ok_iff]
  constructor
  · rintro ⟨front, literal, back, hparts, hfront, hback, hliteral⟩
    have hnoFront : front = [] := by
      cases front with
      | nil => rfl
      | cons c front =>
        have hhead : (Text.trim t).head? = some c := by
          rw [hparts]
          rfl
        have hc : Text.isBlank c = false := Text.isBlank_of_head?_trim hhead
        rw [List.all_cons, Bool.and_eq_true] at hfront
        simp [isBlank_of_isMargin hfront.1] at hc
    have hnoBack : back = [] := by
      cases hlast : back.getLast? with
      | none => exact List.getLast?_eq_none_iff.mp hlast
      | some c =>
        have hc : Text.isBlank c = false := by
          apply Text.isBlank_of_getLast?_trim (t := t)
          rw [hparts, List.getLast?_append, List.getLast?_append, hlast, Option.some_or,
            Option.some_or]
        have hmargin := List.all_eq_true.mp hback c (List.mem_of_getLast? hlast)
        simp [isBlank_of_isMargin hmargin] at hc
    rw [hparts, hnoFront, hnoBack, List.nil_append, List.append_nil]
    exact hliteral
  · intro h
    exact ⟨[], _, [], (List.append_nil _).symm, rfl, rfl, h⟩

end Integer

end AutoProxy
