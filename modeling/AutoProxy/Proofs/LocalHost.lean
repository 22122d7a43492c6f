import AutoProxy.Proofs.Decision
import AutoProxy.Proofs.Text.Number
import AutoProxy.Proofs.Text.Split

/-! Which hosts are local, said by their text. -/
namespace AutoProxy

namespace Address

variable {n : Nat} {t : Text} {x : Address}

/-- Each of the four numbers fits a byte. -/
def InRange (x : Address) : Prop := x.a ≤ 255 ∧ x.b ≤ 255 ∧ x.c ≤ 255 ∧ x.d ≤ 255

/-- The four numbers in decimal with dots between them. -/
def toText (x : Address) : Text :=
  Text.join ['.'] [Text.ofNat x.a, Text.ofNat x.b, Text.ofNat x.c, Text.ofNat x.d]

/-- A part is a number up to 255 in its one written form. -/
theorem part?_eq_some_iff : part? t = some n ↔ n ≤ 255 ∧ t = Text.ofNat n := by
  constructor
  · intro h
    rw [part?] at h
    split_ifs at h with hform hzero hlarge
    simp only [Bool.or_eq_true, Bool.not_eq_true', List.isEmpty_iff, decide_eq_true_eq, not_or,
      Bool.not_eq_false, List.all_eq_true] at hform
    obtain ⟨⟨hne, -⟩, hdigits⟩ := hform
    have hlead : t.head? = some '0' → t.length = 1 := by simpa using hzero
    have htext := Text.ofNat_ofDigitChars hne hdigits hlead
    rw [← Option.some.inj h]
    exact ⟨Nat.le_of_not_lt hlarge, htext.symm⟩
  · rintro ⟨hn, rfl⟩
    have hall : ∀ n < 256, part? (Text.ofNat n) = some n := by decide +kernel
    exact hall n (Nat.lt_succ_of_le hn)

theorem ofText?_toText (h : x.InRange) : ofText? x.toText = some x := by
  obtain ⟨ha, hb, hc, hd⟩ := h
  have hparts :
      ∀ p ∈ [Text.ofNat x.a, Text.ofNat x.b, Text.ofNat x.c, Text.ofNat x.d], '.' ∉ p := by
    simp [Text.not_mem_ofNat (show Char.isDigit '.' = false from rfl)]
  rw [ofText?, toText, Text.split_join (by simp) hparts]
  simp only [part?_eq_some_iff.mpr ⟨ha, rfl⟩, part?_eq_some_iff.mpr ⟨hb, rfl⟩,
    part?_eq_some_iff.mpr ⟨hc, rfl⟩, part?_eq_some_iff.mpr ⟨hd, rfl⟩]

/-- A text is an address in one way only, and each address in range has its text. -/
theorem ofText?_eq_some_iff : ofText? t = some x ↔ x.InRange ∧ t = x.toText := by
  constructor
  · intro h
    rw [ofText?] at h
    split at h
    · next ta tb tc td hsplit =>
      split at h
      · next a b c d ha hb hc hd =>
        cases h
        obtain ⟨la, rfl⟩ := part?_eq_some_iff.mp ha
        obtain ⟨lb, rfl⟩ := part?_eq_some_iff.mp hb
        obtain ⟨lc, rfl⟩ := part?_eq_some_iff.mp hc
        obtain ⟨ld, rfl⟩ := part?_eq_some_iff.mp hd
        exact ⟨⟨la, lb, lc, ld⟩, by rw [toText, ← hsplit, Text.join_split]⟩
      · cases h
    · cases h
  · rintro ⟨hx, rfl⟩
    exact ofText?_toText hx

end Address

namespace Host

variable {h host : Text}

theorem isLocalName_iff : isLocalName h = true ↔ '.' ∉ h ∨ ".local".toList <:+ h ∨
    ∃ x : Address, x.InRange ∧ h = x.toText ∧ x.isLocal = true := by
  rw [isLocalName, Bool.or_eq_true, Bool.or_eq_true, List.isSuffixOf_iff_suffix, or_assoc]
  refine or_congr (by simp) (or_congr_right ?_)
  simp only [← and_assoc, ← Address.ofText?_eq_some_iff]
  cases Address.ofText? h <;> simp

theorem decide_of_isLocal (h : isLocal host = true) (i : Index) : i.decide host = .direct := by
  rw [isLocal] at h
  rw [Index.decide, Index.decideName, if_pos h]

/-- A host is local if its lower case has no dot, ends in `.local`, or is an address of four
numbers, in decimal and none above 255, in one of the local nets. Tables do not matter to such a
host. -/
theorem isLocal_iff (host : Text) :
    let h := Text.lower host
    (isLocal host = true ↔ '.' ∉ h ∨ ".local".toList <:+ h ∨
      ∃ a b c d : Nat, (a ≤ 255 ∧ b ≤ 255 ∧ c ≤ 255 ∧ d ≤ 255) ∧
        h = Text.join ['.'] [Text.ofNat a, Text.ofNat b, Text.ofNat c, Text.ofNat d] ∧
        (a = 127 ∨ a = 10 ∨ (a = 172 ∧ 16 ≤ b ∧ b ≤ 31) ∨ (a = 192 ∧ b = 168))) ∧
      (isLocal host = true → ∀ i : Index, i.decide host = .direct) := by
  intro h
  refine ⟨?_, decide_of_isLocal⟩
  rw [isLocal, isLocalName_iff]
  refine or_congr_right (or_congr_right ⟨?_, ?_⟩)
  · rintro ⟨⟨a, b, c, d⟩, hrange, htext, hlocal⟩
    refine ⟨a, b, c, d, hrange, htext, ?_⟩
    simpa [Address.isLocal, or_assoc, and_assoc] using hlocal
  · rintro ⟨a, b, c, d, hrange, htext, hlocal⟩
    refine ⟨⟨a, b, c, d⟩, hrange, htext, ?_⟩
    simpa [Address.isLocal, or_assoc, and_assoc] using hlocal

theorem isLocal_iff_private_net :
    let host := "172.31.0.255".toList
    isLocal host = true ∧ isLocal "172.31.0.0255".toList = false ∧
      ∀ i : Index, i.decide host = .direct := by
  intro host
  have hlocal : isLocal host = true := by
    refine (isLocal_iff host).1.mpr (.inr (.inr ⟨172, 31, 0, 255, by decide, ?_, by decide⟩))
    decide
  exact ⟨hlocal, by decide, (isLocal_iff host).2 hlocal⟩

end Host

end AutoProxy
