import AutoProxy.Proofs.Text.Number
import AutoProxy.Timestamp

/-! Which characters show a point of time. -/
namespace AutoProxy

namespace Text

variable {c : Char} {width n : Nat}

/-- The padding is made of zeros. -/
theorem isDigit_of_mem_padded (h : c ∈ padded width n) : c.isDigit = true := by
  rw [padded, List.mem_append] at h
  rcases h with h | h
  · rw [List.eq_of_mem_replicate h]
    rfl
  · exact isDigit_of_mem_ofNat h

end Text

namespace Timestamp

/-- Digits, and what stands between and before them. -/
def IsMark (c : Char) : Prop := c.isDigit = true ∨ c ∈ ['-', 'T', ':', '.', '+']

instance : DecidablePred IsMark := fun c => inferInstanceAs (Decidable (c.isDigit = true ∨ _))

theorem isMark_padded (width n : Nat) : ∀ c ∈ Text.padded width n, IsMark c :=
  fun _ h => .inl (Text.isDigit_of_mem_padded h)

theorem isMark_cons_padded {c : Char} (hc : IsMark c) (width n : Nat) :
    ∀ d ∈ c :: Text.padded width n, IsMark d :=
  List.forall_mem_cons.mpr ⟨hc, isMark_padded width n⟩

theorem isMark_zoneText (seconds : Int) : ∀ c ∈ zoneText seconds, IsMark c := by
  simp only [zoneText, List.forall_mem_append]
  refine ⟨⟨isMark_cons_padded ?_ 2 _, isMark_cons_padded (by decide) 2 _⟩, ?_⟩
  · split <;> decide
  · split
    · simp
    · exact isMark_cons_padded (by decide) 2 _

theorem isMark_toText (t : Timestamp) : ∀ c ∈ t.toText, IsMark c := by
  simp only [toText, List.forall_mem_append]
  refine ⟨⟨⟨⟨⟨⟨⟨isMark_padded 4 _, isMark_cons_padded ?_ 2 _⟩, isMark_cons_padded ?_ 2 _⟩,
    isMark_cons_padded ?_ 2 _⟩, isMark_cons_padded ?_ 2 _⟩, isMark_cons_padded ?_ 2 _⟩, ?_⟩, ?_⟩
  iterate 5 decide
  · split
    · simp
    · exact isMark_cons_padded (by decide) 6 _
  · cases t.offset with
    | none => simp
    | some seconds => exact isMark_zoneText seconds

/-- So a time brings nothing into the head of a script that would end its line. -/
theorem not_mem_toText {c : Char} (t : Timestamp) (hc : ¬ IsMark c) : c ∉ t.toText :=
  fun h => hc (isMark_toText t c h)

end Timestamp

end AutoProxy
