import AutoProxy.Text.Basic

/-! Finite sets of texts, kept in the order of code points. -/
namespace AutoProxy

structure TextSet where
  toList : List Text
  sorted : toList.Pairwise (· < ·)
  deriving DecidableEq

namespace TextSet

variable {t u : Text} {ts : List Text} {s : TextSet}

def empty : TextSet := ⟨[], .nil⟩

def insertInto (t : Text) : List Text → List Text
  | [] => [t]
  | u :: us => if t < u then t :: u :: us else if t = u then u :: us else u :: insertInto t us

theorem mem_insertInto : u ∈ insertInto t ts ↔ u = t ∨ u ∈ ts := by
  induction ts with
  | nil => simp [insertInto]
  | cons v vs ih =>
    simp only [insertInto]
    split
    · simp
    · split <;> simp_all
      exact or_left_comm

theorem pairwise_insertInto (h : ts.Pairwise (· < ·)) : (insertInto t ts).Pairwise (· < ·) := by
  induction ts with
  | nil => simp [insertInto]
  | cons v vs ih =>
    have hv := List.pairwise_cons.mp h
    simp only [insertInto]
    split
    · next hlt =>
      refine List.pairwise_cons.mpr ⟨fun u hu => ?_, h⟩
      rcases List.mem_cons.mp hu with rfl | hu
      · exact hlt
      · exact List.lt_trans hlt (hv.1 u hu)
    · split
      · exact h
      · next hlt hne =>
        refine List.pairwise_cons.mpr ⟨fun u hu => ?_, ih hv.2⟩
        rcases mem_insertInto.mp hu with rfl | hu
        · rcases List.le_iff_lt_or_eq.mp (List.not_lt.mp hlt) with h | h
          · exact h
          · exact absurd h.symm hne
        · exact hv.1 u hu

def insert (t : Text) (s : TextSet) : TextSet :=
  ⟨insertInto t s.toList, pairwise_insertInto s.sorted⟩

def ofList (ts : List Text) : TextSet := ts.foldl (fun s t => s.insert t) empty

def size (s : TextSet) : Nat := s.toList.length

def contains (s : TextSet) (t : Text) : Bool := s.toList.contains t

instance : Membership Text TextSet := ⟨fun s t => t ∈ s.toList⟩

theorem mem_insert : u ∈ s.insert t ↔ u = t ∨ u ∈ s := mem_insertInto

theorem contains_iff : s.contains t = true ↔ t ∈ s := by
  simp [contains, Membership.mem]

theorem not_mem_empty : t ∉ empty := by
  intro h
  cases h

theorem mem_ofList : t ∈ ofList ts ↔ t ∈ ts := by
  have h (us : List Text) (s : TextSet) :
      t ∈ us.foldl (fun s u => s.insert u) s ↔ t ∈ s ∨ t ∈ us := by
    induction us generalizing s with
    | nil => simp
    | cons u us ih =>
      rw [List.foldl_cons, ih, mem_insert, List.mem_cons]
      constructor
      · rintro ((h | h) | h) <;> simp [h]
      · rintro (h | h | h) <;> simp [h]
  simpa [ofList, not_mem_empty] using h ts empty

/-- A set is known by its members, since one order lists them. -/
theorem ext_mem {r s : TextSet} (h : ∀ t, t ∈ r ↔ t ∈ s) : r = s := by
  obtain ⟨rs, hr⟩ := r
  obtain ⟨ss, hs⟩ := s
  replace h : ∀ t, t ∈ rs ↔ t ∈ ss := h
  simp only [mk.injEq]
  induction rs generalizing ss with
  | nil =>
    cases ss with
    | nil => rfl
    | cons u us => simpa using h u
  | cons t ts ih =>
    cases ss with
    | nil => simpa using h t
    | cons u us =>
      have ht := List.pairwise_cons.mp hr
      have hu := List.pairwise_cons.mp hs
      have htu : t = u := by
        rcases List.mem_cons.mp ((h t).mp (by simp)) with he | hm
        · exact he
        · rcases List.mem_cons.mp ((h u).mpr (by simp)) with he | hn
          · exact he.symm
          · exact absurd (ht.1 u hn) (List.lt_asymm (hu.1 t hm))
      subst htu
      refine congrArg _ (ih ht.2 us hu.2 ?_)
      intro v
      constructor
      · intro hv
        rcases List.mem_cons.mp ((h v).mp (List.mem_cons_of_mem _ hv)) with rfl | hm
        · exact absurd (ht.1 v hv) (List.lt_irrefl v)
        · exact hm
      · intro hv
        rcases List.mem_cons.mp ((h v).mpr (List.mem_cons_of_mem _ hv)) with rfl | hm
        · exact absurd (hu.1 v hv) (List.lt_irrefl v)
        · exact hm

end TextSet

end AutoProxy
