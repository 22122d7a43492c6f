import AutoProxy.Proofs.Decision

/-! The walk over the labels of a host: where it passes, where it ends, and which sets it hits. -/
namespace AutoProxy

namespace Domain

variable {s t u host : Text}

theorem suffix_of_mem_suffixes (h : s ∈ suffixes host) : s <:+ host := by
  rcases mem_suffixes_iff.mp h with rfl | hdot
  · exact List.suffix_rfl
  · exact (List.suffix_cons '.' s).trans hdot

/-- What is behind a dot of a place that the walk reaches, it reaches later. -/
theorem mem_suffixes_of_mem (hs : s ∈ suffixes host) (hu : '.' :: u <:+ s) : u ∈ suffixes host :=
  mem_suffixes_iff.mpr (.inr (hu.trans (suffix_of_mem_suffixes hs)))

theorem length_lt_of_dot_suffix (h : '.' :: s <:+ t) : s.length < t.length := h.length_le

theorem length_parents (t : Text) : (parents t).length = t.count '.' := by
  induction t with
  | nil => rfl
  | cons c t ih =>
    rw [parents]
    by_cases hc : c = '.'
    · rw [if_pos hc, hc, List.count_cons_self, List.length_cons, ih]
    · rw [if_neg hc, List.count_cons_of_ne hc, ih]

theorem pairwise_parents (t : Text) : (parents t).Pairwise fun s u => u.length < s.length := by
  induction t with
  | nil => exact .nil
  | cons c t ih =>
    rw [parents]
    by_cases hc : c = '.'
    · rw [if_pos hc]
      refine .cons ?_ ih
      intro u hu
      exact length_lt_of_dot_suffix (mem_parents_iff.mp hu)
    · rwa [if_neg hc]

theorem pairwise_suffixes (host : Text) :
    (suffixes host).Pairwise fun s u => u.length < s.length := by
  refine .cons ?_ (pairwise_parents host)
  intro u hu
  exact length_lt_of_dot_suffix (mem_parents_iff.mp hu)

/-- The last place is the shortest, and behind a dot of it there would be a shorter one. -/
theorem dot_not_mem_getLast (h : (suffixes host).getLast? = some s) : '.' ∉ s := by
  intro hdot
  obtain ⟨front, hfront⟩ := List.getLast?_eq_some_iff.mp h
  obtain ⟨p, u, rfl⟩ := List.append_of_mem hdot
  have hlast : p ++ '.' :: u ∈ suffixes host := by
    rw [hfront]
    exact List.mem_append_right front (List.mem_singleton_self _)
  have hu : u ∈ suffixes host := mem_suffixes_of_mem hlast (List.suffix_append p _)
  have hshorter : u.length < (p ++ '.' :: u).length :=
    length_lt_of_dot_suffix (List.suffix_append p _)
  have hsorted := pairwise_suffixes host
  rw [hfront, List.pairwise_append] at hsorted
  rw [hfront] at hu
  rcases List.mem_append.mp hu with hearlier | hsame
  · have hlonger := hsorted.2.2 u hearlier _ (List.mem_singleton_self _)
    omega
  · rw [← List.mem_singleton.mp hsame] at hshorter
    omega

end Domain

namespace Host

variable {domains : TextSet} {host d p x : Text} {c : Char}

/-- What hits a host hits all below it. -/
theorem isBelow_of_isBelow (h : isBelow domains host = true) (x : Text) :
    isBelow domains (x ++ '.' :: host) = true := by
  obtain ⟨d, hd, hhit⟩ := isBelow_iff.mp h
  have hhost : '.' :: host <:+ x ++ '.' :: host := List.suffix_append x _
  refine isBelow_iff.mpr ⟨d, hd, .inr ?_⟩
  rcases hhit with rfl | hdot
  · exact hhost
  · exact hdot.trans ((List.suffix_cons '.' host).trans hhost)

/-- A domain that ends the host within one of its labels is no reason for a hit. -/
theorem isBelow_insert_of_inside (hhost : host = p ++ c :: d) (hc : c ≠ '.') (domains : TextSet) :
    isBelow (domains.insert d) host = isBelow domains host := by
  have hself : ¬ (host = d ∨ '.' :: d <:+ host) := by
    rintro (hsame | ⟨q, hq⟩)
    · have hlength := congrArg List.length (hhost.symm.trans hsame)
      rw [List.length_append, List.length_cons] at hlength
      omega
    · rw [hhost] at hq
      exact hc (List.cons_eq_cons.mp (List.append_inj_right' hq rfl)).1.symm
  rw [Bool.eq_iff_iff, isBelow_iff, isBelow_iff]
  constructor
  · rintro ⟨e, he, hhit⟩
    rcases TextSet.mem_insert.mp he with rfl | he
    · exact absurd hhit hself
    · exact ⟨e, he, hhit⟩
  · rintro ⟨e, he, hhit⟩
    exact ⟨e, TextSet.mem_insert.mpr (.inr he), hhit⟩

end Host

namespace Domain

/-- The walk goes from the host to what is behind each of its dots, each once and longest first, up
to the last label. So it hits a set exactly if the host or a domain above it is in the set. -/
theorem suffixes_walk_labels (host : Text) :
    (suffixes host).head? = some host ∧
    (∀ s, s ∈ (suffixes host).tail ↔ ∃ p, host = p ++ '.' :: s) ∧
    (suffixes host).Nodup ∧
    (suffixes host).Pairwise (fun s u => u.length < s.length) ∧
    (suffixes host).length = host.count '.' + 1 ∧
    (∀ s, (suffixes host).getLast? = some s → '.' ∉ s) ∧
    (∀ domains : TextSet, Host.isBelow domains host = true ↔
      ∃ d ∈ domains, d = host ∨ ∃ p, host = p ++ '.' :: d) ∧
    (∀ (domains : TextSet) (x : Text), Host.isBelow domains host = true →
      Host.isBelow domains (x ++ '.' :: host) = true) ∧
    ∀ (p : Text) (c : Char) (d : Text), host = p ++ c :: d → c ≠ '.' →
      ∀ domains : TextSet, Host.isBelow (domains.insert d) host = Host.isBelow domains host := by
  have hsuffix (s : Text) : '.' :: s <:+ host ↔ ∃ p, host = p ++ '.' :: s :=
    exists_congr fun p => eq_comm
  have hshorter := pairwise_suffixes host
  refine ⟨rfl, ?_, ?_, hshorter, ?_, fun s => dot_not_mem_getLast, ?_, ?_, ?_⟩
  · intro s
    rw [← hsuffix]
    exact mem_parents_iff
  · refine hshorter.imp ?_
    rintro s u hlength rfl
    exact Nat.lt_irrefl _ hlength
  · rw [suffixes, List.length_cons, length_parents]
  · intro domains
    simp only [Host.isBelow_iff, hsuffix, eq_comm (a := host)]
  · intro domains x h
    exact Host.isBelow_of_isBelow h x
  · intro p c d hhost hc domains
    exact Host.isBelow_insert_of_inside hhost hc domains

/-- A dot at each end, and two in a row. -/
example : suffixes ".a..b.".toList = [".a..b.", "a..b.", ".b.", "b.", ""].map String.toList := by
  decide

theorem suffixes_walk_labels_inside :
    let host := "mail.google.com".toList
    let domains := TextSet.ofList ["google.com".toList]
    Host.isBelow domains host = true ∧ Host.isBelow domains ("a.b".toList ++ '.' :: host) = true ∧
      host = "mail.goo".toList ++ 'g' :: "le.com".toList ∧ 'g' ≠ '.' ∧
      Host.isBelow (TextSet.empty.insert "le.com".toList) host = false := by
  intro host domains
  have hhit : Host.isBelow domains host = true := by decide
  have hinside : host = "mail.goo".toList ++ 'g' :: "le.com".toList := rfl
  obtain ⟨-, -, -, -, -, -, -, hbelow, hmiss⟩ := suffixes_walk_labels host
  exact ⟨hhit, hbelow domains _ hhit, hinside, by decide,
    hmiss _ _ _ hinside (by decide) TextSet.empty⟩

end Domain

end AutoProxy
