import AutoProxy.Text.Blank

/-! What trimming takes away, and what it leaves as it is. -/
namespace AutoProxy.Text

variable {c : Char} {t : Text}

theorem dropWhile_of_head {p : Char → Bool} (h : ∀ c, t.head? = some c → p c = false) :
    t.dropWhile p = t := by
  cases t with
  | nil => rfl
  | cons c t => exact List.dropWhile_cons_of_neg (by simpa using h c rfl)

theorem trimStart_of_head (h : ∀ c, t.head? = some c → isBlank c = false) : trimStart t = t :=
  dropWhile_of_head h

theorem trimEnd_of_getLast (h : ∀ c, t.getLast? = some c → isBlank c = false) : trimEnd t = t := by
  have hrev : t.reverse.dropWhile isBlank = t.reverse := by
    apply dropWhile_of_head
    simpa using h
  rw [trimEnd, hrev, List.reverse_reverse]

/-- A text with no blank at either end stays as it is. -/
theorem trim_of_ends (hfirst : ∀ c, t.head? = some c → isBlank c = false)
    (hlast : ∀ c, t.getLast? = some c → isBlank c = false) : trim t = t := by
  rw [trim, trimStart_of_head hfirst, trimEnd_of_getLast hlast]

theorem trimStart_isSuffix (t : Text) : trimStart t <:+ t := List.dropWhile_suffix isBlank

theorem trimEnd_isPrefix (t : Text) : trimEnd t <+: t := by
  have hpre := List.reverse_prefix.mpr (List.dropWhile_suffix (l := t.reverse) isBlank)
  rwa [List.reverse_reverse] at hpre

theorem mem_of_mem_trim (h : c ∈ trim t) : c ∈ t :=
  (trimStart_isSuffix t).subset ((trimEnd_isPrefix _).subset h)

theorem trimEnd_append (s t : Text) :
    trimEnd (s ++ t) = if trimEnd t = [] then trimEnd s else s ++ trimEnd t := by
  simp only [trimEnd, List.reverse_append, List.dropWhile_append, List.isEmpty_iff,
    List.reverse_eq_nil_iff]
  split
  · rfl
  · rw [List.reverse_append, List.reverse_reverse]

theorem isBlank_of_head?_trimStart (h : (trimStart t).head? = some c) : isBlank c = false := by
  have hplain := List.head?_dropWhile_not isBlank t
  rw [← trimStart, h] at hplain
  exact hplain

theorem isBlank_of_getLast?_trimEnd (h : (trimEnd t).getLast? = some c) : isBlank c = false := by
  rw [trimEnd, List.getLast?_reverse] at h
  exact isBlank_of_head?_trimStart h

/-- A trimmed text begins with no blank. -/
theorem isBlank_of_head?_trim (h : (trim t).head? = some c) : isBlank c = false := by
  obtain ⟨u, hu⟩ := trimEnd_isPrefix (trimStart t)
  apply isBlank_of_head?_trimStart (t := t)
  rw [← hu, List.head?_append, ← trim, h, Option.some_or]

/-- A trimmed text ends with no blank. -/
theorem isBlank_of_getLast?_trim (h : (trim t).getLast? = some c) : isBlank c = false :=
  isBlank_of_getLast?_trimEnd h

theorem trimEnd_trimEnd (t : Text) : trimEnd (trimEnd t) = trimEnd t :=
  trimEnd_of_getLast fun _ => isBlank_of_getLast?_trimEnd

theorem trimEnd_eq_nil_iff : trimEnd t = [] ↔ isAllBlank t = true := by
  rw [trimEnd, List.reverse_eq_nil_iff, ← trimStart, trimStart_eq_nil_iff, isAllBlank,
    List.all_reverse, isAllBlank]

/-- Nothing but blanks is trimmed away altogether. -/
theorem trim_eq_nil_iff : trim t = [] ↔ isAllBlank t = true := by
  rw [trim, trimEnd_eq_nil_iff]
  constructor
  · intro hrest
    rw [← trimStart_eq_nil_iff]
    cases hstart : trimStart t with
    | nil => rfl
    | cons c u =>
      have hplain : isBlank c = false := isBlank_of_head?_trimStart (t := t) (by rw [hstart]; rfl)
      rw [hstart, isAllBlank, List.all_cons, hplain, Bool.false_and] at hrest
      exact absurd hrest Bool.false_ne_true
  · intro hall
    rw [trimStart_eq_nil_iff.mpr hall]
    rfl

theorem trim_append_blank (hc : isBlank c = true) (t : Text) : trim (t ++ [c]) = trim t := by
  have hend (u : Text) : trimEnd (u ++ [c]) = trimEnd u := by simp [trimEnd, hc]
  rw [trim, trim, trimStart, List.dropWhile_append]
  split
  · next hnone =>
    rw [List.isEmpty_iff] at hnone
    rw [trimStart, hnone, List.dropWhile_cons_of_pos hc]
    rfl
  · exact hend _

end AutoProxy.Text
