import AutoProxy.Text.Blank
import AutoProxy.Text.Lines
import Mathlib

/-! Line ends made line feeds leave the lines as they are, and all but the line ends. Lines that are
joined are cut again where they were joined. -/
namespace AutoProxy.Text

variable {c : Char} {l t : Text} {ls : List Text} {p : Char → Bool}

theorem lines_line_feed (t : Text) : lines ('\n' :: t) = [] :: lines t := by
  rw [lines]
  · rfl
  · intro u h
    simp at h

theorem lines_unifyLineEnds (t : Text) : lines (unifyLineEnds t) = lines t := by
  fun_induction unifyLineEnds t with
  | case1 => rfl
  | case2 t ih => rw [lines_line_feed, ih, lines]
  | case3 c t hpair ih =>
    by_cases hc : c = '\r'
    · rw [if_pos hc, lines_line_feed, ih, lines, if_pos (by rw [hc]; rfl)]
      exact hpair
    · rw [if_neg hc, lines, lines, ih]
      · exact hpair
      · intro u h
        exact absurd h hc

theorem filter_unifyLineEnds (hn : p '\n' = false) (hr : p '\r' = false) :
    (unifyLineEnds t).filter p = t.filter p := by
  fun_induction unifyLineEnds t with
  | case1 => rfl
  | case2 t ih => simp [hn, hr, ih]
  | case3 c t hpair ih =>
    by_cases hc : c = '\r'
    · simp [hc, hn, hr, ih]
    · simp [hc, List.filter_cons, ih]

theorem all_unifyLineEnds (h : p '\n' = p '\r') : (unifyLineEnds t).all p = t.all p := by
  fun_induction unifyLineEnds t with
  | case1 => rfl
  | case2 t ih => simp [h, ih]
  | case3 c t hpair ih =>
    by_cases hc : c = '\r'
    · simp [hc, h, ih]
    · simp [hc, ih]

theorem isAllBlank_unifyLineEnds (t : Text) : isAllBlank (unifyLineEnds t) = isAllBlank t :=
  all_unifyLineEnds rfl

/-- A line is made of characters of the text that end no line. -/
theorem of_mem_lines (hl : l ∈ lines t) (hc : c ∈ l) : c ∈ t ∧ isLineEnd c = false := by
  fun_induction lines t generalizing l with
  | case1 => cases hl
  | case2 t ih =>
    rcases List.mem_cons.mp hl with rfl | hl
    · cases hc
    · obtain ⟨hmem, hend⟩ := ih hl hc
      exact ⟨List.mem_cons_of_mem _ (List.mem_cons_of_mem _ hmem), hend⟩
  | case3 d t _ hd ih =>
    rcases List.mem_cons.mp hl with rfl | hl
    · cases hc
    · exact (ih hl hc).imp_left (List.mem_cons_of_mem d)
  | case4 d t _ hd hnil ih =>
    obtain rfl := List.mem_singleton.mp hl
    obtain rfl := List.mem_singleton.mp hc
    exact ⟨List.mem_cons_self, Bool.not_eq_true _ ▸ hd⟩
  | case5 d t _ hd m ms hlines ih =>
    rw [hlines] at ih
    rcases List.mem_cons.mp hl with rfl | hl
    · rcases List.mem_cons.mp hc with rfl | hc
      · exact ⟨List.mem_cons_self, Bool.not_eq_true _ ▸ hd⟩
      · exact (ih List.mem_cons_self hc).imp_left (List.mem_cons_of_mem d)
    · exact (ih (List.mem_cons_of_mem m hl) hc).imp_left (List.mem_cons_of_mem d)

theorem not_isLineEnd_of_mem_lines (hl : l ∈ lines t) (hc : c ∈ l) : isLineEnd c = false :=
  (of_mem_lines hl hc).2

theorem mem_of_mem_lines (hl : l ∈ lines t) (hc : c ∈ l) : c ∈ t := (of_mem_lines hl hc).1

theorem line_feed_not_mem (h : ∀ c ∈ l, isLineEnd c = false) : '\n' ∉ l := by
  intro hmem
  exact absurd (h _ hmem) (by decide)

/-- No text is cut into more than its characters, and an end for each line but the last. -/
theorem sum_length_lines_le (t : Text) :
    ((lines t).map fun l => l.length + 1).sum ≤ t.length + 1 := by
  fun_induction lines t with
  | case1 => simp
  | case2 t ih =>
    simp only [List.map_cons, List.sum_cons, List.length_cons, List.length_nil]
    omega
  | case3 c t _ hc ih =>
    simp only [List.map_cons, List.sum_cons, List.length_cons, List.length_nil]
    omega
  | case4 c t _ hc hnil ih => simp
  | case5 c t _ hc l ls hlines ih =>
    rw [hlines] at ih
    simp only [List.map_cons, List.sum_cons, List.length_cons] at ih ⊢
    omega

theorem lines_cons (hc : isLineEnd c = false) (ht : lines t = l :: ls) :
    lines (c :: t) = (c :: l) :: ls := by
  rw [lines, if_neg (by simp [hc]), ht]
  rintro u rfl
  cases hc

theorem lines_append_line_feed (hl : ∀ c ∈ l, isLineEnd c = false) (t : Text) :
    lines (l ++ '\n' :: t) = l :: lines t := by
  induction l with
  | nil => exact lines_line_feed t
  | cons c l ih =>
    obtain ⟨hc, hl⟩ := List.forall_mem_cons.mp hl
    exact lines_cons hc (ih hl)

theorem lines_of_plain (hne : l ≠ []) (hl : ∀ c ∈ l, isLineEnd c = false) : lines l = [l] := by
  induction l with
  | nil => exact absurd rfl hne
  | cons c l ih =>
    obtain ⟨hc, hl⟩ := List.forall_mem_cons.mp hl
    cases l with
    | nil =>
      rw [lines, if_neg (by simp [hc]), lines]
      rintro u - ⟨⟩
    | cons d l => exact lines_cons hc (ih (by simp) hl)

/-- Lines joined by line feeds are these lines again, if none is empty or holds a line end. -/
theorem lines_join (h : ∀ l ∈ ls, l ≠ [] ∧ ∀ c ∈ l, isLineEnd c = false) :
    lines (join ['\n'] ls) = ls := by
  fun_induction join ['\n'] ls with
  | case1 => rfl
  | case2 l =>
    obtain ⟨hne, hl⟩ := List.forall_mem_singleton.mp h
    exact lines_of_plain hne hl
  | case3 l ls hls ih =>
    obtain ⟨⟨-, hl⟩, hrest⟩ := List.forall_mem_cons.mp h
    rw [List.append_assoc, List.singleton_append, lines_append_line_feed hl, ih hrest]

theorem filter_join (hn : p '\n' = false) (ls : List Text) :
    (join ['\n'] ls).filter p = ls.flatten.filter p := by
  fun_induction join ['\n'] ls with
  | case1 => rfl
  | case2 l => rw [List.flatten_singleton]
  | case3 l ls hls ih => simp [hn, ih]

theorem all_join (hn : p '\n' = true) (ls : List Text) :
    (join ['\n'] ls).all p = ls.all (·.all p) := by
  fun_induction join ['\n'] ls with
  | case1 => rfl
  | case2 l => simp
  | case3 l ls hls ih => simp [hn, ih]

end AutoProxy.Text
