import AutoProxy.Json
import AutoProxy.Proofs.Json.Reader
import Mathlib

/-! How a string of JSON writes its characters, and where its text holds quotation marks. -/
namespace AutoProxy.Json

variable {c : Char} {s t u v rest : Text} {n : Nat}

theorem hex_four (hn : n < 0x20) : ∃ a b c d, Text.hex 4 n = [a, b, c, d] ∧
    hexNumber? [a, b, c, d] = some n ∧ '"' ∉ [a, b, c, d] ∧ '\n' ∉ [a, b, c, d] := by
  have hlength : ∀ n < 0x20, (Text.hex 4 n).length = 4 := by decide
  have hvalue : ∀ n < 0x20, hexNumber? (Text.hex 4 n) = some n := by decide
  have hmarks : ∀ n < 0x20, '"' ∉ Text.hex 4 n ∧ '\n' ∉ Text.hex 4 n := by decide
  obtain ⟨a, b, c, d, hhex⟩ : ∃ a b c d, Text.hex 4 n = [a, b, c, d] := by
    match Text.hex 4 n, hlength n hn with
    | [a, b, c, d], _ => exact ⟨a, b, c, d, rfl⟩
  exact ⟨a, b, c, d, hhex, hhex ▸ hvalue n hn, hhex ▸ hmarks n hn⟩

/-- A character is written as it is, by a short escape, or by its number. -/
theorem escape_cases (c : Char) :
    (escape c = [c] ∧ c ≠ '"' ∧ c ≠ '\\' ∧ 0x20 ≤ c.toNat) ∨
      (∃ d, escape c = ['\\', d] ∧ d ≠ 'u' ∧ d ≠ '\n' ∧ (d = '"' ↔ c = '"') ∧
        shortEscapes.lookup d = some c) ∨
      (escape c = '\\' :: 'u' :: Text.hex 4 c.toNat ∧ c ≠ '"' ∧ c.toNat < 0x20) := by
  unfold escape
  split_ifs with hquote hback hfeed hreturn htab hb hf hcontrol
  · exact .inr (.inl ⟨'"', rfl, by decide, by decide, by simp [hquote], by rw [hquote]; rfl⟩)
  · exact .inr (.inl ⟨'\\', rfl, by decide, by decide, by simp [hback], by rw [hback]; rfl⟩)
  · exact .inr (.inl ⟨'n', rfl, by decide, by decide, by simp [hfeed], by rw [hfeed]; rfl⟩)
  · exact .inr (.inl ⟨'r', rfl, by decide, by decide, by simp [hreturn], by rw [hreturn]; rfl⟩)
  · exact .inr (.inl ⟨'t', rfl, by decide, by decide, by simp [htab], by rw [htab]; rfl⟩)
  · exact .inr (.inl ⟨'b', rfl, by decide, by decide, by simp [hb], by rw [hb]; rfl⟩)
  · exact .inr (.inl ⟨'f', rfl, by decide, by decide, by simp [hf], by rw [hf]; rfl⟩)
  · exact .inr (.inr ⟨rfl, hquote, hcontrol⟩)
  · exact .inl ⟨rfl, hquote, hback, by omega⟩

/-- Only a quotation mark is written with one. -/
theorem count_quote_escape (c : Char) : (escape c).count '"' = [c].count '"' := by
  rcases escape_cases c with ⟨hescape, -⟩ | ⟨d, hescape, -, -, hd, -⟩ | ⟨hescape, hc, hcontrol⟩
  · rw [hescape]
  · simp only [hescape, List.count_cons, List.count_nil, beq_iff_eq, hd]
    simp
  · obtain ⟨a, b, x, y, hhex, -, hmarks, -⟩ := hex_four hcontrol
    rw [hescape, hhex, List.count_cons_of_ne (by decide), List.count_cons_of_ne (by decide),
      List.count_eq_zero_of_not_mem hmarks, List.count_eq_zero_of_not_mem (by simpa using hc.symm)]

theorem count_quote_flatMap_escape (s : Text) : (s.flatMap escape).count '"' = s.count '"' := by
  induction s with
  | nil => rfl
  | cons c s ih =>
    rw [List.flatMap_cons, List.count_append, count_quote_escape, ih, ← List.count_append]
    rfl

theorem count_quote_string (s : Text) : (string s).count '"' = s.count '"' + 2 := by
  simp [string, count_quote_flatMap_escape]

theorem line_feed_not_mem_escape (c : Char) : '\n' ∉ escape c := by
  rcases escape_cases c with ⟨hescape, -, -, hprintable⟩ | ⟨d, hescape, -, hd, -⟩ |
    ⟨hescape, -, hcontrol⟩
  · rw [hescape, List.mem_singleton]
    rintro rfl
    exact absurd hprintable (by decide)
  · simpa [hescape] using hd.symm
  · obtain ⟨a, b, x, y, hhex, -, -, hfeed⟩ := hex_four hcontrol
    rw [hescape, hhex]
    simpa using hfeed

theorem line_feed_not_mem_string (s : Text) : '\n' ∉ string s := by
  simp [string, line_feed_not_mem_escape]

theorem not_mem_join {separator : Text} {ts : List Text} (hseparator : c ∉ separator)
    (h : ∀ t ∈ ts, c ∉ t) : c ∉ Text.join separator ts := by
  induction ts with
  | nil => simp [Text.join]
  | cons t ts ih =>
    have ht := h t List.mem_cons_self
    have hts := ih fun u hu => h u (List.mem_cons_of_mem t hu)
    cases ts with
    | nil => exact ht
    | cons u us => simp [Text.join, ht, hseparator, hts]

theorem line_feed_not_mem_array (ts : List Text) : '\n' ∉ array ts := by
  have hjoin : '\n' ∉ Text.join [',', ' '] (ts.map string) :=
    not_mem_join (by decide) (List.forall_mem_map.mpr fun t _ => line_feed_not_mem_string t)
  simp [array, hjoin]

theorem line_feed_not_mem_table (ts : List Text) : '\n' ∉ table ts := by
  have hjoin : '\n' ∉ Text.join [','] (ts.map fun t => string t ++ [':', '1']) :=
    not_mem_join (by decide)
      (List.forall_mem_map.mpr fun t _ => by simp [line_feed_not_mem_string t])
  simp [table, hjoin]

/-- A quotation mark behind anything but a backslash is the closing one or stands behind it. -/
theorem suffix_of_unescaped (h : s.flatMap escape ++ '"' :: rest = u ++ '"' :: v)
    (hu : u.getLast? ≠ some '\\') : v <:+ rest := by
  induction s generalizing u with
  | nil =>
    cases u with
    | nil => exact (List.cons_eq_cons.mp h).2 ▸ List.suffix_refl _
    | cons d u => exact ⟨u ++ ['"'], by simpa using (List.cons_eq_cons.mp h).2.symm⟩
  | cons c s ih =>
    rw [List.flatMap_cons, List.append_assoc] at h
    by_cases hc : c = '"'
    · subst hc
      match u, h, hu with
      | [_], h, hu =>
        obtain ⟨rfl, -⟩ := List.cons_eq_cons.mp h
        exact absurd rfl hu
      | x :: y :: u, h, hu =>
        refine ih (List.cons_eq_cons.mp (List.cons_eq_cons.mp h).2).2 fun hlast => hu ?_
        rw [List.getLast?_cons, List.getLast?_cons, hlast]
        rfl
    · have hquote : '"' ∉ escape c := by
        rw [← List.count_eq_zero, count_quote_escape]
        exact List.count_eq_zero_of_not_mem (by simpa using Ne.symm hc)
      obtain ⟨w, rfl, hw⟩ : ∃ w, u = escape c ++ w ∧
          s.flatMap escape ++ '"' :: rest = w ++ '"' :: v := by
        rcases List.append_eq_append_iff.mp h with ⟨w, hw, htail⟩ | ⟨w, hw, htail⟩
        · exact ⟨w, hw, htail⟩
        · cases w with
          | nil => exact ⟨[], by simpa using hw.symm, by simpa using htail.symm⟩
          | cons d w =>
            obtain ⟨rfl, -⟩ := List.cons_eq_cons.mp htail
            exact absurd (hw ▸ List.mem_append_right u List.mem_cons_self) hquote
      refine ih hw fun hlast => hu ?_
      rw [List.getLast?_append, hlast]
      rfl

end AutoProxy.Json
