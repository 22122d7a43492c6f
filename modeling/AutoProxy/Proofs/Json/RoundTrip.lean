import AutoProxy.Proofs.Json.Escape
import AutoProxy.Proofs.Json.Reader

/-! Written strings, arrays of strings and tables are read back. -/
namespace AutoProxy.Json

variable {c : Char} {s t rest : Text} {n : Nat}

/-- The reader takes a character back in the three ways in which it can be written: as itself,
behind a backslash, or as four hexadecimal digits. -/
theorem codes?_escape (c : Char) (t : Text) :
    codes? (escape c ++ t) = (codes? t).map fun (ns, rest) => (c.toNat :: ns, rest) := by
  rcases escape_cases c with ⟨hescape, hquote, hback, hprintable⟩ | ⟨d, hescape, hu, -, -, hd⟩ |
    ⟨hescape, -, hcontrol⟩
  · rw [hescape, List.singleton_append, codes?, if_neg (by omega)]
    · exact fun h => hquote h
    · intro _ _ _ _ _ h _
      exact hback h
    · intro _ _ h _
      exact hback h
  · rw [hescape, List.cons_append, List.singleton_append, codes?, hd]
    · cases codes? t <;> rfl
    · intro _ _ _ _ _ h _
      exact hu h
  · obtain ⟨a, b, x, y, hhex, hvalue, -⟩ := hex_four hcontrol
    rw [hescape, hhex]
    simp only [List.cons_append, List.nil_append, codes?, hvalue]
    cases codes? t <;> rfl

/-- The first quotation mark that is read as one is the mark that closes the string. -/
theorem codes?_flatMap_escape (s rest : Text) :
    codes? (s.flatMap escape ++ '"' :: rest) = some (s.map Char.toNat, rest) := by
  induction s with
  | nil => rfl
  | cons c s ih =>
    rw [List.flatMap_cons, List.append_assoc, codes?_escape, ih]
    rfl

/-- No number of a character is one half of a pair, so none is put together with the next. -/
theorem characters?_map_toNat (s : Text) : characters? (s.map Char.toNat) = some s := by
  induction s with
  | nil => rfl
  | cons c s ih =>
    rw [List.map_cons, characters?.eq_def]
    have hvalid : c.toNat.isValidChar := c.valid
    simp only [if_pos hvalid, ih, Option.map_some, Char.ofNat_toNat]

/-- What stands behind the closing mark is left over. -/
theorem string?_flatMap_escape (s rest : Text) :
    string? (s.flatMap escape ++ '"' :: rest) = some (s, rest) := by
  rw [string?, codes?_flatMap_escape]
  simp [characters?_map_toNat]

theorem skip_append {blank : Text} (hblank : ∀ c ∈ blank, isSpace c = true)
    (hc : isSpace c = false) : skip (blank ++ c :: t) = c :: t := by
  rw [skip, List.dropWhile_append_of_pos hblank, List.dropWhile_cons_of_neg (by simp [hc])]

/-- A string takes one level of depth, and blanks before it are passed over. -/
theorem value?_string {blank : Text} (hblank : ∀ c ∈ blank, isSpace c = true) :
    value? (n + 1) (blank ++ string s ++ rest) = some (.string s, rest) := by
  have hskip : skip (blank ++ string s ++ rest) = '"' :: (s.flatMap escape ++ '"' :: rest) := by
    rw [string, List.append_assoc]
    simpa using skip_append hblank rfl
  simp only [value?, hskip, string?_flatMap_escape, Option.map_some]

/-- The member of a table ends where its number does, which a comma or a brace shows. -/
theorem member?_one {blank : Text} (hblank : ∀ c ∈ blank, isSpace c = true)
    (hc : c = ',' ∨ c = '}') :
    member? (value? (n + 1)) (blank ++ (string s ++ [':', '1']) ++ c :: rest) =
      some ((s, .number 1 0), c :: rest) := by
  have hskip : skip (blank ++ (string s ++ [':', '1']) ++ c :: rest) =
      '"' :: (s.flatMap escape ++ '"' :: ':' :: '1' :: c :: rest) := by
    rw [string, List.append_assoc]
    simpa using skip_append hblank rfl
  have hone : value? (n + 1) ('1' :: c :: rest) = some (.number 1 0, c :: rest) := by
    rcases hc with rfl | rfl <;> rfl
  simp only [member?, hskip, string?_flatMap_escape]
  exact congrArg (Option.map _) hone

section Items

variable {α β : Type} {item : Text → Option (α × Text)} {close : Char} {write : β → Text}
  {value : β → α} {blank before : Text} {xs : List β}

/-- Every written item is read as its value, with blanks before it and a comma or the closing
bracket behind it, and cannot be taken for that bracket. -/
structure Reads (item : Text → Option (α × Text)) (close : Char) (write : β → Text)
    (value : β → α) : Prop where
  close_ne : isSpace close = false ∧ close ≠ ','
  head : ∀ x, ∃ d t, write x = d :: t ∧ isSpace d = false ∧ d ≠ close
  item : ∀ x (before : Text) c rest, (∀ c ∈ before, isSpace c = true) → c = ',' ∨ c = close →
    item (before ++ write x ++ c :: rest) = some (value x, c :: rest)

/-- By induction on the items: each one is read up to its comma, the last up to the bracket. There
must be an item, for an empty list is not read as one. -/
theorem Reads.items?_join (h : Reads item close write value)
    (hblank : ∀ c ∈ blank, isSpace c = true) (hbefore : ∀ c ∈ before, isSpace c = true)
    (hxs : xs ≠ []) (hn : xs.length ≤ n) :
    items? item close n (before ++ Text.join (',' :: blank) (xs.map write) ++ close :: rest) =
      some (xs.map value, rest) := by
  induction xs generalizing n before with
  | nil => exact absurd rfl hxs
  | cons x xs ih =>
    obtain ⟨m, rfl⟩ : ∃ m, n = m + 1 := ⟨n - 1, by simp at hn; omega⟩
    cases xs with
    | nil =>
      rw [List.map_singleton, Text.join, items?, h.item x before close rest hbefore (.inr rfl)]
      simp [skip, h.close_ne]
    | cons y ys =>
      have hjoin : before ++ Text.join (',' :: blank) ((x :: y :: ys).map write) ++ close :: rest =
          before ++ write x ++
            ',' :: (blank ++ Text.join (',' :: blank) ((y :: ys).map write) ++ close :: rest) := by
        simp [Text.join]
      rw [hjoin, items?, h.item x before ',' _ hbefore (.inl rfl)]
      simp only [skip, List.dropWhile_cons_of_neg (by decide : ¬ isSpace ',' = true), if_true]
      rw [ih hblank (by simp) (by simp at hn ⊢; omega)]
      rfl

/-- No item can be taken for the closing bracket, so only an empty list ends at once. -/
theorem Reads.bracketed?_join (h : Reads item close write value)
    (hblank : ∀ c ∈ blank, isSpace c = true) (hn : xs.length ≤ n) :
    bracketed? item close n (Text.join (',' :: blank) (xs.map write) ++ close :: rest) =
      some (xs.map value, rest) := by
  cases xs with
  | nil => simp [bracketed?, Text.join, skip, h.close_ne.1]
  | cons x xs =>
    obtain ⟨d, t, hwrite, hspace, hclose⟩ := h.head x
    obtain ⟨u, hjoin⟩ : ∃ u, Text.join (',' :: blank) ((x :: xs).map write) ++ close :: rest =
        d :: u := by
      cases xs <;> simp [Text.join, hwrite]
    have hskip : (skip (d :: u)).head? ≠ some close := by simp [skip, hspace, hclose]
    rw [bracketed?, hjoin, if_neg hskip, ← hjoin]
    have hbefore : ∀ c ∈ ([] : Text), isSpace c = true := by simp
    exact h.items?_join hblank hbefore (by simp) hn

end Items

/-- What is written is the value of the text, if it is read with nothing left over. -/
theorem read_of_value? {v : Value} (h : value? (t.length + 1) t = some (v, [])) :
    read t = some v := by
  rw [read, h]
  rfl

theorem read_string (s : Text) : read (string s) = some (.string s) := by
  have hvalue : value? ((string s).length + 1) ([] ++ string s ++ []) = some (.string s, []) :=
    value?_string (by simp)
  rw [List.nil_append, List.append_nil] at hvalue
  exact read_of_value? hvalue

/-- A text is long enough to bound the number of its items: this is the fuel that reading them
needs. -/
theorem length_le_length_join (separator : Text) {ts : List Text} (h : ∀ t ∈ ts, t ≠ []) :
    ts.length ≤ (Text.join separator ts).length := by
  induction ts with
  | nil => simp
  | cons t ts ih =>
    have ht := List.length_pos_iff.mpr (h t List.mem_cons_self)
    have hts := ih fun u hu => h u (List.mem_cons_of_mem t hu)
    cases ts with
    | nil => exact ht
    | cons u us =>
      simp only [Text.join, List.length_append, List.length_cons] at hts ⊢
      omega

theorem reads_string : Reads (value? (n + 1)) ']' string .string where
  close_ne := by decide
  head s := ⟨'"', _, rfl, by decide, by decide⟩
  item s before c rest hbefore _ := value?_string hbefore

theorem reads_member :
    Reads (member? (value? (n + 1))) '}' (fun s => string s ++ [':', '1'])
      (fun s => (s, .number 1 0)) where
  close_ne := by decide
  head s := ⟨'"', _, rfl, by decide, by decide⟩
  item s before c rest hbefore hc := member?_one hbefore hc

/-- An array is read back as its strings, in their order. -/
theorem read_array (ts : List Text) : read (array ts) = some (.array (ts.map .string)) := by
  have hlength : ts.length ≤ (array ts).length := by
    have h := length_le_length_join [',', ' '] (show ∀ t ∈ ts.map string, t ≠ [] by simp [string])
    simp only [array, List.length_map, List.length_cons, List.length_append] at h ⊢
    omega
  obtain ⟨n, hn⟩ : ∃ n, (array ts).length = n + 1 := ⟨_, rfl⟩
  have hitems : bracketed? (value? (n + 1)) ']' (n + 1)
      (Text.join [',', ' '] (ts.map string) ++ [']']) = some (ts.map .string, []) :=
    reads_string.bracketed?_join (by simp [isSpace]) (hn ▸ hlength)
  refine read_of_value? ?_
  rw [hn]
  exact congrArg (Option.map _) hitems

/-- A table is read back as its names, each with the number one. -/
theorem read_table (ts : List Text) :
    read (table ts) = some (.object (ts.map fun t => (t, .number 1 0))) := by
  have hlength : ts.length ≤ (table ts).length := by
    have h := length_le_length_join [',']
      (show ∀ t ∈ ts.map fun t => string t ++ [':', '1'], t ≠ [] by simp)
    simp only [table, List.length_map, List.length_cons, List.length_append] at h ⊢
    omega
  obtain ⟨n, hn⟩ : ∃ n, (table ts).length = n + 1 := ⟨_, rfl⟩
  have hitems : bracketed? (member? (value? (n + 1))) '}' (n + 1)
      (Text.join [','] (ts.map fun t => string t ++ [':', '1']) ++ ['}']) =
        some (ts.map fun t => (t, .number 1 0), []) :=
    reads_member.bracketed?_join (by simp) (hn ▸ hlength)
  refine read_of_value? ?_
  rw [hn]
  exact congrArg (Option.map _) hitems

/-- Different arrays are written differently, since what is written tells what it was. -/
theorem array_inj {ts us : List Text} : array ts = array us ↔ ts = us := by
  refine ⟨fun h => ?_, congrArg array⟩
  have hread : some (Value.array (ts.map .string)) = some (.array (us.map .string)) := by
    rw [← read_array, ← read_array, h]
  have hitems := Value.array.inj (Option.some.inj hread)
  exact List.map_injective_iff.mpr (fun _ _ => Value.string.inj) hitems

theorem table_inj {ts us : List Text} : table ts = table us ↔ ts = us := by
  refine ⟨fun h => ?_, congrArg table⟩
  have hread : some (Value.object (ts.map fun t => (t, .number 1 0))) =
      some (.object (us.map fun t => (t, .number 1 0))) := by
    rw [← read_table, ← read_table, h]
  have hmembers := Value.object.inj (Option.some.inj hread)
  exact List.map_injective_iff.mpr (fun _ _ heq => (Prod.mk.inj heq).1) hmembers

end AutoProxy.Json
