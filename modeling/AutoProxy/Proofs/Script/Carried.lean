import AutoProxy.Proofs.Script.Lines

/-! What is read from the lines of a script. -/
namespace AutoProxy.Script

variable {i : Index} {name placeholder : Text} {time : Timestamp}

/-- What a script carries, under the names that its lines declare. -/
def carried (i : Index) (placeholder : Text) : List (Text × Json.Value) :=
  let domains (s : TextSet) : Json.Value := .object (s.toList.map fun d => (d, .number 1 0))
  [ ("proxy".toList, .string placeholder),
    ("exactDomains".toList, domains i.exactBlock),
    ("whiteExactDomains".toList, domains i.exactWhitelist),
    ("domainSuffixes".toList, domains i.suffixBlock),
    ("whiteDomainSuffixes".toList, domains i.suffixWhitelist),
    ("keywords".toList, .array (i.keywords.map .string)) ]

/-- The lines of the head are comments. -/
theorem head_lines (hplaceholder : '\n' ∉ placeholder) :
    ∀ l ∈ head i placeholder time, ¬ "var ".toList <+: l ∧ '\n' ∉ l := by
  have htime : '\n' ∉ time.toText := time.not_mem_toText (by decide)
  have hcomment (t : Text) : ¬ "var ".toList <+: '/' :: t := by
    rintro ⟨u, hu⟩
    exact absurd (List.cons_eq_cons.mp hu).1 (by decide)
  have hcounted : ∀ l ∈ counted i, ¬ "var ".toList <+: l ∧ '\n' ∉ l := by
    unfold counted
    split
    · exact List.forall_mem_nil _
    · refine List.forall_mem_singleton.mpr ⟨?_, line_feed_not_mem_countLine _ _⟩
      rw [countLine_eq]
      exact hcomment _
  rw [head, List.forall_mem_append]
  refine ⟨?_, hcounted⟩
  simp only [notes, List.forall_mem_cons]
  exact ⟨⟨hcomment _, by decide⟩, ⟨hcomment _, by simp [htime]⟩,
    ⟨hcomment _, by simp [hplaceholder]⟩, by simp⟩

theorem declaring_render (hplaceholder : '\n' ∉ placeholder) (hname : ' ' ∉ name)
    (hdirect : name ≠ "direct".toList) :
    declaring name (lines (render i placeholder time)) =
      declaring name (proxyLine placeholder :: tables i) := by
  have hhead : declaring name (head i placeholder time ++ [[]]) = [] := by
    refine declaring_eq_nil_iff.mpr (List.forall_mem_append.mpr ⟨fun l hl => ?_, ?_⟩)
    · exact not_lead_of_not_var (head_lines hplaceholder l hl).1
    · exact List.forall_mem_singleton.mpr (not_lead_of_not_var (by decide))
  have hend : declaring name [[]] = [] :=
    declaring_eq_nil_iff.mpr (List.forall_mem_singleton.mpr (not_lead_of_not_var (by decide)))
  rw [lines_render, flatMap_lines fun l hl => (head_lines hplaceholder l hl).2,
    List.append_cons, declaring_append, hhead, List.nil_append, ← List.singleton_append,
    declaring_append, declaring_append, declaring_tail hname hdirect, hend, List.append_nil,
    ← declaring_append, List.singleton_append]

theorem declaring_proxyLine_tables (hname : ' ' ∉ name) :
    declaring name (proxyLine placeholder :: tables i) =
      ((("proxy".toList, Json.string placeholder) :: fields i).filter (·.1 = name)).map
        fun (n, v) => declaration n v := by
  have hproxy : ' ' ∉ "proxy".toList := by decide
  rw [← declaring_map_declaration hname (List.forall_mem_cons.mpr ⟨hproxy, space_not_mem_fields⟩),
    List.map_cons, ← tables_eq_map, proxyLine]

/-- Each name is declared on one line, and what is written there is read as its value. -/
theorem read_declaring (hplaceholder : '\n' ∉ placeholder) :
    ∀ name value, (name, value) ∈ carried i placeholder →
      ∃ written, declaring name (lines (render i placeholder time)) =
        [lead name ++ written ++ [';']] ∧ Json.read written = some value := by
  have hnames : ∀ field ∈ carried i placeholder, ' ' ∉ field.1 ∧ field.1 ≠ "direct".toList := by
    simp only [carried, List.forall_mem_cons]
    decide
  have hfields : ∀ field ∈ carried i placeholder,
      ∃ written, (("proxy".toList, Json.string placeholder) :: fields i).filter (·.1 = field.1) =
        [(field.1, written)] ∧ Json.read written = some field.2 := by
    simp only [carried, List.forall_mem_cons]
    exact ⟨⟨_, rfl, Json.read_string _⟩, ⟨_, rfl, Json.read_table _⟩, ⟨_, rfl, Json.read_table _⟩,
      ⟨_, rfl, Json.read_table _⟩, ⟨_, rfl, Json.read_table _⟩, ⟨_, rfl, Json.read_array _⟩,
      by simp⟩
  intro name value hmem
  obtain ⟨hname, hdirect⟩ := hnames _ hmem
  obtain ⟨written, hfilter, hread⟩ := hfields _ hmem
  refine ⟨written, ?_, hread⟩
  rw [declaring_render hplaceholder hname hdirect, declaring_proxyLine_tables hname, hfilter,
    ← declaration_eq]
  rfl

theorem read_declaring_marks :
    let i : Index :=
      ⟨.ofList ["a.b".toList, "\\\n\"".toList], .empty, .empty, .empty,
        ["\u0001".toList, "var proxy = \"x\";".toList, "\u0001".toList], [[]], []⟩
    let placeholder := "\";\u2028var proxy = \\".toList
    let ls := lines (render i placeholder ⟨2024, 1, 1, 0, 0, 0, 0, some 0⟩)
    '\n' ∉ placeholder ∧
      (∃ written, declaring "proxy".toList ls = [lead "proxy".toList ++ written ++ [';']] ∧
        Json.read written = some (.string placeholder)) ∧
      (∃ written, declaring "exactDomains".toList ls =
          [lead "exactDomains".toList ++ written ++ [';']] ∧
        Json.read written = some (.object [("\\\n\"".toList, .number 1 0),
          ("a.b".toList, .number 1 0)])) ∧
      ∃ written, declaring "keywords".toList ls = [lead "keywords".toList ++ written ++ [';']] ∧
        Json.read written = some (.array [.string ['\x01'], .string "var proxy = \"x\";".toList,
          .string ['\x01']]) := by
  intro i placeholder ls
  have hplaceholder : '\n' ∉ placeholder := by decide
  have h : ∀ name value, (name, value) ∈ carried i placeholder →
      ∃ written, declaring name ls = [lead name ++ written ++ [';']] ∧
        Json.read written = some value := read_declaring hplaceholder
  refine ⟨hplaceholder, h _ _ (.head _), h _ _ (.tail _ (.head _)), h _ _ ?_⟩
  exact .tail _ (.tail _ (.tail _ (.tail _ (.tail _ (.head _)))))

end AutoProxy.Script
