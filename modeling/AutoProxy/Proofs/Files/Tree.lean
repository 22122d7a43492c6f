import AutoProxy.Files.Output

/-! Which nodes the operations on a tree of files change. -/
namespace AutoProxy

/-- Nothing is found under a key whose entries were taken out. -/
theorem lookup_filter_self {α β : Type} [BEq α] [LawfulBEq α] [DecidableEq α] (k : α)
    (entries : List (α × β)) : (entries.filter (·.1 ≠ k)).lookup k = none := by
  rw [List.lookup_eq_none_iff]
  intro x hx
  have hne : x.1 ≠ k := of_decide_eq_true (List.mem_filter.mp hx).2
  exact bne_iff_ne.mpr hne.symm

namespace FileTree

variable {tree before after mid : FileTree} {path target : Text} {names : List Text}
  {here p q : Path} {ps qs : List Path} {n : Node} {content c : Bytes}

/-- The root is a folder, and nothing that is put or erased changes that. -/
theorem node?_nil (tree : FileTree) : tree.node? [] = some .folder := rfl

theorem node?_of_ne_nil (h : p ≠ []) : tree.node? p = tree.nodes.lookup p := by
  rw [node?, if_neg (by simpa using h)]

theorem lookup_filter_of_ne (h : q ≠ p) (nodes : List (Path × Node)) :
    (nodes.filter (·.1 ≠ p)).lookup q = nodes.lookup q := by
  induction nodes with
  | nil => rfl
  | cons x nodes ih =>
    by_cases hx : x.1 = p
    · have hq : (q == x.1) = false := beq_eq_false_iff_ne.mpr (hx ▸ h)
      rw [List.filter_cons_of_neg (by simpa using hx), ih, List.lookup_cons, hq]
    · rw [List.filter_cons_of_pos (by simpa using hx), List.lookup_cons, List.lookup_cons, ih]

theorem node?_put_self (h : p ≠ []) : (tree.put p n).node? p = some n := by
  rw [node?_of_ne_nil h, put, List.lookup_append, lookup_filter_self]
  simp

theorem node?_put_of_ne (h : q ≠ p) : (tree.put p n).node? q = tree.node? q := by
  by_cases hq : q = []
  · rw [hq, node?_nil, node?_nil]
  · have hsingle : List.lookup q [(p, n)] = none := by simp [h]
    rw [node?_of_ne_nil hq, node?_of_ne_nil hq, put, List.lookup_append, lookup_filter_of_ne h,
      hsingle, Option.or_none]

theorem node?_erase_self (h : p ≠ []) : (tree.erase p).node? p = none := by
  rw [node?_of_ne_nil h, erase, lookup_filter_self]

theorem node?_erase_of_ne (h : q ≠ p) : (tree.erase p).node? q = tree.node? q := by
  by_cases hq : q = []
  · rw [hq, node?_nil, node?_nil]
  · rw [node?_of_ne_nil hq, node?_of_ne_nil hq, erase, lookup_filter_of_ne h]

theorem ne_nil_of_node? (h : tree.node? p ≠ some .folder) : p ≠ [] := by
  rintro rfl
  exact h (node?_nil tree)

/-! Where a text leads -/

/-- The names that a path stands for, whatever stands there. -/
def pathOf (tree : FileTree) (path : Text) : Path := (Place.ofText tree path).names

/-- A walk that is not refused comes to where the names alone lead. -/
theorem walk_eq_ok (h : tree.walk here names = .ok p) : p = names.foldl Place.push here := by
  induction names generalizing here with
  | nil =>
    cases h
    rfl
  | cons name names ih =>
    rw [walk] at h
    split at h
    · cases h
    · cases h
    · rw [List.foldl_cons, Place.push]
      split at h
      · next hdot => rw [if_pos hdot, ih h]
      · next hdot =>
        rw [if_neg hdot]
        split at h
        · next hdots => rw [if_pos hdots, ih h]
        · next hdots =>
          rw [if_neg hdots]
          split at h
          · cases h
          · exact ih h

theorem locate_eq_ok (h : tree.locate path = .ok p) : p = tree.pathOf path := by
  unfold locate at h
  repeat' split at h
  · cases h
  · cases h
  · cases h
  · next r hwalk =>
    cases h
    exact walk_eq_ok hwalk
  · cases h

/-- This is looked at before anything in the tree. -/
theorem locate_eq_nul_iff (tree : FileTree) (path : Text) :
    tree.locate path = .error .nulInPath ↔ '\x00' ∈ path := by
  unfold locate
  split
  · next hnul => simpa using hnul
  · next hnul =>
    have hnul : '\x00' ∉ path := by simpa using hnul
    simp only [hnul, iff_false]
    repeat' split
    all_goals rintro ⟨⟩

/-- No file has this fault, only a text that is no path. -/
theorem read_eq_nul_iff (tree : FileTree) (path : Text) :
    tree.read path = .error .nulInPath ↔ '\x00' ∈ path := by
  rw [← locate_eq_nul_iff tree, read]
  split
  · next e he => rw [he, Except.error.injEq, Except.error.injEq]
  · next p hp =>
    rw [hp]
    constructor
    · intro h
      split at h <;> cases h
    · rintro ⟨⟩

/-- Only folders are walked through, so a walk stays open while they stay. -/
theorem walk_of_folders (h : tree.walk here names = .ok p)
    (hfolders : ∀ q, tree.node? q = some .folder → after.node? q = some .folder) :
    after.walk here names = .ok p := by
  induction names generalizing here with
  | nil => exact h
  | cons name names ih =>
    rw [walk] at h ⊢
    split at h
    · cases h
    · cases h
    · next hhere =>
      rw [hfolders here hhere]
      dsimp only
      split at h
      · next hdot =>
        rw [if_pos hdot]
        exact ih h
      · next hdot =>
        rw [if_neg hdot]
        split at h
        · next hdots =>
          rw [if_pos hdots]
          exact ih h
        · next hdots =>
          rw [if_neg hdots]
          split at h
          · cases h
          · next hlength =>
            rw [if_neg hlength]
            exact ih h

/-! What an operation leaves as it was -/

/-- The files of `after` are those of `before` but for the paths in `ps`, and no folder is gone. -/
structure ChangesOnly (ps : List Path) (before after : FileTree) : Prop where
  home : after.home = before.home
  files : ∀ q ∉ ps, ∀ c, after.node? q = some (.file c) ↔ before.node? q = some (.file c)
  folders : ∀ q, before.node? q = some .folder → after.node? q = some .folder

namespace ChangesOnly

theorem refl (ps : List Path) (tree : FileTree) : ChangesOnly ps tree tree :=
  ⟨rfl, fun _ _ _ => Iff.rfl, fun _ => id⟩

theorem trans (h : ChangesOnly ps before mid) (h' : ChangesOnly ps mid after) :
    ChangesOnly ps before after where
  home := h'.home.trans h.home
  files q hq c := (h'.files q hq c).trans (h.files q hq c)
  folders q hq := h'.folders q (h.folders q hq)

theorem mono (h : ChangesOnly ps before after) (hsub : ps ⊆ qs) : ChangesOnly qs before after where
  home := h.home
  files q hq c := h.files q (fun hmem => hq (hsub hmem)) c
  folders := h.folders

/-- A path depends on the working folder, which no operation moves. -/
theorem pathOf (h : ChangesOnly ps before after) (path : Text) :
    after.pathOf path = before.pathOf path := by
  simp only [FileTree.pathOf, Place.ofText, start, h.home]

/-- New folders and files take no way away that was open. -/
theorem locate (h : ChangesOnly ps before after) (hpath : before.locate path = .ok p) :
    after.locate path = .ok p := by
  have hstart : after.start path = before.start path := by rw [start, start, h.home]
  unfold FileTree.locate at hpath ⊢
  repeat' split at hpath
  · cases hpath
  · cases hpath
  · cases hpath
  · next hnul hne hlength _ r hwalk =>
    rw [if_neg hnul, if_neg hne, if_neg hlength, hstart, walk_of_folders hwalk h.folders]
    exact hpath
  · cases hpath

/-- A file that is none of the changed ones keeps its content. -/
theorem read (h : ChangesOnly ps before after) (hread : before.read path = .ok c)
    (hpath : before.pathOf path ∉ ps) : after.read path = .ok c := by
  unfold FileTree.read at hread
  split at hread
  · cases hread
  · next p hp =>
    split at hread
    · next content hnode =>
      cases hread
      rw [← locate_eq_ok hp] at hpath
      rw [FileTree.read, h.locate hp]
      dsimp only
      rw [(h.files p hpath c).mpr hnode]
    · cases hread
    · cases hread

end ChangesOnly

/-- A file may take the place of a file or stand where nothing was, but not where a folder is. -/
theorem changesOnly_put_file (h : tree.node? p ≠ some .folder) :
    ChangesOnly [p] tree (tree.put p (.file content)) where
  home := rfl
  files q hq c := by rw [node?_put_of_ne fun h => hq (List.mem_singleton.mpr h)]
  folders q hq := by
    have hne : q ≠ p := by
      rintro rfl
      exact h hq
    rwa [node?_put_of_ne hne]

/-- To make a folder where nothing was changes no file. -/
theorem changesOnly_put_folder (h : tree.node? p = none) :
    ChangesOnly [] tree (tree.put p .folder) := by
  have hfolder : tree.node? p ≠ some .folder := by simp [h]
  have hp : p ≠ [] := ne_nil_of_node? hfolder
  refine ⟨rfl, fun q _ c => ?_, fun q hq => ?_⟩
  · by_cases hq : q = p
    · rw [hq, node?_put_self hp, h]
      simp
    · rw [node?_put_of_ne hq]
  · by_cases hqp : q = p
    · rw [hqp, node?_put_self hp]
    · rwa [node?_put_of_ne hqp]

theorem changesOnly_erase (h : tree.node? p ≠ some .folder) :
    ChangesOnly [p] tree (tree.erase p) where
  home := rfl
  files q hq c := by rw [node?_erase_of_ne fun h => hq (List.mem_singleton.mpr h)]
  folders q hq := by
    have hne : q ≠ p := by
      rintro rfl
      exact h hq
    rwa [node?_erase_of_ne hne]

/-- To write changes one node, and that is found again under the same path. -/
theorem write_eq_ok (h : tree.write path content = .ok after) :
    ChangesOnly [tree.pathOf path] tree after ∧
      after.locate path = .ok (tree.pathOf path) ∧
      after.node? (tree.pathOf path) = some (.file content) := by
  unfold write at h
  split at h
  · cases h
  · next p hp =>
    have hpath := locate_eq_ok hp
    have hnode : tree.node? p ≠ some .folder := by
      intro hfolder
      simp [hfolder] at h
    have hafter : after = tree.put p (.file content) := by
      split at h
      · cases h
      · cases h
        rfl
    have hchange : ChangesOnly [p] tree after := hafter ▸ changesOnly_put_file hnode
    rw [← hpath]
    refine ⟨hchange, hchange.locate hp, ?_⟩
    rw [hafter, node?_put_self (ne_nil_of_node? hnode)]

theorem makeFolder_eq_ok (h : tree.makeFolder path = .ok after) : ChangesOnly [] tree after := by
  unfold makeFolder at h
  split at h
  · cases h
  · next p hp =>
    split at h
    · cases h
    · next hnode =>
      cases h
      exact changesOnly_put_folder hnode

theorem read_of_node? (hp : tree.locate path = .ok p) (hnode : tree.node? p = some (.file c)) :
    tree.read path = .ok c := by
  rw [read, hp]
  simp only [hnode]

/-- A file that is moved is gone from where it was, and is read where it is moved to. -/
theorem move_eq_ok (h : tree.move path target = .ok after)
    (hnode : tree.node? (tree.pathOf path) = some (.file c))
    (hne : tree.pathOf path ≠ tree.pathOf target) :
    ChangesOnly [tree.pathOf target, tree.pathOf path] tree after ∧ after.read target = .ok c ∧
      after.node? (tree.pathOf path) = none := by
  unfold move at h
  split at h
  · next p q hp hq =>
    rw [← locate_eq_ok hp] at hnode hne ⊢
    rw [← locate_eq_ok hq] at hne ⊢
    rw [hnode] at h
    have hfile : tree.node? p ≠ some .folder := by simp [hnode]
    have hp' : p ≠ [] := ne_nil_of_node? hfile
    have htarget : tree.node? q ≠ some .folder := by
      intro hfolder
      simp [hfolder] at h
    have hafter : after = (tree.erase p).put q (.file c) := by
      split at h
      · cases h
      · next hn _ =>
        cases hn
        cases h
        rfl
      · cases h
    have herase : ChangesOnly [q, p] tree (tree.erase p) := (changesOnly_erase hfile).mono (by simp)
    have hq' : (tree.erase p).node? q ≠ some .folder := by rwa [node?_erase_of_ne hne.symm]
    have hput : ChangesOnly [q, p] (tree.erase p) after :=
      hafter ▸ (changesOnly_put_file hq').mono (by simp)
    have hchange := herase.trans hput
    refine ⟨hchange, read_of_node? (hchange.locate hq) ?_, ?_⟩
    · rw [hafter, node?_put_self (ne_nil_of_node? htarget)]
    · rw [hafter, node?_put_of_ne hne, node?_erase_self hp']
  · cases h
  · cases h
  · cases h
  · cases h

/-- Only a file is removed, and nothing is left in its place. -/
theorem remove_eq_ok (h : tree.remove path = .ok after) :
    ChangesOnly [tree.pathOf path] tree after ∧ after.node? (tree.pathOf path) = none := by
  unfold remove at h
  split at h
  · cases h
  · next p hp =>
    rw [← locate_eq_ok hp]
    split at h
    · next c hnode =>
      cases h
      have hfile : tree.node? p ≠ some .folder := by simp [hnode]
      exact ⟨changesOnly_erase hfile, node?_erase_self (ne_nil_of_node? hfile)⟩
    · cases h
    · cases h

end FileTree

end AutoProxy
