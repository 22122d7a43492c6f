import AutoProxy.Proofs.Files.Tree
import AutoProxy.Proofs.Text.Split

/-! Writing a file as a whole: all of it is there, or nothing has changed but for new folders. -/
namespace AutoProxy.FileTree

variable {tree after : FileTree} {place : Place} {path : Text} {content c : Bytes} {e : Fault}
  {cause : Cause} {given : Text} {target : Option Text} {n : Node}

theorem start_asideOf (tree : FileTree) (path : Text) :
    tree.start (asideOf path) = tree.start path := by
  cases path <;> rfl

theorem push_of_long {names : Path} {name : Text} (h : 2 < name.length) :
    Place.push names name = names ++ [name] := by
  have hdot : ¬(name = [] ∨ name = ['.']) := by
    rintro (rfl | rfl) <;> simp at h
  have hdots : name ≠ ['.', '.'] := by
    rintro rfl
    simp at h
  rw [Place.push, if_neg (by simpa using hdot), if_neg hdots]

/-- The place beside a file is another place. -/
theorem pathOf_asideOf_ne (tree : FileTree) (path : Text) :
    tree.pathOf (asideOf path) ≠ tree.pathOf path := by
  obtain ⟨front, last, hsplit⟩ := Text.exists_split_concat (· = '/') path
  have hpath := hsplit [] (by simp)
  have haside := hsplit ".tmp".toList (by simp)
  rw [List.append_nil, List.append_nil] at hpath
  rw [← asideOf] at haside
  simp only [pathOf, Place.ofText, start_asideOf, hpath, haside, List.foldl_append,
    List.foldl_cons, List.foldl_nil]
  generalize front.foldl Place.push (tree.start path) = base
  rw [push_of_long (by simp), Place.push]
  split
  · simp
  · split
    · intro h
      have hlengths := congrArg List.length h
      rw [List.length_append, List.length_singleton, List.length_dropLast] at hlengths
      omega
    · simp

theorem changesOnly_makeFolders (tree : FileTree) (above : Text) (names : Path) :
    ChangesOnly [] tree (tree.makeFolders above names).1 := by
  fun_induction makeFolders tree above names with
  | case1 => exact .refl _ _
  | case2 _ _ _ _ _ _ ih => exact ih
  | case3 => exact .refl _ _
  | case4 _ _ _ _ _ _ _ _ ih => exact ih
  | case5 _ _ _ _ _ _ _ hmade ih => exact (makeFolder_eq_ok hmade).trans ih
  | case6 => exact .refl _ _

theorem node?_of_look? (h : tree.look? path = some n) : tree.node? (tree.pathOf path) = some n := by
  unfold look? at h
  split at h
  · next p hp => rwa [← locate_eq_ok hp]
  · cases h

/-- Nothing but what stands beside the place goes, and no file is left there. -/
theorem tidy_spec (tree : FileTree) (path : Text) :
    ChangesOnly [tree.pathOf path] tree (tree.tidy path) ∧
      ∀ c, (tree.tidy path).look? path ≠ some (.file c) := by
  cases hremove : tree.remove path with
  | ok after =>
    have htidy : tree.tidy path = after := by rw [tidy, hremove]
    obtain ⟨hchange, hgone⟩ := remove_eq_ok hremove
    rw [htidy]
    refine ⟨hchange, fun c hlook => ?_⟩
    have hnode := node?_of_look? hlook
    rw [hchange.pathOf, hgone] at hnode
    cases hnode
  | error e =>
    have htidy : tree.tidy path = tree := by rw [tidy, hremove]
    rw [htidy]
    refine ⟨.refl _ _, fun c hlook => ?_⟩
    unfold look? at hlook
    split at hlook
    · next p hp =>
      rw [remove, hp] at hremove
      simp only [hlook] at hremove
      cases hremove
    · cases hlook

theorem deliver_done (h : tree.deliver path content = (after, none)) :
    ChangesOnly [tree.pathOf path, tree.pathOf (asideOf path)] tree after ∧
      after.read path = .ok content ∧ ∀ c, after.look? (asideOf path) ≠ some (.file c) := by
  unfold deliver at h
  split at h
  · cases h
  · next written hwrite =>
    split at h
    · cases h
    · next moved hmove =>
      cases h
      obtain ⟨hchange, -, hnode⟩ := write_eq_ok hwrite
      rw [← hchange.pathOf] at hnode
      have hne : written.pathOf (asideOf path) ≠ written.pathOf path := pathOf_asideOf_ne _ _
      obtain ⟨hchange', hread, hgone⟩ := move_eq_ok hmove hnode hne
      rw [hchange.pathOf, hchange.pathOf] at hchange'
      refine ⟨(hchange.mono (by simp)).trans hchange', hread, fun c hlook => ?_⟩
      have hlook := node?_of_look? hlook
      rw [hchange'.pathOf, hgone] at hlook
      cases hlook

theorem deliver_refused (h : tree.deliver path content = (after, some e)) :
    ChangesOnly [tree.pathOf (asideOf path)] tree after := by
  unfold deliver at h
  split at h
  · cases h
    exact .refl _ _
  · next written hwrite =>
    split at h
    · cases h
      exact (write_eq_ok hwrite).1
    · cases h

theorem attempt_done (h : tree.attempt place content = (after, none)) :
    ChangesOnly [tree.pathOf place.toText, tree.pathOf (asideOf place.toText)] tree after ∧
      after.read place.toText = .ok content ∧
      ∀ c, after.look? (asideOf place.toText) ≠ some (.file c) := by
  have hmade := changesOnly_makeFolders tree place.root place.names.dropLast
  unfold attempt at h
  split at h
  · cases h
  · next made hfolders =>
    rw [hfolders] at hmade
    obtain ⟨hchange, hread, hgone⟩ := deliver_done h
    rw [hmade.pathOf, hmade.pathOf] at hchange
    exact ⟨(hmade.mono (by simp)).trans hchange, hread, hgone⟩

theorem attempt_refused (h : tree.attempt place content = (after, some e)) :
    ChangesOnly [tree.pathOf (asideOf place.toText)] tree after := by
  have hmade := changesOnly_makeFolders tree place.root place.names.dropLast
  unfold attempt at h
  split at h
  · next made e' hfolders =>
    cases h
    rw [hfolders] at hmade
    exact hmade.mono (by simp)
  · next made hfolders =>
    rw [hfolders] at hmade
    have hchange := deliver_refused h
    rw [hmade.pathOf] at hchange
    exact (hmade.mono (by simp)).trans hchange

/-- A file that is put out is there as a whole, and nothing is left beside it. -/
theorem output_done (h : tree.output place content = (after, none)) :
    ChangesOnly [tree.pathOf place.toText, tree.pathOf (asideOf place.toText)] tree after ∧
      after.read place.toText = .ok content ∧
      ∀ c, after.look? (asideOf place.toText) ≠ some (.file c) := by
  unfold output at h
  split at h
  · cases h
  · exact attempt_done h

/-- A refused file leaves all files as they were, and nothing beside it. -/
theorem output_refused
    (h : tree.output place content = (after, some (.refused cause given target))) :
    ChangesOnly [tree.pathOf (asideOf place.toText)] tree after ∧
      ∀ c, after.look? (asideOf place.toText) ≠ some (.file c) := by
  unfold output at h
  split at h
  · next t _ _ _ hattempt =>
    cases h
    have hchange := attempt_refused hattempt
    obtain ⟨htidy, hgone⟩ := tidy_spec t (asideOf place.toText)
    rw [hchange.pathOf] at htidy
    exact ⟨hchange.trans htidy, hgone⟩
  · next hother => exact absurd h (hother _ _ _ _)

end AutoProxy.FileTree
