import AutoProxy.Proofs.Lists
import AutoProxy.Proofs.Service.Run

/-! What the service builds from its lists, and what it answers when they cannot be had. -/
namespace AutoProxy.Service

open Run

variable {env : Environment} {s t : Scene} {lists : Lists} {p : Problem} {code : Nat} {v : Visit}
  {reply : Index → Text → Answer} {index : Index} {script : Text}

theorem build_of_load_error (hload : (loadLists env).run.run s = (.error p, t)) :
    (build env).run.run s = (.error p, t) :=
  run_bind_of_error hload

theorem build_of_load_ok (hload : (loadLists env).run.run s = (.ok lists, t)) :
    ∃ u, (build env).run.run s = (.ok (lists.collection.rules.index,
      Script.render lists.collection.rules.index (Settings.ofEnvironment env).placeholder t.now),
        u) := by
  obtain ⟨u, hcollect, -, hnow⟩ := Lists.run_collect lists t
  refine ⟨u, (run_bind_of_ok hload).trans ?_⟩
  rw [run_bind_of_ok hcollect, run_bind_of_ok run_get, ← hnow]
  rfl

theorem load_of_build_error (h : (build env).run.run s = (.error p, t)) :
    (loadLists env).run.run s = (.error p, t) := by
  match hload : (loadLists env).run.run s with
  | (.error q, u) =>
    cases (build_of_load_error hload).symm.trans h
    rfl
  | (.ok lists, u) =>
    obtain ⟨w, hbuild⟩ := build_of_load_ok hload
    cases hbuild.symm.trans h

theorem load_of_build_ok (h : (build env).run.run s = (.ok (index, script), t)) :
    ∃ lists u, (loadLists env).run.run s = (.ok lists, u) ∧ index = lists.collection.rules.index ∧
      script = Script.render index (Settings.ofEnvironment env).placeholder u.now := by
  match hload : (loadLists env).run.run s with
  | (.error p, u) => cases (build_of_load_error hload).symm.trans h
  | (.ok lists, u) =>
    obtain ⟨w, hbuild⟩ := build_of_load_ok hload
    cases hbuild.symm.trans h
    exact ⟨lists, u, rfl, rfl, rfl⟩

theorem withBuilt_of_error (hbuild : (build env).run.run s = (.error p, t)) :
    (fresh.withBuilt env reply s).1 = refused env p := by
  have hload : (fresh.load env).run s = (.error p, t) := hbuild
  rw [withBuilt, hload]

/-- Every request that needs the lists is refused in the same way. -/
theorem answer_of_error (hneeds : v.Needs)
    (hbuild : (build v.env).run.run v.scene = (.error p, t)) :
    v.answer fresh = refused v.env p := by
  unfold Visit.answer
  rcases hneeds with hget | hget | hget | ⟨hget, hhost⟩
  · rw [respond_gets hget rfl, get_script, withBuilt_of_error hbuild]
  · rw [respond_gets hget rfl, get]
    dsimp only
    rw [withBuilt_of_error hbuild, if_neg (refused_status_ne v.env p)]
  · rw [respond_gets hget rfl, get_stats, withBuilt_of_error hbuild]
  · rw [respond_gets hget rfl, get_classify hhost, withBuilt_of_error hbuild]

end AutoProxy.Service
