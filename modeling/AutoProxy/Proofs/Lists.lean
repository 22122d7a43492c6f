import AutoProxy.Lists
import AutoProxy.Proofs.Feed.Mistake

/-! Loading the lists of a run changes no file, and what is collected depends on nothing else. -/
namespace AutoProxy

open Run

variable {s t : Scene} {url path note : Text} {limit : Int} {client : Client} {r : Response}
  {source userRules : Text} {settings : Settings} {proxy : Option Text} {timeout : Seconds}
  {ownTransport : Bool} {role : Reading.Role} {p : Problem} {lists : Lists}

namespace Feed

theorem spares_decodeIfEncoded : Spares (decodeIfEncoded note url) := by
  unfold decodeIfEncoded
  split
  · exact spares_log.bind fun _ => spares_liftFault
  · exact spares_pure

theorem spares_readText : Spares (readText role path) :=
  spares_get.bind fun _ => spares_liftFault.bind fun _ => spares_liftFault.bind fun _ => spares_pure

theorem spares_ofFile : Spares (ofFile path) :=
  spares_log.bind fun _ => spares_readText.bind fun _ => spares_decodeIfEncoded

theorem spares_rulesOfFile : Spares (rulesOfFile path) :=
  spares_log.bind fun _ => spares_readText.bind fun _ => spares_pure

/-- The user's own rules are not decoded, so only reading them can fail. -/
theorem meets_rulesOfFile : Meets (rulesOfFile path) s (fun _ _ => True) fun p _ =>
    (∃ cause, p = .reading .userRules path cause) ∨ p = .nulInPath := by
  refine .bind (meets_log (.bind (meets_readText.mono (fun _ _ _ => meets_pure trivial) ?_)))
  rintro p - (⟨hcause, -⟩ | ⟨hnul, -⟩)
  · exact .inl hcause
  · exact .inr hnul

theorem spares_httpProblem {α : Type} {e : Http.Fault} :
    Spares (httpProblem url e : Run α) := by
  cases e with
  | request message => exact spares_log.bind fun _ => spares_throw
  | other cause => exact spares_throw

/-- That a client was made is noted beside the files. -/
theorem spares_openClient : Spares (openClient url client) := by
  refine spares_get_set_bind (fun _ => ⟨rfl, rfl⟩) fun s => ?_
  split
  · exact spares_pure
  · exact spares_httpProblem

/-- A request uses up replies, and nothing else around it. -/
theorem spares_request : Spares (request url client) := by
  refine spares_get_set_bind (fun _ => ⟨rfl, rfl⟩) fun s => ?_
  split
  · exact spares_pure
  · exact spares_httpProblem

theorem spares_checkLength : Spares (checkLength limit r) := by
  unfold checkLength
  split
  · exact spares_pure
  · split
    · refine spares_liftFault.bind fun n => ?_
      split
      · exact spares_throw
      · exact spares_pure
    · exact spares_pure

theorem spares_readBody : Spares (readBody url limit r) := by
  unfold readBody
  split
  · exact spares_pure
  · exact spares_throw
  · exact spares_log.bind fun _ => spares_throw

theorem spares_receive : Spares (receive url limit r) := by
  unfold receive
  split
  · exact spares_throw.bind fun _ => spares_checkLength.bind fun _ => spares_readBody.bind fun _ =>
      spares_log.bind fun _ => spares_decodeIfEncoded
  · exact spares_checkLength.bind fun _ => spares_readBody.bind fun _ => spares_log.bind fun _ =>
      spares_decodeIfEncoded

theorem spares_exchange : Spares (exchange url limit client) :=
  spares_openClient.bind fun _ => spares_request.bind fun _ => spares_receive

theorem spares_announce : Spares (announce url proxy) := by
  refine spares_log.bind fun _ => ?_
  split
  · exact spares_log
  · exact spares_pure

theorem spares_download : Spares (download url proxy timeout limit ownTransport) := by
  refine spares_liftFault.bind fun web => ?_
  split
  · exact spares_throw.bind fun _ => spares_announce.bind fun _ => spares_exchange
  · exact spares_announce.bind fun _ => spares_exchange

theorem spares_load : Spares (load source settings ownTransport) := by
  rw [load]
  refine spares_liftFault.bind fun web => ?_
  split
  · exact spares_download
  · exact spares_ofFile

end Feed

namespace Lists

/-- Both lists came through, the feed first and the user's own rules from there. -/
theorem load_eq_ok_iff : (load source userRules settings).run.run s = (.ok lists, t) ↔
    ∃ u, (Feed.load source settings false).run.run s = (.ok lists.feed, u) ∧
      (ownRules userRules).run.run u = (.ok lists.userRules, t) := by
  rw [load]
  constructor
  · intro h
    obtain ⟨feed, u, hfeed, h⟩ := eq_ok_of_bind h
    obtain ⟨rules, v, hrules, h⟩ := eq_ok_of_bind h
    cases h
    exact ⟨u, hfeed, hrules⟩
  · rintro ⟨u, hfeed, hrules⟩
    rw [run_bind_of_ok hfeed, run_bind_of_ok hrules]
    rfl

/-- The feed fails, or it comes through and the user's own rules fail. -/
theorem load_eq_error_iff : (load source userRules settings).run.run s = (.error p, t) ↔
    (Feed.load source settings false).run.run s = (.error p, t) ∨
      ∃ feed u, (Feed.load source settings false).run.run s = (.ok feed, u) ∧
        (ownRules userRules).run.run u = (.error p, t) := by
  rw [load]
  constructor
  · intro h
    rcases eq_error_of_bind h with hfeed | ⟨feed, u, hfeed, h⟩
    · exact .inl hfeed
    · rcases eq_error_of_bind h with hrules | ⟨rules, v, hrules, h⟩
      · exact .inr ⟨feed, u, hfeed, hrules⟩
      · cases h
  · rintro (hfeed | ⟨feed, u, hfeed, hrules⟩)
    · exact run_bind_of_error hfeed
    · rw [run_bind_of_ok hfeed]
      exact run_bind_of_error hrules

/-- Without a path there is nothing that can go wrong. -/
theorem meets_ownRules : Meets (ownRules path) s (fun _ _ => True) fun p _ =>
    (∃ cause, p = .reading .userRules path cause) ∨ p = .nulInPath := by
  unfold ownRules
  split
  · exact meets_pure trivial
  · exact Feed.meets_rulesOfFile.map

theorem spares_ownRules : Spares (ownRules path) := by
  unfold ownRules
  split
  · exact spares_pure
  · exact Feed.spares_rulesOfFile.map

theorem spares_load : Spares (load source userRules settings) := by
  rw [load]
  exact Feed.spares_load.bind fun _ => spares_ownRules.bind fun _ => spares_pure

/-- To collect cannot fail; it only logs what came of it. -/
theorem run_collect (lists : Lists) (s : Scene) :
    ∃ t, lists.collect.run.run s = (.ok lists.collection, t) ∧ t.files = s.files ∧ t.now = s.now :=
  ⟨_, rfl, rfl, rfl⟩

end Lists

end AutoProxy
