import AutoProxy.Proofs.Script.Substitution
import AutoProxy.Proofs.Service.Run

/-! Which proxy the scripts declare that a service gives out. -/
namespace AutoProxy.Service

variable {s : Service} {v : Visit}

/-- A script is asked for, under either of its names. -/
def Visit.GetsScript (v : Visit) : Prop :=
  v.Gets "/proxy.pac".toList ∨ v.Gets "/wpad.dat".toList

theorem respond_getsScript (hget : v.GetsScript) :
    (s.respond v.env v.request v.scene).2 = (s.get v.env .script v.request v.scene).2 ∧
      (v.answer s).status = (s.get v.env .script v.request v.scene).1.status ∧
      (v.answer s).content = (s.get v.env .script v.request v.scene).1.content := by
  unfold Visit.answer
  rcases hget with hget | hget
  · rw [respond_gets hget rfl]
    exact ⟨rfl, rfl, rfl⟩
  · rw [respond_gets hget rfl]
    exact get_autodiscovery

/-- What is given out is the script that is kept, with one declaration substituted. -/
theorem content_of_getsScript (hget : v.GetsScript) (hstatus : (v.answer s).status = 200) :
    ∃ index script, v.next s = ⟨some index, some script⟩ ∧ (v.answer s).content =
      .text scriptType (Script.substitute v.placeholder (chain v.env) script) := by
  obtain ⟨hleft, hsame, hcontent⟩ := respond_getsScript (s := s) hget
  rw [hsame, get_script] at hstatus
  rw [Visit.next, hleft, hcontent, get_script]
  revert hstatus
  unfold withBuilt
  split
  · next index script t hload => exact fun _ => ⟨index, script, rfl, rfl⟩
  · next p t hload => exact fun hstatus => absurd hstatus (refused_status_ne v.env p)

theorem after_concat (s : Service) (visits : List Visit) (v : Visit) :
    s.after (visits ++ [v]) = v.next (s.after visits) := by
  rw [after, List.foldl_concat, ← after]

/-- The script declares the chain of the request if the request has the placeholder of the one that
built the script, and else that older placeholder. -/
theorem declared_proxy (visits : List Visit) (hget : v.GetsScript)
    (hstatus : (v.answer (fresh.after visits)).status = 200) :
    ∃ earlier b later body, visits ++ [v] = earlier ++ b :: later ∧ fresh.after earlier = fresh ∧
      b.next fresh ≠ fresh ∧ (v.answer (fresh.after visits)).content = .text scriptType body ∧
      Script.proxyDeclaration? body = some (Script.proxyLine
        (if v.placeholder = b.placeholder then chain v.env else b.placeholder)) ∧
      (Script.proxyDeclaration? body = some (Script.proxyLine (chain v.env)) ↔
        v.placeholder = b.placeholder ∨ b.placeholder = chain v.env) := by
  obtain ⟨index, script, hnext, hcontent⟩ := content_of_getsScript hget hstatus
  rw [← after_concat] at hnext
  rcases after_fresh_cases (visits ++ [v]) with
    hfresh | ⟨earlier, b, later, kept, time, hvisits, hearlier, hb, hkept⟩
  · rw [hfresh] at hnext
    cases hnext
  · have hscript : script = Script.render kept b.placeholder time := by
      rw [hkept] at hnext
      cases hnext
      rfl
    have hbuilt : b.next fresh ≠ fresh := by
      rw [hb, hkept]
      rintro ⟨⟩
    have hdeclared :=
      Script.proxyDeclaration?_substitute_render kept v.placeholder b.placeholder (chain v.env) time
    refine ⟨earlier, b, later, _, hvisits, hearlier, hbuilt, hscript ▸ hcontent, hdeclared, ?_⟩
    rw [hdeclared, Option.some_inj]
    split_ifs with hsame <;> simp [hsame, Script.proxyLine_inj]

theorem declared_proxy_other_placeholder :
    let scene : Scene :=
      ⟨⟨2024, 1, 1, 0, 0, 0, 0, none⟩,
        ⟨[], [(["feed.txt".toList], .file (Utf8.encode "||google.com\n".toList))]⟩,
        [], [], [], [], .scripted⟩
    let env : Environment := [("PAC_FEED".toList, "feed.txt".toList)]
    let q : Request := ⟨"GET".toList, "/proxy.pac".toList, []⟩
    let b : Visit := ⟨env, q, scene⟩
    let v : Visit := ⟨("PAC_PLACEHOLDER".toList, "OTHER".toList) :: env, q, scene⟩
    v.GetsScript ∧ (v.answer (fresh.after [b])).status = 200 ∧
      ∃ body, (v.answer (fresh.after [b])).content = .text scriptType body ∧
        Script.proxyDeclaration? body = some (Script.proxyLine "__PROXY__".toList) ∧
        Script.proxyDeclaration? body ≠ some (Script.proxyLine (chain v.env)) := by
  intro scene env q b v
  have hget : v.GetsScript := .inl ⟨rfl, rfl⟩
  have hstatus : (v.answer (fresh.after [b])).status = 200 := by decide +kernel
  refine ⟨hget, hstatus, ?_⟩
  obtain ⟨earlier, c, later, body, hvisits, hearlier, -, hcontent, hdeclared, hchain⟩ :=
    declared_proxy [b] hget hstatus
  have hbuilds : b.next fresh ≠ fresh := by decide +kernel
  have hc : c = b := eq_of_builds hbuilds hvisits hearlier
  have hother : v.placeholder ≠ b.placeholder := by decide
  have hplaceholder : b.placeholder = "__PROXY__".toList := by decide
  have hdiffers : b.placeholder ≠ chain v.env := by decide
  rw [hc, if_neg hother, hplaceholder] at hdeclared
  rw [hc, or_iff_right hother] at hchain
  exact ⟨body, hcontent, hdeclared, fun h => hdiffers (hchain.mp h)⟩

end AutoProxy.Service
