import AutoProxy.Proofs.Run
import AutoProxy.Service.Basic

/-! Runs of the service: what one request leaves, and so what any number of them leave. -/
namespace AutoProxy.Service

variable {env : Environment} {index : Index} {script path : Text} {scene scene' : Scene}
  {s : Service} {q : Request} {route : Route}

/-- The placeholder of a built script is that of the environment it was built in; only the time is
open. -/
theorem script_of_build (h : (build env).run.run scene = (.ok (index, script), scene')) :
    ∃ time, script = Script.render index (Settings.ofEnvironment env).placeholder time := by
  obtain ⟨lists, t, -, h⟩ := Run.eq_ok_of_bind h
  obtain ⟨c, u, -, h⟩ := Run.eq_ok_of_bind h
  obtain ⟨v, w, -, h⟩ := Run.eq_ok_of_bind h
  cases h
  exact ⟨v.now, rfl⟩

theorem refused_status (env : Environment) (p : Problem) :
    (refused env p).status = if p.exitCode? = none then 500 else 503 := by
  unfold refused
  split
  · next hcode =>
    rw [hcode]
    rfl
  · next hcode =>
    rw [hcode]
    rfl

theorem refused_status_ne (env : Environment) (p : Problem) : (refused env p).status ≠ 200 := by
  rw [refused_status]
  split <;> decide

/-- A request with the surroundings that it finds. -/
structure Visit where
  env : Environment
  request : Request
  scene : Scene

namespace Visit

variable (v : Visit)

def answer (s : Service) : Answer := (s.respond v.env v.request v.scene).1

def next (s : Service) : Service := (s.respond v.env v.request v.scene).2.1

def placeholder : Text := (Settings.ofEnvironment v.env).placeholder

def Gets (path : Text) : Prop := v.request.method = "GET".toList ∧ v.request.path = path

/-- Only the index or the script can tell the answer. -/
def Needs : Prop :=
  v.Gets "/proxy.pac".toList ∨ v.Gets "/wpad.dat".toList ∨ v.Gets "/api/stats".toList ∨
    v.Gets "/api/classify".toList ∧ hostOf v.request ≠ []

end Visit

variable {v w : Visit}

/-- What is kept when requests have been answered one after the other. -/
def after (s : Service) (visits : List Visit) : Service := visits.foldl (fun s v => v.next s) s

/-- What a fresh service keeps of a build. -/
def ofBuild : Except Problem (Index × Text) → Service
  | .ok (index, script) => ⟨some index, some script⟩
  | .error _ => fresh

variable {reply : Index → Text → Answer}

/-- A fresh service becomes what its build comes to. -/
theorem withBuilt_fresh :
    (fresh.withBuilt env reply scene).2.1 = ofBuild ((build env).run.run scene).1 := by
  unfold withBuilt
  split
  · next index script t hload => exact (congrArg (fun r => ofBuild r.1) hload).symm
  · next p t hload => exact (congrArg (fun r => ofBuild r.1) hload).symm

theorem get_script : s.get env .script q scene =
    s.withBuilt env (fun _ script => scriptAnswer env script) scene :=
  rfl

/-- Discovery answers with the script, under a name of its own. -/
theorem get_autodiscovery : (s.get env .autodiscovery q scene).2 = (s.get env .script q scene).2 ∧
    (s.get env .autodiscovery q scene).1.status = (s.get env .script q scene).1.status ∧
    (s.get env .autodiscovery q scene).1.content = (s.get env .script q scene).1.content := by
  simp only [get, true_and]
  split <;> exact ⟨rfl, rfl⟩

theorem get_stats : s.get env .stats q scene =
    s.withBuilt env (fun index _ => .of 200 (.sizes (sizes index))) scene :=
  rfl

theorem get_classify (hhost : hostOf q ≠ []) : s.get env .classify q scene =
    s.withBuilt env (fun index _ => .of 200 (.decision (hostOf q) (index.decide (hostOf q))))
      scene :=
  if_neg (by simpa using hhost)

/-- A blank host is refused before anything is built. -/
theorem get_classify_blank (hhost : hostOf q = []) : s.get env .classify q scene =
    (.of 400 (.error "host is required".toList), s, scene) :=
  if_pos (by simpa using hhost)

/-- A service that keeps both parts looks at nothing around it and stays as it is. -/
theorem get_built (hs : s = ⟨some index, some script⟩) (env : Environment) (route : Route)
    (q : Request) : ∃ a, ∀ scene, s.get env route q scene = (a, s, scene) := by
  subst hs
  cases route with
  | script => exact ⟨_, fun _ => rfl⟩
  | autodiscovery => exact ⟨_, fun _ => rfl⟩
  | classify =>
    by_cases hhost : hostOf q = []
    · exact ⟨_, fun _ => get_classify_blank hhost⟩
    · exact ⟨_, fun _ => get_classify hhost⟩
  | stats => exact ⟨_, fun _ => rfl⟩
  | health => exact ⟨_, fun _ => rfl⟩
  | asset => exact ⟨_, fun _ => rfl⟩

/-- A service that is built reads nothing from the scene, so what it answers does not depend on
it. -/
theorem respond_built (hs : s = ⟨some index, some script⟩) (env : Environment) (q : Request) :
    ∃ a, ∀ scene, s.respond env q scene = (a, s, scene) := by
  unfold respond
  split
  · exact ⟨_, fun _ => rfl⟩
  · exact ⟨_, fun _ => rfl⟩
  · exact ⟨_, fun _ => rfl⟩
  · exact get_built hs env _ q
  · next route _ _ =>
    obtain ⟨a, ha⟩ := get_built hs env route q
    exact ⟨a.headOnly, fun scene => by rw [ha]⟩
  · exact ⟨_, fun _ => rfl⟩

/-- By induction on the visits: none of them changes what is built. -/
theorem after_built (hs : s = ⟨some index, some script⟩) (visits : List Visit) :
    s.after visits = s := by
  induction visits with
  | nil => rfl
  | cons v visits ih =>
    obtain ⟨a, ha⟩ := respond_built hs v.env v.request
    have hnext : v.next s = s := congrArg (fun r => r.2.1) (ha v.scene)
    rw [after, List.foldl_cons, hnext]
    exact ih

/-- A request leaves a fresh service fresh, or with what it built. -/
theorem get_fresh (env : Environment) (route : Route) (q : Request) (scene : Scene) :
    (fresh.get env route q scene).2.1 = fresh ∨
      (fresh.get env route q scene).2.1 = ofBuild ((build env).run.run scene).1 := by
  cases route with
  | script =>
    rw [get_script]
    exact .inr withBuilt_fresh
  | autodiscovery =>
    rw [get_autodiscovery.1, get_script]
    exact .inr withBuilt_fresh
  | classify =>
    by_cases hhost : hostOf q = []
    · rw [get_classify_blank hhost]
      exact .inl rfl
    · rw [get_classify hhost]
      exact .inr withBuilt_fresh
  | stats =>
    rw [get_stats]
    exact .inr withBuilt_fresh
  | health => exact .inl rfl
  | asset => exact .inl rfl

/-- A first visit builds, unless its route has no need of what is built. -/
theorem next_fresh (v : Visit) :
    v.next fresh = fresh ∨ v.next fresh = ofBuild ((build v.env).run.run v.scene).1 := by
  unfold Visit.next respond
  split
  · exact .inl rfl
  · exact .inl rfl
  · exact .inl rfl
  · exact get_fresh v.env _ v.request v.scene
  · exact get_fresh v.env _ v.request v.scene
  · exact .inl rfl

/-- A build leaves both parts, or nothing if it fails. -/
theorem ofBuild_cases (env : Environment) (scene : Scene) :
    ofBuild ((build env).run.run scene).1 = fresh ∨ ∃ index time,
      ofBuild ((build env).run.run scene).1 =
        ⟨some index, some (Script.render index (Settings.ofEnvironment env).placeholder time)⟩ := by
  match h : (build env).run.run scene with
  | (.ok (index, script), t) =>
    obtain ⟨time, rfl⟩ := script_of_build h
    exact .inr ⟨index, time, rfl⟩
  | (.error p, t) => exact .inl rfl

theorem next_fresh_cases (v : Visit) : v.next fresh = fresh ∨ ∃ index time,
    v.next fresh = ⟨some index, some (Script.render index v.placeholder time)⟩ := by
  rcases next_fresh v with hfresh | hbuild
  · exact .inl hfresh
  · rw [hbuild]
    exact ofBuild_cases v.env v.scene

/-- Whatever requests a fresh service answers, it stays fresh up to one that builds, and keeps from
then on what that one built. -/
theorem after_fresh_cases (visits : List Visit) :
    fresh.after visits = fresh ∨
      ∃ earlier b later index time, visits = earlier ++ b :: later ∧ fresh.after earlier = fresh ∧
        b.next fresh = fresh.after visits ∧
        fresh.after visits = ⟨some index, some (Script.render index b.placeholder time)⟩ := by
  induction visits with
  | nil => exact .inl rfl
  | cons v visits ih =>
    have hstep : fresh.after (v :: visits) = (v.next fresh).after visits := rfl
    rcases next_fresh_cases v with hv | ⟨index, time, hv⟩
    · rw [hstep, hv]
      rcases ih with hfresh | ⟨earlier, b, later, index, time, rfl, hearlier, hb, hkept⟩
      · exact .inl hfresh
      · refine .inr ⟨v :: earlier, b, later, index, time, rfl, ?_, hb, hkept⟩
        rw [after, List.foldl_cons, hv]
        exact hearlier
    · have hafter : fresh.after (v :: visits) = v.next fresh := hstep.trans (after_built hv visits)
      exact .inr ⟨[], v, visits, index, time, rfl, rfl, hafter.symm, hafter.trans hv⟩

/-- The first request that builds is the one that the service keeps the build of. -/
theorem eq_of_builds {b c : Visit} {earlier later visits : List Visit} (hb : b.next fresh ≠ fresh)
    (hvisits : b :: visits = earlier ++ c :: later) (hearlier : fresh.after earlier = fresh) :
    c = b := by
  cases earlier with
  | nil => exact (List.cons_eq_cons.mp hvisits).1.symm
  | cons d earlier =>
    obtain ⟨rfl, -⟩ := List.cons_eq_cons.mp hvisits
    obtain ⟨index, time, hbuilt⟩ := (next_fresh_cases b).resolve_left hb
    have hafter : (b.next fresh).after earlier = b.next fresh := after_built hbuilt earlier
    exact absurd (hafter.symm.trans hearlier) hb

theorem respond_gets (hget : v.Gets path) (hroute : Route.find path = .found route) :
    s.respond v.env v.request scene = s.get v.env route v.request scene := by
  obtain ⟨hmethod, rfl⟩ := hget
  have hname : Method.ofName? v.request.method = some .get := by
    rw [hmethod]
    rfl
  unfold respond
  rw [hroute, hname]

theorem next_of_needs (h : v.Needs) :
    v.next fresh = ofBuild ((build v.env).run.run v.scene).1 := by
  unfold Visit.next
  rcases h with hget | hget | hget | ⟨hget, hhost⟩
  · rw [respond_gets hget rfl, get_script, withBuilt_fresh]
  · rw [respond_gets hget rfl, get_autodiscovery.1, get_script, withBuilt_fresh]
  · rw [respond_gets hget rfl, get_stats, withBuilt_fresh]
  · rw [respond_gets hget rfl, get_classify hhost, withBuilt_fresh]

/-- Both parts are kept, or none. -/
def Whole (s : Service) : Prop := s = fresh ∨ ∃ index script, s = ⟨some index, some script⟩

/-- An answer that needs the index is made from the one that the request leaves. -/
theorem answer_of_withBuilt (hs : s.Whole)
    (hrespond : s.respond v.env v.request v.scene = s.withBuilt v.env reply v.scene)
    (hindex : (v.next s).index = some index) : ∃ script, v.answer s = reply index script := by
  rw [Visit.next, hrespond] at hindex
  rw [Visit.answer, hrespond]
  rcases hs with rfl | ⟨kept, script, rfl⟩
  · revert hindex
    unfold withBuilt
    split
    · next kept script t hload =>
      rintro ⟨⟩
      exact ⟨script, rfl⟩
    · next p t hload =>
      rintro ⟨⟩
  · cases hindex
    exact ⟨script, rfl⟩

/-- Index and script come together or not at all. -/
theorem whole_after_fresh (visits : List Visit) : (fresh.after visits).Whole := by
  rcases after_fresh_cases visits with hfresh | ⟨_, _, _, index, _, _, _, _, hkept⟩
  · exact .inl hfresh
  · exact .inr ⟨index, _, hkept⟩

theorem answer_classify (hs : s.Whole) (hget : v.Gets "/api/classify".toList)
    (hhost : hostOf v.request ≠ []) (hindex : (v.next s).index = some index) :
    v.answer s = .of 200 (.decision (hostOf v.request) (index.decide (hostOf v.request))) := by
  have hrespond : s.respond v.env v.request v.scene = _ :=
    (respond_gets hget rfl).trans (get_classify hhost)
  obtain ⟨script, hanswer⟩ := answer_of_withBuilt hs hrespond hindex
  exact hanswer

theorem answer_stats (hs : s.Whole) (hget : v.Gets "/api/stats".toList)
    (hindex : (v.next s).index = some index) : v.answer s = .of 200 (.sizes (sizes index)) := by
  have hrespond : s.respond v.env v.request v.scene = _ := (respond_gets hget rfl).trans get_stats
  obtain ⟨script, hanswer⟩ := answer_of_withBuilt hs hrespond hindex
  exact hanswer

/-- The answers differ in nothing but the disposition. -/
theorem answer_autodiscovery (hv : v.Gets "/wpad.dat".toList) (hw : w.Gets "/proxy.pac".toList)
    (henv : v.env = w.env) (hscene : v.scene = w.scene) :
    (v.answer s).status = (w.answer s).status ∧ (v.answer s).content = (w.answer s).content := by
  rw [Visit.answer, Visit.answer, respond_gets hv rfl, respond_gets hw rfl, henv, hscene]
  exact get_autodiscovery.2

/-- What is known of a service that has answered `visits`. -/
structure Keeps (visits : List Visit) (s : Service) : Prop where
  /-- Neither part is there, or both are, as the first request whose build came through built
  them. -/
  parts : s = fresh ∨ ∃ earlier b later index time, visits = earlier ++ b :: later ∧
    fresh.after earlier = fresh ∧ b.next fresh = s ∧
      s = ⟨some index, some (Script.render index b.placeholder time)⟩
  /-- Once they are there they stay. -/
  stays : s ≠ fresh → ∀ later, s.after later = s
  /-- From then on no answer depends on files, replies or the clock, and none is used up. -/
  unread : s ≠ fresh → ∀ env q, ∃ a, ∀ scene, s.respond env q scene = (a, s, scene)
  /-- Until then each request that needs them builds, and a build that fails leaves nothing. -/
  builds : s = fresh → ∀ v : Visit, v.Needs → v.next s = ofBuild ((build v.env).run.run v.scene).1
  classifies : ∀ (v : Visit) index, v.Gets "/api/classify".toList → hostOf v.request ≠ [] →
    (v.next s).index = some index →
      v.answer s = .of 200 (.decision (hostOf v.request) (index.decide (hostOf v.request)))
  counts : ∀ (v : Visit) index, v.Gets "/api/stats".toList → (v.next s).index = some index →
    v.answer s = .of 200 (.sizes (sizes index))
  agrees : ∀ v w : Visit, v.Gets "/wpad.dat".toList → w.Gets "/proxy.pac".toList →
    v.env = w.env → v.scene = w.scene →
      (v.answer s).status = (w.answer s).status ∧ (v.answer s).content = (w.answer s).content

/-- Over any run, from a service that has built nothing yet. -/
theorem keeps_after_fresh (visits : List Visit) : Keeps visits (fresh.after visits) where
  parts := after_fresh_cases visits
  stays hbuilt := by
    obtain ⟨index, script, hs⟩ := (whole_after_fresh visits).resolve_left hbuilt
    exact after_built hs
  unread hbuilt := by
    obtain ⟨index, script, hs⟩ := (whole_after_fresh visits).resolve_left hbuilt
    exact respond_built hs
  builds hfresh v hneeds := by
    rw [hfresh]
    exact next_of_needs hneeds
  classifies _ _ := answer_classify (whole_after_fresh visits)
  counts _ _ := answer_stats (whole_after_fresh visits)
  agrees _ _ := answer_autodiscovery

/-- A feed that is missing is looked for again, and never once it was there. -/
example :
    let env : Environment := [("PAC_FEED".toList, "feed.txt".toList)]
    let q : Request := ⟨"GET".toList, "/api/stats".toList, []⟩
    let found (nodes : List (Path × Node)) : Visit :=
      ⟨env, q, ⟨⟨2024, 1, 1, 0, 0, 0, 0, none⟩, ⟨[], nodes⟩, [], [], [], [], .scripted⟩⟩
    let missing := found []
    let feed := found [(["feed.txt".toList], .file (Utf8.encode "||google.com\n".toList))]
    (missing.answer fresh).status = 503 ∧ fresh.after [missing] = fresh ∧
      (feed.answer (fresh.after [missing])).status = 200 ∧
      (missing.answer (fresh.after [missing, feed])).status = 200 := by
  decide +kernel

end AutoProxy.Service
