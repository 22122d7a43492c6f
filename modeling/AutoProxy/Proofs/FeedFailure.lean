import AutoProxy.Proofs.CommandLine.Generate
import AutoProxy.Proofs.Network.Redirects
import AutoProxy.Proofs.Service.Refusal

/-! What becomes of a feed that cannot be loaded. A mistake, be it in a source, a proxy, an address
or a declared length, is no failure to load it, and neither the command nor the service is ready for
one. -/
namespace AutoProxy

open Run

variable {source : Text} {settings : Settings} {ownTransport : Bool} {args : List Text}
  {a : Arguments} {env : Environment} {s t : Scene} {p : Problem} {v : Service.Visit}

namespace Feed

/-- The list is loaded, or a problem of feeds says why not. -/
def EndsWell (source : Text) (settings : Settings) (ownTransport : Bool) (s : Scene) : Prop :=
  (∃ text t, (load source settings ownTransport).run.run s = (.ok text, t)) ∨
    ∃ p t, (load source settings ownTransport).run.run s = (.error p, t) ∧ p.IsOfFeed

theorem not_isOfFeed_of_mistake {http : Http} {client : Client} {replies : List Reply}
    (h : Mistake http client source replies p) : ¬p.IsOfFeed := by
  intro hfeed
  obtain ⟨code, hcode⟩ := hfeed.exists_exitCode?
  cases hcode.symm.trans h.exitCode?_eq_none

theorem endsWell_iff : EndsWell source settings ownTransport s ↔
    ¬∃ p, Mistake s.http (clientOf settings ownTransport) (sourceOf source settings)
      s.replies p := by
  constructor
  · rintro hends ⟨p, hp⟩
    obtain ⟨t, hrun⟩ := load_of_mistake hp
    rcases hends with ⟨text, u, hload⟩ | ⟨q, u, hload, hq⟩
    · cases hrun.symm.trans hload
    · cases hrun.symm.trans hload
      exact not_isOfFeed_of_mistake hp hq
  · intro hnone
    match hrun : (load source settings ownTransport).run.run s with
    | (.ok text, t) => exact .inl ⟨text, t, hrun⟩
    | (.error p, t) =>
      have hp := (meets_load.of_error hrun).resolve_right fun h => hnone ⟨p, h⟩
      exact .inr ⟨p, t, hrun, hp⟩

end Feed

theorem CommandLine.run_of_feed_error (hargs : Arguments.parse args = .ok a)
    (hst : CommandLine.settings a env = .ok settings)
    (hload : (Feed.load (a.input.getD []) settings false).run.run s = (.error p, t)) :
    (p.IsOfFeed → ∃ console, CommandLine.run args env s = (.ok console, t) ∧
      p.exitCode? = some console.exitCode) ∧
    (¬p.IsOfFeed → CommandLine.run args env s = (.error p, t)) := by
  have hgenerate := generate_of_load_error hst (Lists.load_eq_error_iff.mpr (.inl hload))
  constructor
  · intro hfeed
    obtain ⟨code, hcode⟩ := hfeed.exists_exitCode?
    obtain ⟨errors, hrun⟩ := run_of_aborted hargs hgenerate hcode
    exact ⟨_, hrun, hcode⟩
  · intro hfeed
    have hmistake := (Feed.meets_load.of_error hload).resolve_left hfeed
    exact run_of_mistake hargs hgenerate hmistake.exitCode?_eq_none

theorem Service.answer_of_feed_error (hneeds : v.Needs)
    (hload : (Feed.load ((v.env.lookup "PAC_FEED".toList).getD []) (Settings.ofEnvironment v.env)
      false).run.run v.scene = (.error p, t)) :
    (p.IsOfFeed → (v.answer fresh).status = 503) ∧
    (¬p.IsOfFeed → (v.answer fresh).status = 500) := by
  have hlists : (loadLists v.env).run.run v.scene = (.error p, t) :=
    Lists.load_eq_error_iff.mpr (.inl hload)
  rw [answer_of_error hneeds (build_of_load_error hlists), refused_status]
  constructor
  · intro hfeed
    obtain ⟨code, hcode⟩ := hfeed.exists_exitCode?
    rw [hcode]
    rfl
  · intro hfeed
    have hmistake := (Feed.meets_load.of_error hload).resolve_left hfeed
    exact if_pos hmistake.exitCode?_eq_none

/-- What comes of a feed from `source`, wherever it is loaded and whatever library makes the
requests. -/
structure FeedHandled (source : Text) (settings : Settings) (s : Scene) : Prop where
  /-- A list or a problem of feeds comes of it unless a mistake was made. -/
  loads : ∀ ownTransport, Feed.EndsWell source settings ownTransport s ↔
    ¬∃ p, Feed.Mistake s.http (Feed.clientOf settings ownTransport)
      (Feed.sourceOf source settings) s.replies p
  /-- A mistake is handed on as it is. -/
  escapes : ∀ ownTransport p, Feed.Mistake s.http (Feed.clientOf settings ownTransport)
      (Feed.sourceOf source settings) s.replies p →
    ¬p.IsOfFeed ∧ ∃ t, (Feed.load source settings ownTransport).run.run s = (.error p, t)
  /-- The command ends with the code of the problem, but hands on a mistake. -/
  command : ∀ args a env p t, Arguments.parse args = .ok a →
    CommandLine.settings a env = .ok settings → a.input.getD [] = source →
      (Feed.load source settings false).run.run s = (.error p, t) →
        (p.IsOfFeed → ∃ console, CommandLine.run args env s = (.ok console, t) ∧
          p.exitCode? = some console.exitCode) ∧
        (¬p.IsOfFeed → CommandLine.run args env s = (.error p, t))
  /-- The service says that the feed is unavailable, but breaks down over a mistake. -/
  service : ∀ (v : Service.Visit) p t, v.Needs → v.scene = s →
    (v.env.lookup "PAC_FEED".toList).getD [] = source → Settings.ofEnvironment v.env = settings →
      (Feed.load source settings false).run.run s = (.error p, t) →
        (p.IsOfFeed → (v.answer .fresh).status = 503) ∧
        (¬p.IsOfFeed → (v.answer .fresh).status = 500)

theorem feedHandled (source : Text) (settings : Settings) (s : Scene) :
    FeedHandled source settings s where
  loads _ := Feed.endsWell_iff
  escapes _ _ hp := ⟨Feed.not_isOfFeed_of_mistake hp, Feed.load_of_mistake hp⟩
  command := by
    rintro args a env p t hargs hst rfl hload
    exact CommandLine.run_of_feed_error hargs hst hload
  service := by
    rintro v p t hneeds rfl rfl rfl hload
    exact Service.answer_of_feed_error hneeds hload

/-- An address of four numbers is a mistake if one of them is too large. -/
theorem not_endsWell_large_number :
    let source := "http://300.1.1.1/l".toList
    let s : Scene := ⟨⟨2024, 1, 1, 0, 0, 0, 0, none⟩, ⟨[], []⟩, [], [], [], [], .scripted⟩
    let v : Service.Visit :=
      ⟨[("PAC_FEED".toList, source)], ⟨"GET".toList, "/proxy.pac".toList, []⟩, s⟩
    ¬Feed.EndsWell source .standard false s ∧
      (∃ p t, CommandLine.run ["-i".toList, source] [] s = (.error p, t)) ∧
      (v.answer .fresh).status = 500 := by
  intro source s v
  have hurl : Url.ofRequest source = .error (.shortAddress "300.1.1.1".toList) := rfl
  have hmistake : Feed.Mistake s.http (Feed.clientOf .standard false)
      (Feed.sourceOf source .standard) s.replies
      (.library ⟨.address, "Invalid IPv4 address: '300.1.1.1'".toList⟩) :=
    .request rfl rfl (Http.scripted_ask_eq_other_iff.mpr ⟨_, .url hurl, by decide +kernel⟩)
  obtain ⟨t, hload⟩ := Feed.load_of_mistake hmistake
  have hargs : Arguments.parse ["-i".toList, source] =
      .ok { Arguments.standard with input := some source } := rfl
  have hst : CommandLine.settings { Arguments.standard with input := some source } [] =
      .ok .standard := rfl
  have hrun := (CommandLine.run_of_feed_error hargs hst hload).2
  exact ⟨fun h => Feed.endsWell_iff.mp h ⟨_, hmistake⟩,
    ⟨_, t, hrun (Feed.not_isOfFeed_of_mistake hmistake)⟩, by decide +kernel⟩

/-- A library that knows no scheme for a proxy makes no client with it. -/
example :
    let cause : Failure := ⟨.value, "Unknown scheme for proxy URL URL('foo')".toList⟩
    let http : Http :=
      { Http.scripted with
        make := fun client =>
          if client.proxy = some "foo".toList then .error (.other cause) else .ok () }
    let s : Scene := ⟨⟨2024, 1, 1, 0, 0, 0, 0, none⟩, ⟨[], []⟩, [], [], [], [], http⟩
    let settings := { Settings.standard with proxy := some "foo".toList }
    ((Feed.load "http://a.b/l".toList settings false).run.run s).1 = .error (.library cause) :=
  rfl

end AutoProxy
