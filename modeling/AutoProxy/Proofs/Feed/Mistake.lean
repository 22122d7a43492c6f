import AutoProxy.Feed
import AutoProxy.Proofs.Files.Tree
import AutoProxy.Proofs.Run

/-! How the loading of a list can end: which problems have an exit code, and which have none because
nobody expects them. The library that requests are made with is any. -/
namespace AutoProxy

namespace Problem

/-- The problems with a feed that have an exit code. -/
def IsOfFeed : Problem → Prop
  | .download _ | .reading .feed _ _ | .decoding _ => True
  | _ => False

/-- Each of the three problems of feeds has its own code. -/
theorem IsOfFeed.exitCode?_mem {p : Problem} (h : p.IsOfFeed) :
    p.exitCode? = some 2 ∨ p.exitCode? = some 3 ∨ p.exitCode? = some 4 := by
  cases p with
  | download => exact .inl rfl
  | reading => exact .inr (.inl rfl)
  | decoding => exact .inr (.inr rfl)
  | _ => cases h

theorem IsOfFeed.exists_exitCode? {p : Problem} (h : p.IsOfFeed) :
    ∃ code, p.exitCode? = some code := by
  rcases h.exitCode?_mem with hcode | hcode | hcode <;> exact ⟨_, hcode⟩

end Problem

namespace Feed

open Run

/-- What keeps a list from being loaded and has no exit code: the source is neither an address nor a
path, or the library has more to say of client or address than that a request failed, or a length is
declared in digits of which there is no number. -/
inductive Mistake (http : Http) (client : Client) (source : Text) (replies : List Reply) :
    Problem → Prop where
  | reference {cause} (hweb : Reference.isWeb source = .error cause) :
      Mistake http client source replies (.reference cause)
  | nulInPath (hweb : Reference.isWeb source = .ok false) (hnul : '\x00' ∈ source) :
      Mistake http client source replies .nulInPath
  | client {cause} (hweb : Reference.isWeb source = .ok true)
      (hmake : http.make client = .error (.other cause)) :
      Mistake http client source replies (.library cause)
  | request {cause} (hweb : Reference.isWeb source = .ok true) (hmake : http.make client = .ok ())
      (hask : (http.ask client source replies).result = .error (.other cause)) :
      Mistake http client source replies (.library cause)
  | length {r length cause} (hweb : Reference.isWeb source = .ok true)
      (hmake : http.make client = .ok ()) (hask : (http.ask client source replies).result = .ok r)
      (hstatus : r.status < 400) (hlength : r.header? "Content-Length".toList = some length)
      (hne : length ≠ []) (hdigits : length.all Text.isAnyDigit = true)
      (hcause : Integer.ofText length = .error cause) :
      Mistake http client source replies (.length cause)

variable {α β : Type} {s : Scene} {r : Response} {source path note t : Text} {replies : List Reply}
  {http : Http} {client : Client} {cause : Failure} {limit : Int} {p : Problem}
  {role : Reading.Role}

/-- No mistake is one of the problems that a run is prepared for. -/
theorem Mistake.exitCode?_eq_none (h : Mistake http client source replies p) :
    p.exitCode? = none := by
  cases h <;> rfl

/-- Not to be able to decode what looks encoded is a problem of feeds. -/
theorem meets_decodeIfEncoded :
    Meets (decodeIfEncoded note t) s (fun _ _ => True) fun p _ => p.IsOfFeed := by
  unfold decodeIfEncoded
  split
  · exact .bind (meets_log (meets_liftFault (fun _ _ => trivial) fun _ _ => trivial))
  · exact meets_pure trivial

/-- A file is read, or it is said why it is not; only for a text that is no path there is no
word. -/
theorem meets_readText : Meets (readText role path) s (fun _ _ => '\x00' ∉ path) fun p _ =>
    (∃ cause, p = .reading role path cause) ∧ '\x00' ∉ path ∨ p = .nulInPath ∧ '\x00' ∈ path := by
  refine .bind (meets_get (.bind (meets_liftFault (fun bytes hread => ?_) fun e hread => ?_)))
  · have hnul : '\x00' ∉ path := by
      rw [← FileTree.read_eq_nul_iff s.files, hread]
      rintro ⟨⟩
    exact .bind (meets_liftFault (fun _ _ => meets_pure hnul) fun _ _ => .inl ⟨⟨_, rfl⟩, hnul⟩)
  · rw [← FileTree.read_eq_nul_iff s.files, hread]
    cases e with
    | nulInPath => exact .inr ⟨rfl, rfl⟩
    | refused => exact .inl ⟨⟨_, rfl⟩, by rintro ⟨⟩⟩

theorem meets_ofFile : Meets (ofFile path) s (fun _ _ => '\x00' ∉ path) fun p _ =>
    p.IsOfFeed ∧ '\x00' ∉ path ∨ p = .nulInPath ∧ '\x00' ∈ path := by
  refine .bind (meets_log (.bind (meets_readText.mono (fun text t hnul => ?_) fun p t hp => ?_)))
  · exact meets_decodeIfEncoded.mono (fun _ _ _ => hnul) fun _ _ h => .inl ⟨h, hnul⟩
  · refine hp.imp_left (And.imp_left ?_)
    rintro ⟨cause, rfl⟩
    trivial

/-- No other way to end is left to a text that is no path. -/
theorem run_ofFile_of_nul (h : '\x00' ∈ path) :
    ∃ t, (ofFile path).run.run s = (.error .nulInPath, t) := by
  match hrun : (ofFile path).run.run s with
  | (.ok text, t) => exact absurd h (meets_ofFile.of_ok hrun)
  | (.error p, t) =>
    rcases meets_ofFile.of_error hrun with ⟨-, hnul⟩ | ⟨rfl, -⟩
    · exact absurd h hnul
    · exact ⟨t, rfl⟩

theorem run_isWeb {web : Bool} (h : Reference.isWeb source = .ok web) :
    (isWeb source).run.run s = (.ok web, s) :=
  run_liftFault_of_ok h

/-- What is logged before a web address is asked for. -/
def announcement (url : Text) (proxy : Option Text) : List Entry :=
  ⟨.info, .feed, "Downloading feed from ".toList ++ url⟩ ::
    (proxy.filter (!·.isEmpty)).toList.map fun p => ⟨.info, .feed, "Using proxy ".toList ++ p⟩

theorem run_announce {proxy : Option Text} : (announce source proxy).run.run s =
    (.ok (), { s with log := s.log ++ announcement source proxy }) := by
  rw [announce, run_bind_of_ok run_log, announcement]
  split
  · next p hproxy =>
    rw [run_log, hproxy, Option.toList_some, List.map_singleton, List.append_assoc]
    rfl
  · next hproxy =>
    have hnone : proxy.filter (!·.isEmpty) = none := Option.eq_none_iff_forall_ne_some.mpr hproxy
    rw [hnone]
    rfl

/-- A download of what is a web address is announced and then done. -/
theorem run_download (s : Scene) (proxy : Option Text) (timeout : Seconds) (limit : Int)
    (ownTransport : Bool) (hweb : Reference.isWeb source = .ok true) :
    (download source proxy timeout limit ownTransport).run.run s =
      (exchange source limit (clientFor proxy timeout ownTransport)).run.run
        { s with log := s.log ++ announcement source proxy } := by
  rw [download, run_bind_of_ok (run_isWeb hweb)]
  exact run_bind_of_ok run_announce

/-- A failed request is reported as a problem of feeds, whatever else is wrong is handed on. -/
theorem meets_httpProblem {x : Except Http.Fault β} {e : Http.Fault} {P : α → Scene → Prop}
    (h : x = .error e) : Meets (httpProblem source e) s P fun p _ =>
      p.IsOfFeed ∨ ∃ cause, x = .error (.other cause) ∧ p = .library cause := by
  cases e with
  | request message => exact .bind (meets_log (meets_throw (.inl trivial)))
  | other cause => exact meets_throw (.inr ⟨cause, h, rfl⟩)

/-- A client is refused as a failed request or for another reason, which is handed on. One that is
made leaves library and replies as they were. -/
theorem meets_openClient : Meets (openClient source client) s
    (fun _ t => s.http.make client = .ok () ∧ t.http = s.http ∧ t.replies = s.replies)
    fun p _ => p.IsOfFeed ∨
      ∃ cause, s.http.make client = .error (.other cause) ∧ p = .library cause := by
  refine .bind (meets_get (.bind (meets_set ?_)))
  split
  · next hmake => exact meets_pure ⟨hmake, rfl, rfl⟩
  · next hmake => exact meets_httpProblem hmake

theorem run_openClient_of_ok (source : Text) (h : s.http.make client = .ok ()) :
    (openClient source client).run.run s =
      (.ok (), { s with clients := s.clients ++ [client] }) := by
  have hrun : (openClient source client).run.run s = _ :=
    (run_bind_of_ok run_get).trans (run_bind_of_ok rfl)
  rw [hrun, h]
  rfl

theorem run_openClient_of_other (source : Text)
    (h : s.http.make client = .error (.other cause)) :
    ∃ t, (openClient source client).run.run s = (.error (.library cause), t) := by
  have hrun : (openClient source client).run.run s = _ :=
    (run_bind_of_ok run_get).trans (run_bind_of_ok rfl)
  rw [hrun, h]
  exact ⟨_, rfl⟩

/-- The same of what a client gets from an address. -/
theorem meets_request : Meets (request source client) s
    (fun r _ => (s.http.ask client source s.replies).result = .ok r)
    fun p _ => p.IsOfFeed ∨ ∃ cause,
      (s.http.ask client source s.replies).result = .error (.other cause) ∧
        p = .library cause := by
  refine .bind (meets_get (.bind (meets_set ?_)))
  split
  · next r hr => exact meets_pure hr
  · next he => exact meets_httpProblem he

theorem run_request_of_ok (h : (s.http.ask client source s.replies).result = .ok r) :
    ∃ t, (request source client).run.run s = (.ok r, t) ∧ t.log = s.log := by
  have hrun : (request source client).run.run s = _ :=
    (run_bind_of_ok run_get).trans (run_bind_of_ok rfl)
  rw [hrun, h]
  exact ⟨_, rfl, rfl⟩

theorem run_request_of_other
    (h : (s.http.ask client source s.replies).result = .error (.other cause)) :
    ∃ t, (request source client).run.run s = (.error (.library cause), t) := by
  have hrun : (request source client).run.run s = _ :=
    (run_bind_of_ok run_get).trans (run_bind_of_ok rfl)
  rw [hrun, h]
  exact ⟨_, rfl⟩

/-- Once there is a response, an exchange comes to what the response brings. -/
theorem run_exchange (limit : Int) (hmake : s.http.make client = .ok ())
    (hask : (s.http.ask client source s.replies).result = .ok r) :
    ∃ t, (exchange source limit client).run.run s = (receive source limit r).run.run t ∧
      t.log = s.log := by
  obtain ⟨t, hrequest, hlog⟩ := run_request_of_ok
    (s := { s with clients := s.clients ++ [client] }) hask
  refine ⟨t, ?_, hlog⟩
  rw [exchange, run_bind_of_ok (run_openClient_of_ok source hmake), run_bind_of_ok hrequest]

/-- A declared length is above the limit, or it is a row of digits that no number is read from. -/
theorem meets_checkLength : Meets (checkLength limit r) s (fun _ _ => True) fun p _ =>
    p.IsOfFeed ∨ ∃ length cause, r.header? "Content-Length".toList = some length ∧ length ≠ [] ∧
      length.all Text.isAnyDigit = true ∧ Integer.ofText length = .error cause ∧
        p = .length cause := by
  unfold checkLength
  split
  · exact meets_pure trivial
  · next length hlength =>
    split
    · next hdigits =>
      rw [Bool.and_eq_true, Bool.not_eq_true', List.isEmpty_eq_false_iff] at hdigits
      refine .bind (meets_liftFault (fun n _ => ?_) fun cause hcause => ?_)
      · split
        · exact meets_throw (.inl trivial)
        · exact meets_pure trivial
      · exact .inr ⟨length, cause, hlength, hdigits.1, hdigits.2, hcause, rfl⟩
    · exact meets_pure trivial

/-- The number is read before the limit is looked at, so the limit has no part in this. -/
theorem run_checkLength_of_error {length : Text} {cause : Integer.Fault}
    (hlength : r.header? "Content-Length".toList = some length) (hne : length ≠ [])
    (hdigits : length.all Text.isAnyDigit = true) (hcause : Integer.ofText length = .error cause) :
    (checkLength limit r).run.run s = (.error (.length cause), s) := by
  have hempty : length.isEmpty = false := List.isEmpty_eq_false_iff.mpr hne
  rw [checkLength, hlength]
  simp only [hempty, hdigits, hcause, Bool.not_false, Bool.and_self, if_true]
  rfl

theorem meets_readBody :
    Meets (readBody source limit r) s (fun _ _ => True) fun p _ => p.IsOfFeed := by
  unfold readBody
  split
  · exact meets_pure trivial
  · exact meets_throw trivial
  · exact .bind (meets_log (meets_throw trivial))

/-- Of a response, only a declared length can be a mistake. -/
theorem meets_receive : Meets (receive source limit r) s (fun _ _ => True) fun p _ =>
    p.IsOfFeed ∨ r.status < 400 ∧ ∃ length cause,
      r.header? "Content-Length".toList = some length ∧ length ≠ [] ∧
        length.all Text.isAnyDigit = true ∧ Integer.ofText length = .error cause ∧
          p = .length cause := by
  unfold receive
  split
  · exact meets_throw_bind (.inl trivial)
  · next hstatus =>
    refine .bind (meets_checkLength.mono (fun _ _ _ => ?_) fun _ _ hp => ?_)
    · refine .bind (meets_readBody.mono (fun _ _ _ => ?_) fun _ _ => .inl)
      exact .bind (meets_log (meets_decodeIfEncoded.mono (fun _ _ => id) fun _ _ => .inl))
    · exact hp.imp_right (And.intro (by omega))

/-- Of the three steps each adds its own mistake: to make a client, to ask, and to take the declared
length at its word. -/
theorem meets_exchange (hweb : Reference.isWeb source = .ok true) :
    Meets (exchange source limit client) s (fun _ _ => True) fun p _ =>
      p.IsOfFeed ∨ Mistake s.http client source s.replies p := by
  refine .bind (meets_openClient.mono ?_ ?_)
  · rintro - t ⟨hmake, hhttp, hreplies⟩
    refine .bind (meets_request.mono (fun r u hask => ?_) fun p u hp => ?_)
    · rw [hhttp, hreplies] at hask
      refine meets_receive.mono (fun _ _ => id) fun p u hp => hp.imp_right ?_
      rintro ⟨hstatus, length, cause, hlength, hne, hdigits, hcause, rfl⟩
      exact .length hweb hmake hask hstatus hlength hne hdigits hcause
    · rw [hhttp, hreplies] at hp
      refine hp.imp_right ?_
      rintro ⟨cause, hask, rfl⟩
      exact .request hweb hmake hask
  · rintro p t (hfeed | ⟨cause, hmake, rfl⟩)
    · exact .inl hfeed
    · exact .inr (.client hweb hmake)

/-- A mistake with a web address ends the exchange. -/
theorem exchange_of_mistake (hweb : Reference.isWeb source = .ok true)
    (h : Mistake s.http client source s.replies p) :
    ∃ t, (exchange source limit client).run.run s = (.error p, t) := by
  cases h with
  | reference hfault => cases hweb.symm.trans hfault
  | nulInPath hfile => cases hweb.symm.trans hfile
  | client _ hmake =>
    obtain ⟨t, hopen⟩ := run_openClient_of_other source hmake
    exact ⟨t, run_bind_of_error hopen⟩
  | request _ hmake hask =>
    obtain ⟨t, hrequest⟩ := run_request_of_other
      (s := { s with clients := s.clients ++ [client] }) hask
    refine ⟨t, (run_bind_of_ok (run_openClient_of_ok source hmake)).trans ?_⟩
    exact run_bind_of_error hrequest
  | length _ hmake hask hstatus hlength hne hdigits hcause =>
    obtain ⟨t, hrun, -⟩ := run_exchange limit hmake hask
    refine ⟨t, hrun.trans ?_⟩
    rw [receive, if_neg (by omega)]
    exact run_bind_of_error (run_checkLength_of_error hlength hne hdigits hcause)

variable {settings : Settings} {ownTransport : Bool}

/-- The client that lists are loaded with under some settings. -/
def clientOf (settings : Settings) (ownTransport : Bool) : Client :=
  clientFor settings.proxy settings.timeout ownTransport

/-- A list is loaded, or the problem has an exit code, or a mistake was made. -/
theorem meets_load : Meets (load source settings ownTransport) s (fun _ _ => True) fun p _ =>
    p.IsOfFeed ∨ Mistake s.http (clientOf settings ownTransport) (sourceOf source settings)
      s.replies p := by
  rw [load, fetch]
  generalize sourceOf source settings = address
  refine .bind (meets_liftFault (fun web hweb => ?_) fun e he => .inr (.reference he))
  cases web with
  | true =>
    have hrun := run_download s settings.proxy settings.timeout settings.maxBytes ownTransport hweb
    rw [if_pos rfl, Meets, hrun]
    exact meets_exchange hweb
  | false =>
    rw [if_neg Bool.false_ne_true]
    refine meets_ofFile.mono (fun _ _ _ => trivial) fun p t hp => ?_
    rcases hp with ⟨hfeed, -⟩ | ⟨rfl, hnul⟩
    · exact .inl hfeed
    · exact .inr (.nulInPath hweb hnul)

/-- A mistake ends the loading, whatever else is the case. -/
theorem load_of_mistake
    (h : Mistake s.http (clientOf settings ownTransport) (sourceOf source settings) s.replies p) :
    ∃ t, (load source settings ownTransport).run.run s = (.error p, t) := by
  rw [load, fetch]
  generalize sourceOf source settings = address at h ⊢
  match hweb : Reference.isWeb address with
  | .ok true =>
    rw [run_bind_of_ok (run_isWeb hweb), if_pos rfl,
      run_download s settings.proxy settings.timeout settings.maxBytes ownTransport hweb]
    exact exchange_of_mistake hweb h
  | .ok false =>
    cases h with
    | nulInPath _ hnul =>
      rw [run_bind_of_ok (run_isWeb hweb), if_neg Bool.false_ne_true]
      exact run_ofFile_of_nul hnul
    | reference h | client h | request h | length h => cases hweb.symm.trans h
  | .error cause =>
    cases h with
    | reference hfault =>
      cases hweb.symm.trans hfault
      exact ⟨s, run_bind_of_error (run_liftFault_of_error hweb)⟩
    | nulInPath h | client h | request h | length h => cases hweb.symm.trans h

end Feed

end AutoProxy
