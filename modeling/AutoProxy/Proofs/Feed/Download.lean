import AutoProxy.Proofs.Feed.Mistake
import AutoProxy.Proofs.Network
import AutoProxy.Proofs.Network.Redirects
import AutoProxy.Proofs.Text.Utf8

/-! What comes of a body that is downloaded. -/
namespace AutoProxy.Feed

open Run

/-- A client can be made, and what it gets from the address is the response `r`. -/
def Answers (s : Scene) (client : Client) (url : Text) (r : Response) : Prop :=
  Reference.isWeb url = .ok true ∧ s.http.make client = .ok () ∧
    (s.http.ask client url s.replies).result = .ok r

/-- A length that is declared in digits is a number within the limit. -/
def AdmitsLength (limit : Int) (r : Response) : Prop :=
  ∀ length, r.header? "Content-Length".toList = some length → length ≠ [] →
    length.all Text.isAnyDigit = true → ∃ n, Integer.ofText length = .ok n ∧ n ≤ limit

/-- The text that a list is, or what it encodes if it looks encoded. -/
def decoded (t : Text) : Except Problem Text :=
  if Base64.looksEncoded t then (Base64.decodeText t).mapError .decoding else .ok t

/-- What is logged when a body was got in full. -/
def report (bytes : Bytes) : List Entry :=
  ⟨.info, .feed, "Downloaded ".toList ++ Text.ofNat bytes.length ++ " bytes".toList⟩ ::
    if Base64.looksEncoded (Utf8.decodeLossy bytes) then
      [⟨.info, .feed, "Decoding base64 feed".toList⟩]
    else []

/-- What comes of a body, and what is logged about it. -/
def outcome (url : Text) (limit : Int) (b : Network.Body) : Except Problem Text × List Entry :=
  if limit < b.bytes.length then (.error (.download (.limit limit)), [])
  else
    match b.failure? with
    | some message =>
      (.error (.download (.transport message)),
        [⟨.error, .feed, "Feed download failed (url=".toList ++ url ++ [')']⟩])
    | none => (decoded (Utf8.decodeLossy b.bytes), report b.bytes)

variable {s : Scene} {r : Response} {url note t : Text} {limit : Int}

theorem run_decodeIfEncoded : (decodeIfEncoded note t).run.run s =
    (decoded t, { s with
      log := s.log ++ if Base64.looksEncoded t then [⟨.info, .feed, note⟩] else [] }) := by
  rw [decodeIfEncoded, decoded]
  split
  · rw [run_bind_of_ok run_log]
    cases Base64.decodeText t <;> rfl
  · rw [List.append_nil]
    rfl

/-- The body is read whole, or it is too long, or it fails before that. -/
theorem run_readBody (hlimit : 0 ≤ limit) : (readBody url limit r).run.run s =
    if limit < r.body.bytes.length then (.error (.download (.limit limit)), s)
    else
      match r.body.failure? with
      | some message => (transportProblem url message).run.run s
      | none => (.ok r.body.bytes, s) := by
  rw [readBody, Response.read_eq_within hlimit, Network.Body.within]
  by_cases hlong : limit < r.body.bytes.length
  · simp only [if_pos hlong]
    rfl
  · simp only [if_neg hlong]
    cases r.body.failure? <;> rfl

theorem admitsLength_of_none (h : r.header? "Content-Length".toList = none) :
    AdmitsLength limit r := by
  intro length hlength
  cases h.symm.trans hlength

theorem run_checkLength_of_admits (h : AdmitsLength limit r) :
    (checkLength limit r).run.run s = (.ok (), s) := by
  rw [checkLength]
  split
  · rfl
  · next length hlength =>
    split
    · next hdigits =>
      rw [Bool.and_eq_true, Bool.not_eq_true', List.isEmpty_eq_false_iff] at hdigits
      obtain ⟨n, hn, hle⟩ := h length hlength hdigits.1 hdigits.2
      rw [run_bind_of_ok (run_liftFault_of_ok hn), if_neg (Int.not_lt.mpr hle)]
      rfl
    · rfl

theorem run_receive (hstatus : r.status < 400) (hlength : AdmitsLength limit r)
    (hlimit : 0 ≤ limit) : (receive url limit r).run.run s =
      ((outcome url limit r.body).1, { s with log := s.log ++ (outcome url limit r.body).2 }) := by
  have hcheck : (checkLength limit r).run.run s = (.ok (), s) := run_checkLength_of_admits hlength
  have hread : (readBody url limit r).run.run s = _ := run_readBody hlimit
  rw [receive, if_neg (by omega), run_bind_of_ok hcheck, outcome]
  split at hread
  · next hlong =>
    rw [run_bind_of_error hread, if_pos hlong, List.append_nil]
  · next hlong =>
    rw [if_neg hlong]
    cases hfailure : r.body.failure? with
    | some message =>
      rw [hfailure] at hread
      exact run_bind_of_error hread
    | none =>
      rw [hfailure] at hread
      have hreport : s.log ++ report r.body.bytes = _ := List.append_cons _ _ _
      rw [run_bind_of_ok hread, run_bind_of_ok run_log, run_decodeIfEncoded]
      simp only [hreport]

/-- A download comes to what its body as a whole comes to. -/
theorem run_download_of_admits (proxy : Option Text) (timeout : Seconds) (ownTransport : Bool)
    (hanswer : Answers s (clientFor proxy timeout ownTransport) url r) (hstatus : r.status < 400)
    (hlength : AdmitsLength limit r) (hlimit : 0 ≤ limit) :
    ∃ t, (download url proxy timeout limit ownTransport).run.run s =
        ((outcome url limit r.body).1, t) ∧
      t.log = s.log ++ announcement url proxy ++ (outcome url limit r.body).2 := by
  obtain ⟨hweb, hmake, hask⟩ := hanswer
  obtain ⟨t, hexchange, hlog⟩ := run_exchange
    (s := { s with log := s.log ++ announcement url proxy }) limit hmake hask
  have hreceive := hexchange.trans (run_receive hstatus hlength hlimit)
  refine ⟨_, (run_download s proxy timeout limit ownTransport hweb).trans hreceive, ?_⟩
  rw [hlog]

theorem run_download_of_answers (proxy : Option Text) (timeout : Seconds) (ownTransport : Bool)
    (hanswer : Answers s (clientFor proxy timeout ownTransport) url r) (hstatus : r.status < 400)
    (hlength : r.header? "Content-Length".toList = none) (hlimit : 0 ≤ limit) :
    ∃ t, (download url proxy timeout limit ownTransport).run.run s =
        ((outcome url limit r.body).1, t) ∧
      t.log = s.log ++ announcement url proxy ++ (outcome url limit r.body).2 :=
  run_download_of_admits proxy timeout ownTransport hanswer hstatus (admitsLength_of_none hlength)
    hlimit

theorem outcome_eq_limit_iff {b : Network.Body} :
    (outcome url limit b).1 = .error (.download (.limit limit)) ↔ limit < b.bytes.length := by
  rw [outcome]
  split
  · next hlong => exact iff_of_true rfl hlong
  · next hlong =>
    refine iff_of_false ?_ hlong
    split
    · rintro ⟨⟩
    · unfold decoded
      split
      · cases Base64.decodeText _ <;> rintro ⟨⟩
      · rintro ⟨⟩

/-- A download is refused for its length exactly if its chunks together are too long, and else it
comes to what they are together, with the failure that ends them if there is one: nothing depends on
where they were cut. Chunks are taken as they are handed on; without a coding, as they were sent. -/
theorem download_as_a_whole (proxy : Option Text) (timeout : Seconds) (ownTransport : Bool)
    (hanswer : Answers s (clientFor proxy timeout ownTransport) url r) (hstatus : r.status < 400)
    (hlength : r.header? "Content-Length".toList = none) (hlimit : 0 ≤ limit) :
    let result := (download url proxy timeout limit ownTransport).run.run s
    let opening := s.log ++ announcement url proxy
    let bytes := r.body.bytes
    ((∀ d ∈ r.decoders, d = .plain) → r.body = .ofChunks r.chunks) ∧
      (result.1 = .error (.download (.limit limit)) ↔ limit < bytes.length) ∧
      (limit < bytes.length → result.2.log = opening) ∧
      (bytes.length ≤ limit → ∀ message, r.body.failure? = some message →
        result.1 = .error (.download (.transport message)) ∧
          result.2.log = opening ++
            [⟨.error, .feed, "Feed download failed (url=".toList ++ url ++ [')']⟩]) ∧
      (bytes.length ≤ limit → r.body.failure? = none →
        result.1 = decoded (Utf8.decodeLossy bytes) ∧ result.2.log = opening ++ report bytes) ∧
      ∀ s' r', Answers s' (clientFor proxy timeout ownTransport) url r' → r'.status < 400 →
        r'.header? "Content-Length".toList = none → s'.log = s.log → r'.body = r.body →
          let result' := (download url proxy timeout limit ownTransport).run.run s'
          result'.1 = result.1 ∧ result'.2.log = result.2.log := by
  intro result opening bytes
  obtain ⟨t, hrun, hlog⟩ := run_download_of_answers proxy timeout ownTransport
    hanswer hstatus hlength hlimit
  have hresult : result = ((outcome url limit r.body).1, t) := hrun
  rw [hresult]
  refine ⟨Network.ofChunks_handOn, outcome_eq_limit_iff, ?_, ?_, ?_, ?_⟩
  · intro hlong
    rw [hlog, outcome, if_pos hlong, List.append_nil]
  · intro hshort message hmessage
    rw [hlog, outcome, if_neg (Int.not_lt.mpr hshort), hmessage]
    exact ⟨rfl, rfl⟩
  · intro hshort hnone
    rw [hlog, outcome, if_neg (Int.not_lt.mpr hshort), hnone]
    exact ⟨rfl, rfl⟩
  · intro s' r' hanswer' hstatus' hlength' hsame hbody result'
    obtain ⟨t', hrun', hlog'⟩ := run_download_of_answers proxy timeout ownTransport
      hanswer' hstatus' hlength' hlimit
    have hresult' : result' = ((outcome url limit r'.body).1, t') := hrun'
    rw [hresult', hlog, hlog', hsame, hbody]
    exact ⟨rfl, rfl⟩

/-- A letter of two bytes may be cut in two. -/
theorem download_as_a_whole_cut_letter :
    let url := "http://a.b/list".toList
    let bytes := Utf8.encode "é||a.b".toList
    let cut : Response := ⟨200, [], [.data (bytes.take 1), .data [], .data (bytes.drop 1)]⟩
    let whole : Response := ⟨200, [], [.data bytes]⟩
    let broken : Response := ⟨200, [], [.data bytes, .failure "reset".toList]⟩
    let scene (r : Response) : Scene :=
      ⟨⟨2024, 1, 1, 0, 0, 0, 0, none⟩, ⟨[], []⟩, [.response r], [], [], [], .scripted⟩
    let client := clientFor none ⟨30, 0⟩ false
    let result (limit : Int) (r : Response) :=
      ((download url none ⟨30, 0⟩ limit false).run.run (scene r)).1
    (Answers (scene cut) client url cut ∧ Answers (scene whole) client url whole ∧
        Answers (scene broken) client url broken) ∧ bytes.length = 7 ∧
      result 7 cut = .ok "é||a.b".toList ∧ result 7 whole = result 7 cut ∧
      result 6 cut = .error (.download (.limit 6)) ∧
      result 7 broken = .error (.download (.transport "reset".toList)) ∧
      result 6 broken = .error (.download (.limit 6)) := by
  intro url bytes cut whole broken scene client result
  have hanswer (r : Response) (hlast : r.location? = none) : Answers (scene r) client url r := by
    let target : Url := ⟨"http".toList, [], "a.b".toList, none, "/list".toList, none, none⟩
    have htarget : Url.ofRequest url = .ok target := by decide +kernel
    have hhost : target.displayedHost = .ok "a.b".toList := by decide +kernel
    have hscheme : Url.namesScheme target.toText = true := by decide +kernel
    have hnext : Network.next? target r = .ok none := by
      rw [Network.next?, hscheme, hlast]
      rfl
    have hask : (Network.ask url [.response r]).result = .ok r :=
      Network.ask_eq_ok_iff.mpr ⟨target, _, target, htarget, hhost, .first, hnext⟩
    exact ⟨by decide +kernel, rfl, Http.scripted_ask_eq_ok_iff.mpr hask⟩
  have hcut : Answers (scene cut) client url cut := hanswer cut rfl
  have hwhole : Answers (scene whole) client url whole := hanswer whole rfl
  have hbroken : Answers (scene broken) client url broken := hanswer broken rfl
  have hbytes : cut.body = ⟨bytes, none⟩ := by decide
  have hfails : broken.body = ⟨bytes, some "reset".toList⟩ := by decide
  have hbody : whole.body = cut.body := by decide
  have hlength : bytes.length = 7 := by decide
  have htext : decoded (Utf8.decodeLossy bytes) = .ok "é||a.b".toList := by
    rw [Utf8.decodeLossy_encode]
    rfl
  have hcutIn (limit : Int) (hlimit : 0 ≤ limit) := download_as_a_whole none ⟨30, 0⟩ false
    hcut (by decide) rfl hlimit
  have hbrokenIn (limit : Int) (hlimit : 0 ≤ limit) := download_as_a_whole none ⟨30, 0⟩ false
    hbroken (by decide) rfl hlimit
  rw [hbytes] at hcutIn
  rw [hfails] at hbrokenIn
  have hseven : (bytes.length : Int) ≤ 7 := by omega
  have hsix : 6 < (bytes.length : Int) := by omega
  obtain ⟨-, -, -, -, hread, hsame⟩ := hcutIn 7 (by decide)
  obtain ⟨-, hcutLong, -⟩ := hcutIn 6 (by decide)
  obtain ⟨-, -, -, hreset, -⟩ := hbrokenIn 7 (by decide)
  obtain ⟨-, hbrokenLong, -⟩ := hbrokenIn 6 (by decide)
  refine ⟨⟨hcut, hwhole, hbroken⟩, hlength, ?_, ?_, hcutLong.mpr hsix, ?_, hbrokenLong.mpr hsix⟩
  · exact (hread hseven rfl).1.trans htext
  · exact (hsame (scene whole) whole hwhole (by decide) rfl rfl (hbody.trans hbytes)).1
  · exact (hreset hseven "reset".toList rfl).1

end AutoProxy.Feed
