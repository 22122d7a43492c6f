import AutoProxy.Network.Http

/-! Where redirects lead, and the addresses on the way that nothing can be asked for. -/
namespace AutoProxy

namespace Network

/-- `r` is what `u` answers when `url` is asked for and at most `hops` redirects are followed. -/
inductive Arrives : Nat → Url → List Reply → Url → Response → Prop where
  | first {hops url r left} : Arrives hops url (.response r :: left) url r
  | next {hops url v x left u r} : next? url x = .ok (some v) → Arrives hops v left u r →
      Arrives (hops + 1) url (.response x :: left) u r

variable {hops : Nat} {url u v : Url} {r x : Response} {replies left : List Reply} {e : Fault}
  {address : Text}

/-- The fault is in an address; the others are failures of the network. -/
def Fault.IsOfAddress : Fault → Prop
  | .url _ | .reference _ | .hostname _ | .noScheme _ => True
  | .failure _ | .tooManyRedirects | .location _ => False

theorem result_follow_next (hnext : next? url x = .ok (some v)) :
    (follow (hops + 1) url (.response x :: left)).result = (follow hops v left).result := by
  rw [follow.eq_def]
  simp only [hnext]
  rfl

theorem result_follow_of_arrives (h : Arrives hops url replies u r) :
    (next? u r = .ok none → (follow hops url replies).result = .ok r) ∧
      ∀ e, next? u r = .error e → (follow hops url replies).result = .error e := by
  induction h with
  | first =>
    constructor
    · intro hlast
      rw [follow.eq_def]
      simp only [hlast]
    · intro e hfault
      rw [follow.eq_def]
      simp only [hfault]
  | next hnext _ ih =>
    rw [result_follow_next hnext]
    exact ih

/-- The response that is got is the one on the way that asks for nothing more. -/
theorem follow_eq_ok_iff : (follow hops url replies).result = .ok r ↔
    ∃ u, Arrives hops url replies u r ∧ next? u r = .ok none := by
  constructor
  · intro h
    fun_induction follow hops url replies with
    | case1 => cases h
    | case2 => cases h
    | case3 => cases h
    | case4 hops url x left hnext =>
      cases h
      exact ⟨url, .first, hnext⟩
    | case5 => cases h
    | case6 url x left v hops hnext ih =>
      obtain ⟨u, hu, hlast⟩ := ih h
      exact ⟨u, .next hnext hu, hlast⟩
  · rintro ⟨u, hu, hlast⟩
    exact (result_follow_of_arrives hu).1 hlast

/-- An address is at fault if and only if some answer on the way leads to it. -/
theorem follow_eq_error_iff (he : e.IsOfAddress) :
    (follow hops url replies).result = .error e ↔
      ∃ u r, Arrives hops url replies u r ∧ next? u r = .error e := by
  constructor
  · intro h
    fun_induction follow hops url replies with
    | case1 =>
      cases h
      cases he
    | case2 =>
      cases h
      cases he
    | case3 hops url x left e' hfault =>
      cases h
      exact ⟨url, x, .first, hfault⟩
    | case4 => cases h
    | case5 =>
      cases h
      cases he
    | case6 url x left v hops hnext ih =>
      obtain ⟨u, r, hu, hfault⟩ := ih h
      exact ⟨u, r, .next hnext hu, hfault⟩
  · rintro ⟨u, r, hu, hfault⟩
    exact (result_follow_of_arrives hu).2 e hfault

variable {ε ε' : Type} {f : ε → ε'} {y : Exchange ε} {e' : ε'}

theorem result_mapFault_eq_ok_iff : (y.mapFault f).result = .ok r ↔ y.result = .ok r := by
  rw [Exchange.mapFault]
  cases y.result with
  | ok => constructor <;> rintro ⟨⟩ <;> rfl
  | error => exact iff_of_false (by rintro ⟨⟩) (by rintro ⟨⟩)

theorem result_mapFault_eq_error_iff :
    (y.mapFault f).result = .error e' ↔ ∃ e, y.result = .error e ∧ f e = e' := by
  rw [Exchange.mapFault]
  cases y.result with
  | ok => exact iff_of_false (by rintro ⟨⟩) (by rintro ⟨_, ⟨⟩, _⟩)
  | error e =>
    constructor
    · intro h
      exact ⟨e, rfl, Except.error.inj h⟩
    · rintro ⟨_, ⟨⟩, rfl⟩
      rfl

/-- An address that nothing can be asked for: the one given, or one that a redirect leads to. -/
inductive Misleads (address : Text) (replies : List Reply) : Fault → Prop where
  | url {cause} (hurl : Url.ofRequest address = .error cause) :
      Misleads address replies (.url cause)
  | hostname {url cause} (hurl : Url.ofRequest address = .ok url)
      (hhost : url.displayedHost = .error cause) : Misleads address replies (.hostname cause)
  | redirect {url host u r e} (hurl : Url.ofRequest address = .ok url)
      (hhost : url.displayedHost = .ok host) (harrives : Arrives maxRedirects url replies u r)
      (hfault : next? u r = .error e) : Misleads address replies e

theorem ask_eq_ok_iff : (ask address replies).result = .ok r ↔
    ∃ url host u, Url.ofRequest address = .ok url ∧ url.displayedHost = .ok host ∧
      Arrives maxRedirects url replies u r ∧ next? u r = .ok none := by
  unfold ask
  constructor
  · intro h
    split at h
    · cases h
    · next url hurl =>
      split at h
      · cases h
      · next host hhost =>
        obtain ⟨u, hu, hlast⟩ := follow_eq_ok_iff.mp h
        exact ⟨url, host, u, hurl, hhost, hu, hlast⟩
  · rintro ⟨url, host, u, hurl, hhost, hu, hlast⟩
    simp only [hurl, hhost]
    exact follow_eq_ok_iff.mpr ⟨u, hu, hlast⟩

theorem ask_eq_error_iff (he : e.IsOfAddress) :
    (ask address replies).result = .error e ↔ Misleads address replies e := by
  unfold ask
  constructor
  · intro h
    split at h
    · next cause hurl =>
      cases h
      exact .url hurl
    · next url hurl =>
      split at h
      · next cause hhost =>
        cases h
        exact .hostname hurl hhost
      · next host hhost =>
        obtain ⟨u, r, hu, hfault⟩ := (follow_eq_error_iff he).mp h
        exact .redirect hurl hhost hu hfault
  · rintro (hurl | ⟨hurl, hhost⟩ | ⟨hurl, hhost, hu, hfault⟩)
    · simp only [hurl]
      rfl
    · simp only [hurl, hhost]
      rfl
    · simp only [hurl, hhost]
      exact (follow_eq_error_iff he).mpr ⟨_, _, hu, hfault⟩

end Network

namespace Http

open Network

variable {client : Client} {address : Text} {replies : List Reply} {r : Response} {cause : Failure}
  {e : Network.Fault}

theorem isOfAddress_of_other (h : Fault.ofNetwork e = .other cause) : e.IsOfAddress := by
  cases e with
  | url | reference | hostname | noScheme => trivial
  | failure | tooManyRedirects | location => cases h

theorem scripted_ask_eq_ok_iff : (scripted.ask client address replies).result = .ok r ↔
    (Network.ask address replies).result = .ok r :=
  result_mapFault_eq_ok_iff

/-- With a scripted network nothing but addresses goes wrong in a way that is no failed request. -/
theorem scripted_ask_eq_other_iff :
    (scripted.ask client address replies).result = .error (.other cause) ↔
      ∃ e, Misleads address replies e ∧ Fault.ofNetwork e = .other cause := by
  refine result_mapFault_eq_error_iff.trans (exists_congr fun e => ?_)
  rw [and_congr_left_iff]
  intro he
  exact ask_eq_error_iff (isOfAddress_of_other he)

end Http

end AutoProxy
