import AutoProxy.Proofs.Service.Refusal
import AutoProxy.Proofs.Text.Clean

/-! What the outside is told of a failure is one short line. Unless details are asked for, it tells
nothing of failures that are not for users, and of those that are only their message. -/
namespace AutoProxy

open Service

/-- Something that can be shown in one line of at most so many characters. -/
structure FitsLine (limit : Int) (t : Text) : Prop where
  notEmpty : t ≠ []
  unbroken : ∀ c ∈ t, Text.isLineEnd c = false
  short : (t.length : Int) ≤ limit

variable {env : Environment} {default t : Text} {limit : Int} {f g : Failure} {p : Problem}
  {s : Service} {v : Visit} {scene : Scene} {q : Request} {route : Route}
  {reply : Index → Text → Answer}

theorem fitsLine_iff : FitsLine limit t ↔
    t ≠ [] ∧ t.all (!Text.isLineEnd ·) = true ∧ (t.length : Int) ≤ limit := by
  simp only [List.all_eq_true, Bool.not_eq_true']
  constructor
  · rintro ⟨hne, hline, hlength⟩
    exact ⟨hne, hline, hlength⟩
  · rintro ⟨hne, hline, hlength⟩
    exact ⟨hne, hline, hlength⟩

instance (limit : Int) (t : Text) : Decidable (FitsLine limit t) :=
  decidable_of_iff _ fitsLine_iff.symm

/-- There is room for something. -/
theorem FitsLine.one_le (h : FitsLine limit t) : 1 ≤ limit := by
  have hlength := List.length_pos_iff.mpr h.notEmpty
  have hshort := h.short
  omega

namespace Failure

theorem exposesDetails_iff : exposesDetails env = true ↔
    Text.lower (env.value "EXPOSE_INTERNAL_ERRORS".toList) ∈
      ["1", "true", "yes", "on"].map String.toList := by
  rw [exposesDetails, List.contains_iff_mem]

theorem fitsLine_orElse_clean (hdefault : FitsLine limit default) (t : Text) :
    FitsLine limit (orElse default (Text.clean limit t)) := by
  rw [orElse]
  by_cases hnil : Text.clean limit t = []
  · rwa [hnil]
  · have htidy := Text.isTidy_clean hdefault.one_le t
    rw [if_neg (by simpa using hnil)]
    exact ⟨hnil, fun c hc => htidy.not_isLineEnd hc, Text.length_clip_le hdefault.one_le _⟩

theorem fitsLine_publicMessage (hdefault : FitsLine limit default) (exposed : Bool) (f : Failure) :
    FitsLine limit (publicMessage exposed default limit f) := by
  rw [publicMessage]
  split
  · exact fitsLine_orElse_clean hdefault _
  · split
    · exact fitsLine_orElse_clean hdefault _
    · exact hdefault

theorem publicMessage_of_hidden (hf : f.family.isForUsers = false) :
    publicMessage false default limit f = default := by
  rw [publicMessage, if_neg Bool.false_ne_true, hf, if_neg Bool.false_ne_true]

/-- The message of a missing key alone is shown in another way, and it is not for users. -/
theorem text_of_isForUsers (hf : f.family.isForUsers = true) : f.text = f.message := by
  rw [text, if_neg]
  intro hkey
  rw [hkey] at hf
  cases hf

theorem publicMessage_of_isForUsers (hf : f.family.isForUsers = true) :
    publicMessage false default limit f = orElse default (Text.clean limit f.message) := by
  rw [publicMessage, if_neg Bool.false_ne_true, hf, if_pos rfl, text_of_isForUsers hf]

theorem fitsLine_unavailable : FitsLine publicLimit unavailable := by
  decide

end Failure

namespace Service

/-- The answer that says in one line why there is no list. -/
def SaysWhy (a : Answer) : Prop := ∃ m, FitsLine 200 m ∧ a = .of 503 (.error m)

theorem saysWhy_refused (h : (refused env p).status = 503) : SaysWhy (refused env p) := by
  unfold refused at h ⊢
  split at h
  · cases h
  · exact ⟨_, Failure.fitsLine_publicMessage Failure.fitsLine_unavailable _ _, rfl⟩

theorem saysWhy_withBuilt (hreply : ∀ index script, (reply index script).status = 200)
    (h : (s.withBuilt env reply scene).1.status = 503) :
    SaysWhy (s.withBuilt env reply scene).1 := by
  revert h
  unfold withBuilt
  split
  · next index script t hload =>
    intro h
    cases (hreply index script).symm.trans h
  · next p t hload => exact saysWhy_refused

theorem saysWhy_get (h : (s.get env route q scene).1.status = 503) :
    SaysWhy (s.get env route q scene).1 := by
  cases route with
  | script => exact saysWhy_withBuilt (fun _ _ => rfl) h
  | autodiscovery =>
    have hstatus : (s.get env .script q scene).1.status = 503 := get_autodiscovery.2.1.symm.trans h
    have hother : (s.get env .script q scene).1.status ≠ 200 := by
      rw [hstatus]
      decide
    have hsame : (s.get env .autodiscovery q scene).1 = (s.get env .script q scene).1 :=
      if_neg hother
    rw [hsame]
    exact saysWhy_withBuilt (fun _ _ => rfl) hstatus
  | classify =>
    by_cases hhost : hostOf q = []
    · rw [get_classify_blank hhost] at h
      cases h
    · rw [get_classify hhost] at h ⊢
      exact saysWhy_withBuilt (fun _ _ => rfl) h
  | stats => exact saysWhy_withBuilt (fun _ _ => rfl) h
  | health => cases h
  | asset => cases h

/-- Whoever asks for the head alone gets no body, and so no reason. -/
theorem saysWhy_answer (h : (v.answer s).status = 503) : SaysWhy (v.answer s) ∨
    Method.ofName? v.request.method = some .head ∧ ∃ a, SaysWhy a ∧ v.answer s = a.headOnly := by
  unfold Visit.answer respond at h ⊢
  split at h
  · cases h
  · cases h
  · cases h
  · exact .inl (saysWhy_get h)
  · next hmethod => exact .inr ⟨hmethod, _, saysWhy_get h, rfl⟩
  · cases h

end Service

namespace Failure

/-- With a default that fits, every message fits. Unless the environment asks for details, all
failures that are not for users read the same, and those that are for users and have the same
message do, whatever family either is of. What the service says when it has no list fits into 200
characters. -/
theorem publicMessage_is_safe (env : Environment) (hdefault : FitsLine limit default) :
    let shown := publicMessage (exposesDetails env) default limit
    (∀ f, FitsLine limit (shown f)) ∧
    (Text.lower (env.value "EXPOSE_INTERNAL_ERRORS".toList) ∉
        ["1", "true", "yes", "on"].map String.toList →
      (∀ f g : Failure, f.family.isForUsers = false → g.family.isForUsers = false →
        shown f = shown g) ∧
      ∀ f g : Failure, f.family.isForUsers = true → g.family.isForUsers = true →
        f.message = g.message → shown f = shown g) ∧
    ∀ (s : Service) (v : Visit), (v.answer s).status = 503 → ∃ m, FitsLine 200 m ∧
      (v.answer s = .of 503 (.error m) ∨
        Method.ofName? v.request.method = some .head ∧
          v.answer s = (Answer.of 503 (.error m)).headOnly) := by
  intro shown
  refine ⟨fitsLine_publicMessage hdefault _, ?_, ?_⟩
  · intro hquiet
    have hhidden : exposesDetails env = false := by
      rwa [← Bool.not_eq_true, exposesDetails_iff]
    simp only [shown, hhidden]
    constructor
    · intro f g hf hg
      rw [publicMessage_of_hidden hf, publicMessage_of_hidden hg]
    · intro f g hf hg hmessage
      rw [publicMessage_of_isForUsers hf, publicMessage_of_isForUsers hg, hmessage]
  · intro s v h
    rcases saysWhy_answer h with ⟨m, hm, hanswer⟩ | ⟨hhead, a, ⟨m, hm, rfl⟩, hanswer⟩
    · exact ⟨m, hm, .inl hanswer⟩
    · exact ⟨m, hm, .inr ⟨hhead, hanswer⟩⟩

/-- A blank message for users reads like one that is not for them; cut to fit, a longer one ends in
an ellipsis. -/
theorem publicMessage_is_safe_short_limit :
    let env : Environment := [("EXPOSE_INTERNAL_ERRORS".toList, " 0 ".toList)]
    let shown := publicMessage (exposesDetails env) "n/a".toList 4
    let secret : Failure := ⟨.declared "SecretError".toList false, "password=x".toList⟩
    let key : Failure := ⟨.key, "host".toList⟩
    let value : Failure := ⟨.value, "no such list".toList⟩
    let text : Failure := ⟨.declared "UnicodeError".toList true, "no such list".toList⟩
    FitsLine 4 "n/a".toList ∧ shown secret = shown key ∧ shown value = shown text ∧
      FitsLine 4 (shown value) ∧ shown value = "no\u2026".toList ∧
      shown ⟨.download, "\r\n".toList⟩ = shown secret := by
  intro env shown secret key value text
  have hdefault : FitsLine 4 "n/a".toList := by decide
  obtain ⟨hfits, hquiet, -⟩ := publicMessage_is_safe env hdefault
  obtain ⟨hhidden, husers⟩ := hquiet (by decide +kernel)
  have hsecret : shown secret = shown key := hhidden secret key rfl rfl
  have hvalue : shown value = shown text := husers value text rfl rfl rfl
  exact ⟨hdefault, hsecret, hvalue, hfits value, by decide +kernel, by decide +kernel⟩

end Failure

end AutoProxy
