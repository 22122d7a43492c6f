import AutoProxy.Decision
import AutoProxy.Proofs.RuleSet.Membership
import AutoProxy.Proofs.Text.Lower

/-! Which hosts go through the proxy, said by the lines of the lists alone. -/
namespace AutoProxy

namespace Domain

variable {s t host d : Text}

theorem mem_parents_iff : s ∈ parents t ↔ '.' :: s <:+ t := by
  induction t with
  | nil => simp [parents]
  | cons c t ih =>
    rw [parents, List.suffix_cons_iff, List.cons.injEq, ← ih]
    split
    · next hc => simp [hc]
    · next hc => simp [Ne.symm hc]

/-- The walk over the labels reaches the host and all that stands behind one of its dots. -/
theorem mem_suffixes_iff : s ∈ suffixes host ↔ host = s ∨ '.' :: s <:+ host := by
  rw [suffixes, List.mem_cons, mem_parents_iff, eq_comm]

end Domain

namespace Decision

variable {a b : Decision}

theorem eq_direct_iff : a = .direct ↔ ¬ a = .proxy := by
  cases a <;> simp

theorem eq_of_proxy_iff (h : a = .proxy ↔ b = .proxy) : a = b := by
  cases a <;> cases b <;> simp_all

end Decision

namespace Host

variable {domains : TextSet} {host h : Text}

theorem isBelow_iff :
    isBelow domains h = true ↔ ∃ d ∈ domains, h = d ∨ '.' :: d <:+ h := by
  simp only [isBelow, List.any_eq_true, TextSet.contains_iff, Domain.mem_suffixes_iff]
  exact exists_congr fun d => and_comm

/-- A host in lower case is as local as the host itself. -/
theorem isLocal_lower (host : Text) :
    isLocal (Text.lower host) = isLocalName (Text.lower host) := by
  rw [isLocal, Text.lower_lower]

end Host

namespace Index

variable {i j : Index} {h host : Text}

/-- The names that the tables take out of what the others send through the proxy. -/
def Spares (i : Index) (h : Text) : Prop :=
  h ∈ i.exactWhitelist ∨ ∃ d ∈ i.suffixWhitelist, h = d ∨ '.' :: d <:+ h

/-- The names that the tables send through the proxy unless they are spared. -/
def Catches (i : Index) (h : Text) : Prop :=
  h ∈ i.exactBlock ∨ (∃ d ∈ i.suffixBlock, h = d ∨ '.' :: d <:+ h) ∨ ∃ k ∈ i.keywords, k <:+: h

/-- What the whitelists spare goes before what the block lists catch; among the tests of one side
the order does not matter. -/
theorem decideName_eq_proxy_iff :
    i.decideName h = .proxy ↔ Host.isLocalName h = false ∧ ¬ i.Spares h ∧ i.Catches h := by
  have hspares : (i.exactWhitelist.contains h || Host.isBelow i.suffixWhitelist h) = true ↔
      i.Spares h := by
    rw [Bool.or_eq_true, TextSet.contains_iff, Host.isBelow_iff, Spares]
  have hblocks : (i.exactBlock.contains h || Host.isBelow i.suffixBlock h) = true ↔
      h ∈ i.exactBlock ∨ ∃ d ∈ i.suffixBlock, h = d ∨ '.' :: d <:+ h := by
    rw [Bool.or_eq_true, TextSet.contains_iff, Host.isBelow_iff]
  have hkeywords : i.keywords.any (Text.occursIn · h) = true ↔ ∃ k ∈ i.keywords, k <:+: h := by
    simp [Text.occursIn_iff]
  rw [decideName, Catches, ← or_assoc, ← hspares, ← hblocks, ← hkeywords]
  cases Host.isLocalName h
  · split_ifs <;> simp_all
  · simp

end Index

/-- Rules that a decision can depend on: no expressions, and no whitelisted keywords. -/
def Rule.Decides (r : Rule) : Prop := r.kind ≠ .regex ∧ ¬ (r.kind = .keyword ∧ r.whitelist = true)

namespace Collection

variable {tally tally' : Tally} {feed feed' : List Text} {user user' : Option (List Text)}
variable {h host : Text}

/-- A whitelisted rule of the lists names the host or a domain above it. -/
def Spares (feed : List Text) (user : Option (List Text)) (h : Text) : Prop :=
  IsListed feed user ⟨.exact, h, true⟩ ∨
    ∃ d, IsListed feed user ⟨.suffix, d, true⟩ ∧ (h = d ∨ '.' :: d <:+ h)

/-- A blocking rule of the lists names the host, a domain above it or a part of it. -/
def Catches (feed : List Text) (user : Option (List Text)) (h : Text) : Prop :=
  IsListed feed user ⟨.exact, h, false⟩ ∨
    (∃ d, IsListed feed user ⟨.suffix, d, false⟩ ∧ (h = d ∨ '.' :: d <:+ h)) ∨
    ∃ k, IsListed feed user ⟨.keyword, k, false⟩ ∧ k <:+: h

theorem spares_index_iff :
    (ofLists tally feed user).rules.index.Spares h ↔ Spares feed user h := by
  have hexact : h ∈ (ofLists tally feed user).rules.exactWhitelist ↔
      IsListed feed user ⟨.exact, h, true⟩ := mem_get_ofLists (c := .exactWhitelist)
  have hsuffix (d : Text) : d ∈ (ofLists tally feed user).rules.suffixWhitelist ↔
      IsListed feed user ⟨.suffix, d, true⟩ := mem_get_ofLists (c := .suffixWhitelist)
  simp only [Index.Spares, RuleSet.index, Spares, hexact, hsuffix]

theorem catches_index_iff :
    (ofLists tally feed user).rules.index.Catches h ↔ Catches feed user h := by
  have hexact : h ∈ (ofLists tally feed user).rules.exactBlock ↔
      IsListed feed user ⟨.exact, h, false⟩ := mem_get_ofLists (c := .exactBlock)
  have hsuffix (d : Text) : d ∈ (ofLists tally feed user).rules.suffixBlock ↔
      IsListed feed user ⟨.suffix, d, false⟩ := mem_get_ofLists (c := .suffixBlock)
  have hkeyword (k : Text) : k ∈ (ofLists tally feed user).rules.keywords.toList ↔
      IsListed feed user ⟨.keyword, k, false⟩ :=
    mem_get_ofLists (c := .keywords)
  simp only [Index.Catches, RuleSet.index, Catches, hexact, hsuffix, hkeyword]

theorem decide_ofLists_eq_proxy_iff :
    (ofLists tally feed user).rules.index.decide host = .proxy ↔
      Host.isLocal (Text.lower host) = false ∧ ¬ Spares feed user (Text.lower host) ∧
        Catches feed user (Text.lower host) := by
  rw [Index.decide, Index.decideName_eq_proxy_iff, Host.isLocal_lower, spares_index_iff,
    catches_index_iff]

/-- Only the rules that can decide have a part in it. -/
theorem spares_congr
    (hrules : ∀ r : Rule, r.Decides → (IsListed feed user r ↔ IsListed feed' user' r)) :
    Spares feed user h ↔ Spares feed' user' h := by
  have hexact := hrules ⟨.exact, h, true⟩ (by simp [Rule.Decides])
  have hsuffix (d : Text) := hrules ⟨.suffix, d, true⟩ (by simp [Rule.Decides])
  simp only [Spares, hexact, hsuffix]

theorem catches_congr
    (hrules : ∀ r : Rule, r.Decides → (IsListed feed user r ↔ IsListed feed' user' r)) :
    Catches feed user h ↔ Catches feed' user' h := by
  have hexact := hrules ⟨.exact, h, false⟩ (by simp [Rule.Decides])
  have hsuffix (d : Text) := hrules ⟨.suffix, d, false⟩ (by simp [Rule.Decides])
  have hkeyword (k : Text) := hrules ⟨.keyword, k, false⟩ (by simp [Rule.Decides])
  simp only [Catches, hexact, hsuffix, hkeyword]

/-- What decides is which deciding rules the lists name, a missing line or list naming none. -/
theorem decide_ofLists (tally : Tally) (feed : List (Option Text))
    (user : Option (List (Option Text))) (host : Text) :
    let lines := feed.map Text.orEmpty
    let own := user.map (List.map Text.orEmpty)
    let h := Text.lower host
    let throughProxy := Host.isLocal h = false ∧ ¬ Spares lines own h ∧ Catches lines own h
    ((ofLists tally lines own).rules.index.decide host = .proxy ↔ throughProxy) ∧
      ((ofLists tally lines own).rules.index.decide host = .direct ↔ ¬ throughProxy) ∧
      ∀ (tally' : Tally) (lines' : List Text) (own' : Option (List Text)),
        (∀ r : Rule, r.Decides → (IsListed lines own r ↔ IsListed lines' own' r)) →
          (ofLists tally' lines' own').rules.index.decide host =
            (ofLists tally lines own).rules.index.decide host := by
  intro lines own h throughProxy
  have hproxy : (ofLists tally lines own).rules.index.decide host = .proxy ↔ throughProxy :=
    decide_ofLists_eq_proxy_iff
  refine ⟨hproxy, ?_, ?_⟩
  · rw [← hproxy]
    exact Decision.eq_direct_iff
  · intro tally' lines' own' hrules
    have hproxy' : (ofLists tally' lines' own').rules.index.decide host = .proxy ↔
        throughProxy := by
      rw [decide_ofLists_eq_proxy_iff, ← spares_congr hrules, ← catches_congr hrules]
    exact Decision.eq_of_proxy_iff (hproxy'.trans hproxy.symm)

end Collection

end AutoProxy
