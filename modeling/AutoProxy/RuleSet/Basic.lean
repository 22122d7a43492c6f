import AutoProxy.Rule.Basic
import AutoProxy.Text.Set

/-! Rules sorted by kind and side. -/
namespace AutoProxy

/-- What a rule set keeps apart. There is no place for whitelisted keywords. -/
inductive Category where
  | exactBlock
  | suffixBlock
  | keywords
  | regexBlock
  | exactWhitelist
  | suffixWhitelist
  | regexWhitelist
  deriving DecidableEq

namespace Category

/-- Blocked before whitelisted, and by kind in each half. -/
def all : List Category :=
  [exactBlock, suffixBlock, keywords, regexBlock, exactWhitelist, suffixWhitelist, regexWhitelist]

def of? : Kind → Bool → Option Category
  | .exact, false => some exactBlock
  | .suffix, false => some suffixBlock
  | .keyword, false => some keywords
  | .regex, false => some regexBlock
  | .exact, true => some exactWhitelist
  | .suffix, true => some suffixWhitelist
  | .keyword, true => none
  | .regex, true => some regexWhitelist

def kind : Category → Kind
  | exactBlock | exactWhitelist => .exact
  | suffixBlock | suffixWhitelist => .suffix
  | keywords => .keyword
  | regexBlock | regexWhitelist => .regex

def whitelist : Category → Bool
  | exactBlock | suffixBlock | keywords | regexBlock => false
  | exactWhitelist | suffixWhitelist | regexWhitelist => true

theorem of?_kind_whitelist (c : Category) : of? c.kind c.whitelist = some c := by
  cases c <;> rfl

theorem of?_eq_some_iff {k : Kind} {w : Bool} {c : Category} :
    of? k w = some c ↔ k = c.kind ∧ w = c.whitelist := by
  cases k <;> cases w <;> cases c <;> simp [of?, kind, whitelist]

end Category

structure RuleSet where
  exactBlock : TextSet
  suffixBlock : TextSet
  keywords : TextSet
  regexBlock : TextSet
  exactWhitelist : TextSet
  suffixWhitelist : TextSet
  regexWhitelist : TextSet
  deriving DecidableEq

namespace RuleSet

def empty : RuleSet := ⟨.empty, .empty, .empty, .empty, .empty, .empty, .empty⟩

def get (s : RuleSet) : Category → TextSet
  | .exactBlock => s.exactBlock
  | .suffixBlock => s.suffixBlock
  | .keywords => s.keywords
  | .regexBlock => s.regexBlock
  | .exactWhitelist => s.exactWhitelist
  | .suffixWhitelist => s.suffixWhitelist
  | .regexWhitelist => s.regexWhitelist

def insert (s : RuleSet) (c : Category) (value : Text) : RuleSet :=
  match c with
  | .exactBlock => { s with exactBlock := s.exactBlock.insert value }
  | .suffixBlock => { s with suffixBlock := s.suffixBlock.insert value }
  | .keywords => { s with keywords := s.keywords.insert value }
  | .regexBlock => { s with regexBlock := s.regexBlock.insert value }
  | .exactWhitelist => { s with exactWhitelist := s.exactWhitelist.insert value }
  | .suffixWhitelist => { s with suffixWhitelist := s.suffixWhitelist.insert value }
  | .regexWhitelist => { s with regexWhitelist := s.regexWhitelist.insert value }

/-- `none` if the rule has no place. -/
def add? (s : RuleSet) (r : Rule) : Option RuleSet :=
  (Category.of? r.kind r.whitelist).map fun c => s.insert c r.value

/-- By category, and by value in each. -/
def rules (s : RuleSet) : List Rule :=
  Category.all.flatMap fun c => (s.get c).toList.map fun v => ⟨c.kind, v, c.whitelist⟩

def lines (s : RuleSet) : List Text := s.rules.map Rule.format

theorem get_insert (s : RuleSet) (c d : Category) (v : Text) :
    (s.insert c v).get d = if c = d then (s.get d).insert v else s.get d := by
  cases c <;> cases d <;> rfl

theorem ext_get {s r : RuleSet} (h : ∀ c, s.get c = r.get c) : s = r := by
  cases s
  cases r
  simp only [mk.injEq]
  exact ⟨h .exactBlock, h .suffixBlock, h .keywords, h .regexBlock, h .exactWhitelist,
    h .suffixWhitelist, h .regexWhitelist⟩

end RuleSet

end AutoProxy
