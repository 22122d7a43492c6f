import AutoProxy.RuleSet.Basic

/-! The tables that decisions read and scripts carry. -/
namespace AutoProxy

/-- Expressions are carried to be counted; no decision reads them. -/
structure Index where
  exactBlock : TextSet
  exactWhitelist : TextSet
  suffixBlock : TextSet
  suffixWhitelist : TextSet
  keywords : List Text
  regexBlock : List Text
  regexWhitelist : List Text
  deriving DecidableEq

namespace Index

def get (i : Index) : Category → List Text
  | .exactBlock => i.exactBlock.toList
  | .suffixBlock => i.suffixBlock.toList
  | .keywords => i.keywords
  | .regexBlock => i.regexBlock
  | .exactWhitelist => i.exactWhitelist.toList
  | .suffixWhitelist => i.suffixWhitelist.toList
  | .regexWhitelist => i.regexWhitelist

end Index

def RuleSet.index (s : RuleSet) : Index where
  exactBlock := s.exactBlock
  exactWhitelist := s.exactWhitelist
  suffixBlock := s.suffixBlock
  suffixWhitelist := s.suffixWhitelist
  keywords := s.keywords.toList
  regexBlock := s.regexBlock.toList
  regexWhitelist := s.regexWhitelist.toList

theorem RuleSet.get_index (s : RuleSet) (c : Category) : s.index.get c = (s.get c).toList := by
  cases c <;> rfl

end AutoProxy
