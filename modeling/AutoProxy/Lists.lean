import AutoProxy.Feed
import AutoProxy.RuleSet.Collection

/-! The lists of a run: the feed and the user's own rules. -/
namespace AutoProxy

structure Lists where
  feed : Text
  userRules : Option (List Text)
  deriving DecidableEq

namespace Lists

/-- The user's own rules. Without a path there are none. -/
def ownRules (path : Text) : Run (Option (List Text)) :=
  if path.isEmpty then pure none else some <$> Feed.rulesOfFile path

/-- The feed comes first. -/
def load (source userRules : Text) (settings : Settings) : Run Lists := do
  let feed ← Feed.load source settings false
  let rules ← ownRules userRules
  return ⟨feed, rules⟩

/-- The rules that the lists name. -/
def collection (lists : Lists) : Collection :=
  Collection.ofLists .zero (Text.lines lists.feed) lists.userRules

/-- The rules of the lists, with two lines in the log. -/
def collect (lists : Lists) : Run Collection := do
  lists.collection.summary.forM (Run.log .info .rules)
  return lists.collection

end Lists

end AutoProxy
