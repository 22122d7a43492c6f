import AutoProxy.Decision
import AutoProxy.RuleSet.Collection

/-! A rule set in the making, with the index built from it last. -/
namespace AutoProxy

/-- The index shows the rules as they were when it was built. -/
structure Draft where
  collection : Collection
  index : Option Index
  deriving DecidableEq

namespace Draft

def empty : Draft := ⟨⟨.empty, .zero⟩, none⟩

/-- `none` if the rule has no place. -/
def add? (d : Draft) (r : Rule) : Option Draft :=
  (d.collection.rules.add? r).map fun s => { d with collection := { d.collection with rules := s } }

def fold (d : Draft) (source : Text) (lines : List Text) : Draft :=
  { d with collection := d.collection.fold source lines }

/-- The rules of the lists take the place of all rules; the account goes on. -/
def collect (d : Draft) (feed : List Text) (user : Option (List Text)) : Draft :=
  { d with collection := Collection.ofLists d.collection.tally feed user }

def build (d : Draft) : Draft := { d with index := some d.collection.rules.index }

/-- A local host needs no index. -/
def decide? (d : Draft) (host : Text) : Option Decision :=
  match d.index with
  | some i => some (i.decide host)
  | none => if Host.isLocal host then some .direct else none

end Draft

end AutoProxy
