import AutoProxy.Text.Basic

/-! How many lines of each class a list held. -/
namespace AutoProxy

/-- Processed lines are those that could name a rule; the dropped ones among them were not kept. -/
structure Count where
  total : Nat
  empty : Nat
  comments : Nat
  processed : Nat
  dropped : Nat
  deriving DecidableEq

namespace Count

def zero : Count := ⟨0, 0, 0, 0, 0⟩

def add (a b : Count) : Count :=
  ⟨a.total + b.total, a.empty + b.empty, a.comments + b.comments, a.processed + b.processed,
    a.dropped + b.dropped⟩

instance : Add Count := ⟨add⟩

def blankLine (n : Count) : Count := { n with total := n.total + 1, empty := n.empty + 1 }

def commentLine (n : Count) : Count := { n with total := n.total + 1, comments := n.comments + 1 }

def keptLine (n : Count) : Count := { n with total := n.total + 1, processed := n.processed + 1 }

def droppedLine (n : Count) : Count :=
  { n with total := n.total + 1, processed := n.processed + 1, dropped := n.dropped + 1 }

end Count

/-- The sum over all lists read so far, and the last count under each source name. -/
structure Tally where
  overall : Count
  bySource : List (Text × Count)
  deriving DecidableEq

namespace Tally

def zero : Tally := ⟨.zero, []⟩

def record (t : Tally) (source : Text) (n : Count) : Tally :=
  ⟨t.overall + n, t.bySource.filter (·.1 ≠ source) ++ [(source, n)]⟩

end Tally

end AutoProxy
