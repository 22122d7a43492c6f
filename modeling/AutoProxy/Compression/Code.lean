import AutoProxy.Compression.Bits

/-! Codes in which no code word begins another one, given by the lengths of their words. -/
namespace AutoProxy.Compression

/-- A code as the tree of its words. Words through a hole mean nothing. -/
inductive Code where
  | hole
  | symbol (n : Nat)
  | fork (zero one : Code)
  deriving DecidableEq

namespace Code

def maxLength : Nat := 15

/-- Words in order of length are put in from the left, each as deep as its length; with the tree
come those for which there is no room. -/
def grow : Nat → Nat → List (Nat × Nat) → Code × List (Nat × Nat)
  | _, _, [] => (hole, [])
  | 0, _, (_, s) :: rest => (symbol s, rest)
  | room + 1, depth, (length, s) :: rest =>
    if length ≤ depth then (symbol s, rest)
    else
      let (zero, left) := grow room (depth + 1) ((length, s) :: rest)
      let (one, left) := grow room (depth + 1) left
      (fork zero one, left)

/-- The share of the words in all words of the greatest length. -/
def share (lengths : List Nat) : Nat :=
  (lengths.filter (· ≠ 0)).foldl (fun sum n => sum + 1 <<< (maxLength - n)) 0

/-- The code of words with these lengths, one for each symbol, where zero stands for no word. Words
of one length go by their symbols. -/
def ofLengths (lengths : List Nat) : Code :=
  let words := lengths.zipIdx.filter (·.1 ≠ 0)
  if words.isEmpty then fork hole hole
  else (grow maxLength 0 (words.mergeSort fun a b => a.1 ≤ b.1)).1

def isFull (lengths : List Nat) : Bool := share lengths = 1 <<< maxLength

/-- There is no word at all, or a single one of one bit. -/
def isSparse (lengths : List Nat) : Bool :=
  share lengths = 0 || (share lengths < 1 <<< maxLength && lengths.all (· ≤ 1))

/-- The symbol of the next word, nothing for a word through a hole. -/
def next : Code → Reader (Option Nat)
  | hole, bits => .ok (none, bits)
  | symbol n, bits => .ok (some n, bits)
  | fork _ _, [] => .error .more
  | fork zero _, false :: bits => next zero bits
  | fork _ one, true :: bits => next one bits

end Code

end AutoProxy.Compression
