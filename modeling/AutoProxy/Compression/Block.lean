import AutoProxy.Compression.Code

/-! Blocks of compressed data: stored bytes, or words for bytes and for repetitions. -/
namespace AutoProxy.Compression

/-- A word stands for a byte, for a copy of what came a distance before, or for the end. -/
inductive Token where
  | literal (b : UInt8)
  | copy (length distance : Nat)
  | stop
  deriving DecidableEq

structure Codes where
  literals : Code
  distances : Code
  deriving DecidableEq

def endOfBlock : Nat := 256

/-- The least length of a symbol, counted from the first one, and the number of bits to add. -/
def lengthOf (k : Nat) : Nat × Nat :=
  if k < 8 then (3 + k, 0)
  else if k = 28 then (258, 0)
  else
    let extra := (k - 4) / 4
    (3 + (4 + k % 4) <<< extra, extra)

def distanceOf (k : Nat) : Nat × Nat :=
  if k < 4 then (1 + k, 0)
  else
    let extra := (k - 2) / 2
    (1 + (2 + k % 2) <<< extra, extra)

def maxLiterals : Nat := 286

def maxDistances : Nat := 30

def token (c : Codes) : Reader Token := do
  match ← c.literals.next with
  | none => fail .literalCode
  | some n =>
    if n < endOfBlock then return .literal (UInt8.ofNat n)
    if n = endOfBlock then return .stop
    if maxLiterals ≤ n then fail .literalCode
    let (length, extra) := lengthOf (n - endOfBlock - 1)
    let length := length + (← takeBits extra)
    match ← c.distances.next with
    | none => fail .distanceCode
    | some n =>
      if maxDistances ≤ n then fail .distanceCode
      let (distance, extra) := distanceOf n
      return .copy length (distance + (← takeBits extra))

/-- What was written, and what is left of the data or why it was left. -/
structure Progress where
  out : Array UInt8
  rest : Except Halt Bits

/-- A copy may overlap what it writes. -/
def copy (out : Array UInt8) (length distance : Nat) : Array UInt8 :=
  (List.range length).foldl (fun out _ => out.push (out.getD (out.size - distance) 0)) out

/-- The words up to the end of the block; there are no more of them than bits. -/
def words (c : Codes) : Nat → Array UInt8 → Bits → Progress
  | 0, out, _ => ⟨out, .error .more⟩
  | fuel + 1, out, bits =>
    match token c bits with
    | .error h => ⟨out, .error h⟩
    | .ok (.stop, bits) => ⟨out, .ok bits⟩
    | .ok (.literal b, bits) => words c fuel (out.push b) bits
    | .ok (.copy length distance, bits) =>
      if out.size < distance then ⟨out, .error (.fault .distance)⟩
      else words c fuel (copy out length distance) bits

/-- As many of the stored bytes as there are. -/
def stored (out : Array UInt8) (bits : Bits) : Progress :=
  match (do return (← takeBits 16, ← takeBits 16) : Reader (Nat × Nat)) (aligned bits) with
  | .error h => ⟨out, .error h⟩
  | .ok ((length, complement), bits) =>
    if length + complement ≠ 0xFFFF then ⟨out, .error (.fault .storedLength)⟩
    else
      let bytes := bytesOf (bits.take (8 * length))
      let out := bytes.foldl Array.push out
      if bytes.length < length then ⟨out, .error .more⟩ else ⟨out, .ok (bits.drop (8 * length))⟩

/-- The codes of blocks that bring none of their own. -/
def usualCodes : Codes where
  literals := .ofLengths (List.replicate 144 8 ++ List.replicate 112 9 ++ List.replicate 24 7
    ++ List.replicate 8 8)
  distances := .ofLengths (List.replicate 32 5)

/-- The symbols of the code for lengths, in the order in which its own lengths are given. -/
def lengthOrder : List Nat := [16, 17, 18, 0, 8, 7, 9, 6, 10, 5, 11, 4, 12, 3, 13, 2, 14, 1, 15]

/-- Without any word each bit stands for a length of zero. -/
def lengthCode (lengths : List Nat) : Code :=
  if lengths.all (· = 0) then .fork (.symbol 0) (.symbol 0) else .ofLengths lengths

/-- How often the next length comes, and which one it is; the last one before it may be repeated. -/
def run (code : Code) (last : Option Nat) : Reader (Nat × Nat) := do
  match ← code.next with
  | none => fail .lengthLengths
  | some 16 =>
    let n := 3 + (← takeBits 2)
    match last with
    | none => fail .repetition
    | some length => return (n, length)
  | some 17 => return (3 + (← takeBits 3), 0)
  | some 18 => return (11 + (← takeBits 7), 0)
  | some length => return (1, length)

/-- The lengths up to `total`, behind those that are known, in reverse. -/
def lengths (code : Code) (total : Nat) : Nat → List Nat → Reader (List Nat)
  | 0, known => return known.reverse
  | fuel + 1, known => do
    if total ≤ known.length then return known.reverse
    let (n, length) ← run code known.head?
    if total < known.length + n then fail .repetition
    lengths code total fuel (List.replicate n length ++ known)

/-- The codes that a block brings. Its lengths are given in a code of their own. -/
def ownCodes : Reader Codes := do
  let literals := 257 + (← takeBits 5)
  let distances := 1 + (← takeBits 5)
  let count := 4 + (← takeBits 4)
  if maxLiterals < literals || maxDistances < distances then fail .symbolCount
  let given ← (lengthOrder.take count).mapM fun s => return (s, ← takeBits 3)
  let own := (List.range 19).map fun s => (given.lookup s).getD 0
  if !Code.isFull own && Code.share own ≠ 0 then fail .lengthLengths
  let all ← lengths (lengthCode own) (literals + distances) (literals + distances) []
  let literalLengths := all.take literals
  let distanceLengths := all.drop literals
  if literalLengths.getD endOfBlock 0 = 0 then fail .noEnd
  if !Code.isFull literalLengths && !Code.isSparse literalLengths then fail .literalLengths
  if !Code.isFull distanceLengths && !Code.isSparse distanceLengths then fail .distanceLengths
  return ⟨.ofLengths literalLengths, .ofLengths distanceLengths⟩

/-- A block of the kind that its head names. -/
def block (kind : Nat) (out : Array UInt8) (bits : Bits) : Progress :=
  match kind with
  | 0 => stored out bits
  | 1 => words usualCodes bits.length out bits
  | 2 =>
    match ownCodes bits with
    | .error h => ⟨out, .error h⟩
    | .ok (codes, bits) => words codes bits.length out bits
  | _ => ⟨out, .error (.fault .blockType)⟩

/-- The blocks up to the last one, and what follows them from a whole byte on. -/
def blocks : Nat → Array UInt8 → Bits → Progress
  | 0, out, _ => ⟨out, .error .more⟩
  | fuel + 1, out, bits =>
    match (do return (← takeBits 1, ← takeBits 2) : Reader (Nat × Nat)) bits with
    | .error h => ⟨out, .error h⟩
    | .ok ((last, kind), bits) =>
      match block kind out bits with
      | ⟨out, .error h⟩ => ⟨out, .error h⟩
      | ⟨out, .ok bits⟩ => if last = 1 then ⟨out, .ok (aligned bits)⟩ else blocks fuel out bits

end AutoProxy.Compression
