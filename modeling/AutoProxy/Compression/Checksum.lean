import AutoProxy.Text.Utf8

/-! Sums over bytes that show damage. -/
namespace AutoProxy.Compression

def redundancyBit (c : UInt32) : UInt32 :=
  if c &&& 1 = 1 then (c >>> 1) ^^^ 0xEDB88320 else c >>> 1

/-- The remainder of a division of polynomials, one byte further. -/
def redundancyStep (c : UInt32) (b : UInt8) : UInt32 :=
  (List.range 8).foldl (fun c _ => redundancyBit c) (c ^^^ b.toUInt32)

/-- The cyclic redundancy check of 32 bits. -/
def redundancy (bytes : Array UInt8) : Nat :=
  (bytes.foldl redundancyStep 0xFFFFFFFF ^^^ 0xFFFFFFFF).toNat

/-- The largest prime below two to the sixteenth. -/
def adlerModulus : Nat := 65521

/-- The sum of the bytes and the sum of those sums. -/
def adler (bytes : Array UInt8) : Nat :=
  let (low, high) := bytes.foldl
    (fun (low, high) b =>
      let low := (low + b.toNat) % adlerModulus
      (low, (high + low) % adlerModulus))
    (1, 0)
  high <<< 16 + low

end AutoProxy.Compression
