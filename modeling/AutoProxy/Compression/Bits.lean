import AutoProxy.Compression.Fault
import AutoProxy.Text.Utf8

/-! Bytes as bits, the lowest bit of each byte first. -/
namespace AutoProxy.Compression

abbrev Bits := List Bool

def bitsOf (bytes : Bytes) : Bits :=
  bytes.flatMap fun b => (List.range 8).map b.toNat.testBit

def numberOf (bits : Bits) : Nat := bits.foldr (fun b n => 2 * n + b.toNat) 0

/-- Whole bytes only. -/
def bytesOf : Bits → Bytes
  | a :: b :: c :: d :: e :: f :: g :: h :: bits =>
    UInt8.ofNat (numberOf [a, b, c, d, e, f, g, h]) :: bytesOf bits
  | _ => []

/-- The bits of the byte at hand are passed over. The data ends with a whole byte. -/
def aligned (bits : Bits) : Bits := bits.drop (bits.length % 8)

abbrev Reader := StateT Bits (Except Halt)

/-- The number in the next bits, the lowest bit first. -/
def takeBits (n : Nat) : Reader Nat := fun bits =>
  let found := bits.take n
  if found.length < n then .error .more else .ok (numberOf found, bits.drop n)

def fail {α : Type} (cause : Fault) : Reader α := fun _ => .error (.fault cause)

end AutoProxy.Compression
