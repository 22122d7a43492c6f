import AutoProxy.Compression.Block
import AutoProxy.Compression.Checksum

/-! Compressed data with a head and checksums around it, or without. -/
namespace AutoProxy.Compression

inductive Envelope where
  | none
  | zlib
  | gzip
  deriving DecidableEq

/-- What the data that is there holds, and why there is no more of it; nothing is wrong with data
that is not all there. -/
structure Contents where
  out : Array UInt8
  halt : Option Halt

/-- Two bytes: they name the method and the window, are a multiple of 31 together, and may ask for
a dictionary. -/
def zlibHead : Reader Unit := do
  let method ← takeBits 4
  let window ← takeBits 4
  let flags ← takeBits 8
  if ((16 * window + method) * 256 + flags) % 31 ≠ 0 then fail .header
  if method ≠ 8 then fail .method
  if 7 < window then fail .window
  if flags.testBit 5 then
    let _ ← takeBits 32
    fail .dictionary

/-- Past a text that ends with a zero byte; there are no more bytes than `fuel`. -/
def skipText : Nat → Reader Unit
  | 0 => fun _ => .error .more
  | fuel + 1 => do
    if (← takeBits 8) ≠ 0 then skipText fuel

/-- A fixed part, then what its flags announce. -/
def gzipHead (bytes : Bytes) : Reader Unit := do
  if (← takeBits 16) ≠ 0x8B1F then fail .header
  let method ← takeBits 8
  let flags ← takeBits 8
  if method ≠ 8 then fail .method
  if 0x20 ≤ flags then fail .headerFlags
  let _ ← takeBits 48
  if flags.testBit 2 then
    let length ← takeBits 16
    let _ ← takeBits (8 * length)
  if flags.testBit 3 then skipText bytes.length
  if flags.testBit 4 then skipText bytes.length
  if flags.testBit 1 then
    let head := bytes.take (bytes.length - (← get).length / 8)
    if (← takeBits 16) ≠ redundancy head.toArray % 0x10000 then fail .headerChecksum

/-- A number with its highest byte first. -/
def takeReversed : Reader Nat := do
  let bytes ← (List.range 4).mapM fun _ => takeBits 8
  return bytes.foldl (fun n b => 256 * n + b) 0

def Envelope.head (e : Envelope) (bytes : Bytes) : Reader Unit :=
  match e with
  | .none => return
  | .zlib => zlibHead
  | .gzip => gzipHead bytes

def Envelope.tail (e : Envelope) (out : Array UInt8) : Reader Unit := do
  match e with
  | .none => return
  | .zlib => if (← takeReversed) ≠ adler out then fail .checksum
  | .gzip =>
    if (← takeBits 32) ≠ redundancy out then fail .checksum
    if (← takeBits 32) ≠ out.size % 0x100000000 then fail .size

/-- Whatever follows the end does not count. -/
def expand (e : Envelope) (bytes : Bytes) : Contents :=
  match e.head bytes (bitsOf bytes) with
  | .error h => ⟨#[], h⟩
  | .ok ((), bits) =>
    match blocks bits.length #[] bits with
    | ⟨out, .error h⟩ => ⟨out, h⟩
    | ⟨out, .ok bits⟩ =>
      match e.tail out bits with
      | .error h => ⟨out, h⟩
      | .ok _ => ⟨out, .none⟩

end AutoProxy.Compression
