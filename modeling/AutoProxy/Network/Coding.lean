import AutoProxy.Compression.Envelope
import AutoProxy.Text.Blank
import AutoProxy.Text.Lower

/-! The codings in which a body is sent, undone piece by piece. -/
namespace AutoProxy

inductive Coding where
  | identity
  | gzip
  | deflate
  deriving DecidableEq

namespace Coding

def ofName? (name : Text) : Option Coding :=
  if name = "identity".toList then some .identity
  else if name = "gzip".toList then some .gzip
  else if name = "deflate".toList then some .deflate
  else none

/-- The codings in a list of names, in the order in which they were put on. Unknown names do not
count. -/
def ofNames (names : Text) : List Coding :=
  (Text.split (· = ',') names).filterMap fun t => ofName? (Text.lower (Text.trim t))

end Coding

/-- One coding on the way: before the first piece it may be open whether deflated data has an
envelope; then what came in is kept, and how much of its contents was given out. -/
inductive Decoder where
  | plain
  | undecided
  | inside (envelope : Compression.Envelope) (received : Bytes) (given : Nat)
  deriving DecidableEq

namespace Decoder

def ofCoding : Coding → Decoder
  | .identity => plain
  | .gzip => inside .gzip [] 0
  | .deflate => undecided

/-- What a piece adds to the contents. -/
def advance (e : Compression.Envelope) (received : Bytes) (given : Nat) (piece : Bytes) :
    Except Compression.Fault (Bytes × Decoder) :=
  let received := received ++ piece
  let c := Compression.expand e received
  match c.halt with
  | some (.fault cause) => .error cause
  | _ => .ok ((c.out.extract given c.out.size).toList, inside e received c.out.size)

/-- A first piece of deflated data that is wrong with an envelope is read without. -/
def push (piece : Bytes) : Decoder → Except Compression.Fault (Bytes × Decoder)
  | plain => .ok (piece, plain)
  | inside e received given => advance e received given piece
  | undecided =>
    match advance .zlib [] 0 piece with
    | .ok r => .ok r
    | .error _ => advance .none [] 0 piece

/-- One decoder behind the other. -/
def pushAll (piece : Bytes) : List Decoder → Except Compression.Fault (Bytes × List Decoder)
  | [] => .ok (piece, [])
  | d :: ds =>
    match d.push piece with
    | .error e => .error e
    | .ok (piece, d) =>
      match pushAll piece ds with
      | .error e => .error e
      | .ok (piece, ds) => .ok (piece, d :: ds)

end Decoder

/-- The coding that was put on last is undone first. -/
def Coding.decoders (cs : List Coding) : List Decoder := cs.reverse.map .ofCoding

end AutoProxy
