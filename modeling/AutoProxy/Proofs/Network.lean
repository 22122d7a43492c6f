import AutoProxy.Network.Reply

/-! Reading a body within a limit. Wherever the body is cut, it is the whole of it that counts. -/
namespace AutoProxy

namespace Network

/-- What chunks come to: their bytes, and the failure that ends them if there is one. -/
structure Body where
  bytes : Bytes
  failure? : Option Text
  deriving DecidableEq

/-- The chunks one behind the other, up to the first that fails. -/
def Body.ofChunks : List Chunk → Body
  | [] => ⟨[], none⟩
  | .failure message :: _ => ⟨[], some message⟩
  | .data bytes :: chunks => { ofChunks chunks with bytes := bytes ++ (ofChunks chunks).bytes }

/-- A body as a whole, under a limit. -/
def Body.within (limit : Int) (b : Body) : Except BodyFault Bytes :=
  if limit < b.bytes.length then .error .limit
  else
    match b.failure? with
    | some message => .error (.failure message)
    | none => .ok b.bytes

/-- The chunks as they are handed on, their codings undone. A fault of a coding is a failure too. -/
def handOn : List Decoder → List Chunk → List Chunk
  | _, [] => []
  | _, .failure message :: _ => [.failure message]
  | ds, .data bytes :: chunks =>
    if bytes.isEmpty then handOn ds chunks
    else
      match Decoder.pushAll bytes ds with
      | .error e => [.failure e.message]
      | .ok (piece, ds) => .data piece :: handOn ds chunks

/-- The pieces bring these bytes once their codings are undone, and none of them fails. -/
inductive Carries : List Decoder → List Chunk → Bytes → Prop where
  | nil {ds} : Carries ds [] []
  | empty {ds chunks bytes} : Carries ds chunks bytes → Carries ds (.data [] :: chunks) bytes
  | part {ds ds' part piece chunks bytes} : part ≠ [] →
      Decoder.pushAll part ds = .ok (piece, ds') → Carries ds' chunks bytes →
      Carries ds (.data part :: chunks) (piece ++ bytes)

variable {bytes piece : Bytes} {bound : Int} {total : Nat} {b : Body} {ds : List Decoder}
  {chunks : List Chunk}

theorem within_of_neg (h : bound < 0) : b.within bound = .error .limit := by
  rw [Body.within, if_pos (by omega)]

theorem within_data : (Body.ofChunks (.data piece :: chunks)).within bound =
    ((Body.ofChunks chunks).within (bound - piece.length)).map (piece ++ ·) := by
  have hlimit : bound < (piece ++ (Body.ofChunks chunks).bytes).length ↔
      bound - piece.length < (Body.ofChunks chunks).bytes.length := by
    rw [List.length_append]
    omega
  simp only [Body.ofChunks, Body.within, hlimit]
  split
  · rfl
  · cases (Body.ofChunks chunks).failure? <;> rfl

/-- To look at the limit after each piece is to look at it once, for the whole body. -/
theorem readFrom_eq_within (h : total ≤ bound) : readFrom (some bound) total ds chunks =
    (Body.ofChunks (handOn ds chunks)).within (bound - total) := by
  have hkept : ¬ bound - total < 0 := by omega
  induction chunks generalizing total ds with
  | nil => simp [readFrom, handOn, Body.ofChunks, Body.within, hkept]
  | cons chunk chunks ih =>
    cases chunk with
    | failure message => simp [readFrom, handOn, Body.ofChunks, Body.within, hkept]
    | data part =>
      rw [readFrom, handOn]
      split
      · exact ih h hkept
      · cases hpush : Decoder.pushAll part ds with
        | error e => simp [Body.ofChunks, Body.within, hkept]
        | ok out =>
          obtain ⟨piece, ds'⟩ := out
          have hrest : bound - total - piece.length = bound - (total + piece.length : Nat) := by
            omega
          simp only [within_data, hrest, Option.any_some]
          by_cases hlimit : bound < (total + piece.length : Nat)
          · have hpiece : piece.isEmpty = false := by
              rw [List.isEmpty_eq_false_iff]
              rintro rfl
              rw [List.length_nil] at hlimit
              omega
            rw [within_of_neg (by omega)]
            simp only [hpiece, hlimit, decide_true, Bool.not_false, Bool.and_self, if_true]
            rfl
          · have hnext : readFrom (some bound) (total + piece.length) ds' chunks = _ :=
              ih (by omega) (by omega)
            simp only [hlimit, decide_false, Bool.and_false, Bool.false_eq_true, if_false, hnext]
            cases Body.within _ _ <;> rfl

theorem pushAll_plain (h : ∀ d ∈ ds, d = .plain) (part : Bytes) :
    Decoder.pushAll part ds = .ok (part, ds) := by
  induction ds with
  | nil => rfl
  | cons d ds ih =>
    obtain ⟨rfl, hds⟩ := List.forall_mem_cons.mp h
    simp only [Decoder.pushAll, Decoder.push, ih hds]

/-- Where no coding is to be undone, the chunks are handed on as they are. -/
theorem ofChunks_handOn (h : ∀ d ∈ ds, d = .plain) :
    Body.ofChunks (handOn ds chunks) = Body.ofChunks chunks := by
  induction chunks with
  | nil => rfl
  | cons chunk chunks ih =>
    cases chunk with
    | failure message => rfl
    | data part =>
      rw [handOn, pushAll_plain h]
      split
      · next hpart =>
        rw [List.isEmpty_iff] at hpart
        rw [ih, hpart]
        rfl
      · rw [Body.ofChunks, Body.ofChunks, ih]

theorem ofChunks_of_carries (h : Carries ds chunks bytes) :
    Body.ofChunks (handOn ds chunks) = ⟨bytes, none⟩ := by
  induction h with
  | nil => rfl
  | empty _ ih => exact ih
  | part hpart hpush _ ih =>
    rw [handOn, if_neg (by simpa using hpart), hpush]
    rw [Body.ofChunks, ih]

/-- With no coding to undo, the pieces bring what they are put together. -/
theorem carries_pieces (pieces : List Bytes) : Carries [] (pieces.map .data) pieces.flatten := by
  induction pieces with
  | nil => exact .nil
  | cons piece pieces ih =>
    rw [List.map_cons, List.flatten_cons]
    by_cases hpiece : piece = []
    · rw [hpiece]
      exact .empty ih
    · exact .part hpiece rfl ih

end Network

namespace Response

variable {r : Response} {bytes : Bytes} {bound : Int}

/-- The body of the response, its codings undone. -/
def Carries (r : Response) (bytes : Bytes) : Prop := Network.Carries r.decoders r.chunks bytes

/-- What the chunks of the response come to, their codings undone. -/
def body (r : Response) : Network.Body := .ofChunks (Network.handOn r.decoders r.chunks)

theorem read_eq_within (h : 0 ≤ bound) : Network.read bound r = r.body.within bound := by
  rw [Network.read, Network.readFrom_eq_within (by simpa using h), body]
  simp

theorem carries_of_pieces (pieces : List Bytes)
    (hcoding : r.header? "Content-Encoding".toList = none) (hchunks : r.chunks = pieces.map .data) :
    r.Carries pieces.flatten := by
  have hdecoders : r.decoders = [] := by
    rw [decoders, hcoding]
    rfl
  rw [Carries, hdecoders, hchunks]
  exact Network.carries_pieces pieces

end Response

end AutoProxy
