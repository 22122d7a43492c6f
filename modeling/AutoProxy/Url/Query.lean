import AutoProxy.Url.Escape

/-! The pairs of names and values that a query holds. -/
namespace AutoProxy.Url.Query

/-- Bytes as text; those that are none stay escaped. -/
def readable : Bytes → List Utf8.Piece → Text
  | _, [] => []
  | bytes, .char c :: ps => c :: readable (bytes.drop (Utf8.encodeChar c).length) ps
  | bytes, .illFormed _ length _ :: ps =>
    (bytes.take length).flatMap (fun b => '%' :: hexUpper b.toNat)
      ++ readable (bytes.drop length) ps

/-- Escapes count together only as far as nothing beyond ASCII stands between them. -/
def unescapeRuns (t : Text) : Text :=
  (t.splitBy fun a b => (a.toNat < 0x80) = (b.toNat < 0x80)).flatMap fun run =>
    let bytes := unescapedBytes run
    readable bytes (Utf8.pieces bytes)

/-- A name or a value; a plus sign is a blank. -/
def decode (t : Text) : Text := unescapeRuns (t.map fun c => if c = '+' then ' ' else c)

/-- A name reaches to the first equals sign; a value can be missing and is empty then. -/
def pair (t : Text) : Text × Text :=
  (decode (Text.beforeFirst '=' t), decode ((Text.afterFirst? '=' t).getD []))

def pairs (query : Text) : List (Text × Text) :=
  ((Text.split (· = '&') query).filter (!·.isEmpty)).map pair

end AutoProxy.Url.Query
