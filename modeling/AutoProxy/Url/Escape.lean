import AutoProxy.Address
import AutoProxy.Text.Utf8

/-! Characters written as percent signs and the hexadecimal digits of their bytes. -/
namespace AutoProxy.Url

def hexUpper (n : Nat) : Text := (Text.hex 2 n).map Char.toUpper

/-- Escapes that are there stay; a character that is not safe becomes the escapes of its bytes. -/
def escape (safe : Char → Bool) : Text → Text
  | [] => []
  | [c] => one c
  | [c, d] => one c ++ one d
  | c :: d :: e :: t =>
    if c = '%' && Address.isHexDigit d && Address.isHexDigit e then c :: d :: e :: escape safe t
    else one c ++ escape safe (d :: e :: t)
where
  one (c : Char) : Text :=
    if c.isAlphanum || c = '-' || c = '.' || c = '_' || c = '~' || safe c then [c]
    else (Utf8.encodeChar c).flatMap fun b => '%' :: hexUpper b.toNat

def hexValue (c : Char) : Nat :=
  if c.isDigit then c.toNat - 48 else c.toLower.toNat - 87

/-- The bytes of a text in which escapes stand for bytes. -/
def unescapedBytes : Text → Bytes
  | [] => []
  | [c] => Utf8.encodeChar c
  | [c, d] => Utf8.encodeChar c ++ Utf8.encodeChar d
  | c :: d :: e :: t =>
    if c = '%' && Address.isHexDigit d && Address.isHexDigit e then
      UInt8.ofNat (16 * hexValue d + hexValue e) :: unescapedBytes t
    else Utf8.encodeChar c ++ unescapedBytes (d :: e :: t)

/-- What escapes stand for; bytes that are no text show as replacement characters. -/
def unescape (t : Text) : Text := Utf8.decodeLossy (unescapedBytes t)

/-- Delimiters within a part. -/
def isInnerDelimiter (c : Char) : Bool := "!$&'()*+,;=".toList.contains c

def safeInUserinfo (c : Char) : Bool := isInnerDelimiter c || c = ':'

def safeInHost (c : Char) : Bool := isInnerDelimiter c || "\"`\x7b\x7d%|\\".toList.contains c

/-- All that can be seen but angle brackets. -/
def safeInFragment (c : Char) : Bool :=
  0x20 < c.toNat && c.toNat < 0x7F && c ≠ '<' && c ≠ '>'

def safeInQuery (c : Char) : Bool := safeInFragment c && c ≠ '#'

def safeInPath (c : Char) : Bool := safeInQuery c && c ≠ '?'

end AutoProxy.Url
