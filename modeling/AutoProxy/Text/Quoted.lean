import AutoProxy.Text.Basic
import AutoProxy.Text.PrintableTable

/-! Texts in quotation marks, as messages show them. -/
namespace AutoProxy.Text

def isPrintable (c : Char) : Bool := !holds unprintable c.toNat

def escape (mark c : Char) : Text :=
  if c = mark || c = '\\' then ['\\', c]
  else if c = '\n' then ['\\', 'n']
  else if c = '\r' then ['\\', 'r']
  else if c = '\t' then ['\\', 't']
  else if isPrintable c then [c]
  else if c.toNat < 0x100 then '\\' :: 'x' :: hex 2 c.toNat
  else if c.toNat < 0x10000 then '\\' :: 'u' :: hex 4 c.toNat
  else '\\' :: 'U' :: hex 8 c.toNat

/-- Single marks, or double ones if the text holds single ones and no double one. -/
def markFor (t : Text) : Char :=
  if t.contains '\x27' && !t.contains '"' then '"' else '\x27'

def quote (t : Text) : Text :=
  let mark := markFor t
  mark :: t.flatMap (escape mark) ++ [mark]

/-- Half of a pair of numbers is no character and shows as an escape. -/
def quoteCodes (codes : List Nat) : Text :=
  let mark := markFor (codes.map Char.ofNat)
  let one n := if n.isValidChar then escape mark (Char.ofNat n) else '\\' :: 'u' :: hex 4 n
  mark :: codes.flatMap one ++ [mark]

end AutoProxy.Text
