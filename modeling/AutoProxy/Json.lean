import AutoProxy.Text.Basic

/-! Values of a script written as JSON. Text beyond ASCII is written as it is. -/
namespace AutoProxy.Json

def escape (c : Char) : Text :=
  if c = '"' then ['\\', '"']
  else if c = '\\' then ['\\', '\\']
  else if c = '\n' then ['\\', 'n']
  else if c = '\r' then ['\\', 'r']
  else if c = '\t' then ['\\', 't']
  else if c = '\x08' then ['\\', 'b']
  else if c = '\x0C' then ['\\', 'f']
  else if c.toNat < 0x20 then '\\' :: 'u' :: Text.hex 4 c.toNat
  else [c]

def string (t : Text) : Text := '"' :: t.flatMap escape ++ ['"']

def array (ts : List Text) : Text := '[' :: Text.join [',', ' '] (ts.map string) ++ [']']

/-- An object with the texts as keys, every value one. -/
def table (ts : List Text) : Text :=
  '{' :: Text.join [','] (ts.map fun t => string t ++ [':', '1']) ++ ['}']

end AutoProxy.Json
