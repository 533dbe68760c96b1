import LockLender.Text.CharClass
import LockLender.Text.Numeral

namespace LockLender.Quoted

def codePoint (c : Char) : String := "\\u\x7b" ++ Numeral.shortHex c.toNat ++ "\x7d"

def escape (c : Char) : String :=
  if c = '\x00' then "\\0"
  else if c = '\t' then "\\t"
  else if c = '\n' then "\\n"
  else if c = '\r' then "\\r"
  else if c = '"' then "\\\""
  else if c = '\\' then "\\\\"
  else if ' ' ≤ c ∧ c ≤ '~' then c.toString
  else if CharClass.extending.has c || CharClass.unprintable.has c then codePoint c
  else c.toString

def quoted (text : String) : String := "\"" ++ String.join (text.toList.map escape) ++ "\""

end LockLender.Quoted
