/-
Texts in quotation marks, with what is not shown in its own right written by code point.
-/
import BytePattern.Unicode.Newer

namespace BytePattern

namespace Quoted

/-- A character of a text in quotation marks. -/
def encodeChar (c : Char) : String :=
  if c = '"' then "\\\""
  else if c = '\\' then "\\\\"
  else if c = '\t' then "\\t"
  else if c = '\n' then "\\n"
  else if c = '\r' then "\\r"
  else if c = '\x00' then "\\0"
  else if !graphic.hasChar c then
    "\\u\x7b" ++ String.ofList (Nat.toDigits 16 c.toNat) ++ "\x7d"
  else c.toString

/-- A text in quotation marks. -/
def encode (text : String) : String :=
  "\"" ++ String.join (text.toList.map encodeChar) ++ "\""

end Quoted

end BytePattern
