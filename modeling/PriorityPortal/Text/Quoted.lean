import PriorityPortal.Text.Shapeless
/-!
# Quoted text

Text between double quotes, on one line and in characters that can be seen: quotes, backslashes and
line ends are escaped by a backslash, and a character without a shape of its own by its code.
-/
namespace PriorityPortal.Text

def quotedChar (c : Char) : String :=
  if c = '\x00' then "\\0"
  else if c = '\t' then "\\t"
  else if c = '\r' then "\\r"
  else if c = '\n' then "\\n"
  else if c = '\\' then "\\\\"
  else if c = '"' then "\\\""
  else if isShapeless c then
    "\\u\x7b" ++ String.ofList (Nat.toDigits 16 c.toNat) ++ "\x7d"
  else String.singleton c

def quoted (text : String) : String :=
  "\"" ++ String.join (text.toList.map quotedChar) ++ "\""

end PriorityPortal.Text
