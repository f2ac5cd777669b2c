import Polystore.Text.Printable

/-!
Quoted texts, as debug output shows them: the quote mark and the backslash stand behind a backslash, four
controls have a letter of their own, and what cannot be shown is written as its code point.
-/
namespace Polystore.Text

/-- A code point in braces, in hexadecimal. -/
def escapedCodePoint (c : Char) : String :=
  "\\u\x7b" ++ String.ofList (Nat.toDigits 16 c.toNat) ++ "\x7d"

/-- One character inside quote marks of the kind `mark`. -/
def quotedChar (mark : Char) (c : Char) : String :=
  if c = '\x00' then "\\0"
  else if c = '\t' then "\\t"
  else if c = '\r' then "\\r"
  else if c = '\n' then "\\n"
  else if c = '\\' || c = mark then "\\" ++ c.toString
  else if isPrintable c then c.toString
  else escapedCodePoint c

def quoted (text : String) : String :=
  "\"" ++ String.join (text.toList.map (quotedChar '"')) ++ "\""

def quotedSingle (c : Char) : String := "'" ++ quotedChar '\'' c ++ "'"

end Polystore.Text
