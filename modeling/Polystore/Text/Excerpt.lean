import Polystore.Text.Blank

/-!
Excerpts of long texts for messages: the first characters of a text, without blanks behind, and three
dots when something was left out.
-/
namespace Polystore.Text

/-- The longest front part of a text with at most `count` characters. -/
def firstChars (text : String) (count : Nat) : String := String.ofList (text.toList.take count)

def excerptLength : Nat := 497

def excerpt (text : String) : String :=
  String.ofList (trimEnd (text.toList.take excerptLength)) ++
    if excerptLength < text.length then "..." else ""

def quotedExcerpt (text : String) : String := "`" ++ excerpt text ++ "`"

end Polystore.Text
