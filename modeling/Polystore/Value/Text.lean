import Polystore.Value.Basic
import Polystore.Number.FloatText
import Polystore.Calendar.Text
import Polystore.Text.Hex

/-!
The text of a scalar, which stores that know only texts keep, and the debug form of any value, which
messages quote.
-/
namespace Polystore

/-- The text of a non-null scalar; timestamps have one as far as RFC 3339 has. -/
def ScalarType.textOf : (type : ScalarType) → type.Carrier → Option String
  | .boolean, value => some (if value then "true" else "false")
  | .integer _, value => some value.text
  | .float width, value => some ((FloatText.stored width).text value)
  | .decimal, value => some value.text
  | .text, value => some value
  | .blob, value => some (Text.Hex.encode value)
  | .date, value => some value.text
  | .time, value => some value.text
  | .timestamp, value => Rfc3339.write? value.universal
  | .offsetTimestamp, value => Rfc3339.write? value
  | .uuid, value => some value.text

/-- The text of a non-null scalar, none for all other values. -/
def Value.toText? : Value → Option String
  | .scalar type (some value) => type.textOf value
  | _ => none

/-- Items between brackets of a kind, with commas. -/
def bracketed (opening closing : String) (items : List String) : String :=
  opening ++ String.intercalate ", " items ++ closing

def ScalarType.debugOf : (type : ScalarType) → type.Carrier → String
  | .boolean, value => if value then "true" else "false"
  | .integer _, value => value.text
  | .float _, value => FloatText.debug.text value
  | .decimal, value => value.text
  | .text, value => Text.quoted value
  | .blob, value => bracketed "[" "]" (value.map fun byte => toString byte.toNat)
  | .date, value => value.text
  | .time, value => value.text
  | .timestamp, value => value.text
  | .offsetTimestamp, value => value.text
  | .uuid, value => value.text

namespace Value

mutual

def debug : Value → String
  | .null => "Null"
  | .scalar type none => type.label ++ "(None)"
  | .scalar type (some value) => type.label ++ "(Some(" ++ type.debugOf value ++ "))"
  | .nullList hint => "List(None, " ++ debug hint ++ ")"
  | .list items hint => "List(Some(" ++ bracketed "[" "]" (debugItems items) ++ "), " ++ debug hint ++ ")"
  | .nullMap => "Map(None)"
  | .map entries => "Map(Some(" ++ bracketed "\x7b" "\x7d" (debugEntries entries) ++ "))"
  | .document field => "Document(" ++ debugField field ++ ")"
  | .documents fields => "Documents(" ++ bracketed "[" "]" (debugFields fields) ++ ")"
  | .custom value => "Custom(CustomValue(" ++ value.typeName ++ "))"

def debugItems : List Value → List String
  | [] => []
  | item :: rest => debug item :: debugItems rest

def debugField : Named Value → String
  | ⟨name, value⟩ => "Field \x7b name: " ++ Text.quoted name ++ ", value: " ++ debug value ++ " \x7d"

def debugFields : List (Named Value) → List String
  | [] => []
  | field :: rest => debugField field :: debugFields rest

def debugEntry : Named Value → String
  | ⟨name, value⟩ => Text.quoted name ++ ": " ++ debug value

def debugEntries : List (Named Value) → List String
  | [] => []
  | entry :: rest => debugEntry entry :: debugEntries rest

end

end Value

end Polystore
