import Polystore.Converter
import Polystore.Text.Excerpt
import Polystore.Url.Basic
import Polystore.Url.Parameters

/-!
Connection urls: the name of a driver, a host, and parameters. The whole text is percent-decoded before it is
read as a url, and the parameters are decoded once more, as forms are.
-/
namespace Polystore

/-- A connection url with its parameters. -/
structure ConnectUrl where
  url : Url
  parameters : Parameters

namespace ConnectUrl

/-- What is being done while a connection url is read. -/
def context (text : String) : String :=
  "While parsing the connection url " ++ Text.quotedExcerpt text

def startsWith (text start : String) : Bool := start.toList.isPrefixOf text.toList

def parse {σ : Type} (driver text : String) : Action Failure σ ConnectUrl := do
  let decoded ← match Text.decodeBytes (Text.Percent.decode (Text.bytesOf text)) with
    | .ok decoded => pure decoded
    | .error error => Action.fail ((Failure.ofNote error.message).during (context text))
  let start := driver ++ "://"
  if !startsWith decoded start then
    let failure := (Failure.ofFault
      (.configuration ("the connection url must start with `" ++ start ++ "`"))).during (context text)
    Action.log .error .connectUrl failure.text
    Action.fail failure
  match Url.parse decoded with
  | .ok url => return ⟨url, Parameters.ofQuery (url.query.getD [])⟩
  | .error error => Action.fail ((Failure.ofFault (.configuration error.message)).during (context text))

end ConnectUrl

def ConverterSettings.take (environment : Environment) : Action Failure Parameters ConverterSettings := do
  let policy ← Parameters.takeNamed environment "policy" Policy.ofName .passThrough
  let layout ← Parameters.takeNamed environment "layout" Layout.ofName .singleton
  return ⟨policy, layout⟩

end Polystore
