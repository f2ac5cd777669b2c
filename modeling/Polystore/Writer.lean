import Polystore.Value.Text
import Polystore.Failure

/-!
Writers turn values into the scalars that a back end stores. A registry keeps the writers of each kind, tried
in the order of registration, and one writer for each application type; the first registered wins.
-/
namespace Polystore

/-- Turns values into stored scalars. -/
structure Writer where
  accepts : Value → Bool
  write : Value → Except Failure Value

namespace Writer

/-- A value of a kind that a writer does not know. -/
def refusal (value : Value) (detail : String) : Except Failure Value :=
  .error (.ofFault (.conversion value.kind detail))

/-- A text, or the failure to write one in a standard format. -/
def textOr (format : StandardFormat) : Option String → Except Failure Value
  | some text => .ok (.text text)
  | none => .error (.unreadable format)

def text : Writer where
  accepts value := value.isScalar && !value.isNull && value.kind ≠ .custom
  write value :=
    match value.toText? with
    | some text => .ok (.text text)
    | none => refusal value "no text representation"

def temporal : Writer where
  accepts value := value.kind.isTemporal && !value.isNull
  write value :=
    match value with
    | .scalar .date (some date) => .ok (.text date.text)
    | .scalar .time (some time) => .ok (.text time.storedText)
    | .scalar .timestamp (some timestamp) => .ok (.text timestamp.storedText)
    | .scalar .offsetTimestamp (some timestamp) => textOr .time (Rfc3339.write? timestamp)
    | _ => refusal value "not a temporal value"

def uuid : Writer where
  accepts value := value.kind = .scalar .uuid && !value.isNull
  write value :=
    match value with
    | .scalar .uuid (some uuid) => .ok (.text uuid.text)
    | _ => refusal value "not a uuid"

def decimal : Writer where
  accepts value := value.kind = .scalar .decimal && !value.isNull
  write value :=
    match value with
    | .scalar .decimal (some decimal) => .ok (.text decimal.text)
    | _ => refusal value "not a decimal"

/-- Accepts everything and writes the same text for it. -/
def constant (text : String) : Writer where
  accepts _ := true
  write _ := .ok (.text text)

/-- Accepts every value that is no null and fails. -/
def failing (message : String) : Writer where
  accepts value := !value.isNull
  write _ := .error (.ofNote message)

def values : List (Named Writer) :=
  [⟨"text", text⟩, ⟨"temporal", temporal⟩, ⟨"uuid", uuid⟩, ⟨"decimal", decimal⟩]

end Writer

/-- Turns application values of one type into stored values. -/
abbrev CustomWriter := Custom → Except Failure Value

/-- The writer that a registry keeps for an application type. It looks at the type of what it is given, and refuses
the values of other types. -/
def CustomWriter.ofType (typeName : String) (write : CustomWriter) : CustomWriter := fun custom =>
  if custom.typeName = typeName then write custom
  else Writer.refusal (.custom custom) ("expected " ++ typeName)

/-- Writes what the payload shows: an integer, a text, or the null. -/
def writePayload : CustomWriter := fun custom =>
  match custom.payload with
  | .integer value => .ok (.word value)
  | .text value => .ok (.text value)
  | .hidden => .ok .null

/-- The writers of a back end. -/
structure Registry where
  /-- The writers of each kind, each with the kind it is registered for, in the order of registration. -/
  byKind : List (Kind × Writer)
  /-- The writer of each application type. -/
  byType : List (Named CustomWriter)

namespace Registry

def empty : Registry := ⟨[], []⟩

/-- Registers a writer for a kind, behind those registered before. -/
def addKind (registry : Registry) (kind : Kind) (writer : Writer) : Registry :=
  { registry with byKind := registry.byKind ++ [(kind, writer)] }

/-- Registers a writer for an application type, unless it has one. -/
def addCustom (registry : Registry) (typeName : String) (write : CustomWriter) : Registry :=
  if Named.has registry.byType typeName then registry
  else { registry with byType := registry.byType ++ [⟨typeName, CustomWriter.ofType typeName write⟩] }

/-- The writers of a kind, in the order of registration. -/
def writersOf (registry : Registry) (kind : Kind) : List Writer :=
  (registry.byKind.filter fun entry => entry.1 = kind).map Prod.snd

/-- Whether a writer is registered that takes the value. -/
def accepts (registry : Registry) (value : Value) : Bool :=
  match value with
  | .custom custom => Named.has registry.byType custom.typeName
  | _ => (registry.writersOf value.kind).any fun writer => writer.accepts value

/-- What the first writer that takes the value makes of it, none without such a writer. -/
def write? (registry : Registry) (value : Value) : Option (Except Failure Value) :=
  match value with
  | .custom custom => (Named.find? registry.byType custom.typeName).map fun write => write custom
  | _ => ((registry.writersOf value.kind).find? fun writer => writer.accepts value).map fun writer =>
      writer.write value

/-- A value is written if a writer takes it. -/
theorem isSome_write? (registry : Registry) (value : Value) :
    (registry.write? value).isSome = registry.accepts value := by
  cases value with
  | custom custom => rw [write?, accepts, Option.isSome_map, Named.isSome_find?]
  | _ => simp [write?, accepts, List.isSome_find?]

/-- Dates, times and identifiers as text, the common ground of document stores; decimals stay numbers, so
that ranges compare by value. -/
def standard : Registry :=
  [.date, .time, .timestamp, .offsetTimestamp].foldl
    (fun registry type => registry.addKind (.scalar type) Writer.temporal) empty
  |>.addKind (.scalar .uuid) Writer.uuid

/-- Dates, times, identifiers and decimals as text. -/
def text : Registry := standard.addKind (.scalar .decimal) Writer.decimal

/-- The kinds that have writers, each once, in the order of registration. -/
def kinds (registry : Registry) : List Kind := (registry.byKind.map Prod.fst).eraseDups

/-- The debug form of a registry: the kinds and the number of application types. -/
def debug (registry : Registry) : String :=
  "WriterRegistry \x7b kinds: " ++ bracketed "[" "]" (registry.kinds.map Kind.label) ++
    ", custom: " ++ toString registry.byType.length ++ " \x7d"

end Registry

end Polystore
