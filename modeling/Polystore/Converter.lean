import Polystore.Entity
import Polystore.Native
import Polystore.Writer
import Polystore.Action

/-!
The converter between entities and native values. Writing sends scalars through the registry and lays
documents out; reading turns maps into documents and keeps lists that mix maps with other values opaque.
-/
namespace Polystore

/-- What becomes of an application value that no writer takes. -/
inductive Policy where
  | passThrough | strict
deriving DecidableEq, Repr

/-- The native form of a document with several fields. -/
inductive Layout where
  /-- A list of maps with one entry each. -/
  | singleton
  /-- One map with all entries. -/
  | embedded
deriving DecidableEq, Repr

def Policy.label : Policy → String
  | .passThrough => "PassThrough"
  | .strict => "Strict"

def Layout.label : Layout → String
  | .singleton => "Singleton"
  | .embedded => "Embedded"

/-- The settings of a converter. -/
structure ConverterSettings where
  policy : Policy := .passThrough
  layout : Layout := .singleton
deriving DecidableEq, Repr

def ConverterSettings.debug (settings : ConverterSettings) : String :=
  "ConverterConfig \x7b policy: " ++ settings.policy.label ++ ", layout: " ++ settings.layout.label ++ " \x7d"

/-- A name that is none of the expected ones. -/
def unknownName (setting name expected : String) : Failure :=
  .ofFault (.configuration ("unknown " ++ setting ++ " `" ++ name ++ "`, expected " ++ expected))

def Policy.ofName (name : String) : Except Failure Policy :=
  if name = "pass-through" || name = "passthrough" then .ok .passThrough
  else if name = "strict" then .ok .strict
  else .error (unknownName "conversion policy" name "`pass-through` or `strict`")

def Layout.ofName (name : String) : Except Failure Layout :=
  if name = "singleton" then .ok .singleton
  else if name = "embedded" then .ok .embedded
  else .error (unknownName "sub-document layout" name "`singleton` or `embedded`")

/-- Converts with the writers of a registry. -/
structure Converter where
  registry : Registry := .empty
  settings : ConverterSettings := {}

namespace Converter

/-- Writes what is no list, no map and no document. -/
def writeScalar (converter : Converter) (value : Value) : Except Failure Value :=
  match converter.registry.write? value with
  | some written => written.mapError fun failure => failure.under (.conversion value.kind failure.text)
  | none =>
    match value, converter.settings.policy with
    | .custom custom, .strict =>
      .error (.ofFault (.conversion value.kind ("no writer is registered for " ++ custom.typeName)))
    | _, _ => .ok value

/-- The native form of a document of several fields, given those of the fields. -/
def layOut (converter : Converter) (entries : List (Named Native)) : Native :=
  match converter.settings.layout with
  | .singleton => .list (entries.map fun entry => .map [entry])
  | .embedded => .map (Named.ofList entries)

mutual

def nativeOf (converter : Converter) : Value → Except Failure Native
  | .document field => (nativeOfField converter field).map fun entry => .map [entry]
  | .documents fields => (nativeOfFields converter fields).map converter.layOut
  | .list items _ => (nativeOfItems converter items).map .list
  | .map entries => (nativeOfFields converter entries).map fun entries => .map (Named.ofList entries)
  | .null => (converter.writeScalar .null).map .scalar
  | .scalar type value => (converter.writeScalar (.scalar type value)).map .scalar
  | .nullList hint => (converter.writeScalar (.nullList hint)).map .scalar
  | .nullMap => (converter.writeScalar .nullMap).map .scalar
  | .custom value => (converter.writeScalar (.custom value)).map .scalar

/-- The native forms of values, up to the first that has none. -/
def nativeOfItems (converter : Converter) : List Value → Except Failure (List Native)
  | [] => .ok []
  | item :: rest => do
    let first ← nativeOf converter item
    return first :: (← nativeOfItems converter rest)

def nativeOfField (converter : Converter) : Named Value → Except Failure (Named Native)
  | ⟨name, value⟩ => (nativeOf converter value).map fun native => ⟨name, native⟩

/-- The native forms of fields, up to the first that has none. -/
def nativeOfFields (converter : Converter) : List (Named Value) → Except Failure (List (Named Native))
  | [] => .ok []
  | field :: rest => do
    let first ← nativeOfField converter field
    return first :: (← nativeOfFields converter rest)

end

/-- How the name of a field of an entity is quoted. -/
def fieldReference (entity : Entity) (name : String) : String :=
  "`" ++ name ++ "` of `" ++ entity.collection ++ "`"

/-- Adds the native forms of fields to a row, those of reserved names left out. A name that is there already
is overwritten in its place, with a warning. -/
def addFields {σ : Type} (converter : Converter) (entity : Entity) (reserved : List String) (row : Row) :
    List Field → Action Failure σ Row
  | [] => pure row
  | field :: rest =>
    if reserved.contains field.name then addFields converter entity reserved row rest
    else do
      let native ← Action.ofResult ((converter.nativeOf field.value).mapError
        (Failure.during · ("While converting the field " ++ fieldReference entity field.name)))
      if Named.has row field.name then
        Action.log .warn .conversion
          ("The field " ++ fieldReference entity field.name ++
            " appears more than once, the last value is written")
      addFields converter entity reserved (Named.insert row field.name native) rest

/-- The row of an entity without the fields of reserved names. -/
def rowExcluding {σ : Type} (converter : Converter) (entity : Entity) (reserved : List String) :
    Action Failure σ Row :=
  converter.addFields entity reserved [] entity.fields

def rowOf {σ : Type} (converter : Converter) (entity : Entity) : Action Failure σ Row :=
  converter.rowExcluding entity []

mutual

/-- The value that a native value is read as. -/
def valueOf (layout : Layout) : Native → Value
  | .scalar value => value
  | .map entries => .documents (fieldsOf layout entries)
  | .list items =>
    if !items.isEmpty && items.all Native.isMap then
      match layout with
      | .singleton => .documents (documentsOf layout items).flatten
      | .embedded => .list ((documentsOf layout items).map .documents) (.documents [])
    else if items.any Native.isMap then .list (Native.opaqueItems items) .null
    else .list (valuesOf layout items) .null

def valuesOf (layout : Layout) : List Native → List Value
  | [] => []
  | item :: rest => valueOf layout item :: valuesOf layout rest

/-- The fields of each map of a list; what is no map has none. -/
def documentsOf (layout : Layout) : List Native → List (List Field)
  | [] => []
  | item :: rest => documentOf layout item ++ documentsOf layout rest

/-- The fields of a map, as the only element of a list. -/
def documentOf (layout : Layout) : Native → List (List Field)
  | .map entries => [fieldsOf layout entries]
  | _ => []

def fieldsOf (layout : Layout) : List (Named Native) → List Field
  | [] => []
  | entry :: rest => fieldOf layout entry :: fieldsOf layout rest

/-- The field that a map entry is read as. -/
def fieldOf (layout : Layout) : Named Native → Field
  | ⟨name, value⟩ => ⟨name, valueOf layout value⟩

end

theorem valuesOf_eq_map (layout : Layout) (items : List Native) :
    valuesOf layout items = items.map (valueOf layout) := by
  induction items with
  | nil => rfl
  | cons item rest ih => rw [valuesOf, ih, List.map_cons]

theorem fieldsOf_eq_map (layout : Layout) (entries : List (Named Native)) :
    fieldsOf layout entries = entries.map (Named.map (valueOf layout)) := by
  induction entries with
  | nil => rfl
  | cons entry rest ih => rw [fieldsOf, ih, fieldOf, List.map_cons, Named.map]

/-- The value that the converter reads a native value as. -/
def read (converter : Converter) (native : Native) : Value := valueOf converter.settings.layout native

/-- The entity that the converter reads a row as. -/
def entityOf (converter : Converter) (row : Row) (collection : String) : Entity :=
  ⟨collection, fieldsOf converter.settings.layout row⟩

end Converter

end Polystore
