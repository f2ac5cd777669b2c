import Polystore.Value.Text
import Polystore.Failure
import Polystore.Text.Excerpt
import Polystore.Number.IntegerText
import Polystore.Number.DecimalText
import Polystore.Number.DecimalFloat

/-!
The types that values are read as: scalar types, and lists, boxes and options of such types. Each type has
elements, an encoding of them as values, a typed null, a decoder that accepts more than the encoding, and a
reader of texts for the scalars. Decoding what was encoded gives the element back, except that an option of a
type with nulls of its own cannot tell them apart.
-/
namespace Polystore

/-- The types that values are read as. -/
inductive DataType where
  | scalar (type : ScalarType)
  /-- Texts that may be shared with their owner. -/
  | sharedText
  | vector (element : DataType)
  | deque (element : DataType)
  | boxed (content : DataType)
  | optional (content : DataType)
deriving DecidableEq, Repr

@[reducible] def DataType.Element : DataType → Type
  | .scalar type => type.Carrier
  | .sharedText => String
  | .vector element | .deque element => List element.Element
  | .boxed content => content.Element
  | .optional content => Option content.Element

/-- The name of a kind of integers, as types are named. -/
def IntKind.typeName : IntKind → String
  | .i8 => "i8"
  | .i16 => "i16"
  | .i32 => "i32"
  | .i64 => "i64"
  | .u8 => "u8"
  | .u16 => "u16"
  | .u32 => "u32"
  | .u64 => "u64"

/-- The name of a scalar type, as types are named. -/
def ScalarType.typeName : ScalarType → String
  | .boolean => "bool"
  | .integer kind => kind.typeName
  | .float .single => "f32"
  | .float .double => "f64"
  | .decimal => "rust_decimal::decimal::Decimal"
  | .text => "alloc::string::String"
  | .blob => "alloc::boxed::Box<[u8]>"
  | .date => "time::date::Date"
  | .time => "time::time::Time"
  | .timestamp => "time::plain_date_time::PlainDateTime"
  | .offsetTimestamp => "time::offset_date_time::OffsetDateTime"
  | .uuid => "uuid::Uuid"

def DataType.name : DataType → String
  | .scalar type => type.typeName
  | .sharedText => "alloc::borrow::Cow<'_, str>"
  | .vector element => "alloc::vec::Vec<" ++ element.name ++ ">"
  | .deque element => "alloc::collections::vec_deque::VecDeque<" ++ element.name ++ ">"
  | .boxed content => "alloc::boxed::Box<" ++ content.name ++ ">"
  | .optional content => "core::option::Option<" ++ content.name ++ ">"

/-- The types around a type, by the names in front of it. -/
def DataType.wrappers : List (List Char × (DataType → DataType)) :=
  [("Vec<".toList, .vector), ("VecDeque<".toList, .deque), ("Box<".toList, .boxed), ("Option<".toList, .optional)]

/-- The type of a short name; scalars go by the names of their types or of their values. -/
def DataType.ofName? (name : List Char) : Option DataType :=
  match DataType.wrappers.find? fun wrapper => wrapper.1.isPrefixOf name with
  | some wrapper =>
    if _ : wrapper.1.length < name.length then
      (DataType.ofName? (name.drop wrapper.1.length).dropLast).map wrapper.2
    else none
  | none =>
    let name := String.ofList name
    if name = "Cow" then some .sharedText
    else if name = "String" then some (.scalar .text)
    else (ScalarType.values.find? fun type => type.typeName = name || type.label = name).map .scalar
termination_by name.length
decreasing_by simp; omega

/-- The typed null of a type. -/
def DataType.emptyValue : DataType → Value
  | .scalar type => .scalar type none
  | .sharedText => .scalar .text none
  | .vector element | .deque element => .nullList element.emptyValue
  | .boxed content | .optional content => content.emptyValue

def DataType.encode : (type : DataType) → type.Element → Value
  | .scalar type, element => .scalar type (some element)
  | .sharedText, element => .text element
  | .vector type, elements | .deque type, elements =>
    .list (elements.map type.encode) type.emptyValue
  | .boxed type, element => type.encode element
  | .optional type, element => element.elim type.emptyValue type.encode

namespace Reading

/-- A text that is no text of a type. -/
def unparsable (text typeName : String) : Failure :=
  .ofNote ("Cannot parse " ++ Text.quotedExcerpt text ++ " as " ++ typeName)

def unconvertible (value : Value) (typeName : String) : Failure :=
  .ofNote ("Cannot convert " ++ value.debug ++ " to " ++ typeName)

/-- A number that a type has no room for. -/
def outOfRange (number typeName : String) : Failure :=
  .ofNote ("Value " ++ number ++ " is out of range for " ++ typeName)

def truthValue? (text : String) : Option Bool :=
  let name := String.ofList (text.toList.map Char.toLower)
  if name = "true" || name = "t" || name = "1" then some true
  else if name = "false" || name = "f" || name = "0" then some false
  else none

/-- The digits of a blob text, without the mark that may stand in front. -/
def blobDigits (text : String) : String :=
  match text.toList with
  | '\\' :: 'x' :: digits => String.ofList digits
  | _ => text

/-- Reads a scalar from a text without blanks around it. -/
def trimmedScalar : (type : ScalarType) → String → Except Failure type.Carrier
  | .boolean, text =>
    match truthValue? text with
    | some value => .ok value
    | none => .error (.ofNote ("Cannot parse boolean from " ++ Text.quotedExcerpt text))
  | .integer kind, text =>
    match IntegerText.read kind text.toList with
    | some value => .ok value
    | none => .error (unparsable text kind.typeName)
  | .float width, text =>
    match FloatText.read width text.toList with
    | some value => .ok value
    | none =>
      .error ((Failure.ofNote "error while parsing a float").during
        ("Cannot parse a floating point value from " ++ Text.quotedExcerpt text))
  | .decimal, text =>
    match DecimalText.parse text.toList with
    | some value => .ok value
    | none => .error (.unreadable .decimal)
  | .text, text => .ok text
  | .blob, text =>
    match Text.Hex.decode (blobDigits text) with
    | .ok value => .ok value
    | .error error =>
      .error ((Failure.ofNote error.message).during ("While decoding " ++ Text.quotedExcerpt text ++ " as hex"))
  | .date, text =>
    match Date.read text.toList with
    | some value => .ok value
    | none => .error (unparsable text ScalarType.date.typeName)
  | .time, text =>
    match Time.read text.toList with
    | some value => .ok value
    | none => .error (unparsable text ScalarType.time.typeName)
  | .timestamp, text =>
    match Timestamp.read text.toList with
    | some value => .ok value
    | none => .error (unparsable text ScalarType.timestamp.typeName)
  | .offsetTimestamp, text =>
    match OffsetTimestamp.read text.toList with
    | some value => .ok value
    | none => .error (.unreadable .time)
  | .uuid, text =>
    match Uuid.read text.toList with
    | some value => .ok value
    | none =>
      .error ((Failure.unreadable .uuid).during ("Cannot parse a uuid from " ++ Text.quotedExcerpt text))

/-- Reads a scalar from a text; blanks around it do not count, except in a text. -/
def scalar : (type : ScalarType) → String → Except Failure type.Carrier
  | .text, text => .ok text
  | .decimal, text =>
    (trimmedScalar .decimal (Text.trimmed text)).mapError
      (Failure.during · ("Cannot parse a decimal from " ++ Text.quotedExcerpt text))
  | type, text => trimmedScalar type (Text.trimmed text)

/-- The word of a kind that an integer is. -/
def narrow (kind : IntKind) (number : Int) : Except Failure (Word kind) :=
  match Word.ofInt? kind number with
  | some word => .ok word
  | none => .error (outOfRange (toString number) kind.typeName)

/-- The word of a kind that a decimal is. -/
def narrowDecimal (kind : IntKind) (number : Decimal) : Except Failure (Word kind) :=
  if number.isInteger then
    match Word.ofInt? kind number.truncate with
    | some word => .ok word
    | none => .error (outOfRange number.text kind.typeName)
  else .error (.ofNote ("Value " ++ number.text ++ ": Decimal is not an integer"))

/-- The integers that a float of some width takes without rounding. -/
def fitsFloat : FloatWidth → IntKind → Bool
  | _, .i8 | _, .i16 | _, .u8 | _, .u16 => true
  | .double, .i32 | .double, .u32 => true
  | _, _ => false

def floatOfDecimal : (width : FloatWidth) → Decimal → Binary width
  | .single, number => DecimalFloat.toSingle number
  | .double, number => DecimalFloat.toDouble number

/-- A float of some width as one of another; of the same width it is the same. -/
def floatOfFloat (width : FloatWidth) {other : FloatWidth} (number : Binary other) : Binary width :=
  if same : other = width then same ▸ number else number.convert width

end Reading

open Reading in
/-- The non-null scalar of a type that a value is or can be read as. -/
def ScalarType.decode : (type : ScalarType) → Value → Except Failure type.Carrier
  | .boolean, value =>
    match value with
    | .scalar .boolean (some v) => .ok v
    | .scalar (.integer _) (some v) => .ok (v.val ≠ 0)
    | .scalar .text (some v) => scalar .boolean v
    | _ => .error (unconvertible value ScalarType.boolean.typeName)
  | .integer kind, value =>
    match value with
    | .scalar (.integer _) (some v) => narrow kind v.val
    | .scalar .decimal (some v) => narrowDecimal kind v
    | .scalar .text (some v) => scalar (.integer kind) v
    | _ => .error (unconvertible value kind.typeName)
  | .float width, value =>
    match value with
    | .scalar (.float _) (some v) => .ok (floatOfFloat width v)
    | .scalar (.integer kind) (some v) =>
      if fitsFloat width kind then .ok (Binary.ofInt width v.val)
      else .error (unconvertible value (ScalarType.float width).typeName)
    | .scalar .decimal (some v) => .ok (floatOfDecimal width v)
    | .scalar .text (some v) => scalar (.float width) v
    | _ => .error (unconvertible value (ScalarType.float width).typeName)
  | .decimal, value =>
    match value with
    | .scalar .decimal (some v) => .ok v
    | .scalar (.integer _) (some v) => .ok (Decimal.ofWord v)
    | .scalar (.float _) (some v) =>
      match DecimalFloat.ofFloat v with
      | some number => .ok number
      | none => .error (unconvertible value ScalarType.decimal.typeName)
    | .scalar .text (some v) => scalar .decimal v
    | _ => .error (unconvertible value ScalarType.decimal.typeName)
  | .text, value =>
    match value with
    | .scalar .text (some v) => .ok v
    | .scalar .uuid (some v) => .ok v.text
    | _ => .error (unconvertible value ScalarType.text.typeName)
  | .date, value =>
    match value with
    | .scalar .date (some v) => .ok v
    | .scalar .timestamp (some v) => .ok v.date
    | .scalar .text (some v) => scalar .date v
    | _ => .error (unconvertible value ScalarType.date.typeName)
  | .offsetTimestamp, value =>
    match value with
    | .scalar .offsetTimestamp (some v) => .ok v
    | .scalar .timestamp (some v) => .ok v.universal
    | .scalar .text (some v) => scalar .offsetTimestamp v
    | _ => .error (unconvertible value ScalarType.offsetTimestamp.typeName)
  | .blob, value =>
    match value with
    | .scalar .blob (some v) => .ok v
    | .scalar .text (some v) => scalar .blob v
    | _ => .error (unconvertible value ScalarType.blob.typeName)
  | .time, value =>
    match value with
    | .scalar .time (some v) => .ok v
    | .scalar .text (some v) => scalar .time v
    | _ => .error (unconvertible value ScalarType.time.typeName)
  | .timestamp, value =>
    match value with
    | .scalar .timestamp (some v) => .ok v
    | .scalar .text (some v) => scalar .timestamp v
    | _ => .error (unconvertible value ScalarType.timestamp.typeName)
  | .uuid, value =>
    match value with
    | .scalar .uuid (some v) => .ok v
    | .scalar .text (some v) => scalar .uuid v
    | _ => .error (unconvertible value ScalarType.uuid.typeName)

/-- Decodes values one after another, up to the first that fails. -/
def decodeAll {α : Type} (decode : Value → Except Failure α) : List Value → Except Failure (List α)
  | [] => .ok []
  | value :: rest => do
    let first ← decode value
    return first :: (← decodeAll decode rest)

namespace DataType

/-- The element of a type that a value is or can be read as. -/
def decode : (type : DataType) → Value → Except Failure type.Element
  | .scalar type, value => type.decode value
  | .sharedText, value => ScalarType.text.decode value
  | .vector element, value =>
    match value with
    | .list items _ => decodeAll element.decode items
    | .nullList _ => .ok []
    | _ => .error (Reading.unconvertible value (DataType.vector element).name)
  | .deque element, value =>
    match value with
    | .list items _ => decodeAll element.decode items
    | .nullList _ => .ok []
    | _ => .error (Reading.unconvertible value (DataType.deque element).name)
  | .boxed content, value => content.decode value
  | .optional content, value =>
    if value.isNull then .ok none else (content.decode value).map some

/-- Reads an element from a text; only the scalars have readers. -/
def parse : (type : DataType) → String → Except Failure type.Element
  | .scalar type, text => Reading.scalar type text
  | .sharedText, text => .error (Reading.unparsable text DataType.sharedText.name)
  | .vector element, text => .error (Reading.unparsable text (DataType.vector element).name)
  | .deque element, text => .error (Reading.unparsable text (DataType.deque element).name)
  | .boxed content, text => .error (Reading.unparsable text (DataType.boxed content).name)
  | .optional content, text => .error (Reading.unparsable text (DataType.optional content).name)

end DataType

/-- Reads a value as an element of a type; a failure tells the value's kind and the type. -/
def Value.get (value : Value) (type : DataType) : Except Failure type.Element :=
  (type.decode value).mapError fun failure =>
    (failure.under (.conversion value.kind failure.text)).during
      ("While reading the value as " ++ type.name)

/-- Reads the value of a field as an element of a type. -/
def Field.get (field : Field) (type : DataType) : Except Failure type.Element :=
  (field.value.get type).mapError (Failure.during · ("While reading the field `" ++ field.name ++ "`"))

end Polystore
