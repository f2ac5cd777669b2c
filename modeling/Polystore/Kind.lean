import Polystore.Number.Binary
import Polystore.Number.Decimal
import Polystore.Calendar.Date
import Polystore.Uuid

/-!
The types of scalars and the kinds of values. A scalar type comes with the Lean type of its non-null values;
a kind says what a value looks like without saying which value it is.
-/
namespace Polystore

/-- The types of scalars. -/
inductive ScalarType where
  | boolean
  | integer (kind : IntKind)
  | float (width : FloatWidth)
  | decimal
  | text
  | blob
  | date
  | time
  | timestamp
  | offsetTimestamp
  | uuid
deriving DecidableEq, Repr

@[reducible] def ScalarType.Carrier : ScalarType → Type
  | .boolean => Bool
  | .integer kind => Word kind
  | .float width => Binary width
  | .decimal => Decimal
  | .text => String
  | .blob => List UInt8
  | .date => Date
  | .time => Time
  | .timestamp => Timestamp
  | .offsetTimestamp => OffsetTimestamp
  | .uuid => Uuid

instance (type : ScalarType) : DecidableEq type.Carrier := by
  cases type <;> unfold ScalarType.Carrier <;> infer_instance

/-- The name of a width and sign, as values are named. -/
def IntKind.label : IntKind → String
  | .i8 => "Int8"
  | .i16 => "Int16"
  | .i32 => "Int32"
  | .i64 => "Int64"
  | .u8 => "UInt8"
  | .u16 => "UInt16"
  | .u32 => "UInt32"
  | .u64 => "UInt64"

/-- The name of a scalar type, as values are named. -/
def ScalarType.label : ScalarType → String
  | .boolean => "Boolean"
  | .integer kind => kind.label
  | .float .single => "Float32"
  | .float .double => "Float64"
  | .decimal => "Decimal"
  | .text => "Varchar"
  | .blob => "Blob"
  | .date => "Date"
  | .time => "Time"
  | .timestamp => "Timestamp"
  | .offsetTimestamp => "TimestampWithTimezone"
  | .uuid => "Uuid"

/-- What a value looks like. -/
inductive Kind where
  | null
  | scalar (type : ScalarType)
  | list
  | map
  | document
  | documents
  | custom
deriving DecidableEq, Repr

def Kind.label : Kind → String
  | .null => "Null"
  | .scalar type => type.label
  | .list => "List"
  | .map => "Map"
  | .document => "Document"
  | .documents => "Documents"
  | .custom => "Custom"

def ScalarType.values : List ScalarType :=
  .boolean :: IntKind.values.map .integer ++ [.float .single, .float .double, .decimal, .text, .blob, .date,
    .time, .timestamp, .offsetTimestamp, .uuid]

def Kind.values : List Kind :=
  .null :: ScalarType.values.map .scalar ++ [.list, .map, .document, .documents, .custom]

def Kind.ofLabel? (label : String) : Option Kind := Kind.values.find? fun kind => kind.label = label

def ScalarType.isNumeric : ScalarType → Bool
  | .integer _ | .float _ | .decimal => true
  | _ => false

/-- Whether values of a scalar type are dates or times. -/
def ScalarType.isTemporal : ScalarType → Bool
  | .date | .time | .timestamp | .offsetTimestamp => true
  | _ => false

def Kind.isNumeric : Kind → Bool
  | .scalar type => type.isNumeric
  | _ => false

/-- Whether values of a kind are dates or times. -/
def Kind.isTemporal : Kind → Bool
  | .scalar type => type.isTemporal
  | _ => false

end Polystore
