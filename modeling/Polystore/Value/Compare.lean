import Polystore.Value.Basic
import Polystore.Number.DecimalFloat

/-!
Equality of values, and the order of values that filters and sorts use. Equality is structural: element
hints do not count, maps are equal when they map the same names to equal values, floating-point numbers and
timestamps are compared as the numbers and instants they are. The order compares integers across widths
exactly and other mixed numbers as doubles.
-/
namespace Polystore

def ScalarType.same : (type : ScalarType) → type.Carrier → type.Carrier → Bool
  | .boolean, a, b => a = b
  | .integer _, a, b => a.val = b.val
  | .float _, a, b => a.same b
  | .decimal, a, b => a.same b
  | .text, a, b => a = b
  | .blob, a, b => a = b
  | .date, a, b => a = b
  | .time, a, b => a = b
  | .timestamp, a, b => a = b
  | .offsetTimestamp, a, b => a.instant = b.instant
  | .uuid, a, b => a = b

/-- Equality of scalars, the nulls of one type being equal. -/
def ScalarType.sameOption (type : ScalarType) : Option type.Carrier → Option type.Carrier → Bool
  | none, none => true
  | some a, some b => type.same a b
  | _, _ => false

namespace Value

mutual

def same : Value → Value → Bool
  | .null, .null => true
  | .scalar type a, .scalar type' b => if h : type' = type then type.sameOption a (h ▸ b) else false
  | .nullList _, .nullList _ => true
  | .list a _, .list b _ => sameItems a b
  | .nullMap, .nullMap => true
  | .map a, .map b => a.length = b.length && sameEntries a b
  | .document a, .document b => sameField a b
  | .documents a, .documents b => sameFields a b
  | .custom a, .custom b => a.typeName = b.typeName && a.allocation = b.allocation
  | _, _ => false

/-- Equality of lists of values, place by place. -/
def sameItems : List Value → List Value → Bool
  | [], [] => true
  | a :: as, b :: bs => same a b && sameItems as bs
  | _, _ => false

def sameField : Named Value → Named Value → Bool
  | ⟨name, a⟩, b => name = b.name && same a b.value

/-- Equality of lists of fields, place by place. -/
def sameFields : List (Named Value) → List (Named Value) → Bool
  | [], [] => true
  | a :: as, b :: bs => sameField a b && sameFields as bs
  | _, _ => false

/-- Whether each entry has an equal one of its name. -/
def sameEntries : List (Named Value) → List (Named Value) → Bool
  | [], _ => true
  | entry :: rest, others => sameEntry entry others && sameEntries rest others

/-- Whether an entry has an equal one of its name. -/
def sameEntry : Named Value → List (Named Value) → Bool
  | ⟨name, value⟩, others =>
    match Named.find? others name with
    | some other => same value other
    | none => false

end

def asInteger? : Value → Option Int
  | .scalar (.integer _) (some value) => some value.val
  | _ => none

/-- The double next to the number that a value is. -/
def asDouble? : Value → Option (Binary .double)
  | .scalar (.float width) (some value) =>
    some (match width, value with
      | .double, value => value
      | .single, value => value.convert .double)
  | .scalar .decimal (some value) => some (DecimalFloat.toDouble value)
  | .scalar (.integer _) (some value) => some (Binary.ofInt .double value.val)
  | _ => none

end Value

def compareText (a b : String) : Ordering := compare a.toList b.toList

/-- The order of two non-null scalars of one type that is no integer and no floating-point number. -/
def ScalarType.compare? : (type : ScalarType) → type.Carrier → type.Carrier → Option Ordering
  | .boolean, a, b => some (compare a.toNat b.toNat)
  | .decimal, a, b => some (a.compare b)
  | .text, a, b => some (compareText a b)
  | .blob, a, b => some (compare a b)
  | .date, a, b => some (a.compare b)
  | .time, a, b => some (a.compare b)
  | .timestamp, a, b => some (a.compare b)
  | .offsetTimestamp, a, b => some (a.compare b)
  | .uuid, a, b => some (a.compare b)
  | .integer _, _, _ | .float _, _, _ => none

namespace Value

/-- The order of two numbers of which one is no integer, as doubles. -/
def compareDoubles? (a b : Value) : Option Ordering := do (← a.asDouble?).compare? (← b.asDouble?)

/-- The order of two values of one type that orders itself. -/
def compareAlike? : Value → Value → Option Ordering
  | .scalar type (some a), .scalar type' (some b) =>
    if h : type' = type then type.compare? a (h ▸ b) else none
  | _, _ => none

/-- The order of two values, none when they cannot be ordered. -/
def compare? (a b : Value) : Option Ordering :=
  match a.asInteger?, b.asInteger? with
  | some a, some b => some (compare a b)
  | _, _ =>
    match compareAlike? a b with
    | some order => some order
    | none => if a.kind.isNumeric && b.kind.isNumeric then compareDoubles? a b else none

/-- Equality as filters see it: nulls are equal to nulls, ordered values are compared by order, and others
structurally. -/
def equals (a b : Value) : Bool :=
  if a.isNull && b.isNull then true
  else
    match compare? a b with
    | some order => order = .eq
    | none => same a b

end Value

end Polystore
