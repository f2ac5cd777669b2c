import Polystore.Value.Compare

/-!
Native values: the nested maps and lists that clients of back ends read and write, with values as leaves. A
native value has an opaque form as a value, in which maps stay maps.
-/
namespace Polystore

/-- What a client of a back end reads and writes. -/
inductive Native where
  | scalar (value : Value)
  /-- A map that keeps the order of insertion; no name occurs twice. -/
  | map (entries : List (Named Native))
  | list (items : List Native)

instance : Inhabited Native := ⟨.scalar .null⟩

/-- A row of a collection: a map of native values. -/
abbrev Row := List (Named Native)

namespace Native

def isMap : Native → Bool
  | .map _ => true
  | _ => false

def asMap? : Native → Option Row
  | .map entries => some entries
  | _ => none

def asScalar? : Native → Option Value
  | .scalar value => some value
  | _ => none

/-- Whether a native value is a list of maps, with at least one. -/
def isDocumentList : Native → Bool
  | .list items => !items.isEmpty && items.all isMap
  | _ => false

mutual

/-- The value that holds a native value without reading its maps as documents. -/
def opaqueValue : Native → Value
  | .scalar value => value
  | .map entries => .map (opaqueEntries entries)
  | .list items => .list (opaqueItems items) .null

def opaqueItems : List Native → List Value
  | [] => []
  | item :: rest => opaqueValue item :: opaqueItems rest

def opaqueEntries : List (Named Native) → List (Named Value)
  | [] => []
  | entry :: rest => opaqueEntry entry :: opaqueEntries rest

def opaqueEntry : Named Native → Named Value
  | ⟨name, value⟩ => ⟨name, opaqueValue value⟩

end

theorem opaqueItems_eq_map (items : List Native) : opaqueItems items = items.map opaqueValue := by
  induction items with
  | nil => rfl
  | cons item rest ih => rw [opaqueItems, ih, List.map_cons]

theorem opaqueEntries_eq_map (entries : List (Named Native)) :
    opaqueEntries entries = entries.map (Named.map opaqueValue) := by
  induction entries with
  | nil => rfl
  | cons entry rest ih => rw [opaqueEntries, ih, opaqueEntry, List.map_cons, Named.map]

mutual

/-- Equality of native values; the order of map entries does not count. -/
def same : Native → Native → Bool
  | .scalar a, .scalar b => a.same b
  | .map a, .map b => a.length = b.length && sameEntries a b
  | .list a, .list b => sameItems a b
  | _, _ => false

/-- Equality of lists of native values, place by place. -/
def sameItems : List Native → List Native → Bool
  | [], [] => true
  | a :: as, b :: bs => same a b && sameItems as bs
  | _, _ => false

/-- Whether each entry has an equal one of its name. -/
def sameEntries : List (Named Native) → List (Named Native) → Bool
  | [], _ => true
  | entry :: rest, others => sameEntry entry others && sameEntries rest others

/-- Whether an entry has an equal one of its name. -/
def sameEntry : Named Native → List (Named Native) → Bool
  | ⟨name, value⟩, others =>
    match Named.find? others name with
    | some other => same value other
    | none => false

end

end Native

end Polystore
