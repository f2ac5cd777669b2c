import Polystore.Predicate.Filter
import Polystore.Predicate.KeyLookup
import Polystore.Store.Settings

/-!
The predicates of a store: filters where rows are addressed by any condition, key lookups where they are
addressed by key. One store builds one sort of them only.
-/
namespace Polystore.Store

/-- A predicate of either addressing. -/
inductive Predicate where
  | filter (filter : Filter)
  | keys (lookup : KeyLookup)

namespace Predicate

private def mixed (operator : Operator) (detail : String) : Failure :=
  .ofFault (.conditionShape operator detail)

def filters (operator : Operator) : List Predicate → Except Failure (List Filter)
  | [] => .ok []
  | .filter part :: rest => do return part :: (← filters operator rest)
  | .keys _ :: _ => .error (mixed operator "cannot mix key lookups and filters")

def lookups (operator : Operator) : List Predicate → Except Failure (List KeyLookup)
  | [] => .ok []
  | .keys part :: rest => do return part :: (← lookups operator rest)
  | .filter _ :: _ => .error (mixed operator "cannot mix filters and key lookups")

/-- Builds predicates with a builder of one sort of them. -/
def lift {P : Type} (builder : PredicateBuilder P) (wrap : P → Predicate)
    (unwrap : Operator → List Predicate → Except Failure (List P)) : PredicateBuilder Predicate where
  name := builder.name
  supported := builder.supported
  leaf operator field := (builder.leaf operator field).map wrap
  all children := do return wrap (← builder.all (← unwrap .all children))
  any children := do return wrap (← builder.any (← unwrap .any children))

def builder (settings : Settings) (converter : Converter) : PredicateBuilder Predicate :=
  match settings.addressing with
  | .document => lift (Filter.builder driverName converter .full) .filter filters
  | .keyed => lift (KeyLookup.builder driverName settings.key) .keys lookups

end Predicate

end Polystore.Store
