import Polystore.Kind
import Polystore.Operator

/-!
Why operations fail. A failure is a chain of causes, the outermost first: faults of a known kind, notes that
say what was being done, and texts that could not be read in a standard format. The kind of a failure is its
outermost fault.
-/
namespace Polystore

/-- The kinds of failures. -/
inductive Fault where
  /-- A value has no native form, or no form of the asked type. -/
  | conversion (kind : Kind) (detail : String)
  /-- A condition has a value of a shape its operator does not take, or is malformed. -/
  | conditionShape (operator : Operator) (detail : String)
  /-- A back end cannot express an operator. -/
  | unsupportedCondition (backend : String) (operator : Operator)
  /-- A write needs an identity field that the entity lacks. -/
  | missingIdentity (collection field : String)
  /-- A request names no collection. -/
  | missingCollection
  /-- The native client failed. -/
  | execution (backend detail : String)
  /-- A back end does not offer the operation. -/
  | unsupportedFeature (backend feature : String)
  /-- A connection url or a parameter is malformed. -/
  | configuration (detail : String)
deriving DecidableEq, Repr

def Fault.text : Fault → String
  | .conversion kind detail => "cannot convert a value of kind " ++ kind.label ++ " (" ++ detail ++ ")"
  | .conditionShape operator detail => "invalid condition shape for " ++ operator.text ++ ": " ++ detail
  | .unsupportedCondition backend operator =>
    "the back end `" ++ backend ++ "` does not support the condition " ++ operator.text
  | .missingIdentity collection field =>
    "the entity of `" ++ collection ++ "` has no identity field `" ++ field ++ "`"
  | .missingCollection => "the collection name is required"
  | .execution backend detail => "execution failed on `" ++ backend ++ "`: " ++ detail
  | .unsupportedFeature backend feature =>
    "the back end `" ++ backend ++ "` does not support " ++ feature
  | .configuration detail => "invalid configuration: " ++ detail

/-- The standard formats whose readers do not say what they dislike. -/
inductive StandardFormat where
  | uuid | decimal | time
deriving DecidableEq, Repr

def StandardFormat.tag : StandardFormat → String
  | .uuid => "<uuid>"
  | .decimal => "<decimal>"
  | .time => "<time>"

/-- One link of a chain of causes. -/
inductive Cause where
  | fault (reason : Fault)
  | note (message : String)
  | unreadable (format : StandardFormat)
deriving DecidableEq, Repr

def Cause.text : Cause → String
  | .fault reason => reason.text
  | .note message => message
  | .unreadable format => format.tag

/-- A chain of causes, the outermost first. -/
structure Failure where
  causes : List Cause
deriving DecidableEq, Repr

namespace Failure

def ofFault (fault : Fault) : Failure := ⟨[.fault fault]⟩

def ofNote (text : String) : Failure := ⟨[.note text]⟩

def unreadable (format : StandardFormat) : Failure := ⟨[.unreadable format]⟩

def within (failure : Failure) (cause : Cause) : Failure := ⟨cause :: failure.causes⟩

def during (failure : Failure) (text : String) : Failure := failure.within (.note text)

def under (failure : Failure) (fault : Fault) : Failure := failure.within (.fault fault)

def text (failure : Failure) : String := String.intercalate ": " (failure.causes.map Cause.text)

def fault? (failure : Failure) : Option Fault :=
  failure.causes.findSome? fun
    | .fault reason => some reason
    | _ => none

@[simp] theorem fault?_ofFault (fault : Fault) : (ofFault fault).fault? = some fault := rfl

@[simp] theorem fault?_under (failure : Failure) (fault : Fault) :
    (failure.under fault).fault? = some fault := rfl

@[simp] theorem fault?_during (failure : Failure) (text : String) :
    (failure.during text).fault? = failure.fault? := rfl

end Failure

@[simp] theorem Except.pure_eq_ok {ε α : Type} (value : α) : (pure value : Except ε α) = .ok value := rfl

@[simp] theorem Except.ok_bind {ε α β : Type} (value : α) (next : α → Except ε β) :
    (Except.ok value >>= next) = next value := rfl

@[simp] theorem Except.error_bind {ε α β : Type} (error : ε) (next : α → Except ε β) :
    (Except.error error >>= next) = .error error := rfl

@[simp] theorem Except.mapError_ok {ε ε' α : Type} (change : ε → ε') (value : α) :
    (Except.ok value).mapError change = .ok value := rfl

@[simp] theorem Except.mapError_error {ε ε' α : Type} (change : ε → ε') (error : ε) :
    (Except.error error : Except ε α).mapError change = .error (change error) := rfl

/-- A step that follows another gives something only where the other does. -/
theorem Except.of_bind_eq_ok {ε α β : Type} {first : Except ε α} {next : α → Except ε β} {result : β}
    (gives : (first >>= next) = .ok result) : ∃ value, first = .ok value ∧ next value = .ok result := by
  cases first with
  | error error => cases gives
  | ok value => exact ⟨value, rfl, gives⟩

/-- Two steps fail where the first one does, or where the second one does on what the first gives. -/
theorem Except.of_bind_eq_error {ε α β : Type} {first : Except ε α} {next : α → Except ε β} {error : ε}
    (fails : (first >>= next) = .error error) :
    first = .error error ∨ ∃ value, first = .ok value ∧ next value = .error error := by
  cases first with
  | error other => exact .inl (congrArg Except.error (Except.error.inj fails))
  | ok value => exact .inr ⟨value, rfl, fails⟩

theorem Except.of_map_eq_error {ε α β : Type} {result : Except ε α} {change : α → β} {error : ε}
    (fails : result.map change = .error error) : result = .error error := by
  cases result with
  | error other => exact congrArg Except.error (Except.error.inj fails)
  | ok value => cases fails

theorem Except.of_map_eq_ok {ε α β : Type} {result : Except ε α} {change : α → β} {changed : β}
    (gives : result.map change = .ok changed) : ∃ value, result = .ok value ∧ change value = changed := by
  cases result with
  | error error => cases gives
  | ok value => exact ⟨value, rfl, Except.ok.inj gives⟩

theorem Except.of_mapError_eq_ok {ε ε' α : Type} {result : Except ε α} {change : ε → ε'} {value : α}
    (gives : result.mapError change = .ok value) : result = .ok value := by
  cases result with
  | error error => cases gives
  | ok other => exact congrArg Except.ok (Except.ok.inj gives)

/-- Adds a note to the failure of a result. -/
def Except.during {α : Type} (text : String) (result : Except Failure α) : Except Failure α :=
  result.mapError (Failure.during · text)

end Polystore
