import Polystore.Proofs.Predicate.KeyConditions

/-!
What builders are asked. The checks of a condition come before all requests, so a builder is asked for well formed
nodes with supported operators only; and it is asked for a combinator with the predicates that it has made itself. What
its answers to such requests have in common is therefore true of every predicate that it gets back, by induction over
the condition. The builders guard against other requests, and these guards are never reached.
-/
namespace Polystore

open Polystore.Action

variable {P : Type}

namespace Condition

theorem not_malformed_of_validate {condition : Condition} (valid : condition.validate = .ok ()) :
    ∀ node ∈ condition.nodes, ¬ node.Malformed := by
  intro node member malformed
  obtain ⟨detail, defect⟩ := defect?_of_malformed malformed
  have formed : condition.nodes.findSome? defect? = none := by
    rw [validate_eq_verdict] at valid
    cases first : condition.nodes.findSome? defect? with
    | none => rfl
    | some failure =>
      rw [first] at valid
      cases valid
  rw [List.findSome?_eq_none_iff.mp formed node member] at defect
  cases defect

end Condition

namespace PredicateBuilder

theorem supported_of_unsupported? {builder : PredicateBuilder P} {condition : Condition}
    (supported : builder.unsupported? condition = none) :
    ∀ node ∈ condition.nodes, builder.supported.contains node.operator = true := by
  intro node member
  rw [unsupported?, Condition.operators_eq_map] at supported
  simpa using List.find?_eq_none.mp supported node.operator (List.mem_map_of_mem member)

/-- A request that checked conditions lead to, given what the predicates have in common: for a well formed leaf, or for
some predicates together, of an operator that the builder supports. -/
inductive Expected (builder : PredicateBuilder P) (common : P → Prop) : BuilderCall P → Prop where
  | leaf {operator : Operator} {field : Field} (formed : ¬ (Condition.leaf operator field).Malformed)
    (supported : builder.supported.contains operator = true) : Expected builder common (.leaf operator field)
  | all {parts : List P} (some : parts ≠ []) (each : ∀ part ∈ parts, common part)
    (supported : builder.supported.contains .all = true) : Expected builder common (.all parts)
  | any {parts : List P} (some : parts ≠ []) (each : ∀ part ∈ parts, common part)
    (supported : builder.supported.contains .any = true) : Expected builder common (.any parts)

/-- The answers to expected requests have something in common. -/
def Keeps (builder : PredicateBuilder P) (common : P → Prop) : Prop :=
  ∀ call, builder.Expected common call → ∀ predicate, builder.answer call = .ok predicate → common predicate

/-- An action adds expected requests to those made before, and what it gives is as it should be. -/
def Asks (builder : PredicateBuilder P) (common : P → Prop) {α : Type} (good : α → Prop)
    (action : Action Failure (List (BuilderCall P)) α) : Prop :=
  ∀ record, ∃ calls, (effect action record).2 = record ++ calls ∧ (∀ call ∈ calls, builder.Expected common call) ∧
    ∀ result, (effect action record).1 = .ok result → good result

variable {builder : PredicateBuilder P} {common : P → Prop}

theorem asks_request (keeps : builder.Keeps common) {call : BuilderCall P} (expected : builder.Expected common call) :
    builder.Asks common common (builder.request call) := by
  intro record
  refine ⟨[call], rfl, ?_, keeps call expected⟩
  intro other member
  rwa [List.mem_singleton.mp member]

theorem asks_bind {α β : Type} {good : α → Prop} {better : β → Prop} {first : Action Failure (List (BuilderCall P)) α}
    {next : α → Action Failure (List (BuilderCall P)) β} (starts : builder.Asks common good first)
    (goesOn : ∀ value, good value → builder.Asks common better (next value)) :
    builder.Asks common better (first >>= next) := by
  intro record
  obtain ⟨calls, made, expected, given⟩ := starts record
  rw [effect_bind]
  cases started : effect first record with
  | mk result after =>
    rw [started] at made given
    subst made
    cases result with
    | error failure => exact ⟨calls, rfl, expected, nofun⟩
    | ok value =>
      obtain ⟨more, madeMore, expectedMore, givenMore⟩ := goesOn value (given value rfl) (record ++ calls)
      refine ⟨calls ++ more, madeMore.trans (List.append_assoc ..), ?_, givenMore⟩
      exact fun call member => (List.mem_append.mp member).elim (expected call) (expectedMore call)

theorem asks_pure {α : Type} {good : α → Prop} {value : α} (here : good value) :
    builder.Asks common good (pure value) := by
  intro record
  refine ⟨[], (List.append_nil record).symm, by simp, ?_⟩
  rintro _ ⟨⟩
  exact here

/-- A node that passes the checks. -/
def Passes (builder : PredicateBuilder P) (node : Condition) : Prop :=
  ¬ node.Malformed ∧ builder.supported.contains node.operator = true

mutual

theorem asks_translate (keeps : builder.Keeps common) : (condition : Condition) →
    (∀ node ∈ condition.nodes, builder.Passes node) → builder.Asks common common (builder.translate condition)
  | .leaf operator field, passes => by
    obtain ⟨formed, supported⟩ := passes _ (List.mem_singleton_self _)
    exact asks_request keeps (.leaf formed supported)
  | .all children, passes => by
    obtain ⟨formed, supported⟩ := passes _ (List.mem_cons_self ..)
    have others := asks_translateAll keeps children fun node member => passes node (List.mem_cons_of_mem _ member)
    refine asks_bind others ?_
    rintro parts ⟨length, each⟩
    refine asks_request keeps (.all (fun none => formed ?_) each supported)
    obtain rfl : children = [] := List.eq_nil_of_length_eq_zero (length.symm.trans (congrArg List.length none))
    exact .childlessAll
  | .any children, passes => by
    obtain ⟨formed, supported⟩ := passes _ (List.mem_cons_self ..)
    have others := asks_translateAll keeps children fun node member => passes node (List.mem_cons_of_mem _ member)
    refine asks_bind others ?_
    rintro parts ⟨length, each⟩
    refine asks_request keeps (.any (fun none => formed ?_) each supported)
    obtain rfl : children = [] := List.eq_nil_of_length_eq_zero (length.symm.trans (congrArg List.length none))
    exact .childlessAny

theorem asks_translateAll (keeps : builder.Keeps common) : (children : List Condition) →
    (∀ node ∈ Condition.nodesOf children, builder.Passes node) →
    builder.Asks common (fun parts => parts.length = children.length ∧ ∀ part ∈ parts, common part)
      (builder.translateAll children)
  | [], _ => asks_pure ⟨rfl, by simp⟩
  | child :: rest, passes => by
    have first := asks_translate keeps child fun node member => passes node (List.mem_append_left _ member)
    have others := asks_translateAll keeps rest fun node member => passes node (List.mem_append_right _ member)
    refine asks_bind first fun part here => asks_bind others fun parts each => asks_pure ⟨?_, ?_⟩
    · exact congrArg (· + 1) each.1
    · exact List.forall_mem_cons.mpr ⟨here, each.2⟩

end

/-- Building a condition leads to expected requests only, and the predicate has what the answers have in common. -/
theorem asks_build (keeps : builder.Keeps common) (condition : Condition) :
    (∀ call ∈ (effect (builder.build condition) []).2, builder.Expected common call) ∧
      ∀ predicate, (effect (builder.build condition) []).1 = .ok predicate → common predicate := by
  cases valid : condition.validate with
  | error failure =>
    rw [effect_build_of_invalid valid]
    exact ⟨by simp, nofun⟩
  | ok =>
    cases supported : builder.unsupported? condition with
    | some operator =>
      rw [effect_build_of_unsupported valid supported]
      exact ⟨by simp, nofun⟩
    | none =>
      rw [effect_build_of_passed valid supported]
      have passes (node : Condition) (member : node ∈ condition.nodes) : builder.Passes node :=
        ⟨condition.not_malformed_of_validate valid node member, supported_of_unsupported? supported node member⟩
      obtain ⟨calls, made, expected, given⟩ := asks_translate keeps condition passes []
      rw [made]
      exact ⟨expected, given⟩

end PredicateBuilder

namespace Filter

/-- A request against which filters are guarded: for a leaf with the operator of a combinator. -/
inductive Guarded : BuilderCall Filter → Prop where
  | leaf {operator : Operator} {field : Field} (combines : operator.isCombinator = true) :
    Guarded (.leaf operator field)

/-- A filter of the shape that its evaluation is made for: no leaf is a combinator, no combinator is empty, and values
are looked for among the elements of a list that is there. -/
inductive Formed : Filter → Prop where
  | leaf {operator : Operator} {name : String} {value : Value} (simple : operator.isCombinator = false)
    (listed : operator = .isIn → ∃ items hint, value = .list items hint) : Formed (.leaf operator name value)
  | all {children : List Filter} (some : children ≠ []) (each : ∀ child ∈ children, child.Formed) :
    Formed (.all children)
  | any {children : List Filter} (some : children ≠ []) (each : ∀ child ∈ children, child.Formed) :
    Formed (.any children)

/-- Whether the node at the top of a filter has a shape that only a fallback of the evaluation covers. -/
def isMisshapen : Filter → Bool
  | .leaf operator _ value => operator.isCombinator || operator = .isIn && value.asList?.isNone
  | .all children | .any children => children.isEmpty

mutual

/-- Whether a filter holds of a row, where the fallbacks say something else. -/
def holdsWith (fallback : Filter → Bool) (row : Row) : Filter → Bool
  | .leaf operator name value =>
    if isMisshapen (.leaf operator name value) then fallback (.leaf operator name value)
    else holds row (.leaf operator name value)
  | .all children => if children.isEmpty then fallback (.all children) else holdAllWith fallback row children
  | .any children => if children.isEmpty then fallback (.any children) else holdAnyWith fallback row children

def holdAllWith (fallback : Filter → Bool) (row : Row) : List Filter → Bool
  | [] => true
  | child :: rest => holdsWith fallback row child && holdAllWith fallback row rest

def holdAnyWith (fallback : Filter → Bool) (row : Row) : List Filter → Bool
  | [] => false
  | child :: rest => holdsWith fallback row child || holdAnyWith fallback row rest

end

theorem Formed.isMisshapen {filter : Filter} (formed : filter.Formed) : filter.isMisshapen = false := by
  cases formed with
  | @leaf operator name value simple listed =>
    rw [Filter.isMisshapen, simple, Bool.false_or, Bool.and_eq_false_iff, decide_eq_false_iff_not]
    by_cases among : operator = .isIn
    · obtain ⟨items, hint, rfl⟩ := listed among
      exact .inr rfl
    · exact .inl among
  | all some each | any some each => exact List.isEmpty_eq_false_iff.mpr some

/-- No fallback decides whether a filter of the right shape holds. -/
theorem Formed.holdsWith_eq {filter : Filter} (formed : filter.Formed) (fallback : Filter → Bool) (row : Row) :
    filter.holdsWith fallback row = filter.holds row := by
  induction formed with
  | leaf simple listed =>
    rw [holdsWith, (Formed.leaf simple listed).isMisshapen, if_neg Bool.false_ne_true]
  | @all children some each ih =>
    have together : holdAllWith fallback row children = holdAll row children := by
      clear some each
      induction children with
      | nil => rfl
      | cons child rest others =>
        obtain ⟨here, there⟩ := List.forall_mem_cons.mp ih
        rw [holdAllWith, holdAll, here, others there]
    rw [holdsWith, if_neg (by simpa using some), together, holds]
  | @any children some each ih =>
    have together : holdAnyWith fallback row children = holdAny row children := by
      clear some each
      induction children with
      | nil => rfl
      | cons child rest others =>
        obtain ⟨here, there⟩ := List.forall_mem_cons.mp ih
        rw [holdAnyWith, holdAny, here, others there]
    rw [holdsWith, if_neg (by simpa using some), together, holds]

variable {name : String} {converter : Converter} {supported : OperatorSet}

theorem answer_of_guarded {call : BuilderCall Filter} (guarded : Guarded call) :
    ∃ operator, (builder name converter supported).answer call =
      .error (.ofFault (.conditionShape operator "a combinator cannot be a leaf")) := by
  obtain ⟨combines⟩ := guarded
  exact ⟨_, if_pos combines⟩

theorem isCombinator_of_formed {operator : Operator} {field : Field}
    (formed : ¬ (Condition.leaf operator field).Malformed) : operator.isCombinator = false :=
  Bool.eq_false_iff.mpr fun combines => formed (.combinator field combines)

/-- A filter is of the right shape when its leaves come from well formed ones: a list is converted into a list. -/
theorem keeps_formed : (builder name converter supported).Keeps Formed := by
  rintro call (@⟨operator, field, formed, _⟩ | ⟨some, each, _⟩ | ⟨some, each, _⟩) filter answered
  · have simple := isCombinator_of_formed formed
    have made : ofLeaf converter operator field = .ok filter := answered
    rw [ofLeaf, if_neg (by simp [simple])] at made
    obtain ⟨native, converted, rfl⟩ := Except.of_map_eq_ok made
    refine .leaf simple ?_
    rintro rfl
    cases shape : field.value with
    | list items hint =>
      rw [shape, Converter.nativeOf] at converted
      obtain ⟨natives, _, rfl⟩ := Except.of_map_eq_ok converted
      exact ⟨_, _, rfl⟩
    | _ => exact absurd (.listless (by rw [shape]; rfl)) formed
  · cases answered
    exact .all some each
  · cases answered
    exact .any some each

theorem not_guarded {call : BuilderCall Filter} (expected : (builder name converter supported).Expected Formed call) :
    ¬ Guarded call := by
  rintro ⟨combines⟩
  cases expected with
  | leaf formed _ => exact formed (.combinator _ combines)

end Filter

namespace KeyLookup

/-- The requests against which key lookups are guarded: for a leaf on the key that neither compares for equality nor
looks among the elements of a list, for a conjunction of nothing, and for a disjunction. -/
inductive Guarded (key : String) : BuilderCall KeyLookup → Prop where
  | leaf {operator : Operator} {field : Field} (onKey : field.name = key) (other : operator ≠ .equals)
    (listless : operator = .isIn → field.value.asList? = none) : Guarded key (.leaf operator field)
  | childless : Guarded key (.all [])
  | any (children : List KeyLookup) : Guarded key (.any children)

/-- A guarded request is refused as unsupported, or finds no key. -/
theorem answer_of_guarded (name : String) {key : String} {call : BuilderCall KeyLookup} (guarded : Guarded key call) :
    (builder name key).answer call = .ok ⟨[]⟩ ∨
      ∃ operator, (builder name key).answer call = .error (.ofFault (.unsupportedCondition name operator)) := by
  cases guarded with
  | @leaf operator field onKey other listless =>
    refine .inr ⟨operator, ?_⟩
    have asked : (builder name key).answer (.leaf operator field) = ofLeaf name key operator field := rfl
    rw [asked]
    unfold ofLeaf
    rw [if_pos onKey]
    split
    · exact absurd rfl other
    · rename_i shape
      have none := listless rfl
      rw [shape] at none
      cases none
    · rfl
  | childless => exact .inl rfl
  | any children => exact .inr ⟨.any, rfl⟩

theorem not_guarded {name key : String} {common : KeyLookup → Prop} {call : BuilderCall KeyLookup}
    (expected : (builder name key).Expected common call) : ¬ Guarded key call := by
  intro guarded
  cases guarded with
  | @leaf operator field onKey other listless =>
    cases expected with
    | leaf formed supported =>
      cases operator with
      | equals => exact other rfl
      | isIn => exact formed (.listless (listless rfl))
      | all => exact formed (.combinator field rfl)
      | _ => cases supported
  | childless =>
    cases expected with
    | all some _ _ => exact some rfl
  | any children =>
    cases expected with
    | any _ _ supported => cases supported

end KeyLookup

namespace Store.Predicate

open Polystore.PredicateBuilder

/-- The requests against which a store is guarded: those with predicates of the other sort among the children, and
those that lead to one against which the builder of its addressing is guarded. -/
inductive GuardedBy (unwrap : Operator → List Predicate → Except Failure (List P)) (guarded : BuilderCall P → Prop) :
    BuilderCall Predicate → Prop where
  | leaf {operator : Operator} {field : Field} (within : guarded (.leaf operator field)) :
    GuardedBy unwrap guarded (.leaf operator field)
  | mixedAll {children : List Predicate} {failure : Failure} (mixed : unwrap .all children = .error failure) :
    GuardedBy unwrap guarded (.all children)
  | mixedAny {children : List Predicate} {failure : Failure} (mixed : unwrap .any children = .error failure) :
    GuardedBy unwrap guarded (.any children)
  | all {children : List Predicate} {parts : List P} (unmixed : unwrap .all children = .ok parts)
    (within : guarded (.all parts)) : GuardedBy unwrap guarded (.all children)
  | any {children : List Predicate} {parts : List P} (unmixed : unwrap .any children = .ok parts)
    (within : guarded (.any parts)) : GuardedBy unwrap guarded (.any children)

def Guarded (settings : Settings) : BuilderCall Predicate → Prop :=
  match settings.addressing with
  | .document => GuardedBy filters Filter.Guarded
  | .keyed => GuardedBy lookups (KeyLookup.Guarded settings.key)

/-- A predicate of the sort that one builder makes. -/
def Of (wrap : P → Predicate) (common : P → Prop) (predicate : Predicate) : Prop :=
  ∃ part, common part ∧ predicate = wrap part

variable {builder : PredicateBuilder P} {wrap : P → Predicate}
  {unwrap : Operator → List Predicate → Except Failure (List P)} {common : P → Prop}

theorem exists_parts {children : List Predicate} (each : ∀ child ∈ children, Of wrap common child) :
    ∃ parts : List P, (∀ part ∈ parts, common part) ∧ children = parts.map wrap := by
  induction children with
  | nil => exact ⟨[], by simp, rfl⟩
  | cons child rest ih =>
    obtain ⟨⟨part, here, rfl⟩, others⟩ := List.forall_mem_cons.mp each
    obtain ⟨parts, there, rfl⟩ := ih others
    exact ⟨part :: parts, List.forall_mem_cons.mpr ⟨here, there⟩, rfl⟩

/-- What a store is asked for with predicates of its sort, it asks the builder of its addressing for. -/
theorem exists_inner_call (undoes : ∀ operator parts, unwrap operator (parts.map wrap) = .ok parts)
    {call : BuilderCall Predicate} (expected : (lift builder wrap unwrap).Expected (Of wrap common) call) :
    ∃ inner, builder.Expected common inner ∧
      (lift builder wrap unwrap).answer call = (builder.answer inner).map wrap ∧
      ∀ guarded : BuilderCall P → Prop, GuardedBy unwrap guarded call → guarded inner := by
  cases expected with
  | @leaf operator field formed supported =>
    refine ⟨.leaf operator field, .leaf formed supported, rfl, ?_⟩
    rintro guarded ⟨within⟩
    exact within
  | all some each supported =>
    obtain ⟨parts, here, rfl⟩ := exists_parts each
    refine ⟨.all parts, .all (fun none => some (by rw [none]; rfl)) here supported, ?_, ?_⟩
    · simp only [lift, PredicateBuilder.answer, undoes, Except.ok_bind]
      rfl
    · intro guarded within
      cases within with
      | mixedAll mixed =>
        rw [undoes] at mixed
        cases mixed
      | all unmixed reached =>
        rw [undoes] at unmixed
        cases unmixed
        exact reached
  | any some each supported =>
    obtain ⟨parts, here, rfl⟩ := exists_parts each
    refine ⟨.any parts, .any (fun none => some (by rw [none]; rfl)) here supported, ?_, ?_⟩
    · simp only [lift, PredicateBuilder.answer, undoes, Except.ok_bind]
      rfl
    · intro guarded within
      cases within with
      | mixedAny mixed =>
        rw [undoes] at mixed
        cases mixed
      | any unmixed reached =>
        rw [undoes] at unmixed
        cases unmixed
        exact reached

theorem keeps_lift (undoes : ∀ operator parts, unwrap operator (parts.map wrap) = .ok parts)
    (keeps : builder.Keeps common) : (lift builder wrap unwrap).Keeps (Of wrap common) := by
  intro call expected predicate answered
  obtain ⟨inner, within, same, _⟩ := exists_inner_call undoes expected
  rw [same] at answered
  obtain ⟨part, given, rfl⟩ := Except.of_map_eq_ok answered
  exact ⟨part, keeps inner within part given, rfl⟩

theorem not_guardedBy (undoes : ∀ operator parts, unwrap operator (parts.map wrap) = .ok parts)
    {guarded : BuilderCall P → Prop} (free : ∀ inner, builder.Expected common inner → ¬ guarded inner)
    {call : BuilderCall Predicate} (expected : (lift builder wrap unwrap).Expected (Of wrap common) call) :
    ¬ GuardedBy unwrap guarded call := by
  obtain ⟨inner, within, _, reaches⟩ := exists_inner_call undoes expected
  exact fun reached => free inner within (reaches guarded reached)

/-- A store is asked nothing that it is guarded against, and its filters are of the right shape. -/
theorem builder_unguarded (settings : Settings) (converter : Converter) (condition : Condition) :
    (∀ call ∈ (effect ((Predicate.builder settings converter).build condition) []).2, ¬ Guarded settings call) ∧
      ∀ filter, (effect ((Predicate.builder settings converter).build condition) []).1 = .ok (.filter filter) →
        filter.Formed := by
  unfold Predicate.builder Guarded
  cases settings.addressing with
  | document =>
    obtain ⟨expected, given⟩ := asks_build (keeps_lift filters_map Filter.keeps_formed) condition
    refine ⟨fun call member => not_guardedBy filters_map (fun _ => Filter.not_guarded) (expected call member), ?_⟩
    intro filter built
    obtain ⟨_, formed, same⟩ := given _ built
    cases same
    exact formed
  | keyed =>
    have anything : (KeyLookup.builder driverName settings.key).Keeps fun _ => True := fun _ _ _ _ => trivial
    obtain ⟨expected, given⟩ := asks_build (keeps_lift lookups_map anything) condition
    refine ⟨fun call member => not_guardedBy lookups_map (fun _ => KeyLookup.not_guarded) (expected call member), ?_⟩
    intro filter built
    obtain ⟨_, _, same⟩ := given _ built
    cases same

end Store.Predicate

/-- No condition brings a builder to one of its guards, and no filter that is built has a shape that its evaluation
guards against. -/
theorem PredicateBuilder.guards_are_not_reached (condition : Condition) :
    (∀ (name : String) (converter : Converter) (supported : OperatorSet),
      let builder := Filter.builder name converter supported
      (∀ call, Filter.Guarded call → ∃ operator, builder.answer call =
        .error (.ofFault (.conditionShape operator "a combinator cannot be a leaf"))) ∧
      (∀ call ∈ (effect (builder.build condition) []).2, ¬ Filter.Guarded call) ∧
      ∀ filter, (effect (builder.build condition) []).1 = .ok filter →
        filter.Formed ∧ ∀ fallback row, filter.holdsWith fallback row = filter.holds row) ∧
    (∀ name key : String,
      let builder := KeyLookup.builder name key
      (∀ call, KeyLookup.Guarded key call → builder.answer call = .ok ⟨[]⟩ ∨
        ∃ operator, builder.answer call = .error (.ofFault (.unsupportedCondition name operator))) ∧
      ∀ call ∈ (effect (builder.build condition) []).2, ¬ KeyLookup.Guarded key call) ∧
    ∀ (settings : Store.Settings) (converter : Converter),
      let builder := Store.Predicate.builder settings converter
      (∀ call ∈ (effect (builder.build condition) []).2, ¬ Store.Predicate.Guarded settings call) ∧
      ∀ filter, (effect (builder.build condition) []).1 = .ok (.filter filter) →
        filter.Formed ∧ ∀ fallback row, filter.holdsWith fallback row = filter.holds row := by
  refine ⟨fun name converter supported => ?_, fun name key => ?_, fun settings converter => ?_⟩
  · have keeps : (Filter.builder name converter supported).Keeps Filter.Formed := Filter.keeps_formed
    obtain ⟨expected, given⟩ := asks_build keeps condition
    refine ⟨fun _ => Filter.answer_of_guarded, fun call member => Filter.not_guarded (expected call member), ?_⟩
    exact fun filter built => ⟨given filter built, (given filter built).holdsWith_eq⟩
  · have anything : (KeyLookup.builder name key).Keeps fun _ => True := fun _ _ _ _ => trivial
    obtain ⟨expected, _⟩ := asks_build anything condition
    exact ⟨fun _ => KeyLookup.answer_of_guarded name, fun call member => KeyLookup.not_guarded (expected call member)⟩
  · obtain ⟨free, formed⟩ := Store.Predicate.builder_unguarded settings converter condition
    exact ⟨free, fun filter built => ⟨formed filter built, (formed filter built).holdsWith_eq⟩⟩

/-- A disjunction with a membership in it is built into a filter that no fallback decides, by a filter builder and by a
store; no key lookup is asked for it. -/
theorem membership_or_pattern_is_unguarded :
    let condition : Condition := .any [.leaf .isIn ⟨"n", .list [.text "a"] .null⟩, .leaf .like ⟨"n", .text "b%"⟩]
    let filter : Filter := .any [.leaf .isIn "n" (.list [.text "a"] .null), .leaf .like "n" (.text "b%")]
    let builder := Filter.builder "rows" {} .full
    let store := Store.Predicate.builder {} {}
    (effect (builder.build condition) []).1 = .ok filter ∧
      (effect (store.build condition) []).1 = .ok (.filter filter) ∧
      filter.Formed ∧ filter.holdsWith (fun _ => true) [⟨"n", .scalar (.text "c")⟩] =
        filter.holds [⟨"n", .scalar (.text "c")⟩] ∧
      Filter.Guarded (.leaf .all ⟨"n", .null⟩) ∧ (builder.answer (.leaf .all ⟨"n", .null⟩)).isOk = false ∧
      KeyLookup.Guarded "n" (.any []) ∧ .any [] ∉ (effect ((KeyLookup.builder "rows" "n").build condition) []).2 := by
  intro condition filter builder store
  obtain ⟨filters, lookups, stores⟩ := PredicateBuilder.guards_are_not_reached condition
  obtain ⟨refused, _, formed⟩ := filters "rows" {} .full
  have built : (effect (builder.build condition) []).1 = .ok filter := rfl
  have stored : (effect (store.build condition) []).1 = .ok (.filter filter) := rfl
  have guarded : Filter.Guarded (.leaf .all ⟨"n", .null⟩) := ⟨rfl⟩
  refine ⟨built, stored, ((stores {} {}).2 filter stored).1, (formed filter built).2 _ _, guarded, ?_, .any [], ?_⟩
  · obtain ⟨operator, answered⟩ := refused _ guarded
    rw [answered]
    rfl
  · exact fun asked => (lookups "rows" "n").2 _ asked (.any [])

end Polystore
