import Polystore.Conformance.Check

/-!
Fields come back as they were written: scalars of every sort, lists, and documents in documents.
-/
namespace Polystore.Conformance

variable {σ : Type}

def noon : Time := ⟨12, 0, 10, 0, by decide⟩

def birthday : Date := ⟨1815, 12, 10, by decide⟩

def identifier : Uuid := ⟨0x5e915574bb30443098cfc5854f61fbbd, by decide⟩

def price : Decimal := ⟨false, 1250, 2, by decide, by decide⟩

def quarter : Binary .double := Binary.round .double false 1 4

def latitude : Binary .double := Binary.round .double false 103 2

private def failed (what : String) : String := "Failed to " ++ what

def firstScalars : Entity :=
  ⟨"simple_fields",
    [⟨key, .text "simple-1"⟩, ⟨"alpha", .scalar (.integer .u8) none⟩, ⟨"bravo", int32 777⟩,
      ⟨"charlie", .word (Word.clamp .i16 (-2))⟩, ⟨"delta", .word (Word.clamp .u64 9876543210)⟩,
      ⟨"echo", .scalar .uuid none⟩, ⟨"foxtrot", .scalar (.float .double) (some quarter)⟩,
      ⟨"golf", .scalar .time (some noon)⟩, ⟨"hotel", .text "Hello world!"⟩, ⟨"india", .boolean true⟩]⟩

def secondScalars : Entity :=
  ⟨"simple_fields",
    [⟨key, .text "simple-2"⟩, ⟨"alpha", .word (Word.clamp .u8 255)⟩, ⟨"echo", .scalar .uuid (some identifier)⟩,
      ⟨"juliet", .scalar .date (some birthday)⟩, ⟨"kilo", .scalar .decimal (some price)⟩]⟩

def demandFirstScalars (entity : Entity) : Check σ Unit := do
  demand (entity.collection = "simple_fields")
  demandRead entity "alpha" (.optional (.scalar (.integer .u8))) none
  demandRead entity "bravo" i32 (Word.clamp .i32 777)
  demandRead entity "charlie" (.scalar (.integer .i16)) (Word.clamp .i16 (-2))
  demandRead entity "delta" u64 (Word.clamp .u64 9876543210)
  demandRead entity "echo" (.optional (.scalar .uuid)) none
  demandRead entity "foxtrot" (.scalar (.float .double)) quarter
  demandRead entity "golf" (.scalar .time) noon
  demandRead entity "hotel" text "Hello world!"
  demandRead entity "india" (.scalar .boolean) true
  demandRead entity key text "simple-1"

def demandSecondScalars (entity : Entity) : Check σ Unit := do
  demandRead entity "alpha" (.scalar (.integer .u8)) (Word.clamp .u8 255)
  demandRead entity "echo" (.scalar .uuid) identifier
  demandRead entity "juliet" (.scalar .date) birthday
  demandRead entity "kilo" (.scalar .decimal) price
  demand (entity.find? "bravo").isNone

def scalars (subject : Subject σ) : Check σ Unit := do
  let whole : Query := { collection := "simple_fields" }
  let _ ← clear subject "simple_fields"
  let written ← succeed (failed "insert simple 1") (subject.connection.insert firstScalars)
  demandRead written key text "simple-1"
  demandRevision written 1
  demandFirstScalars (← readOne subject (failed "query simple 1")
    { whole with condition := some (keyIs "simple-1") })
  let _ ← succeed (failed "insert simple 2") (subject.connection.insert secondScalars)
  demandSecondScalars (← readOne subject (failed "query simple 2")
    { whole with condition := some (keyIs "simple-2") })
  let all ← readAll subject (failed "query simple_fields") whole
  demand (all.length = 2)
  demand ((← clear subject "simple_fields") = 2)

def person : Entity :=
  ⟨"nested_people",
    [⟨key, .text "ada"⟩, ⟨"name", .text "Ada"⟩,
      ⟨"scores", (DataType.vector i32).encode ([3, 1, 2].map (Word.clamp .i32))⟩,
      ⟨"address", .documents [⟨"city", .text "London"⟩, ⟨"zip", .text "W1"⟩,
        ⟨"geo", .documents [⟨"lat", .scalar (.float .double) (some latitude)⟩]⟩]⟩,
      ⟨"manager", .document ⟨"name", .text "Charles"⟩⟩]⟩

def fieldsOf? : Value → Option (List Field)
  | .documents fields => some fields
  | _ => none

/-- The only field of a sub-document, which has a name and an element. -/
def demandOnly (fields : List Field) (name : String) (type : DataType) (expected : type.Element) :
    Check σ Unit := do
  match fields with
  | [field] => do
    demand (field.name = name)
    demandElement field type expected
  | _ => breach .unequal

def demandAddress (fields : List Field) : Check σ Unit := do
  match fields with
  | [city, zip, geo] => do
    demand (Named.names fields = ["city", "zip", "geo"])
    demandElement city text "London"
    demandElement zip text "W1"
    let inner ← presentAs "The nested sub-document should keep its shape" (fieldsOf? geo.value)
    demandOnly inner "lat" (.scalar (.float .double)) latitude
  | _ => breach .unequal

def documents (subject : Subject σ) : Check σ Unit := do
  let _ ← clear subject "nested_people"
  let _ ← succeed (failed "insert a nested entity") (subject.connection.insert person)
  let entity ← readOne subject (failed "query nested_people")
    { collection := "nested_people", condition := some (keyIs "ada") }
  demandRead entity "name" text "Ada"
  demandRead entity "scores" (.vector i32) ([3, 1, 2].map (Word.clamp .i32))
  demandAddress (← presentAs "The address should be read back as a sub-document"
    (fieldsOf? (← fieldOf entity "address").value))
  demandOnly (← presentAs "The manager should be read back as a sub-document"
    (fieldsOf? (← fieldOf entity "manager").value)) "name" text "Charles"

end Polystore.Conformance
