import Polystore.Conformance.Check

/-!
Writes give keys and revisions, removals tell what they removed, and entities with a lifetime are gone when it
is over.
-/
namespace Polystore.Conformance

variable {σ : Type}

def isKeyFault : Fault → Bool
  | .missingIdentity _ field => field = key
  | _ => false

def identity (subject : Subject σ) : Check σ Unit := do
  let users : Query := { collection := "identity_users" }
  let queryFailed := "Failed to query identity_users"
  let nameless (name : String) : Entity := ⟨"identity_users", [⟨"name", .text name⟩]⟩
  let _ ← clear subject "identity_users"
  let written ← succeed "Failed to insert without a key" (subject.connection.insert (nameless "Grace"))
  let keyField ← presentAs "The written entity must carry its key" (written.find? key)
  let made ← elementOf keyField text
  demand (made ≠ "")
  demand ((written.findAll key).length = 1)
  demandRevision written 1
  demandRead written "name" text "Grace"
  let updated ← succeed "Failed to update identity_users"
    (subject.connection.update ((written.remove "name").set "name" (.text "Grace Hopper")))
  demand ((updated.findAll revision).length = 1)
  demandRevision updated 2
  demandRead updated key text made
  let found ← readOne subject queryFailed { users with condition := some (keyIs made) }
  demandRead found "name" text "Grace Hopper"
  demandRevision found 2
  let overwritten ← succeed "Failed to overwrite identity_users"
    (subject.connection.insert ⟨"identity_users", [⟨key, .text made⟩, ⟨"name", .text "Amazing Grace"⟩]⟩)
  demandRevision overwritten 3
  let _ ← readOne subject queryFailed users
  refuse "An update without key must fail" (subject.connection.update (nameless "Nobody")) isKeyFault
  refuse "An entity without collection must be rejected" (subject.connection.insert ⟨"", []⟩)
    (· = .missingCollection)

def book (name title : String) : Entity :=
  ⟨"delete_books", [⟨key, .text name⟩, ⟨"title", .text title⟩, ⟨"pages", int32 100⟩]⟩

def removals (subject : Subject σ) : Check σ Unit := do
  let books : Query := { collection := "delete_books" }
  let remove (message : String) (condition : Condition) (expected : Nat) : Check σ Unit := do
    let removed ← succeed message
      (subject.connection.delete { collection := "delete_books", condition := some condition })
    demand (removed = expected)
  let _ ← clear subject "delete_books"
  insertAll subject "Failed to insert into delete_books"
    [book "b1" "Dune", book "b2" "Emma", book "b3" "Ulysses", book "b4" "Walden"]
  remove "Failed to delete one book" (keyIs "b2") 1
  remove "Failed to delete a missing book" (keyIs "b2") 0
  remove "Failed to delete two books" (keyIn ["b1", "b3"]) 2
  let left ← readOne subject "Failed to query delete_books" books
  demandRead left "title" text "Walden"
  demand ((← clear subject "delete_books") = 1)
  demand (← readAll subject "Failed to query delete_books" books).isEmpty

def login (name user : String) : Entity := ⟨"ttl_sessions", [⟨key, .text name⟩, ⟨"user", .text user⟩]⟩

def expiry (subject : Subject σ) : Check σ Unit := do
  let logins : Query := { collection := "ttl_sessions" }
  let short : Query := { logins with condition := some (keyIs "short") }
  let failed := "Failed to query ttl_sessions"
  let insert (entity : Entity) (lifetime : Nat) : Check σ Unit := do
    let _ ← succeed "Failed to insert with a time to live" (subject.connection.insertExpiring entity lifetime)
  let _ ← clear subject "ttl_sessions"
  insert (login "short" "ada") 100
  insert (login "long" "grace") 3600000
  let _ ← readOne subject failed short
  subject.sleep 250
  let expired ← readAll subject failed short
  demandThat "The entity should have expired" expired.isEmpty
  let left ← readOne subject failed logins
  demandRead left "user" text "grace"

def event (n : Nat) : Entity := ⟨"callback_events", [⟨key, .text ("event-" ++ toString n)⟩, ⟨"n", int32 n⟩]⟩

def callbacks (subject : Subject σ) : Check σ Unit := do
  let events : Query := { collection := "callback_events" }
  let select (query : Query) (cursor : Cursor) : Check σ Page :=
    succeed "Failed to select callback_events" (subject.connection.select query cursor)
  let _ ← clear subject "callback_events"
  insertAll subject "Failed to insert into callback_events" ((List.range 3).map event)
  let page ← select { events with fetchSize := some 10 } .start
  demand (page.entities.length = 3)
  demand page.cursor.exhausted
  let rest ← select events page.cursor
  demand rest.entities.isEmpty

end Polystore.Conformance
