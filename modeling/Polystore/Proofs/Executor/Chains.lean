import Polystore.Predicate.Transcript
import Polystore.Proofs.Executor.Conversations
import Polystore.Session.Scripted

/-!
Chains of reads, each from the cursor of the one before. A page brings a token to go on with or the end, an end stays
the end, and of all native calls that a chain makes only the first can be one without a token: no chain comes back to
the beginning.
-/
namespace Polystore

open Polystore.Action

variable {σ P : Type}

theorem Response.isSome_of_not_isLast {response : Response} (more : response.isLast = false) :
    response.token.isSome = true := by
  unfold isLast at more
  cases token : response.token with
  | none => simp [token] at more
  | some token => rfl

namespace Conversation

variable {ask : Option PagingToken → Statement P} {budget : Nat} {token : Option PagingToken}
  {exchanges : List (Exchange P)} {ending : Ending}

/-- Behind a token all statements of a conversation have one. -/
theorem tokens_of_isSome (asks : ∀ token, (ask token).token = token)
    (conversation : Conversation ask budget token exchanges ending) (resumed : token.isSome = true) :
    ∀ exchange ∈ exchanges, exchange.statement.token.isSome = true := by
  induction conversation with
  | suspended token => simp
  | failed budget token cause => simpa [asks] using resumed
  | complete budget token response last => simpa [asks] using resumed
  | next token more later ih => simpa [asks, resumed] using ih (Response.isSome_of_not_isLast more)

/-- The first statement of a conversation has the token that it starts with, and all others have one. -/
theorem tokens (asks : ∀ token, (ask token).token = token)
    (conversation : Conversation ask (budget + 1) token exchanges ending) :
    ∃ first rest, exchanges = first :: rest ∧ first.statement.token = token ∧
      ∀ exchange ∈ rest, exchange.statement.token.isSome = true := by
  cases conversation with
  | failed _ _ cause => exact ⟨_, [], rfl, asks token, by simp⟩
  | complete _ _ response last => exact ⟨_, [], rfl, asks token, by simp⟩
  | next _ more later =>
    exact ⟨_, _, rfl, asks token, later.tokens_of_isSome asks (Response.isSome_of_not_isLast more)⟩

/-- A conversation in which something was said stops at a token, if it stops before its end. -/
theorem isSome_of_suspended {last : Option PagingToken} (resumed : budget = 0 → token.isSome = true)
    (conversation : Conversation ask budget token exchanges (.suspended last)) : last.isSome = true := by
  generalize stopped : Ending.suspended last = ending at conversation
  induction conversation with
  | suspended token =>
    cases stopped
    exact resumed rfl
  | failed budget token cause => cases stopped
  | complete budget token response last => cases stopped
  | next token more later ih => exact ih (fun _ => Response.isSome_of_not_isLast more) stopped

end Conversation

theorem Cursor.progress_of_resumes {cursor : Cursor} (resumes : cursor.exhausted = true ∨ cursor.token.isSome = true) :
    cursor.progress = .exhausted ∨ cursor.progress = .inProgress ∧ cursor.token.isSome = true := by
  cases ended : cursor.exhausted with
  | true => exact Or.inl (by simp [progress, ended])
  | false =>
    have resumed := resumes.resolve_left (by simp [ended])
    exact Or.inr ⟨by simp [progress, ended, resumed], resumed⟩

/-- One read of a chain: the cursor that it starts from, the page that it gives, and what is said meanwhile. -/
structure Link (P : Type) where
  cursor : Cursor
  page : Page
  exchanges : List (Exchange P)

namespace Executor

/-- Reads that give a page, each from the cursor of the page before. Each is in either mode and for any query, and
finds the session as other clients have left it. -/
inductive Chain (executor : Executor σ P) : Cursor → List (Link P) → Prop where
  | stop (cursor : Cursor) : Chain executor cursor []
  | read (mode : PagingMode) (budget : Nat) (query : Query) (now after : σ) {cursor : Cursor} {page : Page}
    {exchanges : List (Exchange P)} {rest : List (Link P)}
    (reads : effect ((executor.inMode mode).recorded.select (budget + 1) query cursor) (now, []) =
      (.ok page, (after, exchanges)))
    (later : Chain executor page.cursor rest) : Chain executor cursor (⟨cursor, page, exchanges⟩ :: rest)

/-- A read behind a cursor that is not exhausted asks first for what is behind the cursor, then with tokens only, and
stops at a token or at the end. -/
theorem select_goes_on {executor : Executor σ P} {budget : Nat} {query : Query} {cursor : Cursor} {now after : σ}
    {page : Page} {exchanges : List (Exchange P)} (more : cursor.exhausted = false)
    (reads : effect (executor.recorded.select (budget + 1) query cursor) (now, []) = (.ok page, (after, exchanges))) :
    (page.cursor.exhausted = true ∨ page.cursor.token.isSome = true) ∧
      ∃ first rest, exchanges = first :: rest ∧ first.statement.token = cursor.token ∧
        ∀ exchange ∈ rest, exchange.statement.token.isSome = true := by
  cases accepted : executor.accepted query with
  | error failure =>
    have refused : executor.recorded.accepted query = .error failure := accepted
    rw [executor.recorded.effect_select_refused refused _ more] at reads
    cases reads
  | ok predicate =>
    obtain ⟨fewer, said, ending, _, conversation, _, wrote⟩ := executor.select_converses accepted budget more now []
    rw [reads] at wrote
    obtain ⟨gives, record⟩ := Prod.mk.inj wrote
    have same : exchanges = said := (Prod.mk.inj record).2
    rw [same]
    refine ⟨?_, conversation.tokens fun _ => rfl⟩
    cases ending with
    | complete =>
      cases gives
      exact Or.inl rfl
    | failed cause => cases gives
    | suspended token =>
      cases gives
      exact Or.inr (conversation.isSome_of_suspended fun none => absurd none (Nat.succ_ne_zero fewer))

/-- Each link of a chain goes on from its cursor, and the links behind it are a chain from its page. -/
theorem Chain.split {executor : Executor σ P} {cursor : Cursor} {before later : List (Link P)} {link : Link P}
    (chain : executor.Chain cursor (before ++ link :: later)) :
    executor.Chain link.page.cursor later ∧
      (link.cursor.exhausted = false → link.page.cursor.exhausted = true ∨ link.page.cursor.token.isSome = true) := by
  induction before generalizing cursor with
  | nil =>
    cases chain with
    | read mode budget query now after reads rest => exact ⟨rest, fun more => (select_goes_on more reads).1⟩
  | cons head before ih =>
    cases chain with
    | read mode budget query now after reads rest => exact ih rest

/-- Behind an exhausted cursor a chain reads nothing, says nothing and stays where it is. -/
theorem Chain.stays {executor : Executor σ P} {cursor : Cursor} {links : List (Link P)}
    (chain : executor.Chain cursor links) (last : cursor.exhausted = true) :
    ∀ link ∈ links, link = ⟨cursor, .empty cursor, []⟩ := by
  induction chain with
  | stop cursor => simp
  | read mode budget query now after reads later ih =>
    rw [effect_select_exhausted _ _ _ last] at reads
    cases reads
    intro link member
    rcases List.mem_cons.mp member with here | there
    · exact here
    · exact ih last link there

/-- Behind a token, or an exhausted cursor, all statements of a chain have a token. -/
theorem Chain.resumes {executor : Executor σ P} {cursor : Cursor} {links : List (Link P)}
    (chain : executor.Chain cursor links) (resumed : cursor.exhausted = true ∨ cursor.token.isSome = true) :
    ∀ exchange ∈ links.flatMap Link.exchanges, exchange.statement.token.isSome = true := by
  induction chain with
  | stop cursor => simp
  | @read mode budget query now after cursor page exchanges rest reads later ih =>
    cases last : cursor.exhausted with
    | true =>
      rw [effect_select_exhausted _ _ _ last] at reads
      cases reads
      exact ih (Or.inl last)
    | false =>
      obtain ⟨goesOn, first, others, said, start, tokens⟩ := select_goes_on last reads
      have given : cursor.token.isSome = true := resumed.resolve_left (by simp [last])
      intro exchange member
      rw [List.flatMap_cons, said, List.cons_append] at member
      rcases List.mem_cons.mp member with rfl | member
      · rw [start]
        exact given
      · rcases List.mem_append.mp member with here | there
        · exact tokens exchange here
        · exact ih goesOn exchange there

/-- A chain of reads never starts again: all its statements behind the first have a token, and once it has come to its
end it stays there and asks nothing. -/
theorem chains_go_forward (executor : Executor σ P) {cursor : Cursor} {links : List (Link P)}
    (chain : executor.Chain cursor links) :
    (∀ link ∈ links, link.cursor.exhausted = false →
      link.page.cursor.progress = .exhausted ∨
        link.page.cursor.progress = .inProgress ∧ link.page.cursor.token.isSome = true) ∧
    (∀ (last : Cursor) (mode : PagingMode) (budget : Nat) (query : Query) (now : σ), last.exhausted = true →
      effect ((executor.inMode mode).recorded.select budget query last) (now, []) = (.ok (.empty last), (now, []))) ∧
    (∀ before link later, links = before ++ link :: later → link.page.cursor.exhausted = true →
      ∀ other ∈ later, other = ⟨link.page.cursor, .empty link.page.cursor, []⟩) ∧
    (cursor.exhausted = false → links ≠ [] →
      ∃ first rest, links.flatMap Link.exchanges = first :: rest ∧ first.statement.token = cursor.token ∧
        ∀ exchange ∈ rest, exchange.statement.token.isSome = true) := by
  refine ⟨?_, fun last mode budget query now ended => effect_select_exhausted _ _ _ ended _, ?_, ?_⟩
  · intro link member more
    obtain ⟨before, later, rfl⟩ := List.append_of_mem member
    exact Cursor.progress_of_resumes (chain.split.2 more)
  · intro before link later split ended
    subst split
    exact chain.split.1.stays ended
  · intro more some
    cases chain with
    | stop cursor => exact absurd rfl some
    | read mode budget query now after reads later =>
      obtain ⟨goesOn, first, rest, said, start, tokens⟩ := select_goes_on more reads
      refine ⟨first, rest ++ _, by rw [List.flatMap_cons, said, List.cons_append], start, ?_⟩
      intro exchange member
      rcases List.mem_append.mp member with here | there
      · exact tokens exchange here
      · exact later.resumes goesOn exchange there

/-- A chain over an empty page in one mode and two pages in the other, the last without a token, and then a read of
nothing for a query without a collection. -/
theorem chain_goes_forward_to_tokenless_page :
    let token (byte : UInt8) : PagingToken := ⟨[byte]⟩
    let row (text : String) : Row := [⟨"n", .scalar (.text text)⟩]
    let first : Response := ⟨[], none, some (token 1), false⟩
    let second : Response := ⟨[row "a"], none, some (token 2), false⟩
    let third : Response := ⟨[row "b"], none, none, false⟩
    let executor : Executor (Scripted.Script String) String :=
      ⟨Scripted.session (Transcript.builder "b" .full none), {}, .pagingState⟩
    let query : Query := { collection := "c" }
    let said (token : Option PagingToken) (response : Response) : Exchange String :=
      ⟨query.statement none token, .ok response⟩
    let entities : List Entity := ["a", "b"].map fun text => ⟨"c", [⟨"n", .text text⟩]⟩
    let links : List (Link String) :=
      [⟨.start, ⟨[], ⟨some (token 1), false⟩⟩, [said none first]⟩,
        ⟨⟨some (token 1), false⟩, ⟨entities, .finished⟩, [said (some (token 1)) second, said (some (token 2)) third]⟩,
        ⟨.finished, .empty .finished, []⟩]
    executor.Chain .start links ∧
      ∃ head rest, links.flatMap Link.exchanges = head :: rest ∧ head.statement.token = none ∧
        ∀ exchange ∈ rest, exchange.statement.token.isSome = true := by
  intro token row first second third executor query said entities links
  have chain : executor.Chain .start links := by
    refine .read .pagingState 0 query ⟨[.ok first], []⟩ ⟨[], [query.statement none none]⟩ ?_ ?_
    · simp only [token, first, executor, query, said]
      rfl
    refine .read .drain 4 query ⟨[.ok second, .ok third], []⟩
      ⟨[], [query.statement none (some (token 1)), query.statement none (some (token 2))]⟩ ?_ ?_
    · simp only [token, row, second, third, executor, query, said, entities]
      rfl
    exact .read .drain 0 { collection := "" } ⟨[], []⟩ ⟨[], []⟩ rfl (.stop .finished)
  exact ⟨chain, (executor.chains_go_forward chain).2.2.2 rfl (List.cons_ne_nil _ _)⟩

end Executor

end Polystore
