import PagedResults.Proofs.Conversation.Statements
import PagedResults.Proofs.Fidelity
import PagedResults.Session.OpenResult

/-! # Clients that are attached to the server

A client that is attached to the server gets what the server has for each of its requests. What it does with
one statement leaves all others alone: their results, what is known of their columns, and the pages of them
that are under way. `Attached` names what can be said of such a client between two of its operations, and
`Faithful` says what each operation comes to; a session is one.
-/

namespace PagedResults

private theorem Request.closeResult_fits (statement : UInt64) : (Request.closeResult statement).Fits := by
  rw [fits_iff]
  change 8 + (LittleEndian.write 4 7 ++ LittleEndian.write 8 statement.toNat).length ≤ _
  simp only [List.length_append, LittleEndian.length_write]
  decide

private theorem Request.closeStatement_fits (statement : UInt64) : (Request.closeStatement statement).Fits := by
  rw [fits_iff]
  change 8 + (LittleEndian.write 4 8 ++ LittleEndian.write 8 statement.toNat).length ≤ _
  simp only [List.length_append, LittleEndian.length_write]
  decide

/-- A client of the server whose dealings with it can be followed. -/
class Attached (σ : Type) (ρ : outParam Type) extends Client σ ρ where
  /-- The conversation that the server will have had once everything that was sent has reached it. -/
  talk : σ → Conversation
  /-- The number of columns of every statement whose columns are known. -/
  arities : σ → List (UInt64 × Nat)
  /-- Nothing is under way but pages that will come, and the server has ids left. -/
  Rests : Dataset → (spare : Nat) → σ → Prop
  /-- The request that is under way asks for the page of a table. -/
  Awaits : ρ → PageRequest → Table → σ → Prop
  /-- No page of the statement is under way. -/
  Free : (statement : UInt64) → σ → Prop

namespace Attached

variable {σ ρ : Type} [Attached σ ρ]

/-- Nothing was done that concerns any statement. -/
structure Still (before after : σ) : Prop where
  talk_eq : talk after = talk before
  arities_eq : arities after = arities before
  awaits : ∀ ticket request table, Awaits ticket request table before → Awaits ticket request table after
  free : ∀ id, Free id before → Free id after

/-- No statement was touched but one, of those that there were. -/
structure Spares (statement : UInt64) (before after : σ) : Prop where
  latest_le : (talk before).latest.toNat ≤ (talk after).latest.toNat
  statement_eq : ∀ id, id.toNat ≤ (talk before).latest.toNat → id ≠ statement →
    (talk after).statement? id = (talk before).statement? id
  arity_eq : ∀ id, id.toNat ≤ (talk before).latest.toNat → id ≠ statement →
    (arities after).lookup id = (arities before).lookup id
  awaits : ∀ ticket request table, request.statement.toNat ≤ (talk before).latest.toNat →
    request.statement ≠ statement → Awaits ticket request table before → Awaits ticket request table after
  free : ∀ id, id.toNat ≤ (talk before).latest.toNat → id ≠ statement → Free id before → Free id after

variable {statement : UInt64} {before middle after : σ}

theorem Still.refl (state : σ) : Still state state := ⟨rfl, rfl, fun _ _ _ => id, fun _ => id⟩

theorem Still.trans (first : Still before middle) (second : Still middle after) : Still before after where
  talk_eq := second.talk_eq.trans first.talk_eq
  arities_eq := second.arities_eq.trans first.arities_eq
  awaits ticket request table awaits := second.awaits ticket request table (first.awaits ticket request table awaits)
  free id free := second.free id (first.free id free)

theorem Still.spares (still : Still before after) (statement : UInt64) : Spares statement before after where
  latest_le := by rw [still.talk_eq]
  statement_eq _ _ _ := by rw [still.talk_eq]
  arity_eq _ _ _ := by rw [still.arities_eq]
  awaits ticket request table _ _ := still.awaits ticket request table
  free id _ _ := still.free id

theorem Spares.refl (statement : UInt64) (state : σ) : Spares statement state state :=
  (Still.refl state).spares statement

theorem Spares.trans (first : Spares statement before middle) (second : Spares statement middle after) :
    Spares statement before after where
  latest_le := first.latest_le.trans second.latest_le
  statement_eq id given differs :=
    (second.statement_eq id (given.trans first.latest_le) differs).trans (first.statement_eq id given differs)
  arity_eq id given differs :=
    (second.arity_eq id (given.trans first.latest_le) differs).trans (first.arity_eq id given differs)
  awaits ticket request table given differs awaits :=
    second.awaits ticket request table (given.trans first.latest_le) differs
      (first.awaits ticket request table given differs awaits)
  free id given differs free :=
    second.free id (given.trans first.latest_le) differs (first.free id given differs free)

end Attached

open Attached in
/-- A client that gets what the server has for it, and touches no other statement than it has to. -/
class Faithful (σ : Type) {ρ : outParam Type} [Attached σ ρ] : Prop where
  numbered {data : Dataset} {spare : Nat} {state : σ} : Rests data spare state → (talk state).Numbered spare
  mono {data : Dataset} {spare fewer : Nat} {state : σ} : Rests data spare state → fewer ≤ spare →
    Rests data fewer state
  /-- No page is under way of a statement that there is not. -/
  free_of_lt {data : Dataset} {spare : Nat} {state : σ} {id : UInt64} : Rests data spare state →
    (talk state).latest.toNat < id.toNat → Free id state
  note {data : Dataset} {spare : Nat} {state : σ} (thread : Thread) (event : Event) : Rests data spare state →
    Rests data spare (PageSource.note thread event state) ∧ Still state (PageSource.note thread event state)
  learnArity {data : Dataset} {spare : Nat} {state : σ} {statement : UInt64} (arity : Nat) :
    Rests data spare state → Free statement state →
    Rests data spare (Client.learnArity statement arity state) ∧
      Spares statement state (Client.learnArity statement arity state) ∧
      talk (Client.learnArity statement arity state) = talk state ∧
      (arities (Client.learnArity statement arity state)).lookup statement = some arity ∧
      Free statement (Client.learnArity statement arity state)
  /-- A call gets the response that the server has for it. -/
  call {data : Dataset} {spare left : Nat} {state : σ} {statement : UInt64} {request : Request} {response : Response}
    {next : Conversation} (limit : Duration) : Rests data spare state → request.Fits →
    (talk state).answer data request = .ok (.one response, next) → response.Fits → next.Numbered left →
    (talk state).latest.toNat ≤ next.latest.toNat → Free statement state →
    (∀ id, id.toNat ≤ (talk state).latest.toNat → id ≠ statement →
      next.statement? id = (talk state).statement? id) →
    ∃ after, Client.call request limit state = (response.outcome, after) ∧ Rests data left after ∧
      Spares statement state after ∧ talk after = next ∧ Free statement after
  /-- The next page of an open result is requested. -/
  start {data : Dataset} {spare : Nat} {state : σ} {request : PageRequest} {table : Table} :
    Rests data spare state → (talk state).Shows request.statement table →
    (arities state).lookup request.statement = some table.columns.length →
    (Response.page (table.page request.offset request.size)).Fits → Free request.statement state →
    ∃ ticket after, PageSource.start request state = (ticket, after) ∧ Rests data spare after ∧
      Spares request.statement state after ∧ talk after = talk state ∧ arities after = arities state ∧
      Awaits ticket request table after
  /-- The page that is under way is the one that was asked for. -/
  finish {data : Dataset} {spare : Nat} {state : σ} {ticket : ρ} {request : PageRequest} {table : Table} :
    Rests data spare state → Awaits ticket request table state →
    ∃ after, PageSource.finish ticket state =
        (Page.ofWire table.columns.length (table.page request.offset request.size), after) ∧
      Rests data spare after ∧ Spares request.statement state after ∧ talk after = talk state ∧
      arities after = arities state ∧ Free request.statement after
  closeResult_eq (statement : UInt64) (limit : Duration) (state : σ) : PageSource.closeResult statement limit state =
    (Client.call (.closeResult statement) limit >>= Session.confirmed (.closeResult statement)) state
  /-- What is known of a statement is forgotten before it is released. -/
  closeStatement_eq {data : Dataset} {spare : Nat} {state : σ} {statement : UInt64} (limit : Duration) :
    Rests data spare state → Free statement state →
    ∃ forgotten, PageSource.closeStatement statement limit state =
        (Client.call (.closeStatement statement) limit >>= Session.confirmed (.closeStatement statement)) forgotten ∧
      Rests data spare forgotten ∧ Spares statement state forgotten ∧ talk forgotten = talk state ∧
      Free statement forgotten

namespace Faithful

open Attached

variable {σ ρ : Type} [Attached σ ρ] [Faithful σ] {data : Dataset} {spare : Nat} {state : σ} {statement : UInt64}
  {next : Conversation} {request : Request}

/-- A request that the server confirms. -/
theorem confirm (rests : Rests data spare state) (small : request.Fits)
    (answered : (talk state).answer data request = .ok (.one .ok, next)) (numbered : next.Numbered spare)
    (latest_eq : next.latest = (talk state).latest) (free : Free statement state)
    (others : ∀ id, id ≠ statement → next.statement? id = (talk state).statement? id) (limit : Duration) :
    ∃ after, (Client.call request limit >>= Session.confirmed request) state = (.ok (), after) ∧
      Rests data spare after ∧ Spares statement state after ∧ talk after = next ∧ Free statement after := by
  obtain ⟨after, called, still, spares, talk_eq, free⟩ := Faithful.call limit rests small answered
    (by decide : Response.Fits .ok) numbered (by rw [latest_eq]) free fun id _ => others id
  exact ⟨after, Op.bind_of_ok called, still, spares, talk_eq, free⟩

/-- The result of a statement is released. -/
theorem closeResult (rests : Rests data spare state) (free : Free statement state) (limit : Duration) :
    ∃ after, PageSource.closeResult statement limit state = (.ok (), after) ∧ Rests data spare after ∧
      Spares statement state after ∧ (talk after).latest = (talk state).latest ∧ Free statement after := by
  obtain ⟨next, answered, numbered, latest_eq, others⟩ :=
    Conversation.answer_closeResult (numbered rests) data statement
  obtain ⟨after, released, still, spares, rfl, free⟩ :=
    confirm rests (Request.closeResult_fits statement) answered numbered latest_eq free others limit
  exact ⟨after, (closeResult_eq statement limit state).trans released, still, spares, latest_eq, free⟩

/-- The server forgets a statement that is released. -/
theorem closeStatement (rests : Rests data spare state) (free : Free statement state) (limit : Duration) :
    ∃ after, PageSource.closeStatement statement limit state = (.ok (), after) ∧ Rests data spare after ∧
      Spares statement state after ∧ talk after = (talk state).dropStatement statement ∧ Free statement after := by
  obtain ⟨forgotten, closed, rests, first, talk_eq, free⟩ := closeStatement_eq limit rests free
  have answered : (talk forgotten).answer data (.closeStatement statement) =
      .ok (.one .ok, (talk forgotten).dropStatement statement) := rfl
  obtain ⟨after, released, still, second, dropped, free⟩ :=
    confirm rests (Request.closeStatement_fits statement) answered ((numbered rests).dropStatement statement) rfl free
      (fun id differs => Conversation.statement?_dropStatement_ne differs) limit
  rw [talk_eq] at dropped
  exact ⟨after, closed.trans released, still, first.trans second, dropped, free⟩

end Faithful

/-! ## A session that nothing is under way on -/

namespace Session

variable {data : Dataset} {spare : Nat} {statement id : UInt64} {table : Table}
  {session before middle after : Session Serving}

/-- The conversation that the server has with the session. -/
def talk (session : Session Serving) : Conversation := session.link.peer.conversation

/-- An open session with nothing on its way, whose server has ids left. -/
structure Quiet (data : Dataset) (spare : Nat) (session : Session Serving) : Prop where
  rests : session.Rests data session.talk
  numbered : session.talk.Numbered spare

theorem Quiet.of_rests {conversation : Conversation} (rests : session.Rests data conversation)
    (numbered : conversation.Numbered spare) : session.Quiet data spare := by
  obtain rfl : session.talk = conversation := rests.link.conversation_eq
  exact ⟨rests, numbered⟩

theorem Quiet.mono {fewer : Nat} (quiet : session.Quiet data spare) (le : fewer ≤ spare) :
    session.Quiet data fewer :=
  ⟨quiet.rests, quiet.numbered.mono le⟩

/-- A session that has just been started is quiet. -/
theorem start_quiet (data : Dataset) (options : ConnectionOptions)
    (small : (Request.openConnection options.user options.password options.properties).Fits)
    (room : spare < UInt64.size) :
    ∃ session, start options { peer := { data } } = (.ok 1, session) ∧ session.Quiet data spare ∧
      session.talk.latest = 0 := by
  obtain ⟨session, started, rests⟩ := start_rests data options small
  have same : session.talk = { nextConnection := 2 } := rests.link.conversation_eq
  refine ⟨session, started, .of_rests rests ⟨nofun, ?_⟩, congrArg (·.latest) same⟩
  rwa [show ({ nextConnection := 2 } : Conversation).latest.toNat = 0 from rfl, Nat.zero_add]

/-- Preparing a statement leaves a session quiet, and the statement is known by the next id. -/
theorem Quiet.prepare {sql : String} (quiet : session.Quiet data (spare + 1)) (named : data sql [] = .ok table)
    (small : (Request.prepare sql).Fits)
    (fits : (Response.prepared (session.talk.latest + 1) table.columns).Fits) :
    ∃ after, Session.prepare sql session = (.ok ⟨session.talk.latest + 1, table.columns⟩, after) ∧
      after.Quiet data spare ∧ after.talk.statement? (session.talk.latest + 1) = some { sql } := by
  obtain ⟨next, answered, known⟩ := Conversation.answer_prepare quiet.numbered.fresh named
  obtain ⟨after, prepared, rests⟩ := prepare_answered quiet.rests small answered fits
  have same : after.talk = next := rests.link.conversation_eq
  refine ⟨after, prepared, .of_rests rests (Conversation.answer_moves quiet.numbered answered).numbered, ?_⟩
  rw [same]
  exact known

theorem lookup_learnArity_ne {π : Type} {arity : Nat} (differs : id ≠ statement) (session : Session π) :
    (session.learnArity statement arity).arities.lookup id = session.arities.lookup id := by
  unfold learnArity
  dsimp only
  rw [List.lookup_cons, beq_eq_false_iff_ne.mpr differs]
  dsimp only
  rw [lookup_filter_ne, if_neg differs]

instance : Attached (Session Serving) Ticket where
  talk := talk
  arities := arities
  Rests := Quiet
  Awaits ticket request table _ :=
    ticket = .settled (Page.ofWire table.columns.length (table.page request.offset request.size))
  Free _ _ := True

/-- Whatever is done with a session whose server moves on. -/
private theorem spares_of_talk {link : Link Serving} {arities : List (UInt64 × Nat)} {next : Conversation}
    (talk_eq : link.peer.conversation = next) (latest_le : session.talk.latest.toNat ≤ next.latest.toNat)
    (others : ∀ id, id.toNat ≤ session.talk.latest.toNat → id ≠ statement →
      next.statement? id = session.talk.statement? id)
    (stays : ∀ id, id ≠ statement → arities.lookup id = session.arities.lookup id) :
    Attached.Spares statement session { session with link, arities } where
  latest_le := by
    change _ ≤ link.peer.conversation.latest.toNat
    rwa [talk_eq]
  statement_eq id given differs := by
    change link.peer.conversation.statement? id = _
    rw [talk_eq]
    exact others id given differs
  arity_eq id _ := stays id
  awaits _ _ _ _ _ := id
  free _ _ _ := id

instance : Faithful (Session Serving) where
  numbered quiet := quiet.numbered
  mono quiet le := quiet.mono le
  free_of_lt _ _ := trivial
  note thread event quiet :=
    ⟨⟨⟨quiet.rests.is_open, quiet.rests.link.note thread event⟩, quiet.numbered⟩,
      ⟨rfl, rfl, fun _ _ _ awaits => awaits, fun _ free => free⟩⟩
  learnArity arity quiet _ :=
    ⟨⟨⟨quiet.rests.is_open, quiet.rests.link⟩, quiet.numbered⟩,
      spares_of_talk rfl (Nat.le_refl _) (fun _ _ _ => rfl) fun _ differs => lookup_learnArity_ne differs _, rfl,
      List.lookup_cons_self, trivial⟩
  call limit quiet small answered fits numbered latest_le _ others := by
    obtain ⟨link, called, rests⟩ := quiet.rests.respond small answered fits limit
    have talk_eq := rests.link.conversation_eq
    exact ⟨_, called, .of_rests rests numbered, spares_of_talk talk_eq latest_le others fun _ _ => rfl, talk_eq,
      trivial⟩
  start quiet shows arity_eq fits _ := by
    obtain ⟨link, started, rests⟩ := quiet.rests.start shows arity_eq fits _
    have talk_eq := rests.link.conversation_eq
    exact ⟨_, _, started, .of_rests rests quiet.numbered,
      spares_of_talk talk_eq (Nat.le_refl _) (fun _ _ _ => rfl) fun _ _ => rfl, talk_eq, rfl, rfl⟩
  finish := by
    rintro data spare session ticket request table quiet rfl
    exact ⟨session, rfl, quiet, .refl _ _, rfl, rfl, trivial⟩
  closeResult_eq _ _ _ := rfl
  closeStatement_eq {data spare session statement} limit quiet _ :=
    ⟨session.forgetArity statement, rfl, ⟨⟨quiet.rests.is_open, quiet.rests.link⟩, quiet.numbered⟩,
      spares_of_talk rfl (Nat.le_refl _) (fun _ _ _ => rfl) fun _ differs => lookup_filter_ne.trans (if_neg differs),
      rfl, trivial⟩

end Session

end PagedResults
