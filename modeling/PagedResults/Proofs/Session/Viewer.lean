import Mathlib.Algebra.GroupWithZero.Nat
import PagedResults.Proofs.Session.Keeping

/-! # Viewers of results

A viewer opens a result, from a text or from a statement that was prepared, and then moves about in it until
it is closed. On two clients that differ in nothing but other statements, a viewer sees the same, and whatever
it does touches its own statement alone.
-/

namespace PagedResults

/-- How a result is opened: from a text, or from a statement that was prepared. -/
inductive Opening where
  | query (sql : String)
  | execute (statement : UInt64) (parameters : List Value)

/-- Somebody who opens a result and reads it. -/
structure Viewer where
  opening : Opening
  options : FetchOptions

/-- What a viewer does. -/
inductive Act where
  | «open»
  | call (call : CursorCall)

/-- The ids that the server gives out for an act. -/
def Act.cost : Act → Nat
  | .open => 1
  | .call _ => 0

/-- What a viewer sees: the columns of the result that was opened, and then, after every call, the answer, the
row under the cursor and its place. -/
inductive Sight where
  | nothing
  | opened (outcome : Outcome Error (List Column))
  | went (answer : Outcome Error (Option Bool)) (current : Option Row) (position : Int)

/-- Does it show a row? -/
def Sight.onRow : Sight → Bool
  | .went _ current _ => current.isSome
  | _ => false

/-- The result of a viewer, if it is open, and the client over which it was opened. -/
abbrev Place (σ ρ : Type) : Type := Option (OpenResult ρ) × σ

namespace Viewer

section Acts

variable {σ ρ : Type} [Client σ ρ]

def «open» (viewer : Viewer) : Op Error σ (OpenResult ρ) :=
  match viewer.opening with
  | .query sql => OpenResult.query sql viewer.options
  | .execute statement parameters => OpenResult.execute statement parameters viewer.options

/-- A viewer opens its result only once, and moves about in it only after that. -/
def act (viewer : Viewer) : Act → Place σ ρ → Sight × Place σ ρ
  | .open, (none, client) =>
      match viewer.open client with
      | (.ok result, client) => (.opened (.ok result.columns), some result, client)
      | (.error failure, client) => (.opened (.error failure), none, client)
  | .call call, (some result, client) =>
      let (answer, cursor, client) := Cursor.perform call (result.cursor, client)
      (.went answer cursor.current cursor.position, some { result with cursor }, client)
  | _, place => (.nothing, place)

/-- What a viewer sees that is alone. -/
def sights (viewer : Viewer) : List Act → Place σ ρ → List Sight
  | [], _ => []
  | act :: acts, place => (viewer.act act place).1 :: viewer.sights acts (viewer.act act place).2

end Acts

/-! ## What is asked of the server -/

/-- The request that opens the result. -/
def request (viewer : Viewer) : Request :=
  match viewer.opening with
  | .query sql => .prepareAndExecute sql viewer.options.effectiveFetchSize viewer.options.maxRows
  | .execute statement parameters =>
      .execute statement (Value.toCells parameters) viewer.options.effectiveFetchSize viewer.options.maxRows

def parameters (viewer : Viewer) : List Value :=
  match viewer.opening with
  | .query _ => []
  | .execute _ parameters => parameters

/-- The text that is run; a statement that was prepared has its text on the server. -/
def text? (viewer : Viewer) (conversation : Conversation) : Option String :=
  match viewer.opening with
  | .query sql => some sql
  | .execute statement _ => (conversation.statement? statement).map (·.sql)

/-- The statement that was prepared for the viewer. -/
def prepared? (viewer : Viewer) : Option UInt64 :=
  match viewer.opening with
  | .query _ => none
  | .execute statement _ => some statement

/-- The statement whose result is opened; a text gets the next id. -/
def target (viewer : Viewer) (conversation : Conversation) : UInt64 :=
  viewer.prepared?.getD (conversation.latest + 1)

/-- All messages for the viewer fit into frames, and every row of its table has a place. -/
structure Served (data : Dataset) (text : String) (viewer : Viewer) : Prop where
  small : viewer.request.Fits
  table : ∀ table, data text viewer.parameters = .ok table →
    (table.cut viewer.options.maxRows).rows.length < UInt64.size ∧
      (table.cut viewer.options.maxRows).PagesFit viewer.options.effectiveFetchSize
  refusal : ∀ detail, data text viewer.parameters = .error detail → (Response.error detail).Fits

variable {data : Dataset} {viewer : Viewer} {text : String} {spare : Nat} {conversation next : Conversation}
  {table : Table} {block : Block}

theorem Served.of_table (small : viewer.request.Fits) (named : data text viewer.parameters = .ok table)
    (addressable : (table.cut viewer.options.maxRows).rows.length < UInt64.size)
    (fits : (table.cut viewer.options.maxRows).PagesFit viewer.options.effectiveFetchSize) :
    viewer.Served data text where
  small := small
  table other given := by
    obtain rfl := Except.ok.inj (named.symm.trans given)
    exact ⟨addressable, fits⟩
  refusal detail refused := by
    rw [named] at refused
    cases refused

/-- The statement that a viewer runs. -/
theorem known_of_execute {statement : UInt64} {parameters : List Value}
    (opening : viewer.opening = .execute statement parameters) (known : viewer.text? conversation = some text) :
    ∃ found, conversation.statement? statement = some found ∧ found.sql = text := by
  rw [text?, opening] at known
  exact Option.map_eq_some_iff.mp known

theorem answer_table (served : viewer.Served data text) (numbered : conversation.Numbered (spare + 1))
    (known : viewer.text? conversation = some text) (named : data text viewer.parameters = .ok table) :
    ∃ next, conversation.answer data viewer.request =
        .ok (.one (Conversation.firstPage (viewer.target conversation) viewer.options.effectiveFetchSize
          (table.cut viewer.options.maxRows)), next) ∧
      next.Shows (viewer.target conversation) (table.cut viewer.options.maxRows) := by
  have small := served.small
  rw [target, prepared?]
  cases opening : viewer.opening with
  | query sql =>
    rw [text?, opening] at known
    obtain rfl := Option.some.inj known
    rw [parameters, opening] at named
    rw [request, opening]
    exact Conversation.answer_prepareAndExecute numbered.fresh named _ _
  | execute statement values =>
    obtain ⟨found, there, rfl⟩ := known_of_execute opening known
    rw [parameters, opening] at named
    rw [request, opening] at small ⊢
    exact Conversation.answer_execute there named small.parameters_storable _ _

private theorem answer_error {detail : ServiceError} (served : viewer.Served data text)
    (numbered : conversation.Numbered (spare + 1)) (known : viewer.text? conversation = some text)
    (refused : data text viewer.parameters = .error detail) :
    ∃ next, conversation.answer data viewer.request = .ok (.one (.error detail), next) := by
  have small := served.small
  cases opening : viewer.opening with
  | query sql =>
    rw [text?, opening] at known
    obtain rfl := Option.some.inj known
    rw [parameters, opening] at refused
    rw [request, opening]
    exact Conversation.answer_prepareAndExecute_error numbered.fresh refused _ _
  | execute statement values =>
    obtain ⟨found, there, rfl⟩ := known_of_execute opening known
    rw [parameters, opening] at refused
    rw [request, opening] at small ⊢
    exact Conversation.answer_execute_error there refused small.parameters_storable _ _

/-- Opening a result changes no text. -/
theorem text?_answer (answered : conversation.answer data viewer.request = .ok (block, next))
    (known : viewer.text? conversation = some text) : viewer.text? next = some text := by
  cases opening : viewer.opening with
  | query sql =>
    rw [text?, opening] at known ⊢
    exact known
  | execute statement values =>
    rw [text?, opening] at known ⊢
    rw [request, opening, Conversation.answer] at answered
    split at answered
    · cases answered
    · obtain ⟨-, rfl⟩ := Prod.mk.inj (Except.ok.inj answered)
      exact known
    · obtain ⟨-, rfl⟩ := Prod.mk.inj (Except.ok.inj answered)
      exact (Conversation.sql_runStatement data _ _ _).trans known

/-- Opening a result changes no statement but that of the result. -/
theorem moves (numbered : conversation.Numbered (spare + 1))
    (answered : conversation.answer data viewer.request = .ok (block, next)) :
    next.Numbered spare ∧ conversation.latest.toNat ≤ next.latest.toNat ∧
      ∀ id, id.toNat ≤ conversation.latest.toNat → id ≠ viewer.target conversation →
        next.statement? id = conversation.statement? id := by
  obtain ⟨numbered, latest_le, others⟩ := Conversation.answer_moves numbered answered
  refine ⟨numbered, latest_le, fun id given differs => others id given ?_⟩
  rw [request]
  rw [target, prepared?] at differs
  cases opening : viewer.opening with
  | query sql => nofun
  | execute statement values =>
    rw [opening] at differs
    exact fun same => differs (Option.some.inj same).symm

open Attached

variable {σ ρ τ υ : Type} [Attached σ ρ] [Attached τ υ] {client before after : σ}

/-- A call to the server that opens a result, whatever comes of it. -/
structure Called (data : Dataset) (viewer : Viewer) (text : String) (spare : Nat) (before after : σ) : Prop where
  rests : Rests data spare after
  spares : Spares (viewer.target (talk before)) before after
  known : viewer.text? (talk after) = some text
  free : Free (viewer.target (talk before)) after

section Opening

variable [Faithful σ]

theorem called {response : Response} (rests : Rests data (spare + 1) client)
    (free : Free (viewer.target (talk client)) client) (served : viewer.Served data text)
    (known : viewer.text? (talk client) = some text)
    (answered : (talk client).answer data viewer.request = .ok (.one response, next)) (fits : response.Fits) :
    ∃ after, Client.call viewer.request viewer.options.timeout client = (response.outcome, after) ∧
      Called data viewer text spare client after ∧ talk after = next := by
  obtain ⟨numbered, latest_le, others⟩ := moves (Faithful.numbered rests) answered
  obtain ⟨after, called, rests, spares, talk_eq, free⟩ :=
    Faithful.call viewer.options.timeout rests served.small answered fits numbered latest_le free others
  refine ⟨after, called, ⟨rests, spares, ?_, free⟩, talk_eq⟩
  rw [talk_eq]
  exact text?_answer answered known

/-- Learning how many columns the statement has touches nothing else. -/
theorem Called.learn (called : Called data viewer text spare before after) (arity : Nat) :
    Called data viewer text spare before (Client.learnArity (viewer.target (talk before)) arity after) := by
  obtain ⟨rests, spares, talk_eq, -, free⟩ := Faithful.learnArity arity called.rests called.free
  exact ⟨rests, called.spares.trans spares, talk_eq ▸ called.known, free⟩

/-- A supply over a first page that is still to be taken in. -/
def fresh (viewer : Viewer) (statement : UInt64) (ownsStatement : Bool) : Supply ρ :=
  { statement, options := viewer.options, ownsStatement, nextOffset := 0 }

theorem Called.keeps {ownsStatement : Bool} (called : Called data viewer text spare before after)
    (shows : (talk after).Shows (viewer.target (talk before)) table)
    (fits : table.PagesFit viewer.options.effectiveFetchSize) :
    Supply.Keeps data (viewer.target (talk before)) table spare before
      (viewer.fresh (viewer.target (talk before)) ownsStatement,
        Client.learnArity (viewer.target (talk before)) table.columns.length after) := by
  obtain ⟨rests, spares, talk_eq, arity_eq, free⟩ := Faithful.learnArity table.columns.length called.rests called.free
  rw [← talk_eq] at shows
  exact {
    statement_eq := rfl
    rests
    spares := called.spares.trans spares
    given := by
      obtain ⟨sql, known⟩ := shows
      exact (Faithful.numbered rests).statement?_known known
    shows := fun _ => shows
    arity_eq := fun _ => arity_eq
    fits := fits.all
    reaches := .zero _ _
    free := fun _ => free
    awaits := nofun }

end Opening

section Client

variable {σ ρ : Type} [Client σ ρ]

private theorem open_eq (viewer : Viewer) (client : σ) : viewer.open client =
    (Client.call viewer.request viewer.options.timeout >>= fun response =>
      OpenResult.ofResponse viewer.request.name response viewer.options viewer.prepared?.isNone) client := by
  rw [«open», request, prepared?]
  cases viewer.opening <;> rfl

/-- A result that has its first page is opened, unless the page cannot be read. -/
theorem ofResponse_firstPage (operation : String) (ownsStatement : Bool) (id : UInt64) (options : FetchOptions)
    (table : Table) (client : σ) :
    OpenResult.ofResponse operation (Conversation.firstPage id options.effectiveFetchSize table) options
        ownsStatement client =
      match Page.ofWire table.columns.length (table.page 0 options.effectiveFetchSize) with
      | .error failure => (.error failure, Client.learnArity id table.columns.length client)
      | .ok page =>
          let noted := PageSource.note .caller (.firstPage id page.rows.length page.isLast)
            (Client.learnArity id table.columns.length client)
          ((Cursor.open id page options ownsStatement noted).1.map fun cursor => ⟨id, table.columns, cursor⟩,
            (Cursor.open id page options ownsStatement noted).2) := by
  rw [Conversation.firstPage, OpenResult.ofResponse, Op.bind_of_ok (Op.modify_apply _ _)]
  cases Page.ofWire table.columns.length (table.page 0 options.effectiveFetchSize) with
  | error failure => rfl
  | ok page =>
    rw [Op.bind_of_ok (Op.ofOutcome_apply _ _), Op.bind_of_ok (Op.modify_apply _ _), Op.bind_apply]
    dsimp only
    rcases Cursor.open id page options ownsStatement (PageSource.note .caller
      (.firstPage id page.rows.length page.isLast) (Client.learnArity id table.columns.length client)) with
      ⟨_ | _, _⟩ <;> rfl

end Client

/-! ## The same viewer on two clients -/

/-- A viewer finds the same at two places: its result is not open yet, or it stands alike in both. -/
inductive Alike (data : Dataset) (text : String) (viewer : Viewer) (spare spare' : Nat) : Place σ ρ → Place τ υ → Prop
  | unopened {client : σ} {client' : τ} (rests : Rests data spare client) (rests' : Rests data spare' client')
      (known : viewer.text? (talk client) = some text) (known' : viewer.text? (talk client') = some text)
      (free : ∀ id, viewer.prepared? = some id → Free id client)
      (free' : ∀ id, viewer.prepared? = some id → Free id client') :
      Alike data text viewer spare spare' (none, client) (none, client')
  | opened {result : OpenResult ρ} {result' : OpenResult υ} {client : σ} {client' : τ} {table : Table}
      {own own' : UInt64} (addressable : table.rows.length < UInt64.size)
      (like : Cursor.Like (Supply.Twins data table own own' spare spare' client client')
        (result.cursor, client) (result'.cursor, client')) :
      Alike data text viewer spare spare' (some result, client) (some result', client')

variable {spare' : Nat} {client' after' : τ}

/-- The statement that a viewer has for itself, if it has one already. -/
def own (viewer : Viewer) : Option (OpenResult ρ) → Option UInt64
  | none => viewer.prepared?
  | some result => some result.cursor.supply.statement

/-- The statement that a viewer is about to touch. -/
def touched (viewer : Viewer) (place : Place σ ρ) : UInt64 :=
  (viewer.own place.1).getD ((talk place.2).latest + 1)

/-- What a viewer does at two places: it sees the same, finds the same afterwards, and touches nothing but
its own statement. -/
structure Acts (data : Dataset) (text : String) (viewer : Viewer) (spare spare' : Nat) (act : Act)
    (place : Place σ ρ) (place' : Place τ υ) : Prop where
  sight_eq : (viewer.act act place).1 = (viewer.act act place').1
  alike : Alike data text viewer spare spare' (viewer.act act place).2 (viewer.act act place').2
  spares : Spares (viewer.touched place) place.2 (viewer.act act place).2.2
  own_eq : ∀ id, viewer.own (viewer.act act place).2.1 = some id → id = viewer.touched place

/-- A result that cannot be opened. -/
theorem acts_refused {failure : Failure Error} (called : Called data viewer text spare client after)
    (called' : Called data viewer text spare' client' after') (refused : viewer.open client = (.error failure, after))
    (refused' : viewer.open client' = (.error failure, after')) :
    Acts data text viewer spare spare' .open (none, client) (none, client') := by
  have acted : viewer.act .open (none, client) = (.opened (.error failure), none, after) := by
    simp only [act, refused]
  have acted' : viewer.act .open (none, client') = (.opened (.error failure), none, after') := by
    simp only [act, refused']
  have target_eq (conversation : Conversation) {id : UInt64} (prepared : viewer.prepared? = some id) :
      viewer.target conversation = id := by
    rw [target, prepared]
    rfl
  constructor
  · rw [acted, acted']
  · rw [acted, acted']
    exact .unopened called.rests called'.rests called.known called'.known
      (fun id prepared => target_eq _ prepared ▸ called.free) fun id prepared => target_eq _ prepared ▸ called'.free
  · rw [acted]
    exact called.spares
  · rw [acted]
    exact fun id prepared => (target_eq _ prepared).symm

/-- A result that is opened. -/
theorem acts_opened {result : OpenResult ρ} {result' : OpenResult υ} (opens : viewer.open client = (.ok result, after))
    (opens' : viewer.open client' = (.ok result', after')) (columns_eq : result.columns = result'.columns)
    (addressable : table.rows.length < UInt64.size)
    (like : Cursor.Like (Supply.Twins data table (viewer.target (talk client)) (viewer.target (talk client'))
      spare spare' client client') (result.cursor, after) (result'.cursor, after')) :
    Acts data text viewer spare spare' .open (none, client) (none, client') := by
  have acted : viewer.act .open (none, client) = (.opened (.ok result.columns), some result, after) := by
    simp only [act, opens]
  have acted' : viewer.act .open (none, client') = (.opened (.ok result'.columns), some result', after') := by
    simp only [act, opens']
  have twins := like.supply
  constructor
  · rw [acted, acted', columns_eq]
  · rw [acted, acted']
    exact .opened addressable (like.over ⟨twins.same, twins.left.afresh, twins.right.afresh⟩)
  · rw [acted]
    exact twins.left.spares
  · rw [acted]
    intro id same
    obtain rfl := Option.some.inj same
    exact twins.left.statement_eq

/-- Doing nothing. -/
theorem acts_nothing {act : Act} {place : Place σ ρ} {place' : Place τ υ}
    (alike : Alike data text viewer spare spare' place place')
    (nothing : viewer.act act place = (.nothing, place)) (nothing' : viewer.act act place' = (.nothing, place')) :
    Acts data text viewer spare spare' act place place' where
  sight_eq := by rw [nothing, nothing']
  alike := by rw [nothing, nothing']; exact alike
  spares := by rw [nothing]; exact .refl _ _
  own_eq := by
    rw [nothing]
    intro id own
    rw [touched, own]
    rfl

private theorem prepared_le {id : UInt64} (numbered : conversation.Numbered spare) (prepared : viewer.prepared? = some id)
    (known : viewer.text? conversation = some text) : id.toNat ≤ conversation.latest.toNat := by
  rw [prepared?] at prepared
  cases opening : viewer.opening with
  | query sql =>
    rw [opening] at prepared
    cases prepared
  | execute statement parameters =>
    rw [opening] at prepared
    obtain rfl := Option.some.inj prepared
    obtain ⟨found, there, -⟩ := known_of_execute opening known
    exact numbered.statement?_known there

private theorem ofFirst_fresh {page : Page} (start : page.offset = 0) (statement : UInt64) (ownsStatement : Bool)
    (client : σ) : Supply.ofFirst statement page viewer.options ownsStatement client =
      Supply.accept page (viewer.fresh statement ownsStatement, client) := by
  rw [Supply.ofFirst, start]
  rfl

/-- A statement that was prepared keeps its text when something is done with another one. -/
theorem text?_elsewhere {other : UInt64}
    (given : ∀ id, viewer.prepared? = some id → id.toNat ≤ (talk client).latest.toNat)
    (known : viewer.text? (talk client) = some text) (spares : Spares other client after)
    (differs : ∀ id, viewer.prepared? = some id → id ≠ other) : viewer.text? (talk after) = some text := by
  cases opening : viewer.opening with
  | query sql =>
    rw [text?, opening] at known ⊢
    exact known
  | execute statement parameters =>
    have prepared : viewer.prepared? = some statement := by rw [prepared?, opening]
    have same := spares.statement_eq statement (given statement prepared) (differs statement prepared)
    rw [text?, opening] at known ⊢
    dsimp only at known ⊢
    rw [same]
    exact known

theorem Alike.rests {place : Place σ ρ} {place' : Place τ υ}
    (alike : Alike data text viewer spare spare' place place') : Rests data spare place.2 := by
  cases alike with
  | unopened rests rests' known known' free free' => exact rests
  | opened addressable like => exact like.supply.left.rests

variable [Faithful σ] [Faithful τ]

/-- The same first page is read alike on two clients, or not at all. -/
theorem ofResponse_alike (operation : String) (ownsStatement : Bool)
    (called : Called data viewer text spare client after)
    (called' : Called data viewer text spare' client' after')
    (shows : (talk after).Shows (viewer.target (talk client)) table)
    (shows' : (talk after').Shows (viewer.target (talk client')) table)
    (addressable : table.rows.length < UInt64.size) (fits : table.PagesFit viewer.options.effectiveFetchSize) :
    let response (conversation : Conversation) : Response :=
      Conversation.firstPage (viewer.target conversation) viewer.options.effectiveFetchSize table
    (∃ failure,
        OpenResult.ofResponse operation (response (talk client)) viewer.options ownsStatement after =
          (.error failure, Client.learnArity (viewer.target (talk client)) table.columns.length after) ∧
        OpenResult.ofResponse operation (response (talk client')) viewer.options ownsStatement after' =
          (.error failure, Client.learnArity (viewer.target (talk client')) table.columns.length after')) ∨
      ∃ cursor cursor' opened opened',
        OpenResult.ofResponse operation (response (talk client)) viewer.options ownsStatement after =
          (.ok ⟨viewer.target (talk client), table.columns, cursor⟩, opened) ∧
        OpenResult.ofResponse operation (response (talk client')) viewer.options ownsStatement after' =
          (.ok ⟨viewer.target (talk client'), table.columns, cursor'⟩, opened') ∧
        Cursor.Like (Supply.Twins data table (viewer.target (talk client)) (viewer.target (talk client')) spare
          spare' client client') (cursor, opened) (cursor', opened') := by
  intro response
  simp only [response, ofResponse_firstPage]
  cases read : Page.ofWire table.columns.length (table.page 0 viewer.options.effectiveFetchSize) with
  | error failure => exact .inl ⟨failure, rfl, rfl⟩
  | ok page =>
    refine .inr ?_
    have start : page.offset = 0 := by
      rw [(Page.ofWire_keeps read).1, ← UInt64.toNat_inj]
      exact Table.toNat_offset_pageFrom (Nat.zero_le _) addressable
    have keeps : Supply.Keeps _ _ _ _ _ (viewer.fresh _ ownsStatement, _) := called.keeps shows fits
    have keeps' : Supply.Keeps _ _ _ _ _ (viewer.fresh _ ownsStatement, _) := called'.keeps shows' fits
    have noted := keeps.note .caller (.firstPage (viewer.target (talk client)) page.rows.length page.isLast)
    have noted' := keeps'.note .caller (.firstPage (viewer.target (talk client')) page.rows.length page.isLast)
    -- taking in the first page is taking in a page of a supply that stands at its place
    have twins : Supply.Twins data table _ _ spare spare' client client'
        (viewer.fresh (viewer.target (talk client)) ownsStatement, _)
        (viewer.fresh (viewer.target (talk client')) ownsStatement, _) := ⟨rfl, noted, noted'⟩
    obtain ⟨rows, taken, taken', accepted, accepted', related⟩ := twins.accept rfl addressable read
    obtain ⟨cursor, cursor', begun, begun', like⟩ := Cursor.open_alike ((ofFirst_fresh start _ _ _).trans accepted)
      ((ofFirst_fresh start _ _ _).trans accepted') related
    refine ⟨cursor, cursor', taken.2, taken'.2, ?_, ?_, like⟩
    · dsimp only
      rw [begun]
      rfl
    · dsimp only
      rw [begun']
      rfl

/-- No page is under way of the statement that a viewer is about to open. -/
theorem free_target (rests : Rests data (spare + 1) client)
    (free : ∀ id, viewer.prepared? = some id → Free id client) : Free (viewer.target (talk client)) client := by
  rw [target]
  cases prepared : viewer.prepared? with
  | none =>
    have beyond : (talk client).latest.toNat < ((talk client).latest + 1).toNat := by
      rw [(Faithful.numbered rests).toNat_next]
      exact Nat.lt_succ_self _
    exact Faithful.free_of_lt rests beyond
  | some id => exact free id prepared

/-- Opening a result. -/
theorem acts_open (served : viewer.Served data text) (rests : Rests data (spare + 1) client)
    (rests' : Rests data (spare' + 1) client') (known : viewer.text? (talk client) = some text)
    (known' : viewer.text? (talk client') = some text) (free : ∀ id, viewer.prepared? = some id → Free id client)
    (free' : ∀ id, viewer.prepared? = some id → Free id client') :
    Acts data text viewer spare spare' .open (none, client) (none, client') := by
  have free := free_target rests free
  have free' := free_target rests' free'
  -- the text is the same for both clients, and so is what the data set says to it
  cases named : data text viewer.parameters with
  | error detail =>
    have fits := served.refusal detail named
    obtain ⟨next, answered⟩ := answer_error served (Faithful.numbered rests) known named
    obtain ⟨next', answered'⟩ := answer_error served (Faithful.numbered rests') known' named
    obtain ⟨after, call, called, -⟩ := Viewer.called rests free served known answered fits
    obtain ⟨after', call', called', -⟩ := Viewer.called rests' free' served known' answered' fits
    have refused : viewer.open client = (Outcome.fail (.service detail), after) := by
      rw [open_eq, Op.bind_apply, call]
      rfl
    have refused' : viewer.open client' = (Outcome.fail (.service detail), after') := by
      rw [open_eq, Op.bind_apply, call']
      rfl
    exact acts_refused called called' refused refused'
  | ok table =>
    obtain ⟨addressable, fits⟩ := served.table table named
    obtain ⟨next, answered, shows⟩ := answer_table served (Faithful.numbered rests) known named
    obtain ⟨next', answered', shows'⟩ := answer_table served (Faithful.numbered rests') known' named
    obtain ⟨after, call, called, rfl⟩ := Viewer.called rests free served known answered (fits.first _)
    obtain ⟨after', call', called', rfl⟩ := Viewer.called rests' free' served known' answered' (fits.first _)
    obtain ⟨failure, refused, refused'⟩ | ⟨cursor, cursor', opened, opened', begun, begun', like⟩ :=
      ofResponse_alike viewer.request.name viewer.prepared?.isNone called called' shows shows' addressable fits
    · exact acts_refused (called.learn _) (called'.learn _)
        ((open_eq viewer client).trans ((Op.bind_of_ok call).trans refused))
        ((open_eq viewer client').trans ((Op.bind_of_ok call').trans refused'))
    · exact acts_opened ((open_eq viewer client).trans ((Op.bind_of_ok call).trans begun))
        ((open_eq viewer client').trans ((Op.bind_of_ok call').trans begun')) rfl addressable like

/-- Moving about in a result, or closing it. -/
theorem acts_call {result : OpenResult ρ} {result' : OpenResult υ} {own own' : UInt64} (call : CursorCall)
    (addressable : table.rows.length < UInt64.size)
    (like : Cursor.Like (Supply.Twins data table own own' spare spare' client client')
      (result.cursor, client) (result'.cursor, client')) :
    Acts data text viewer spare spare' (.call call) (some result, client) (some result', client') := by
  have performed := Cursor.perform_alike (Supply.twins_likeness addressable) call like
  have twins := performed.2.supply
  have touches : viewer.touched (some result, client) = own := like.supply.left.statement_eq
  constructor
  · change Sight.went (Cursor.perform call (result.cursor, client)).1
      (Cursor.perform call (result.cursor, client)).2.1.current
      (Cursor.perform call (result.cursor, client)).2.1.position = _
    rw [performed.1, performed.2.current_eq, performed.2.position_eq]
    rfl
  · exact .opened addressable (performed.2.over ⟨twins.same, twins.left.afresh, twins.right.afresh⟩)
  · rw [touches]
    exact twins.left.spares
  · intro id same
    obtain rfl := Option.some.inj same
    rw [touches]
    exact twins.left.statement_eq

theorem Alike.mono {place : Place σ ρ} {place' : Place τ υ} {fewer fewer' : Nat}
    (alike : Alike data text viewer spare spare' place place') (le : fewer ≤ spare) (le' : fewer' ≤ spare') :
    Alike data text viewer fewer fewer' place place' := by
  cases alike with
  | unopened rests rests' known known' free free' =>
    exact .unopened (Faithful.mono rests le) (Faithful.mono rests' le') known known' free free'
  | opened addressable like =>
    have twins := like.supply
    exact .opened addressable (like.over ⟨twins.same, twins.left.mono le, twins.right.mono le'⟩)

/-- Whatever a viewer does. -/
theorem Alike.acts {place : Place σ ρ} {place' : Place τ υ} {act : Act} (served : viewer.Served data text)
    (alike : Alike data text viewer (spare + act.cost) (spare' + act.cost) place place') :
    Acts data text viewer spare spare' act place place' := by
  cases act with
  | «open» =>
    cases alike with
    | unopened rests rests' known known' free free' => exact acts_open served rests rests' known known' free free'
    | opened addressable like =>
      exact acts_nothing ((Alike.opened addressable like).mono (Nat.le_succ _) (Nat.le_succ _)) rfl rfl
  | call call =>
    cases alike with
    | unopened rests rests' known known' free free' =>
      exact acts_nothing (.unopened rests rests' known known' free free') rfl rfl
    | opened addressable like => exact acts_call call addressable like

omit [Faithful τ] in
/-- The statement of a viewer has been given out. -/
theorem Alike.own_le {place : Place σ ρ} {place' : Place τ υ} {id : UInt64}
    (alike : Alike data text viewer spare spare' place place') (own : viewer.own place.1 = some id) :
    id.toNat ≤ (talk place.2).latest.toNat := by
  cases alike with
  | unopened rests rests' known known' free free' => exact prepared_le (Faithful.numbered rests) own known
  | opened addressable like =>
    obtain rfl := Option.some.inj own
    have keeps := like.supply.left
    exact keeps.statement_eq ▸ keeps.given

omit [Faithful τ] in
/-- Something is done at the one place with a statement that the viewer has not. -/
theorem Alike.elsewhere {slot : Option (OpenResult ρ)} {place' : Place τ υ} {other : UInt64} {more : Nat}
    (alike : Alike data text viewer spare spare' (slot, client) place') (rests : Rests data more after)
    (spares : Spares other client after) (differs : ∀ id, viewer.own slot = some id → id ≠ other) :
    Alike data text viewer more spare' (slot, after) place' := by
  cases alike with
  | unopened before rests' known known' free free' =>
    have given (id : UInt64) (prepared : viewer.prepared? = some id) :=
      prepared_le (Faithful.numbered before) prepared known
    exact .unopened rests rests' (text?_elsewhere given known spares differs) known'
      (fun id prepared => spares.free id (given id prepared) (differs id prepared) (free id prepared)) free'
  | opened addressable like =>
    have twins := like.supply
    have apart := differs _ rfl
    rw [twins.left.statement_eq] at apart
    exact .opened addressable (like.over ⟨twins.same, twins.left.elsewhere rests spares apart, twins.right⟩)

/-- What a viewer sees at two places. -/
theorem Alike.sights {place : Place σ ρ} {place' : Place τ υ} {acts : List Act} (served : viewer.Served data text)
    (alike : Alike data text viewer (spare + (acts.map Act.cost).sum) (spare' + (acts.map Act.cost).sum) place
      place') :
    viewer.sights acts place = viewer.sights acts place' := by
  induction acts generalizing place place' with
  | nil => rfl
  | cons act rest ih =>
    rw [List.map_cons, List.sum_cons, Nat.add_comm act.cost, ← Nat.add_assoc, ← Nat.add_assoc] at alike
    have acted := alike.acts served
    rw [Viewer.sights, Viewer.sights, acted.sight_eq, ih acted.alike]

end Viewer

end PagedResults
