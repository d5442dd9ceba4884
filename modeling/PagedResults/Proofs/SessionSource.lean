import PagedResults.Proofs.Conversation
import PagedResults.Proofs.Exchange
import PagedResults.Proofs.Pages
import PagedResults.Proofs.Reading
import PagedResults.Session

/-! # A session is a reliable page source

A session with the result of a statement open on the server fetches any page that fits into a frame, and
is as it was before. A cursor that goes on from page to page asks for no other pages, so that for it the
session is a source that refuses nothing.
-/

namespace PagedResults

/-- The request for a page fits into a frame. -/
theorem Request.fetch_fits (statement offset : UInt64) (fetchSize : UInt32) :
    (Request.fetch statement offset fetchSize).Fits := by
  rw [fits_iff]
  change 8 + (LittleEndian.write 4 5 ++ (LittleEndian.write 8 statement.toNat ++
    (LittleEndian.write 8 offset.toNat ++ LittleEndian.write 4 fetchSize.toNat))).length ≤ _
  simp only [List.length_append, LittleEndian.length_write]
  decide

namespace Session

/-- An open session with nothing on its way. -/
structure Rests (data : Dataset) (conversation : Conversation) (session : Session Serving) : Prop where
  is_open : session.closed = false
  link : session.link.Rests data conversation [] []

/-- A session that can fetch the pages of a table as the result of a statement. -/
structure Offers (data : Dataset) (statement : UInt64) (table : Table) (session : Session Serving) :
    Prop where
  rests : ∃ conversation, session.Rests data conversation ∧ conversation.Shows statement table
  arity_eq : session.arities.lookup statement = some table.columns.length

variable {data : Dataset} {conversation next : Conversation} {statement : UInt64} {table : Table}
  {session : Session Serving} {request : Request} {response : Response}

theorem checkOpen_apply {π : Type} {session : Session π} (isOpen : session.closed = false) :
    checkOpen session = (.ok (), session) := by
  rw [checkOpen, Op.bind_apply, Op.get_apply]
  dsimp only
  rw [isOpen]
  rfl

theorem checkOpen_of_closed {π : Type} {session : Session π} (closed : session.closed = true) :
    checkOpen session = (Outcome.fail .connectionClosed, session) := by
  rw [checkOpen, Op.bind_apply, Op.get_apply]
  dsimp only
  rw [closed]
  rfl

theorem onLink_apply {π α : Type} [Peer π] (operation : Op Error (Link π) α) (session : Session π) :
    onLink operation session =
      ((operation session.link).1, { session with link := (operation session.link).2 }) := rfl

/-- A call changes nothing of an open session but its connection. -/
theorem call_apply {π : Type} [Peer π] {session : Session π} (isOpen : session.closed = false)
    (request : Request) (limit : Duration) :
    call request limit session = ((Link.call .caller request limit session.link).1,
      { session with link := (Link.call .caller request limit session.link).2 }) := by
  rw [call, Op.bind_of_ok (checkOpen_apply isOpen), onLink_apply]

/-- A call returns the response, unless that is an error. -/
theorem Rests.call (rests : session.Rests data conversation) (small : request.Fits)
    (answered : conversation.answer data request = .ok (.one response, next))
    (succeeds : ∀ detail, response ≠ .error detail) (fits : response.Fits) (limit : Duration) :
    ∃ link, call request limit session = (.ok response, { session with link }) ∧
      Rests data next { session with link } := by
  obtain ⟨link, called, still⟩ := rests.link.call rfl small answered succeeds fits .caller limit
  refine ⟨link, ?_, rests.is_open, still⟩
  rw [call_apply rests.is_open, called]

/-- A call gives what the server responds, be it an error or not. -/
theorem Rests.respond (rests : session.Rests data conversation) (small : request.Fits)
    (answered : conversation.answer data request = .ok (.one response, next)) (fits : response.Fits)
    (limit : Duration) :
    ∃ link, Session.call request limit session = (response.outcome, { session with link }) ∧
      Rests data next { session with link } := by
  obtain ⟨link, called, still⟩ := rests.link.respond rfl small answered fits .caller limit
  refine ⟨link, ?_, rests.is_open, still⟩
  rw [call_apply rests.is_open, called]

theorem Offers.note (offers : session.Offers data statement table) (thread : Thread) (event : Event) :
    ({ session with link := session.link.note thread event } : Session Serving).Offers data statement table := by
  obtain ⟨⟨conversation, rests, shows⟩, arity_eq⟩ := offers
  exact ⟨⟨conversation, ⟨rests.is_open, rests.link.note thread event⟩, shows⟩, arity_eq⟩

/-- A page that fits into a frame is fetched and read at once. -/
theorem Rests.start (rests : session.Rests data conversation) (shows : conversation.Shows statement table)
    (arity_eq : session.arities.lookup statement = some table.columns.length) {offset : UInt64}
    {fetchSize : UInt32} (fits : (Response.page (table.page offset fetchSize)).Fits) (limit : Duration) :
    ∃ link, PageSource.start ⟨statement, offset, fetchSize, limit⟩ session =
        (.settled (Page.ofWire table.columns.length (table.page offset fetchSize)), { session with link }) ∧
      Rests data conversation { session with link } := by
  have answered : conversation.answer data (.fetch statement offset fetchSize) = _ :=
    Conversation.answer_fetch shows offset fetchSize
  obtain ⟨id, waiting, submitted, apart, held⟩ := rests.link.ask rfl (Request.fetch_fits _ _ _) answered
    (fun detail same => nomatch same) fits .fetch
  obtain ⟨link, awaited, arrived, still⟩ := held.await apart .fetch limit
  refine ⟨link, ?_, ⟨rests.is_open, still⟩⟩
  have read : awaitPage id ⟨statement, offset, fetchSize, limit⟩ { session with link := waiting } =
      (Page.ofWire table.columns.length (table.page offset fetchSize), { session with link }) := by
    have taken : onLink (Link.await .fetch id limit) { session with link := waiting } =
        (.ok (.page (table.page offset fetchSize)), { session with link }) := by
      rw [onLink_apply, awaited]
    rw [awaitPage, Op.bind_of_ok taken, readPage, Op.bind_of_ok (Op.get_apply _)]
    dsimp only
    rw [arity_eq]
    rfl
  have sent : askPage ⟨statement, offset, fetchSize, limit⟩ session =
      (.ok id, { session with link := waiting }) := by
    rw [askPage, Op.bind_of_ok (checkOpen_apply rests.is_open), onLink_apply, submitted]
  have fetched : startFetch ⟨statement, offset, fetchSize, limit⟩ session =
      ((Page.ofWire table.columns.length (table.page offset fetchSize)).map (.settled ∘ .ok),
        { session with link }) := by
    rw [startFetch, Op.bind_of_ok sent, Op.bind_of_ok (Op.get_apply _)]
    dsimp only
    rw [arrived]
    dsimp only
    rw [Op.map_apply, Op.map_apply, read]
    cases Page.ofWire table.columns.length (table.page offset fetchSize) <;> rfl
  simp only [PageSource.start, fetched]
  cases Page.ofWire table.columns.length (table.page offset fetchSize) <;> rfl

/-- Over a table with a value for each column, the page that is fetched shows the rows of the table. -/
theorem Offers.start (offers : session.Offers data statement table) (complete : table.Complete)
    (addressable : table.rows.length < UInt64.size) {offset : UInt64} {fetchSize : UInt32}
    (fits : (Response.page (table.pageFrom offset.toNat (Table.pageSize fetchSize))).Fits) (limit : Duration) :
    ∃ after, PageSource.start ⟨statement, offset, fetchSize, limit⟩ session =
        (.settled (.ok (table.pageOf offset.toNat (Table.pageSize fetchSize))), after) ∧
      after.Offers data statement table := by
  obtain ⟨⟨conversation, rests, shows⟩, arity_eq⟩ := offers
  obtain ⟨link, started, still⟩ := rests.start shows arity_eq fits limit
  rw [Table.page, Table.ofWire_pageFrom complete addressable fits] at started
  exact ⟨_, started, ⟨conversation, still, shows⟩, arity_eq⟩

/-! ## From page to page -/

/-- An exchange with a session in which the pages of a table are asked for one after the other. -/
structure Pages (data : Dataset) (statement : UInt64) (fetchSize : UInt32) (table : Table)
    (now : Paging (Session Serving) Ticket) : Prop where
  offers : now.source.Offers data statement table
  reaches : table.Reaches fetchSize now.offset.toNat
  answered : ∀ ticket, now.request = some ticket →
    ticket = .settled (.ok (table.pageOf now.offset.toNat (Table.pageSize fetchSize)))

section Exchange

variable {options : FetchOptions} {offset : UInt64} {source after : Session Serving} {ticket : Ticket}
  {page : Page}

theorem Pages.begin (complete : table.Complete) (addressable : table.rows.length < UInt64.size)
    (fits : ∀ page ∈ table.pagesFrom 0 options.effectiveFetchSize, (Response.page page).Fits)
    (pages : Pages data statement options.effectiveFetchSize table ⟨offset, none, source⟩) :
    Pages data statement options.effectiveFetchSize table
      ⟨offset, some (PageSource.start (options.ask statement offset) source).1,
        (PageSource.start (options.ask statement offset) source).2⟩ := by
  obtain ⟨after, started, offers⟩ :=
    pages.offers.start complete addressable (pages.reaches.fits fits) options.timeout
  rw [FetchOptions.ask, started]
  exact ⟨offers, pages.reaches, fun ticket same => (Option.some.inj same).symm⟩

theorem Pages.finished
    (pages : Pages data statement options.effectiveFetchSize table ⟨offset, some ticket, source⟩) :
    PageSource.finish ticket source =
      (.ok (table.pageOf offset.toNat (Table.pageSize options.effectiveFetchSize)), source) := by
  have settled := pages.answered ticket rfl
  dsimp only at settled
  rw [settled]
  rfl

/-- The next place is behind the page. -/
theorem Pages.proceed (addressable : table.rows.length < UInt64.size)
    (pages : Pages data statement options.effectiveFetchSize table ⟨offset, some ticket, source⟩)
    (finished : PageSource.finish ticket source = (.ok page, after)) :
    Pages data statement options.effectiveFetchSize table
      ⟨page.offset + UInt64.ofNat page.rows.length, none, after⟩ := by
  rw [pages.finished] at finished
  obtain ⟨given, rfl⟩ := Prod.mk.inj finished
  obtain rfl := Except.ok.inj given
  have inside := pages.reaches.inside
  have shows := Table.pageOf_shows (Table.pageSize_pos options.effectiveFetchSize) inside addressable
  refine ⟨pages.offers, ?_, fun ticket same => nomatch same⟩
  have reaches := pages.reaches.next
  rw [← shows.toNat_next inside addressable] at reaches
  exact reaches

/-- Over a session that offers a table, a cursor that has the first page gets every page that it asks
for. -/
theorem Offers.reliable (offers : source.Offers data statement table) (complete : table.Complete)
    (addressable : table.rows.length < UInt64.size)
    (fits : ∀ page ∈ table.pagesFrom 0 options.effectiveFetchSize, (Response.page page).Fits) :
    Paging.Reliable table.rows (options.ask statement)
      ⟨UInt64.ofNat (table.pageOf 0 (Table.pageSize options.effectiveFetchSize)).rows.length, none, source⟩ := by
  have start : Pages data statement options.effectiveFetchSize table
      ⟨UInt64.ofNat (table.pageOf 0 (Table.pageSize options.effectiveFetchSize)).rows.length, none, source⟩ := by
    have reaches := (Table.Reaches.zero options.effectiveFetchSize table).next
    have bound := reaches.inside
    rw [Nat.zero_add] at reaches bound
    refine ⟨offers, ?_, fun ticket same => nomatch same⟩
    dsimp only
    rw [UInt64.toNat_ofNat', Nat.mod_eq_of_lt (Nat.lt_of_le_of_lt bound addressable)]
    exact reaches
  intro answers offset ticket now run
  have pages : Pages data statement options.effectiveFetchSize table ⟨offset, some ticket, now⟩ := by
    generalize reached : (⟨offset, some ticket, now⟩ : Paging (Session Serving) Ticket) = place at run ⊢
    clear reached
    induction run with
    | refl => exact start
    | note thread event _ ih => exact ⟨ih.offers.note thread event, ih.reaches, ih.answered⟩
    | begin _ ih => exact ih.begin complete addressable fits
    | answered _ finished ih => exact ih.proceed addressable finished
    | refused _ finished ih =>
      rw [ih.finished] at finished
      obtain ⟨answered, -⟩ := Prod.mk.inj finished
      contradiction
  refine ⟨_, congrArg Prod.fst pages.finished, ?_⟩
  exact Table.pageOf_shows (Table.pageSize_pos _) pages.reaches.inside addressable

end Exchange

end Session

end PagedResults
