import PagedResults.Proofs.Closing
import PagedResults.Proofs.Conversation.Effects
import PagedResults.Proofs.Cursor.Life
import PagedResults.Proofs.Pages.Defects
import PagedResults.Proofs.Session.Viewer

/-! # Queries that fail

A query fails on either side: the server refuses the statement, or the client cannot read the first page of
the result. The server forgets a statement that it refuses. A result that the client cannot read stays on
the server, under an id that the caller does not get, and the session remembers its number of columns.
-/

namespace PagedResults

/-! ## The first page of a table -/

namespace Row

variable {arity : Nat} {row : Row}

private theorem sound_toCells (storable : row.Storable) :
    Sound arity row.toCells ↔ row.values.length = arity := by
  constructor
  · intro sound
    rw [← Value.length_toCells]
    exact sound.1
  · intro complete
    exact exists_carried.mp ⟨row, ofCells_eq_ok.mp (ofCells_toCells 0 complete storable)⟩

/-- A row of values is refused for their number only. -/
theorem ofCells_toCells_eq_error {number : UInt64} {failure : Failure Error}
    (storable : row.Storable) :
    ofCells number arity row.toCells = .error failure ↔ row.values.length ≠ arity ∧
      failure = .error (.malformed number (min row.values.length arity)
        s!"expected {arity} cells, found {row.values.length}") := by
  have size : row.toCells.length = row.values.length := Value.length_toCells row.values
  by_cases complete : row.values.length = arity
  · simp [ofCells_toCells number complete storable, complete]
  · rw [ofCells, size, if_neg complete]
    simp [Outcome.fail, complete, eq_comm]

end Row

namespace Table

variable {table : Table} {fetchSize : UInt32}

/-- The row at an index is on the first page, and is the first one there that has not a value for each
column. -/
structure Ragged (fetchSize : UInt32) (table : Table) (index : Nat) (row : Row) : Prop where
  entry : table.rows[index]? = some row
  inside : index < pageSize fetchSize
  wrong : row.values.length ≠ table.columns.length
  earlier : ∀ other ∈ table.rows.take index, other.values.length = table.columns.length

/-- What is wrong with the row at an index. -/
def misfit (table : Table) (index : Nat) (row : Row) : Error :=
  .malformed (UInt64.ofNat index) (min row.values.length table.columns.length)
    s!"expected {table.columns.length} cells, found {row.values.length}"

private theorem pageSize_lt (fetchSize : UInt32) : pageSize fetchSize < UInt64.size := by
  have wordSize : UInt64.size = 2 ^ 64 := rfl
  have small := fetchSize.toNat_lt
  unfold pageSize defaultPageSize
  split <;> omega

private theorem rows_page_zero : (table.page 0 fetchSize).rows =
    (table.rows.take (pageSize fetchSize)).map Row.toCells := by
  simp [page, pageFrom]

private theorem offset_page_zero : (table.page 0 fetchSize).offset = 0 := by
  simp [page, pageFrom]

/-- There is a place behind the first page. -/
theorem next_in_range {arity : Nat} {page : Page} (read : Page.ofWire arity (table.page 0 fetchSize) = .ok page) :
    page.offset.toNat + page.rows.length < UInt64.size := by
  obtain ⟨offset_eq, length_eq⟩ := Page.ofWire_keeps read
  rw [offset_eq, length_eq, offset_page_zero, rows_page_zero, UInt64.toNat_zero, Nat.zero_add, List.length_map,
    List.length_take]
  exact Nat.lt_of_le_of_lt (Nat.min_le_left _ _) (pageSize_lt _)

/-- Each row of a page that fits into a frame can be in memory. -/
theorem row_storable (fits : (Response.page (table.page 0 fetchSize)).Fits) {row : Row}
    (member : row ∈ table.rows.take (pageSize fetchSize)) : row.Storable := by
  have shown : table.page 0 fetchSize = ⟨(table.page 0 fetchSize).offset, (table.page 0 fetchSize).isLast,
      (table.rows.take (pageSize fetchSize)).map Row.toCells⟩ := by rw [← rows_page_zero]
  rw [shown] at fits
  exact fits.rows_storable row member

/-- Reading the first page of a table fails at the first row that has not a value for each column, and only
there. -/
theorem ofWire_page_zero_eq_error (fits : (Response.page (table.page 0 fetchSize)).Fits)
    {failure : Failure Error} :
    Page.ofWire table.columns.length (table.page 0 fetchSize) = .error failure ↔
      ∃ index row, table.Ragged fetchSize index row ∧ failure = .error (table.misfit index row) := by
  have place {index : Nat} (inside : index < pageSize fetchSize) (cells : List Cell) :
      Page.rowAt (table.page 0 fetchSize).offset table.columns.length (cells, index) =
        Row.ofCells (UInt64.ofNat index) table.columns.length cells := by
    have addressable := Nat.lt_trans inside (pageSize_lt fetchSize)
    rw [offset_page_zero, Page.rowAt_of_addressable (by rwa [UInt64.toNat_zero, Nat.zero_add]),
      UInt64.zero_add]
  have sound {index : Nat} (inside : index < pageSize fetchSize) :
      (∀ earlier ∈ (table.page 0 fetchSize).rows.take index, Row.Sound table.columns.length earlier) ↔
        ∀ other ∈ table.rows.take index, other.values.length = table.columns.length := by
    rw [rows_page_zero, ← List.map_take, List.take_take, Nat.min_eq_left (Nat.le_of_lt inside),
      List.forall_mem_map]
    refine forall₂_congr fun other member => Row.sound_toCells (row_storable fits ?_)
    exact (List.take_prefix_take_left (Nat.le_of_lt inside)).subset member
  rw [Page.ofWire_eq_error]
  constructor
  · rintro ⟨index, cells, entry, -, earlier, failed⟩
    rw [rows_page_zero, List.getElem?_map, Option.map_eq_some_iff] at entry
    obtain ⟨row, entry, rfl⟩ := entry
    have storable := row_storable fits (List.mem_of_getElem? entry)
    rw [List.getElem?_take, Option.ite_none_right_eq_some] at entry
    obtain ⟨inside, entry⟩ := entry
    rw [place inside, Row.ofCells_toCells_eq_error storable] at failed
    obtain ⟨wrong, same⟩ := failed
    exact ⟨index, row, ⟨entry, inside, wrong, (sound inside).mp earlier⟩, same⟩
  · rintro ⟨index, row, ⟨entry, inside, wrong, earlier⟩, same⟩
    have there : (table.rows.take (pageSize fetchSize))[index]? = some row := by
      rw [List.getElem?_take, if_pos inside, entry]
    refine ⟨index, row.toCells, ?_, ?_, (sound inside).mpr earlier, ?_⟩
    · rw [rows_page_zero, List.getElem?_map, there]
      rfl
    · rw [offset_page_zero, UInt64.toNat_zero, Nat.zero_add]
      exact Nat.le_of_lt (Nat.lt_trans inside (pageSize_lt fetchSize))
    · rw [place inside, Row.ofCells_toCells_eq_error (row_storable fits (List.mem_of_getElem? there))]
      exact ⟨wrong, same⟩

end Table

/-! ## Calls -/

namespace Session

variable {data : Dataset} {spare : Nat} {conversation : Conversation} {request : Request}
  {response : Response} {session before after : Session Serving}

/-- An open session whose server has answered everything and has an id left. Streams may still be read on
it; the next call gets a channel of its own. -/
structure Attended (data : Dataset) (session : Session Serving) : Prop where
  is_open : session.closed = false
  link : session.link.Rests data session.talk [] session.link.channels
  apart : session.link.channels.lookup session.link.calls.nextId = none
  numbered : session.talk.Numbered 1

private theorem Attended.of_quiet (quiet : session.Quiet data (spare + 1)) : session.Attended data := by
  have link := quiet.rests.link
  have nothing : session.link.channels = [] := link.channels_eq
  refine ⟨quiet.rests.is_open, ?_, ?_, quiet.numbered.mono (by omega)⟩
  · rwa [nothing]
  · rw [nothing]
    rfl

theorem Attended.respond (attended : session.Attended data) (small : request.Fits)
    (answered : session.talk.answer data request = .ok (.one response, conversation)) (fits : response.Fits)
    (limit : Duration) :
    ∃ link, Session.call request limit session = (response.outcome, { session with link }) ∧
      link.peer.conversation = conversation := by
  obtain ⟨link, called, rests⟩ :=
    attended.link.respond attended.apart small answered fits .caller limit
  refine ⟨link, ?_, rests.conversation_eq⟩
  rw [Session.call_apply attended.is_open, called]

/-- The server has the same statements with the same results, and the session knows as much about them. -/
structure Unmoved (before after : Session Serving) : Prop where
  statement_eq : ∀ id, after.talk.statement? id = before.talk.statement? id
  arities_eq : after.arities = before.arities

/-- The server has one statement more, and the session knows how many columns it has. -/
structure Gained (statement : Statement) (arity : Nat) (before after : Session Serving) : Prop where
  absent : before.talk.statement? (before.talk.latest + 1) = none
  statement_eq : ∀ id, after.talk.statement? id =
    if id = before.talk.latest + 1 then some statement else before.talk.statement? id
  arity_eq : ∀ id, after.arities.lookup id =
    if id = before.talk.latest + 1 then some arity else before.arities.lookup id

theorem Gained.not_unmoved {statement : Statement} {arity : Nat}
    (gained : Gained statement arity before after) : ¬ Unmoved before after := by
  intro unmoved
  have there := gained.statement_eq (before.talk.latest + 1)
  rw [if_pos rfl, unmoved.statement_eq, gained.absent] at there
  nomatch there

/-- A session that is not open fails every call, and the server hears nothing of it. -/
theorem call_down (down : session.isOpen = false) (request : Request) (limit : Duration) :
    ∃ failure after, Session.call request limit session = (.error failure, after) ∧ Unmoved session after := by
  cases closed : session.closed with
  | true =>
    have refused : checkOpen session = (Outcome.fail .connectionClosed, session) := by
      rw [checkOpen, Op.bind_of_ok (Op.get_apply _), closed]
      rfl
    refine ⟨.error .connectionClosed, session, ?_, fun _ => rfl, rfl⟩
    rw [Session.call, Op.bind_apply, refused]
    rfl
  | false =>
    have shut : session.link.isOpen = false := by simpa [isOpen, closed] using down
    cases standing : session.link.calls.standing with
    | live =>
      rw [Link.isOpen, standing] at shut
      contradiction
    | closed cause =>
      have failed : session.link.calls.standing.error? = some (cause.getD .connectionClosed) := by
        rw [standing]
        rfl
      have called := Session.call_apply closed request limit
      rw [Link.call_closed failed] at called
      exact ⟨_, _, called, fun _ => rfl, rfl⟩

end Session

/-! ## Queries -/

namespace OpenResult

open Session (Attended Gained Unmoved)

variable {data : Dataset} {sql : String} {options : FetchOptions} {table : Table}
  {session : Session Serving}

/-- The request of a query. -/
def request (sql : String) (options : FetchOptions) : Request :=
  .prepareAndExecute sql options.effectiveFetchSize options.maxRows

/-- The request of a query and the response to it fit into frames. -/
structure Transmits (data : Dataset) (sql : String) (options : FetchOptions) (session : Session Serving) :
    Prop where
  small : (request sql options).Fits
  fits : ∀ response next,
    session.talk.answer data (request sql options) = .ok (.one response, next) → response.Fits

private theorem Transmits.of_answer {response : Response} {next : Conversation} (small : (request sql options).Fits)
    (answered : session.talk.answer data (request sql options) = .ok (.one response, next))
    (fits : response.Fits) : Transmits data sql options session := by
  refine ⟨small, fun other after given => ?_⟩
  obtain ⟨same, -⟩ := Prod.mk.inj (Except.ok.inj (given.symm.trans answered))
  obtain rfl : other = response := by simpa [Block.one] using same
  exact fits

/-- A statement that the server refuses is not kept. -/
theorem query_refused (attended : session.Attended data) (transmits : Transmits data sql options session)
    {detail : ServiceError} (refused : data sql [] = .error detail) :
    ∃ after, query sql options session = (Outcome.fail (.service detail), after) ∧
      Unmoved session after := by
  obtain ⟨next, answered⟩ := Conversation.answer_prepareAndExecute_error attended.numbered.fresh refused
    options.effectiveFetchSize options.maxRows
  obtain ⟨link, called, talk_eq⟩ := attended.respond transmits.small answered
    (transmits.fits _ _ answered) options.timeout
  obtain ⟨-, effect⟩ := Conversation.answer_effect attended.numbered answered
  refine ⟨{ session with link }, ?_, fun id => ?_, rfl⟩
  · exact Op.bind_of_error called _
  · change link.peer.conversation.statement? id = _
    rw [talk_eq, effect, Request.effect, refused]
    split
    · next same => exact same ▸ attended.numbered.fresh.symm
    · rfl

/-- The page that begins a result. -/
def firstPage (options : FetchOptions) (table : Table) : Outcome Error Page :=
  Page.ofWire table.columns.length (table.page 0 options.effectiveFetchSize)

/-- Once the server has run a statement, the client opens its result as soon as it has read the first page.
If it cannot read that page, the server keeps the result. -/
theorem query_answered (attended : session.Attended data) (transmits : Transmits data sql options session)
    (named : data sql [] = .ok table) :
    (∀ page, firstPage options (table.cut options.maxRows) = .ok page →
      ∃ result after, query sql options session = (.ok result, after)) ∧
    ∀ failure, firstPage options (table.cut options.maxRows) = .error failure →
      ∃ after, query sql options session = (.error failure, after) ∧
        Gained ⟨sql, some (table.cut options.maxRows)⟩ table.columns.length session after := by
  obtain ⟨next, answered, -⟩ := Conversation.answer_prepareAndExecute attended.numbered.fresh named
    options.effectiveFetchSize options.maxRows
  obtain ⟨link, called, talk_eq⟩ := attended.respond transmits.small answered
    (transmits.fits _ _ answered) options.timeout
  obtain ⟨-, effect⟩ := Conversation.answer_effect attended.numbered answered
  have begun := Viewer.ofResponse_firstPage "prepare_and_execute" true (session.talk.latest + 1) options
    (table.cut options.maxRows) { session with link }
  -- up to here the server has run the statement; the rest is the client's
  have answer : query sql options session = _ := (Op.bind_of_ok called).trans begun
  constructor
  · intro page read
    rw [firstPage] at read
    rw [read] at answer
    obtain ⟨-, -, cursor, after, -, opened, -⟩ := Cursor.open_running options true (PageSource.note .caller
      (.firstPage (session.talk.latest + 1) page.rows.length page.isLast)
      (Client.learnArity (session.talk.latest + 1) (table.cut options.maxRows).columns.length
        ({ session with link } : Session Serving)))
      (Table.next_in_range read)
    dsimp only at answer
    rw [opened] at answer
    exact ⟨_, after, answer⟩
  · intro failure unread
    rw [firstPage] at unread
    rw [unread] at answer
    refine ⟨_, answer, attended.numbered.fresh, fun id => ?_, fun id => ?_⟩
    · change link.peer.conversation.statement? id = _
      rw [talk_eq, effect, Request.effect, named]
      rfl
    · rw [Table.columns_cut]
      split
      · next same => exact same ▸ List.lookup_cons_self
      · next differs => exact Session.lookup_learnArity_ne differs _

private theorem Transmits.firstPage_eq_error (transmits : Transmits data sql options session)
    (attended : session.Attended data) (named : data sql [] = .ok table) (failure : Failure Error) :
    firstPage options (table.cut options.maxRows) = .error failure ↔
      ∃ index row, (table.cut options.maxRows).Ragged options.effectiveFetchSize index row ∧
        failure = .error ((table.cut options.maxRows).misfit index row) := by
  obtain ⟨next, answered, -⟩ := Conversation.answer_prepareAndExecute attended.numbered.fresh named
    options.effectiveFetchSize options.maxRows
  exact Table.ofWire_page_zero_eq_error (transmits.fits _ _ answered).first

/-- What a query leaves behind that fails. Of a session that is not open the server hears nothing, and a
statement that the data set refuses leaves nothing open either. Otherwise a query only fails because of the
first row of the first page that has not a value for each column, and then the statement stays open on the
server, with its result. -/
theorem leaves_nothing_unless_ragged (data : Dataset) (sql : String) (options : FetchOptions)
    (session : Session Serving) :
    (session.isOpen = false → ∃ failure after,
      query sql options session = (.error failure, after) ∧ Unmoved session after) ∧
    (session.Attended data → Transmits data sql options session →
      (∀ detail, data sql [] = .error detail → ∃ after,
        query sql options session = (Outcome.fail (.service detail), after) ∧ Unmoved session after) ∧
      ∀ table, data sql [] = .ok table →
        ((∀ index row, ¬ (table.cut options.maxRows).Ragged options.effectiveFetchSize index row) →
          ∃ result after, query sql options session = (.ok result, after)) ∧
        ∀ index row, (table.cut options.maxRows).Ragged options.effectiveFetchSize index row → ∃ after,
          query sql options session = (Outcome.fail ((table.cut options.maxRows).misfit index row), after) ∧
            Gained ⟨sql, some (table.cut options.maxRows)⟩ table.columns.length session after ∧
            ¬ Unmoved session after) := by
  refine ⟨fun down => ?_, fun attended transmits => ⟨fun detail refused => ?_, fun table named => ?_⟩⟩
  · obtain ⟨failure, after, called, unmoved⟩ :=
      Session.call_down down (request sql options) options.timeout
    exact ⟨failure, after, Op.bind_of_error called _, unmoved⟩
  · exact query_refused attended transmits refused
  · obtain ⟨opens, keeps⟩ := query_answered attended transmits named
    have unread := transmits.firstPage_eq_error attended named
    constructor
    · intro complete
      cases read : firstPage options (table.cut options.maxRows) with
      | ok page => exact opens page read
      | error failure =>
        obtain ⟨index, row, ragged, -⟩ := (unread failure).mp read
        exact absurd ragged (complete index row)
    · intro index row ragged
      obtain ⟨after, failed, gained⟩ := keeps _ ((unread _).mpr ⟨index, row, ragged, rfl⟩)
      exact ⟨after, failed, gained, gained.not_unmoved⟩

/-- A table that the catalog does not have. -/
theorem leaves_nothing_unless_ragged_unknown : ∃ session after,
    let data := (Catalog.withTable "numbers" (Table.series 4) {}).query
    let detail : ServiceError := ⟨2, "unknown table 'letters'", some "42S02"⟩
    Session.start { address := .v4 [127, 0, 0, 1] 7400 } { peer := { data } } = (.ok 1, session) ∧
      session.Attended data ∧ Transmits data "letters" {} session ∧
      query "letters" {} session = (Outcome.fail (.service detail), after) ∧ Unmoved session after := by
  have refused := Catalog.query_unknown (by decide +kernel : Catalog.tableName "letters" = .ok "letters")
    (by decide +kernel : (Catalog.withTable "numbers" (Table.series 4) {}).tables.lookup "letters" = none) []
  obtain ⟨session, started, quiet, -⟩ :=
    Session.start_quiet (Catalog.withTable "numbers" (Table.series 4) {}).query
      { address := .v4 [127, 0, 0, 1] 7400 } (by decide) (by decide : 1 < UInt64.size)
  have attended := Session.Attended.of_quiet quiet
  obtain ⟨_, answered⟩ :=
    Conversation.answer_prepareAndExecute_error attended.numbered.fresh refused _ _
  have small : (request "letters" {}).Fits := by decide
  have transmits := Transmits.of_answer small answered (by decide +kernel)
  obtain ⟨-, answers⟩ := leaves_nothing_unless_ragged
    (Catalog.withTable "numbers" (Table.series 4) {}).query "letters" {} session
  obtain ⟨after, failed, unmoved⟩ := (answers attended transmits).1 _ refused
  exact ⟨session, after, started, attended, transmits, failed, unmoved⟩

/-- A row of two values under one column. -/
def ragged : Table := ⟨[⟨"flag", .bool, false⟩], [⟨[.bool true, .bool false]⟩]⟩

/-- The query for such a table fails, and its result is still open on the server, as that of statement 1. -/
theorem ragged_result_stays : ∃ session after,
    let data := (Catalog.withTable "flags" ragged {}).query
    Session.start { address := .v4 [127, 0, 0, 1] 7400 } { peer := { data } } = (.ok 1, session) ∧
      session.Attended data ∧ Transmits data "flags" {} session ∧
      query "flags" {} session = (Outcome.fail (.malformed 0 1 "expected 1 cells, found 2"), after) ∧
      session.talk.statement? 1 = none ∧ after.talk.statement? 1 = some ⟨"flags", some ragged⟩ ∧
      after.arities.lookup 1 = some 1 ∧ ¬ Unmoved session after := by
  have named : (Catalog.withTable "flags" ragged {}).query "flags" [] = .ok ragged :=
    Catalog.Names.query ⟨"flags", by decide +kernel, by rfl⟩ []
  obtain ⟨session, started, quiet, latest_eq⟩ := Session.start_quiet (Catalog.withTable "flags" ragged {}).query
    { address := .v4 [127, 0, 0, 1] 7400 } (by decide) (by decide : 1 < UInt64.size)
  have attended := Session.Attended.of_quiet quiet
  obtain ⟨_, answered, -⟩ := Conversation.answer_prepareAndExecute attended.numbered.fresh named _ _
  have small : (request "flags" {}).Fits := by decide
  have transmits := Transmits.of_answer small answered (by
    rw [latest_eq]
    decide +kernel)
  obtain ⟨after, failed, gained⟩ := (query_answered attended transmits named).2 _
    ((transmits.firstPage_eq_error attended named _).mpr ⟨0, _, ⟨rfl, by decide, by decide, nofun⟩, rfl⟩)
  have statement_eq := gained.statement_eq 1
  have arity_eq := gained.arity_eq 1
  have absent := gained.absent
  rw [latest_eq] at statement_eq arity_eq absent
  exact ⟨session, after, started, attended, transmits, failed, absent, statement_eq, arity_eq,
    gained.not_unmoved⟩

end OpenResult

end PagedResults
