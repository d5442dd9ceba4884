import PagedResults.Proofs.RowStream
import PagedResults.Session.OpenResult

/-! # A table comes through as it is

A session that is ready runs statements that name tables. Opening the result of such a statement gives the
columns of the table, and reading it gives the rows, as many as the options let through, and then the end.
The mode of the cursor, the size of the pages and the way in which the statement is run make no
difference, as long as every message fits into a frame.
-/

namespace PagedResults

/-- The statement reads the table. -/
def Catalog.Names (sql : String) (table : Table) (catalog : Catalog) : Prop :=
  ∃ name, tableName sql = .ok name ∧ catalog.tables.lookup name = some table

theorem Catalog.Names.query {sql : String} {table : Table} {catalog : Catalog}
    (names : catalog.Names sql table) (parameters : List Value) :
    catalog.query sql parameters = .ok table := by
  obtain ⟨name, read, found⟩ := names
  simp only [Catalog.query, read, bind, Except.bind, found]
  rfl

theorem Catalog.query_unknown {sql name : String} {catalog : Catalog} (read : tableName sql = .ok name)
    (absent : catalog.tables.lookup name = none) (parameters : List Value) :
    catalog.query sql parameters = .error ⟨2, s!"unknown table '{name}'", some "42S02"⟩ := by
  simp only [Catalog.query, read, bind, Except.bind, absent]

theorem FetchOptions.shown_shown (options : FetchOptions) (rows : List Row) :
    options.shown (options.shown rows) = options.shown rows := by
  unfold shown
  split
  · rfl
  · rw [List.take_take, Nat.min_self]

namespace Table

variable {table : Table}

theorem columns_cut (maxRows : UInt64) (table : Table) : (table.cut maxRows).columns = table.columns := by
  unfold cut
  split <;> rfl

/-- The server cuts a table to the rows that the client would show anyway. -/
theorem rows_cut (options : FetchOptions) (table : Table) :
    (table.cut options.maxRows).rows = options.shown table.rows := by
  unfold cut FetchOptions.shown
  split <;> rfl

theorem Complete.cut (complete : table.Complete) (maxRows : UInt64) : (table.cut maxRows).Complete := by
  unfold Table.cut
  split
  · exact complete
  · exact fun row member => complete row (List.mem_of_mem_take member)

end Table

/-- An open session with nothing on its way, whose server has an id for the next statement. -/
structure Session.Ready (data : Dataset) (session : Session Serving) : Prop where
  rests : session.Rests data session.link.peer.conversation
  fresh : session.link.peer.conversation.Fresh

/-- A new connection has nothing on its way. -/
theorem Link.Rests.new (data : Dataset) (conversation : Conversation) :
    ({ peer := { data, conversation } } : Link Serving).Rests data conversation [] [] := by
  have waits : ({} : Inbound).Carries [] := ⟨rfl, (fun _ member => nomatch member), rfl⟩
  exact ⟨rfl, rfl, ⟨rfl, waits⟩, rfl, rfl, rfl, rfl, waits, .fresh, rfl⟩

/-- A server that nothing has been asked of on a connection lets the client in, and only notes it. -/
theorem Session.start_answered {link : Link Serving} {conversation : Conversation}
    (rests : link.Rests data conversation [] []) (options : ConnectionOptions)
    (small : (Request.openConnection options.user options.password options.properties).Fits) :
    ∃ session, Session.start options link = (.ok conversation.nextConnection, session) ∧
      session.Rests data { conversation with nextConnection := conversation.nextConnection + 1 } := by
  have fits : (Response.connected conversation.nextConnection).Fits := by
    rw [Response.fits_iff]
    change 9 + (LittleEndian.write 4 2 ++ LittleEndian.write 8 conversation.nextConnection.toNat).length ≤ _
    rw [List.length_append, LittleEndian.length_write, LittleEndian.length_write]
    decide
  obtain ⟨after, called, still⟩ := rests.call rfl small rfl (fun detail same => nomatch same) fits .caller
    options.callTimeout
  have shaken : handshake options link = (.ok conversation.nextConnection,
      after.note .caller (.connected options.address conversation.nextConnection)) := by
    rw [handshake, Op.bind_of_ok called]
    rfl
  refine ⟨_, by rw [start, shaken], ?_, ?_⟩
  · rfl
  · exact still.note .caller (.connected options.address conversation.nextConnection)

/-- A session that has just been started has nothing on its way, and the server has only noted the client. -/
theorem Session.start_rests (data : Dataset) (options : ConnectionOptions)
    (small : (Request.openConnection options.user options.password options.properties).Fits) :
    ∃ session, Session.start options { peer := { data } } = (.ok 1, session) ∧
      session.Rests data { nextConnection := 2 } :=
  start_answered (.new data {}) options small

/-- A session that has just been started is ready. -/
theorem Session.start_ready (data : Dataset) (options : ConnectionOptions)
    (small : (Request.openConnection options.user options.password options.properties).Fits) :
    ∃ session, Session.start options { peer := { data } } = (.ok 1, session) ∧ session.Ready data := by
  obtain ⟨session, started, rests⟩ := start_rests data options small
  have same : session.link.peer.conversation = { nextConnection := 2 } := rests.link.conversation_eq
  rw [← same] at rests
  refine ⟨session, started, rests, ?_⟩
  rw [same]
  rfl

namespace OpenResult

/-- Opening the result gives the columns, and reading it gives the rows, one by one, and then the end. -/
def Delivers (opening : Op Error (Session Serving) OpenResult) (session : Session Serving)
    (columns : List Column) (rows : List Row) : Prop :=
  ∃ result opened, opening session = (.ok result, opened) ∧ result.columns = columns ∧
    Op.Yields nextRow rows (result, opened)

variable {data : Dataset} {conversation : Conversation} {statement : UInt64} {table : Table}
  {session : Session Serving} {options : FetchOptions} {sql : String}

/-- A result yields what its cursor yields. -/
theorem yields_of_cursor {result : OpenResult} {rows : List Row}
    (yields : Op.Yields Cursor.nextRow rows (result.cursor, session)) :
    Op.Yields nextRow rows (result, session) := by
  unfold nextRow onCursor
  apply Op.Yields.onPart
  · intro next state
    rfl
  · exact yields

/-- The response that begins an open result delivers the result. -/
theorem ofResponse_delivers (rests : session.Rests data conversation)
    (shows : conversation.Shows statement table) (complete : table.Complete)
    (bounded : table.rows.length ≤ ScrollableCursor.mostRows) (fits : table.PagesFit options.effectiveFetchSize)
    (operation : String) (ownsStatement : Bool) :
    Delivers
      (ofResponse operation (Conversation.firstPage statement options.effectiveFetchSize table) options
        ownsStatement)
      session table.columns (options.shown table.rows) := by
  have addressable : table.rows.length < UInt64.size := Nat.lt_of_le_of_lt bounded (by decide)
  have learned : (session.learnArity statement table.columns.length).Offers data statement table :=
    ⟨⟨conversation, ⟨rests.is_open, rests.link⟩, shows⟩, List.lookup_cons_self⟩
  let first := table.pageOf 0 (Table.pageSize options.effectiveFetchSize)
  have offers := learned.note .caller (.firstPage statement first.rows.length first.isLast)
  have read : Page.ofWire table.columns.length (table.page 0 options.effectiveFetchSize) = .ok first :=
    Table.ofWire_pageFrom complete addressable (fits.first statement).first
  have showsFirst : first.Shows table.rows 0 :=
    Table.pageOf_shows (Table.pageSize_pos _) (Nat.zero_le _) addressable
  obtain ⟨cursor, opened, begun, yields⟩ := Cursor.open_yields statement options ownsStatement bounded
    showsFirst (offers.reliable complete addressable fits.all)
  refine ⟨⟨statement, table.columns, cursor⟩, opened, ?_, rfl, yields_of_cursor yields⟩
  rw [Conversation.firstPage, ofResponse, Op.bind_of_ok (Op.modify_apply _ _), read,
    Op.bind_of_ok (Op.ofOutcome_apply _ _), Op.bind_of_ok (Op.modify_apply _ _)]
  exact Op.bind_of_ok begun

/-- A call that is answered by the first page of a table delivers the table. The server has cut it to as
many rows as the client lets through, so that the client cuts no more. -/
theorem call_delivers {next : Conversation} {request : Request} (rests : session.Rests data conversation)
    (small : request.Fits)
    (answered : conversation.answer data request = .ok (.one (Conversation.firstPage statement
      options.effectiveFetchSize (table.cut options.maxRows)), next))
    (shows : next.Shows statement (table.cut options.maxRows)) (complete : table.Complete)
    (bounded : table.rows.length ≤ ScrollableCursor.mostRows)
    (fits : (table.cut options.maxRows).PagesFit options.effectiveFetchSize) (operation : String)
    (ownsStatement : Bool) :
    Delivers
      (Session.call request options.timeout >>= fun response =>
        ofResponse operation response options ownsStatement)
      session table.columns (options.shown table.rows) := by
  obtain ⟨link, called, rests⟩ := rests.call small answered (fun detail same => nomatch same)
    (fits.first _) options.timeout
  have shorter := options.shown_length_le table.rows
  rw [← Table.rows_cut] at shorter
  obtain ⟨result, opened, given, columns_eq, yields⟩ := ofResponse_delivers rests shows
    (complete.cut options.maxRows) (Nat.le_trans shorter bounded) fits operation ownsStatement
  rw [Table.columns_cut] at columns_eq
  rw [Table.rows_cut, FetchOptions.shown_shown] at yields
  refine ⟨result, opened, ?_, columns_eq, yields⟩
  rw [Op.bind_of_ok called]
  exact given

private theorem query_delivers (ready : session.Ready data) (named : data sql [] = .ok table)
    (complete : table.Complete) (bounded : table.rows.length ≤ ScrollableCursor.mostRows)
    (small : (Request.prepareAndExecute sql options.effectiveFetchSize options.maxRows).Fits)
    (fits : (table.cut options.maxRows).PagesFit options.effectiveFetchSize) :
    Delivers (query sql options) session table.columns (options.shown table.rows) := by
  obtain ⟨next, answered, shows⟩ := Conversation.answer_prepareAndExecute ready.fresh named
    options.effectiveFetchSize options.maxRows
  exact call_delivers ready.rests small answered shows complete bounded fits "prepare_and_execute" true

/-- A statement that is open on the server is run with parameters. -/
theorem execute_delivers {parameters : List Value} (rests : session.Rests data conversation)
    (known : conversation.statement? statement = some { sql }) (named : data sql parameters = .ok table)
    (complete : table.Complete) (bounded : table.rows.length ≤ ScrollableCursor.mostRows)
    (small : (Request.execute statement (Value.toCells parameters) options.effectiveFetchSize
      options.maxRows).Fits)
    (fits : (table.cut options.maxRows).PagesFit options.effectiveFetchSize) :
    Delivers (execute statement parameters options) session table.columns (options.shown table.rows) := by
  obtain ⟨next, answered, shows⟩ := Conversation.answer_execute known named small.parameters_storable
    options.effectiveFetchSize options.maxRows
  exact call_delivers rests small answered shows complete bounded fits "execute" false

end OpenResult

namespace Session

variable {data : Dataset} {sql : String} {table : Table} {session : Session Serving}

/-- The client gets the id under which the server prepares a statement. -/
theorem prepare_answered {conversation next : Conversation} {id : UInt64} {columns : List Column}
    (rests : session.Rests data conversation) (small : (Request.prepare sql).Fits)
    (answered : conversation.answer data (.prepare sql) = .ok (.one (.prepared id columns), next))
    (fits : (Response.prepared id columns).Fits) :
    ∃ after, prepare sql session = (.ok ⟨id, columns⟩, after) ∧ after.Rests data next := by
  obtain ⟨link, called, rests⟩ := rests.call small answered (fun detail same => nomatch same) fits
    session.options.callTimeout
  refine ⟨learnArity id columns.length { session with link }, ?_, rests.is_open, rests.link⟩
  rw [prepare, Op.bind_of_ok (Op.get_apply _), Op.bind_of_ok called]
  rfl

/-- A statement that is prepared is open on the server, under the id that the client gets. -/
theorem prepare_apply (ready : session.Ready data) (named : data sql [] = .ok table)
    (small : (Request.prepare sql).Fits) (fits : ∀ id, (Response.prepared id table.columns).Fits) :
    ∃ id next conversation, prepare sql session = (.ok ⟨id, table.columns⟩, next) ∧
      next.Rests data conversation ∧ conversation.statement? id = some { sql } := by
  obtain ⟨next, answered, known⟩ := Conversation.answer_prepare ready.fresh named
  obtain ⟨after, prepared, rests⟩ := prepare_answered ready.rests small answered (fits _)
  exact ⟨_, after, next, prepared, rests, known⟩

/-- The requests that run the statement fit into frames, and so do the pages that answer them. -/
structure Fits (sql : String) (parameters : List Value) (options : FetchOptions) (streamSize : UInt32)
    (table : Table) : Prop where
  query : (Request.prepareAndExecute sql options.effectiveFetchSize options.maxRows).Fits
  prepare : (Request.prepare sql).Fits
  execute : ∀ statement, (Request.execute statement (Value.toCells parameters) options.effectiveFetchSize
    options.maxRows).Fits
  stream : (Request.executeStream sql streamSize).Fits
  shown : (table.cut options.maxRows).PagesFit options.effectiveFetchSize
  whole : table.PagesFit streamSize

/-- Whichever way a statement is run, and whatever the options, the result has the columns of the table
that the statement names and yields the shown rows of it, and a stream yields all of its rows. No list in
memory has more items than `bounded` says. -/
theorem delivers_table {catalog : Catalog} {session : Session Serving} (ready : session.Ready catalog.query)
    (names : catalog.Names sql table) (complete : table.Complete)
    (bounded : table.rows.length ≤ ScrollableCursor.mostRows) (parameters : List Value) (options : FetchOptions)
    (streamSize : UInt32) (fits : Fits sql parameters options streamSize table) :
    OpenResult.Delivers (OpenResult.query sql options) session table.columns (options.shown table.rows) ∧
      (∃ prepared next, prepare sql session = (.ok prepared, next) ∧ prepared.columns = table.columns ∧
        OpenResult.Delivers (OpenResult.execute prepared.id parameters options) next table.columns
          (options.shown table.rows)) ∧
      ∃ stream opened, RowStream.query sql streamSize session = (.ok stream, opened) ∧
        Op.Yields RowStream.next table.rows (stream, opened) := by
  refine ⟨?_, ?_, ?_⟩
  · exact OpenResult.query_delivers ready (names.query []) complete bounded fits.query fits.shown
  · have columns (id : UInt64) := fits.shown.prepared id
    rw [Table.columns_cut] at columns
    obtain ⟨id, next, conversation, given, rests, known⟩ :=
      prepare_apply ready (names.query []) fits.prepare columns
    refine ⟨⟨id, table.columns⟩, next, given, rfl, ?_⟩
    exact OpenResult.execute_delivers rests known (names.query parameters) complete bounded
      (fits.execute id) fits.shown
  · exact RowStream.query_yields ready.rests ready.fresh (names.query []) complete
      (Nat.lt_of_le_of_lt bounded (by decide)) fits.stream fits.whole.first fits.whole.all

/-- A table with nested arrays. -/
def readings : Table where
  columns := [⟨"id", .int64, false⟩, ⟨"samples", .array, true⟩]
  rows := [⟨[.int64 1, .array [.null, .array [.text "é"]]]⟩, ⟨[.int64 2, .null]⟩, ⟨[.int64 3, .array []]⟩]

/-- The first two of three rows, in pages of one row and in any order, or all rows in one stream. -/
theorem delivers_readings : ∃ session,
    start { address := .v4 [127, 0, 0, 1] 7400 }
      { peer := { data := (Catalog.withTable "Readings" readings {}).query } } =
      (.ok 1, session) ∧
    OpenResult.Delivers (OpenResult.query " Select * FROM readings ;" ⟨1, 2, .ofSeconds 5, .scrollable⟩)
      session readings.columns (readings.rows.take 2) ∧
    (∃ prepared next, prepare " Select * FROM readings ;" session = (.ok prepared, next) ∧
      prepared.columns = readings.columns ∧
      OpenResult.Delivers
        (OpenResult.execute prepared.id [.bool true] ⟨1, 2, .ofSeconds 5, .scrollable⟩) next
        readings.columns (readings.rows.take 2)) ∧
    ∃ stream opened, RowStream.query " Select * FROM readings ;" 0 session = (.ok stream, opened) ∧
      Op.Yields RowStream.next readings.rows (stream, opened) := by
  obtain ⟨session, started, ready⟩ := start_ready (Catalog.withTable "Readings" readings {}).query
    { address := .v4 [127, 0, 0, 1] 7400 } (by decide)
  have names : (Catalog.withTable "Readings" readings {}).Names " Select * FROM readings ;" readings :=
    ⟨"readings", by decide +kernel, by rfl⟩
  have fits : Fits " Select * FROM readings ;" [.bool true] ⟨1, 2, .ofSeconds 5, .scrollable⟩ 0 readings :=
    { query := by decide
      prepare := by decide
      execute := by
        intro statement
        rw [Request.fits_iff, Request.length_write_execute]
        decide
      stream := by decide
      shown := .of_whole (by decide +kernel) _
      whole := .of_whole (by decide +kernel) _ }
  exact ⟨session, started, delivers_table ready names (by decide) (by decide) [.bool true]
    ⟨1, 2, .ofSeconds 5, .scrollable⟩ 0 fits⟩

end Session

end PagedResults
