import PagedResults.Proofs.CommandLine.Arguments
import PagedResults.Proofs.Session.Goodbye
import PagedResults.Proofs.Session.Ownership

/-! # Listing a result

The client program lists the rows of a result, one a line, from the first to the last or from the last to the
first. The one run goes forwards over a result that drops the rows it has passed, the other one goes to the last
row of a result that keeps its rows, and backwards from there. `Client.lists_either_way` says that both list the
same rows in opposite orders, and leave nothing behind on the server.
-/

namespace PagedResults

/-- Both ends are done with the session, and the server knows no statement of it any more. -/
structure Session.Released (session : Session Serving) : Prop where
  closed : session.closed = true
  disconnected : session.link.isOpen = false
  ended : session.link.peer.ended = true
  forgotten : session.talk.statements = []

namespace CommandLine.Client

/-! ## The order of a run -/

namespace Job

variable (job : Job)

/-- Where a run begins. -/
def entry : CursorCall := if job.reverse then .last else .next

/-- How a run goes on. -/
def move : CursorCall := if job.reverse then .previous else .next

/-- A list in the order of a run. -/
def order {α : Type} (items : List α) : List α := if job.reverse then items.reverse else items

private theorem supports_entry : job.fetchOptions.mode.supports job.entry = true := by
  rw [fetchOptions, entry]
  cases job.reverse <;> rfl

private theorem supports_move : job.fetchOptions.mode.supports job.move = true := by
  rw [fetchOptions, move]
  cases job.reverse <;> rfl

private theorem entry_ne_close : job.entry ≠ .close := by
  rw [entry]
  cases job.reverse <;> nofun

private theorem move_ne_close : job.move ≠ .close := by
  rw [move]
  cases job.reverse <;> nofun

private theorem length_order {α : Type} (items : List α) : (job.order items).length = items.length := by
  rw [order]
  split
  · exact List.length_reverse
  · rfl

/-- A run meets the rows in its order. -/
theorem walk (rows : List Row) :
    PlainCursor.Walk job.move (PlainCursor.move job.entry ⟨rows, -1⟩) (job.order rows) := by
  rw [move, entry, order]
  cases job.reverse with
  | false => exact PlainCursor.walk_from_first rows
  | true => exact PlainCursor.walk_from_last rows

private theorem shown_order {rows : List Row} {texts : List String}
    (shown : List.Forall₂ (fun row text => row.toText = .ok text) rows texts) :
    List.Forall₂ (fun row text => row.toText = .ok text) (job.order rows) (job.order texts) := by
  rw [order, order]
  split
  · exact List.rel_reverse shown
  · exact shown

end Job

/-! ## Steps of a run -/

/-- What the program prints of a result whose rows have these texts. -/
def listing (columns : List Column) (texts : List String) : Report where
  output := String.intercalate " | " (columns.map (·.name)) :: texts
  notices := [s!"{texts.length} rows"]

section Steps

variable {π : Type} [Peer π] {α : Type} {report : Report} {rows : List Row} {texts : List String} {statement : UInt64}
  {columns : List Column} {move : CursorCall} {state last : Cursor Ticket × Session π} {session after : Session π}

/-- The lines of the rows that a walk meets. -/
theorem listRows_walk (walk : Cursor.Walk move rows state last)
    (shown : List.Forall₂ (fun row text => row.toText = .ok text) rows texts) {printed : Nat}
    (few : printed + rows.length < UInt64.size) (lines : List String) :
    listRows move printed lines ⟨statement, columns, state.1⟩ state.2 =
      (.ok (printed + rows.length), lines.reverse ++ texts, "", ⟨statement, columns, last.1⟩, last.2) := by
  induction walk generalizing texts printed lines with
  | off nowhere =>
    cases shown
    rw [listRows]
    simp only [nowhere, List.length_nil, Nat.add_zero, List.append_nil]
  | @on row rows answer state next last here moved rest ih =>
    cases shown with
    | @cons _ text _ texts written others =>
      rw [List.length_cons] at few ⊢
      have whole : row.write.halt = none ∧ row.write.text = text := by
        rw [Row.toText, Written.result] at written
        split at written
        · cases written
        · next complete => exact ⟨complete, Except.ok.inj written⟩
      have listed := ih others (by omega : printed + 1 + rows.length < UInt64.size) (text :: lines)
      rw [listRows]
      simp only [here, whole, if_neg (by omega : ¬ UInt64.size ≤ printed + 1), moved]
      rw [listed, List.reverse_cons, List.append_assoc, List.singleton_append]
      congr 2
      omega

private theorem printRows_walk (walk : Cursor.Walk move rows state last)
    (shown : List.Forall₂ (fun row text => row.toText = .ok text) rows texts) (few : rows.length < UInt64.size) :
    printRows move ⟨statement, columns, state.1⟩ (report, state.2) =
      (.ok (rows.length, ⟨statement, columns, last.1⟩),
        { report with output := report.output ++ texts, unfinished := "" }, last.2) := by
  have counted : 0 + rows.length < UInt64.size := by rwa [Nat.zero_add]
  rw [printRows]
  dsimp only
  rw [listRows_walk walk shown counted [], Nat.zero_add]
  rfl

omit [Peer π] in
private theorem onSession_of {operation : Op Error (Session π) α} {outcome : Outcome Error α}
    (ran : operation session = (outcome, after)) :
    onSession operation (report, session) = (outcome, report, after) := by
  rw [onSession, Op.onPart]
  dsimp only
  rw [ran]

omit [Peer π] in
private theorem onResult_of {operation : Op Error (Cursor Ticket × Session π) α} {value : α} {result : OpenResult}
    {cursor : Cursor Ticket} (ran : operation (result.cursor, session) = (.ok value, cursor, after)) :
    onResult result (OpenResult.onCursor operation) (report, session) =
      (.ok (value, { result with cursor }), report, after) := by
  rw [onResult, OpenResult.onCursor, Op.onPart]
  dsimp only
  rw [ran]
  rfl

/-- A run that nobody interrupts and in which nothing fails: it opens the result, walks over the rows, releases the
result and closes the session. -/
theorem carryOut_walk {job : Job} {opened left : Session π} {cursor closed : Cursor Ticket} {answer : Option Bool}
    (queried : OpenResult.query job.sql job.fetchOptions session = (.ok ⟨statement, columns, cursor⟩, opened))
    (entered : Cursor.perform job.entry (cursor, opened) = (.ok answer, state))
    (walk : Cursor.Walk job.move rows state last)
    (shown : List.Forall₂ (fun row text => row.toText = .ok text) rows texts) (few : rows.length < UInt64.size)
    (released : Cursor.close last = (.ok (), closed, left)) (said : Session.close left = (.ok (), after)) :
    carryOut job false ({}, session) = (.ok (), listing columns texts, after) := by
  rw [carryOut, Op.bind_of_ok (onSession_of queried), print, Op.bind_of_ok (Op.modify_apply _ _),
    Op.bind_of_ok (onResult_of entered)]
  simp only [Bool.false_eq_true, if_false]
  refine (Op.bind_of_ok (printRows_walk walk shown few)).trans ?_
  rw [notify, Op.bind_of_ok (Op.modify_apply _ _), Op.bind_of_ok (Op.pure_apply _ _), OpenResult.close,
    Op.attempt_bind, onResult_of released]
  dsimp only
  rw [onSession_of said, listing, shown.length_eq]
  rfl

end Steps

/-! ## Runs against the server -/

/-- All messages of the job fit into frames, and its rows fit into a list. -/
structure Job.Fits (table : Table) (job : Job) : Prop where
  greeting : (Request.openConnection job.user job.password []).Fits
  query : (Request.prepareAndExecute job.sql job.fetchOptions.effectiveFetchSize job.maxRows).Fits
  pages : (table.cut job.maxRows).PagesFit job.fetchOptions.effectiveFetchSize
  bounded : (table.cut job.maxRows).rows.length ≤ ScrollableCursor.mostRows

variable {data : Dataset} {table : Table} {job : Job} {texts : List String} {spare : Nat} {session : Session Serving}

/-- On a session whose server knows no statement yet, a run lists the rows and leaves nothing behind. -/
theorem carryOut_lists (quiet : session.Quiet data (spare + 1)) (named : data job.sql [] = .ok table)
    (complete : (table.cut job.maxRows).Complete) (fits : job.Fits table)
    (shown : List.Forall₂ (fun row text => row.toText = .ok text) (table.cut job.maxRows).rows texts)
    (latest : UInt64.size ≤ (session.talk.latest + 1).toNat + spare + 1) (nothing : session.talk.statements = []) :
    ∃ last, carryOut job false ({}, session) = (.ok (), listing table.columns (job.order texts), last) ∧
      last.Released := by
  have addressable : (table.cut job.maxRows).rows.length < UInt64.size :=
    Nat.lt_of_le_of_lt fits.bounded (by decide)
  obtain ⟨cursor, opened, queried, travels⟩ : ∃ cursor opened,
      OpenResult.query job.sql job.fetchOptions session =
        (.ok ⟨session.talk.latest + 1, table.columns, cursor⟩, opened) ∧ _ :=
    quiet.query named complete fits.query fits.bounded fits.pages
  have carries : Supply.Carries fun _ =>
      Session.Owns data (session.talk.latest + 1) (table.cut job.maxRows) spare session :=
    Session.owns_carries addressable
  -- the first row of the walk, and then all of them
  obtain ⟨state, entered, inside⟩ := travels.perform carries job.supports_entry job.entry_ne_close
  obtain ⟨last, walk, owns⟩ := inside.walk carries job.supports_move job.move_ne_close (job.walk _)
  obtain ⟨closed, left, released, quiet', spares, unknown⟩ := owns.close_cursor complete addressable
  obtain ⟨after, said, shut, gone⟩ := quiet'.rests.close
  have few : (job.order (table.cut job.maxRows).rows).length < UInt64.size := by rwa [job.length_order]
  have listed := carryOut_walk queried entered walk (job.shown_order shown) few released said
  refine ⟨after, listed, shut, Link.isOpen_eq_false.mpr gone.closed, gone.ended, ?_⟩
  rw [Session.talk, gone.conversation_eq]
  exact Session.nothing_left spares quiet' latest quiet.numbered.toNat_next nothing unknown

/-- On a new connection to the server the job is done without an error: the report is printed, and the session is
released. -/
def Concludes (job : Job) (server : Serving) (report : Report) : Prop :=
  ∃ connection session last, Session.start job.connectionOptions { peer := server } = (.ok connection, session) ∧
    carryOut job false ({}, session) = (.ok (), report, last) ∧ last.Released

theorem Concludes.run {arguments : List String} {listener : Address → Option Serving} {server : Serving}
    {report : Report} (concludes : Concludes job server report) (asks : Job.ofArguments arguments = .ok job)
    (listens : listener job.address = some server) : run arguments listener false = report := by
  obtain ⟨connection, session, last, started, carried, -⟩ := concludes
  rw [Client.run, asks]
  simp only [listens, started, carried]
  rfl

/-- Whatever its order, a run lists the rows. -/
theorem concludes_listing (job : Job) (named : data job.sql [] = .ok table)
    (complete : (table.cut job.maxRows).Complete) (fits : job.Fits table)
    (shown : List.Forall₂ (fun row text => row.toText = .ok text) (table.cut job.maxRows).rows texts)
    (nextConnection : UInt64) :
    Concludes job { data, conversation := { nextConnection } } (listing table.columns (job.order texts)) := by
  obtain ⟨session, started, rests⟩ :=
    Session.start_answered (.new data { nextConnection }) job.connectionOptions fits.greeting
  have talk_eq : session.talk = { nextConnection := nextConnection + 1 } := rests.link.conversation_eq
  have zero : ({ nextConnection := nextConnection + 1 } : Conversation).latest.toNat = 0 := rfl
  -- all ids but the one that the statement gets are spare
  have quiet : session.Quiet data (UInt64.size - 2 + 1) :=
    .of_rests rests ⟨List.forall_mem_nil _, by rw [zero]; decide⟩
  have latest : UInt64.size ≤ (session.talk.latest + 1).toNat + (UInt64.size - 2) + 1 := by
    rw [talk_eq]
    exact (by decide : UInt64.size ≤ (0 + 1 : UInt64).toNat + (UInt64.size - 2) + 1)
  obtain ⟨last, carried, released⟩ := carryOut_lists quiet named complete fits shown latest (by rw [talk_eq])
  exact ⟨_, session, last, started, carried, released⟩

/-- Two command lines for the same job, one of them with the option to list the result from its end. Both print
the names of the columns, then the texts of the same rows in opposite orders, and the number of the rows, and both
release the result and the session. -/
theorem lists_either_way {forward backward : List String} {listener listener' : Address → Option Serving}
    {nextConnection nextConnection' : UInt64}
    (asks : Job.ofArguments forward = .ok { job with reverse := false })
    (asks' : Job.ofArguments backward = .ok { job with reverse := true })
    (listens : listener job.address = some { data, conversation := { nextConnection } })
    (listens' : listener' job.address = some { data, conversation := { nextConnection := nextConnection' } })
    (named : data job.sql [] = .ok table) (complete : (table.cut job.maxRows).Complete)
    (fits : job.Fits table)
    (shown : List.Forall₂ (fun row text => row.toText = .ok text) (table.cut job.maxRows).rows texts) :
    texts.length = (table.cut job.maxRows).rows.length ∧
      (run forward listener false = listing table.columns texts ∧
        Concludes { job with reverse := false } { data, conversation := { nextConnection } }
          (listing table.columns texts)) ∧
      run backward listener' false = listing table.columns texts.reverse ∧
        Concludes { job with reverse := true } { data, conversation := { nextConnection := nextConnection' } }
          (listing table.columns texts.reverse) := by
  have fits' (reverse : Bool) : Job.Fits table { job with reverse } :=
    ⟨fits.greeting, fits.query, fits.pages, fits.bounded⟩
  have ahead := concludes_listing { job with reverse := false } named complete (fits' false) shown nextConnection
  have back := concludes_listing { job with reverse := true } named complete (fits' true) shown nextConnection'
  exact ⟨shown.length_eq.symm, ⟨ahead.run asks listens, ahead⟩, back.run asks' listens', back⟩

/-- The first three of five numbered rows, in pages of two. -/
theorem lists_either_way_numbers :
    let server : Serving := { data := (Catalog.withTable "numbers" (Table.series 5) {}).query }
    let job : Job := { address := .v4 [127, 0, 0, 1] 7400, sql := "numbers", fetchSize := 2, maxRows := 3 }
    let ahead : Report := { output := ["id | label", "0 | r0", "1 | r1", "2 | r2"], notices := ["3 rows"] }
    let back : Report := { output := ["id | label", "2 | r2", "1 | r1", "0 | r0"], notices := ["3 rows"] }
    (run ["127.0.0.1:7400", "numbers", "--fetch-size", "2", "--max-rows=3"] (fun _ => some server) false = ahead ∧
        Concludes job server ahead) ∧
      run ["--reverse", "127.0.0.1:7400", "numbers", "--fetch-size", "2", "--max-rows=3"] (fun _ => some server)
          false = back ∧
        Concludes { job with reverse := true } server back := by
  intro server job ahead back
  have asks : Job.ofArguments ["127.0.0.1:7400", "numbers", "--fetch-size", "2", "--max-rows=3"] =
      .ok { job with reverse := false } := by decide +kernel
  have names : (Catalog.withTable "numbers" (Table.series 5) {}).Names "numbers" (Table.series 5) :=
    ⟨"numbers", by decide +kernel, by rfl⟩
  have fits : Job.Fits (Table.series 5) job :=
    { greeting := by decide
      query := by decide
      pages := .of_whole (by decide +kernel) _
      bounded := by decide +kernel }
  have shown : List.Forall₂ (fun row text => row.toText = .ok text) ((Table.series 5).cut job.maxRows).rows
      ["0 | r0", "1 | r1", "2 | r2"] :=
    .cons (by decide +kernel) (.cons (by decide +kernel) (.cons (by decide +kernel) .nil))
  have asks' := Job.ofArguments_reverse asks rfl
  exact (lists_either_way asks asks' rfl rfl (names.query []) (by decide) fits shown).2

end CommandLine.Client

end PagedResults
