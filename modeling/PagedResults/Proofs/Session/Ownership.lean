import PagedResults.Proofs.Conversation.Effects
import PagedResults.Proofs.Cursor.Release
import PagedResults.Proofs.Cursor.Walk
import PagedResults.Proofs.Session.Viewer

/-! # Results that own their statement

A result of a statement text owns the statement that the server opened for it. As long as it is open, its
supply keeps to this statement, whatever pages it asks for. When it is closed, the server forgets the
statement together with the result, and knows the same statements as before.
-/

namespace PagedResults

namespace Supply

variable {σ ρ : Type} [PageSource σ ρ]

private theorem prefetch_ownsStatement (state : Supply ρ × σ) :
    (prefetch state).1.ownsStatement = state.1.ownsStatement := by
  rw [prefetch]
  split <;> rfl

private theorem accept_ownsStatement (page : Page) (supply : Supply ρ) (source : σ) :
    (accept page (supply, source)).2.1.ownsStatement = supply.ownsStatement := by
  by_cases fits : page.offset.toNat + page.rows.length < UInt64.size
  · obtain ⟨rows, taken, took, accepted⟩ := accept_of_fits supply source fits
    rw [accepted]
    exact take_ownsStatement took
  · rw [accept_of_not_fits supply source fits]

private theorem join_ownsStatement (state : Supply ρ × σ) :
    (join state).2.1.ownsStatement = state.1.ownsStatement := by
  obtain ⟨supply, source⟩ := state
  rw [join_apply]
  cases supply.inFlight with
  | none => rfl
  | some flight =>
    obtain ⟨offset, request⟩ := flight
    dsimp only
    cases joined offset (PageSource.finish request source).1 with
    | ok page => exact accept_ownsStatement page { supply with inFlight := none } _
    | error failure => rfl

/-- A release that succeeds. -/
theorem release_both {supply : Supply ρ} (owns : supply.ownsStatement = true) {state between after : Supply ρ × σ}
    (result : ofSource (PageSource.closeResult supply.statement supply.options.timeout) state = (.ok (), between))
    (statement : ofSource (PageSource.closeStatement supply.statement supply.options.timeout) between =
      (.ok (), after)) :
    release supply state = (.ok (), after.1, PageSource.note .caller (.resultClosed supply.statement) after.2) := by
  rw [release]
  dsimp only
  rw [Op.attempt_bind, result]
  simp only [owns, if_true]
  rw [Op.attempt_bind, statement]
  rfl

end Supply

namespace Session

variable {data : Dataset} {own : UInt64} {spare : Nat} {table : Table} {ground session : Session Serving}
  {state : Supply Ticket × Session Serving} {supply : Supply Ticket}

/-- The supply of an open result that owns the statement `own`, on a session that was `ground` before. -/
structure Owns (data : Dataset) (own : UInt64) (table : Table) (spare : Nat) (ground : Session Serving)
    (state : Supply Ticket × Session Serving) : Prop where
  keeps : Supply.Keeps data own table spare ground state
  is_open : state.1.closed = false
  owns : state.1.ownsStatement = true

/-- Whatever is done with the result but closing it, it stays open and goes on to own its statement. -/
theorem owns_carries (addressable : table.rows.length < UInt64.size) :
    Supply.Carries fun _ => Owns data own table spare ground where
  is_open owns := owns.is_open
  prefetch {_ state} owns := by
    obtain ⟨begun, after, begins, -, kept⟩ := owns.keeps.prefetch owns.is_open
    refine ⟨?_, (Supply.prefetch_closed state).trans owns.is_open,
      (Supply.prefetch_ownsStatement state).trans owns.owns⟩
    rw [begins]
    exact kept
  join {_ state} owns := by
    obtain ⟨after, joined, kept⟩ := owns.keeps.join addressable
    refine ⟨?_, (Supply.join_counts state).1.trans owns.is_open,
      (Supply.join_ownsStatement state).trans owns.owns⟩
    rw [joined]
    exact kept
  note event owns := ⟨owns.keeps.note .caller event, owns.is_open, owns.owns⟩
  lose owns _ := owns

/-- A closed supply releases the result and the statement, of which the server knows nothing any more. -/
theorem release_both {owner : Supply Ticket} (keeps : Supply.Keeps data own table spare ground (supply, session))
    (closed : supply.closed = true) (nothing : supply.inFlight = none) (owns : owner.ownsStatement = true)
    (statement_eq : owner.statement = supply.statement) :
    ∃ after, Supply.release owner (supply, session) = (.ok (), supply, after) ∧ after.Quiet data spare ∧
      Attached.Spares own ground after ∧ after.talk.statement? own = none := by
  obtain ⟨between, resultClosed, kept⟩ := keeps.closeResult closed nothing owner.options.timeout
  obtain ⟨after, statementClosed, left, dropped⟩ := kept.closeStatement closed nothing owner.options.timeout
  have noted := left.note .caller (.resultClosed supply.statement)
  have unknown : after.talk.statement? own = none := by
    have talk_eq : after.talk = between.talk.dropStatement own := dropped
    rw [talk_eq]
    exact Conversation.statement?_dropStatement own between.talk
  rw [← statement_eq] at resultClosed statementClosed
  refine ⟨_, Supply.release_both owns resultClosed statementClosed, ?_, ?_, unknown⟩
  · rw [statement_eq]
    exact noted.rests
  · rw [statement_eq]
    exact noted.spares

/-- A result that is closed is released together with its statement. -/
theorem Owns.close (owns : Owns data own table spare ground (supply, session)) (complete : table.Complete)
    (addressable : table.rows.length < UInt64.size) :
    ∃ closed after, Supply.close (supply, session) = (.ok (), closed, after) ∧ after.Quiet data spare ∧
      Attached.Spares own ground after ∧ after.talk.statement? own = none := by
  have keeps := owns.keeps.shut
  obtain ⟨waiting, waits, idle⟩ := keeps.wait
  -- a request under way has been answered by a page of the table
  obtain ⟨page, came⟩ : ∃ page, Supply.waited table { supply with closed := true } = .ok page := by
    have read : Supply.answer table { supply with closed := true } = .ok _ :=
      Table.ofWire_pageFrom complete addressable (keeps.reaches.fits keeps.fits)
    rw [Supply.waited, read]
    split <;> exact ⟨_, rfl⟩
  obtain ⟨after, released, left⟩ := release_both idle rfl rfl owns.owns rfl
  refine ⟨Supply.idle { supply with closed := true }, after, ?_, left⟩
  rw [Supply.close_of_open session owns.is_open, Op.attempt_bind, waits, came]
  exact released

/-- The same for the cursor of the result. -/
theorem Owns.close_cursor {cursor : Cursor Ticket} (owns : Owns data own table spare ground (cursor.supply, session))
    (complete : table.Complete) (addressable : table.rows.length < UInt64.size) :
    ∃ closed after, Cursor.close (cursor, session) = (.ok (), closed, after) ∧ after.Quiet data spare ∧
      Attached.Spares own ground after ∧ after.talk.statement? own = none := by
  obtain ⟨shut, after, released, left⟩ := owns.close complete addressable
  have answered := (Cursor.perform_close (cursor, session)).1
  have source_eq := congrArg Prod.snd (Cursor.supply_perform_close (cursor, session))
  dsimp only at answered source_eq
  rw [released] at answered source_eq
  rcases performed : Cursor.perform .close (cursor, session) with ⟨outcome, closed, source⟩
  rw [performed] at answered source_eq
  obtain rfl : outcome = .ok none := answered
  obtain rfl : source = after := source_eq
  exact ⟨closed, source, Op.bind_of_ok performed, left⟩

/-- Where no statement was open before, none is left when the statement with the latest id is gone. -/
theorem nothing_left (spares : Attached.Spares own ground session) (quiet : session.Quiet data spare)
    (latest : UInt64.size ≤ own.toNat + spare + 1) (next : own.toNat = ground.talk.latest.toNat + 1)
    (nothing : ground.talk.statements = []) (unknown : session.talk.statement? own = none) :
    session.talk.statements = [] := by
  refine List.eq_nil_iff_forall_not_mem.mpr fun entry member => ?_
  have given := quiet.numbered.known entry member
  have room := quiet.numbered.room
  have open_ : session.talk.statement? entry.1 ≠ none := by
    rw [Conversation.statement?, Ne, List.lookup_eq_none_iff]
    intro others
    exact absurd (others entry member) (by simp)
  by_cases same : entry.1 = own
  · exact open_ (same ▸ unknown)
  · have differs : entry.1.toNat ≠ own.toNat := fun equal => same (UInt64.toNat_inj.mp equal)
    have before : entry.1.toNat ≤ ground.talk.latest.toNat := by omega
    have unmoved : session.talk.statement? entry.1 = ground.talk.statement? entry.1 :=
      spares.statement_eq entry.1 before same
    rw [unmoved, Conversation.statement?, nothing] at open_
    exact open_ rfl

/-! ## Running a statement text -/

variable {sql : String} {options : FetchOptions}

/-- A cursor over the first page of a table that the options do not cut. -/
theorem open_owning (keeps : Supply.Keeps data own table spare ground
      ({ statement := own, options, ownsStatement := true, nextOffset := 0 }, session))
    (complete : table.Complete) (bounded : table.rows.length ≤ ScrollableCursor.mostRows)
    (all_shown : options.shown table.rows = table.rows) :
    ∃ cursor opened,
      Cursor.open own (table.pageOf 0 (Table.pageSize options.effectiveFetchSize)) options true session =
        (.ok cursor, opened) ∧
      Cursor.Travels (Owns data own table spare ground) options.mode table.rows (options.ask own)
        ⟨table.rows, -1⟩ (cursor, opened) := by
  have addressable : table.rows.length < UInt64.size := Nat.lt_of_le_of_lt bounded (by decide)
  have read : Page.ofWire table.columns.length (table.page 0 options.effectiveFetchSize) =
      .ok (table.pageOf 0 (Table.pageSize options.effectiveFetchSize)) :=
    Table.ofWire_pageFrom complete addressable (keeps.reaches.fits keeps.fits)
  obtain ⟨rows, taken, after, took, accepted, kept⟩ := keeps.accept rfl addressable read
  have owns : Owns data own table spare ground (taken, after) :=
    ⟨kept, (Supply.take_keeps took).1, Supply.take_ownsStatement took⟩
  have quiet : session.Quiet data spare := keeps.rests
  have offers : session.Offers data own table := ⟨⟨_, quiet.rests, keeps.shows rfl⟩, keeps.arity_eq rfl⟩
  have shows : (table.pageOf 0 (Table.pageSize options.effectiveFetchSize)).Shows table.rows 0 :=
    Table.pageOf_shows (Table.pageSize_pos _) (Nat.zero_le _) addressable
  -- the first page is taken in by a supply that stands at the beginning
  have first : Supply.ofFirst own (table.pageOf 0 (Table.pageSize options.effectiveFetchSize)) options true session =
      (.ok rows, taken, after) := by
    rw [Supply.ofFirst, ← accepted]
    rfl
  have kept_first : Owns data own table spare ground (Supply.ofFirst own
      (table.pageOf 0 (Table.pageSize options.effectiveFetchSize)) options true session).2 := by
    rw [first]
    exact owns
  have travels := Cursor.open_travels own options true bounded shows
    (offers.reliable complete addressable keeps.fits) kept_first
  rwa [all_shown] at travels

/-- Running a statement text opens a result that owns the statement with the next id. Its cursor stands before the
first of the rows that the options let through. -/
theorem Quiet.query (quiet : session.Quiet data (spare + 1)) (named : data sql [] = .ok table)
    (complete : (table.cut options.maxRows).Complete)
    (small : (Request.prepareAndExecute sql options.effectiveFetchSize options.maxRows).Fits)
    (bounded : (table.cut options.maxRows).rows.length ≤ ScrollableCursor.mostRows)
    (fits : (table.cut options.maxRows).PagesFit options.effectiveFetchSize) :
    ∃ cursor opened, OpenResult.query sql options session =
        (.ok ⟨session.talk.latest + 1, table.columns, cursor⟩, opened) ∧
      Cursor.Travels (Owns data (session.talk.latest + 1) (table.cut options.maxRows) spare session) options.mode
        (table.cut options.maxRows).rows (options.ask (session.talk.latest + 1))
        ⟨(table.cut options.maxRows).rows, -1⟩ (cursor, opened) := by
  have addressable : (table.cut options.maxRows).rows.length < UInt64.size :=
    Nat.lt_of_le_of_lt bounded (by decide)
  have served : Viewer.Served data sql ⟨.query sql, options⟩ := .of_table small named addressable fits
  obtain ⟨next, answered, shows⟩ := Viewer.answer_table served quiet.numbered rfl named
  have rests : Attached.Rests data (spare + 1) session := quiet
  obtain ⟨called, calls, calling, rfl⟩ := Viewer.called rests trivial served rfl answered (fits.first _)
  let first := (table.cut options.maxRows).pageOf 0 (Table.pageSize options.effectiveFetchSize)
  have read : Page.ofWire (table.cut options.maxRows).columns.length
      ((table.cut options.maxRows).page 0 options.effectiveFetchSize) = .ok first :=
    Table.ofWire_pageFrom complete addressable (fits.first 0).first
  let noted := PageSource.note .caller (.firstPage (session.talk.latest + 1) first.rows.length first.isLast)
    (Client.learnArity (session.talk.latest + 1) (table.cut options.maxRows).columns.length called)
  have keeps : Supply.Keeps data (session.talk.latest + 1) (table.cut options.maxRows) spare session
      ({ statement := session.talk.latest + 1, options, ownsStatement := true, nextOffset := 0 }, noted) :=
    (calling.keeps shows fits).note .caller _
  have all_shown : options.shown (table.cut options.maxRows).rows = (table.cut options.maxRows).rows := by
    rw [Table.rows_cut, FetchOptions.shown_shown]
  obtain ⟨cursor, opened, begun, travels⟩ := open_owning keeps complete bounded all_shown
  refine ⟨cursor, opened, ?_, travels⟩
  have responded : OpenResult.query sql options session =
      OpenResult.ofResponse "prepare_and_execute" (Conversation.firstPage (session.talk.latest + 1)
        options.effectiveFetchSize (table.cut options.maxRows)) options true called :=
    Op.bind_of_ok calls
  have opens : Cursor.open (session.talk.latest + 1) first options true noted = (.ok cursor, opened) := begun
  rw [responded, Viewer.ofResponse_firstPage, read]
  dsimp only
  rw [opens, Table.columns_cut]
  rfl

end Session

end PagedResults
