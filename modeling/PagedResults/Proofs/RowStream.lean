import PagedResults.Proofs.SessionSource
import PagedResults.Session.RowStream

/-! # A stream yields the whole table

The pages of a streamed statement arrive in the channel of its call, of which exactly the last is marked.
Whatever the sizes of the pages, reading the stream row by row gives the rows of the table and then the
end.
-/

namespace PagedResults

namespace Table

variable {table : Table} {start size : Nat}

/-- The pages of a table from a place on, each behind the one before it. -/
inductive Paged (table : Table) (size : Nat) : Nat → List WirePage → Prop
  | last {start : Nat} (inside : start ≤ table.rows.length) (ends : table.rows.length ≤ start + size) :
      Paged table size start [table.pageFrom start size]
  | more {start : Nat} {pages : List WirePage} (more : start + size < table.rows.length)
      (rest : Paged table size (start + size) pages) :
      Paged table size start (table.pageFrom start size :: pages)

private theorem pagesFrom_paged (fetchSize : UInt32) (inside : start ≤ table.rows.length) :
    table.Paged (pageSize fetchSize) start (table.pagesFrom start fetchSize) := by
  have positive := pageSize_pos fetchSize
  induction left : table.rows.length - start using Nat.strongRecOn generalizing start with
  | ind left ih =>
    rw [pagesFrom]
    split
    · next ends => exact .last inside ends
    · next more => exact .more (by omega) (ih _ (by omega) (by omega) rfl)

private theorem rows_pageOf (inside : start ≤ table.rows.length) :
    (table.pageOf start size).rows = (table.rows.drop start).take size := by
  rw [pageOf, Nat.min_eq_left inside]

end Table

namespace RowStream

/-- Taking in the response adds some rows. The pages behind the result set itself can be taken in only
once the columns are `known`. -/
def Adds (columns : List Column) (known : Bool) (response : Response) (rows : List Row) : Prop :=
  ∀ stream : RowStream, (known = true → stream.columns = some columns) →
    stream.accept response = (.ok (), { stream with columns := some columns, rows := stream.rows ++ rows })

/-- Deliveries of responses that add `rows` together, with exactly the last of them marked. -/
inductive Brings (columns : List Column) : (known : Bool) → List Delivery → List Row → Prop
  | nil {known : Bool} : Brings columns known [] []
  | cons {known : Bool} {response : Response} {queue : List Delivery} {added rows : List Row}
      (adds : Adds columns known response added) (rest : Brings columns true queue rows) :
      Brings columns known (.message response queue.isEmpty :: queue) (added ++ rows)

/-- A stream that still has `rows` to yield: some are at hand, and its channel brings the others. -/
structure Holds (columns : List Column) (rows : List Row) (stream : RowStream) (channel : Channel) : Prop where
  done_eq : channel.done = channel.queue.isEmpty
  brings : ∃ known behind, Brings columns known channel.queue behind ∧
    (known = true → stream.columns = some columns) ∧ stream.rows ++ behind = rows

variable {columns : List Column} {rows : List Row} {row : Row} {stream : RowStream} {channel : Channel}
  {known : Bool}

private theorem nextRow_at_hand {others : List Row} (limit : Duration) (held : stream.rows = row :: others) :
    nextRow limit stream channel = (.ok (some row), { stream with rows := others }, channel) := by
  rw [nextRow]
  split
  · next first rest same =>
    rw [held] at same
    cases same
    rfl
  · next same =>
    rw [held] at same
    contradiction

private theorem nextRow_ended {rest : Channel} (limit : Duration) (empty : stream.rows = [])
    (taken : channel.take? = some (.ok none, rest)) :
    nextRow limit stream channel = (.ok none, stream, rest) := by
  rw [nextRow]
  split
  · next same =>
    rw [empty] at same
    contradiction
  · split <;> simp_all

private theorem nextRow_taken {response : Response} {next : RowStream} {rest : Channel} (limit : Duration)
    (empty : stream.rows = []) (taken : channel.take? = some (.ok (some response), rest))
    (accepted : stream.accept response = (.ok (), next)) :
    nextRow limit stream channel = nextRow limit next rest := by
  rw [nextRow]
  split
  · next same =>
    rw [empty] at same
    contradiction
  · split <;> simp_all

private theorem take?_message {response : Response} {mark : Bool} {queue : List Delivery}
    (queued : channel.queue = .message response mark :: queue)
    (done_eq : channel.done = channel.queue.isEmpty) :
    channel.take? = some (.ok (some response), { channel with queue, done := mark }) := by
  rw [queued] at done_eq
  rw [Channel.take?, done_eq, queued]
  rfl

theorem adds_page {wire : WirePage} {page : Page} (read : Page.ofWire columns.length wire = .ok page) :
    Adds columns true (.page wire) page.rows := by
  intro stream known
  simp only [accept, acceptPage, known rfl, read]

/-- The result set itself adds what its page adds. -/
theorem Adds.first {wire : WirePage} {added : List Row} (adds : Adds columns true (.page wire) added)
    (id : UInt64) : Adds columns false (.resultSet id columns wire) added := by
  intro stream _
  exact adds { stream with columns := some columns } fun _ => rfl

private theorem Holds.nextRow_at_hand {others : List Row} (holds : Holds columns rows stream channel)
    (limit : Duration) (held : stream.rows = row :: others) :
    ∃ next rest, nextRow limit stream channel = (.ok rows.head?, next, rest) ∧ next.id = stream.id ∧
      Holds columns rows.tail next rest := by
  obtain ⟨done_eq, known, behind, brings, columns_eq, rfl⟩ := holds
  rw [held, List.cons_append, List.head?_cons, List.tail_cons]
  exact ⟨_, _, RowStream.nextRow_at_hand limit held, rfl, done_eq, known, behind, brings, columns_eq, rfl⟩

/-- The next row of a stream is the first of those that it still has, and without any the stream ends. -/
theorem Holds.nextRow (holds : Holds columns rows stream channel) (limit : Duration) :
    ∃ next rest, nextRow limit stream channel = (.ok rows.head?, next, rest) ∧ next.id = stream.id ∧
      Holds columns rows.tail next rest := by
  have whole := holds
  obtain ⟨done_eq, known, behind, brings, columns_eq, rfl⟩ := holds
  generalize queued : channel.queue = queue at brings
  induction brings generalizing stream channel with
  | nil =>
    by_cases held : stream.rows = []
    · have ended : channel.take? = some (.ok none, channel) := by
        rw [Channel.take?, done_eq, queued]
        rfl
      refine ⟨stream, channel, ?_, rfl, ?_⟩
      · rw [nextRow_ended limit held ended, held]
        rfl
      · rw [held]
        exact ⟨done_eq, _, [], queued ▸ .nil, columns_eq, by rw [held]; rfl⟩
    · obtain ⟨row, others, held⟩ := List.exists_cons_of_ne_nil held
      exact whole.nextRow_at_hand limit held
  | @cons known response queue added rows adds rest ih =>
    by_cases held : stream.rows = []
    · rw [nextRow_taken limit held (take?_message queued done_eq) (adds stream columns_eq),
        ← List.append_assoc]
      have after : Holds columns (stream.rows ++ added ++ rows)
          { stream with columns := some columns, rows := stream.rows ++ added }
          { channel with queue, done := queue.isEmpty } :=
        ⟨rfl, true, rows, rest, fun _ => rfl, rfl⟩
      obtain ⟨next, left, given, same, stays⟩ :=
        @ih { stream with columns := some columns, rows := stream.rows ++ added }
          { channel with queue, done := queue.isEmpty } rfl (fun _ => rfl) after rfl
      exact ⟨next, left, given, same, stays⟩
    · obtain ⟨row, others, held⟩ := List.exists_cons_of_ne_nil held
      exact whole.nextRow_at_hand limit held

/-- What a stream yields lies in the channel of its call. -/
theorem Holds.yields {session : Session Serving} (holds : Holds columns rows stream channel)
    (found : session.link.channel? stream.id = some channel) : Op.Yields next rows (stream, session) := by
  induction rows generalizing stream channel session with
  | nil =>
    obtain ⟨after, left, given, -, -⟩ := holds.nextRow session.options.callTimeout
    have ended : next (stream, session) =
        (.ok none, after, { session with link := session.link.setChannel stream.id left }) := by
      simp only [next, found, Option.getD_some, given, List.head?_nil]
    exact .done ended
  | cons row rows ih =>
    obtain ⟨after, left, given, same, stays⟩ := holds.nextRow session.options.callTimeout
    have read : next (stream, session) =
        (.ok (some row), after, { session with link := session.link.setChannel stream.id left }) := by
      simp only [next, found, Option.getD_some, given, List.head?_cons]
    refine .item read (ih stays ?_)
    rw [same, Link.channel?_setChannel, if_pos rfl, found]
    rfl

/-! ## The pages of a table in a channel -/

section Pages

variable {table : Table} {size start : Nat} {pages : List WirePage} {id : UInt64}

/-- The responses behind the first one of a streamed result. -/
def behind (pages : List WirePage) : List (Bool × Response) :=
  pages.map fun page => (page.isLast, .page page)

private theorem deliveries_behind (pages : List WirePage) : Block.deliveries .stream (behind pages) =
    pages.map fun page => .message (.page page) page.isLast := by
  rw [Block.deliveries, behind, List.map_map]
  apply List.map_congr_left
  intro page _
  exact congrArg (Delivery.message (.page page)) (Bool.or_false page.isLast)

private theorem isFinal_page (mark : Bool) (page : WirePage) :
    (Calls.deliveryOf .stream mark (.page page)).isFinal = mark := Bool.or_false mark

private theorem closes_of_paged (paged : table.Paged size start pages) :
    Block.Closes .stream (behind pages) := by
  induction paged with
  | @last start inside ends =>
    apply Block.Closes.last
    rw [isFinal_page, Table.isLast_pageFrom inside]
    exact decide_eq_true ends
  | @more start pages more rest ih =>
    refine .cons ?_ ih
    rw [isFinal_page, Table.isLast_pageFrom (by omega)]
    exact decide_eq_false (by omega)

private theorem brings_of_paged (complete : table.Complete) (addressable : table.rows.length < UInt64.size)
    (fits : ∀ page ∈ pages, (Response.page page).Fits) (paged : table.Paged size start pages) :
    Brings table.columns true (Block.deliveries .stream (behind pages)) (table.rows.drop start) := by
  rw [deliveries_behind]
  induction paged with
  | @last start inside ends =>
    have read := Table.ofWire_pageFrom complete addressable (fits _ (List.mem_singleton_self _))
    have brings : Brings table.columns true _ _ := .cons (adds_page read) .nil
    rw [Table.rows_pageOf inside, List.take_of_length_le (by rw [List.length_drop]; omega),
      List.append_nil] at brings
    rw [List.map_cons, List.map_nil, Table.isLast_pageFrom inside, decide_eq_true ends]
    exact brings
  | @more start pages more rest ih =>
    obtain ⟨here, others⟩ := List.forall_mem_cons.mp fits
    have read := Table.ofWire_pageFrom complete addressable here
    have brings := Brings.cons (adds_page read) (ih others)
    have cut : (table.rows.drop start).take size ++ table.rows.drop (start + size) = table.rows.drop start := by
      rw [← List.drop_drop, List.take_append_drop]
    have unmarked : (pages.map fun page => Delivery.message (.page page) page.isLast).isEmpty =
        (table.pageFrom start size).isLast := by
      rw [Table.isLast_pageFrom (by omega), decide_eq_false (by omega)]
      cases rest <;> rfl
    rw [unmarked, Table.rows_pageOf (by omega), cut] at brings
    exact brings

variable {first : WirePage} {rest : List WirePage}

/-- The first page of a result ends the call if it is the last one, as any page does. -/
theorem closes_ofPages (paged : table.Paged size start (first :: rest)) (id : UInt64) :
    Block.Closes .stream (Block.ofPages id table.columns first rest).responses := by
  have closes : Block.Closes .stream ((first.isLast, .page first) :: behind rest) := closes_of_paged paged
  change Block.Closes .stream ((first.isLast, .resultSet id table.columns first) :: behind rest)
  generalize behind rest = others at closes ⊢
  cases closes with
  | last final => exact .last final
  | cons more closes => exact .cons more closes

private theorem brings_ofPages (complete : table.Complete) (addressable : table.rows.length < UInt64.size)
    (fits : ∀ page ∈ first :: rest, (Response.page page).Fits)
    (paged : table.Paged size start (first :: rest)) (id : UInt64) :
    Brings table.columns false
      (Block.deliveries .stream (Block.ofPages id table.columns first rest).responses)
      (table.rows.drop start) := by
  have brings := brings_of_paged complete addressable fits paged
  rw [deliveries_behind, List.map_cons] at brings
  have same : Block.deliveries .stream (Block.ofPages id table.columns first rest).responses =
      .message (.resultSet id table.columns first) first.isLast ::
        rest.map fun page => .message (.page page) page.isLast := by
    rw [← deliveries_behind]
    exact congrArg (fun mark => Delivery.message (.resultSet id table.columns first) mark :: _)
      (Bool.or_false first.isLast)
  rw [same]
  generalize rest.map (fun page => Delivery.message (.page page) page.isLast) = queue at brings ⊢
  generalize first.isLast = mark at brings ⊢
  generalize table.rows.drop start = rows at brings ⊢
  cases brings with
  | cons adds rest => exact .cons (adds.first id) rest

/-- A statement that names a table is streamed to the last row. -/
theorem query_yields {data : Dataset} {conversation : Conversation} {session : Session Serving} {sql : String}
    {fetchSize : UInt32} (rests : session.Rests data conversation) (fresh : conversation.Fresh)
    (named : data sql [] = .ok table) (complete : table.Complete)
    (addressable : table.rows.length < UInt64.size) (small : (Request.executeStream sql fetchSize).Fits)
    (first : ∀ id, (Response.resultSet id table.columns (table.page 0 fetchSize)).Fits)
    (fits : ∀ page ∈ table.pagesFrom 0 fetchSize, (Response.page page).Fits) :
    ∃ stream opened, query sql fetchSize session = (.ok stream, opened) ∧
      Op.Yields next table.rows (stream, opened) := by
  obtain ⟨rest, after, pages_eq, answered⟩ := Conversation.answer_executeStream fresh named addressable fetchSize
  have paged := Table.pagesFrom_paged fetchSize (Nat.zero_le table.rows.length)
  rw [pages_eq] at paged fits
  have whole : (Block.ofPages (conversation.latest + 1) table.columns (table.page 0 fetchSize) rest).Fits := by
    refine List.forall_mem_cons.mpr ⟨first _, ?_⟩
    intro entry member
    obtain ⟨page, sent, rfl⟩ := List.mem_map.mp member
    exact fits page (List.mem_cons_of_mem _ sent)
  obtain ⟨id, link, submitted, -, still⟩ := rests.link.submit rfl small answered rfl
    (closes_ofPages paged _) whole .caller
  have brings := brings_ofPages complete addressable fits paged (conversation.latest + 1)
  have holds : Holds table.columns table.rows { id }
      { queue := Block.deliveries .stream
          (Block.ofPages (conversation.latest + 1) table.columns (table.page 0 fetchSize) rest).responses } :=
    ⟨rfl, false, _, brings, (fun known => nomatch known), rfl⟩
  refine ⟨{ id }, { session with link }, ?_, holds.yields ?_⟩
  · have sent : Session.onLink (Link.submit .caller .stream (.executeStream sql fetchSize)) session =
        (.ok id, { session with link }) := by
      rw [Session.onLink_apply, submitted]
    rw [query, Op.bind_of_ok (Session.checkOpen_apply rests.is_open), Op.bind_of_ok sent]
    rfl
  · dsimp only
    rw [Link.channel?, still.channels_eq, List.nil_append, List.lookup_cons_self]

end Pages

end RowStream

end PagedResults
