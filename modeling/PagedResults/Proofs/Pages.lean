import Mathlib.Data.List.Flatten
import PagedResults.Proofs.Messages
import PagedResults.Proofs.Paging
import PagedResults.Server.Conversation

/-! # The pages of a table

Read back by the client, a page of a table shows the rows of the table from its place on. The places that
a client can ask for, when it goes on from page to page, are those of the pages that the server would send
in a stream, and the end of the table.
-/

namespace PagedResults

/-! ## The size of a message -/

theorem WirePage.length_write (page : WirePage) :
    (WirePage.codec.write page).length = 17 + (page.rows.flatMap (Codec.list Cell.codec).write).length := by
  change (LittleEndian.write 8 page.offset.toNat ++ ([if page.isLast then 1 else 0] ++
    (Codec.list (Codec.list Cell.codec)).write page.rows)).length = _
  simp only [List.length_append, LittleEndian.length_write, Codec.length_list, List.length_singleton]
  omega

private theorem Response.length_encode (id : UInt64) (last : Bool) (response : Response) :
    (ResponseEnvelope.codec.encode ⟨id, last, response⟩).length =
      9 + (Response.codec.write response).length := by
  change (LittleEndian.write 8 id.toNat ++
    ([if last then 1 else 0] ++ Response.codec.write response)).length = _
  simp only [List.length_append, LittleEndian.length_write, List.length_singleton]
  omega

theorem Response.fits_iff (response : Response) :
    response.Fits ↔ 9 + (Response.codec.write response).length ≤ maxFrameLength := by
  simp only [Fits, length_encode, forall_const]

private theorem Request.length_encode (id : UInt64) (request : Request) :
    (RequestEnvelope.codec.encode ⟨id, request⟩).length = 8 + (Request.codec.write request).length := by
  change (LittleEndian.write 8 id.toNat ++ Request.codec.write request).length = _
  simp only [List.length_append, LittleEndian.length_write]

theorem Request.fits_iff (request : Request) :
    request.Fits ↔ 8 + (Request.codec.write request).length ≤ maxFrameLength := by
  simp only [Fits, length_encode, forall_const]

instance (request : Request) : Decidable request.Fits := decidable_of_iff _ request.fits_iff.symm

instance (response : Response) : Decidable response.Fits := decidable_of_iff _ response.fits_iff.symm

theorem Request.length_write_execute (statement : UInt64) (cells : List Cell) (fetchSize : UInt32)
    (maxRows : UInt64) : (Request.codec.write (.execute statement cells fetchSize maxRows)).length =
      32 + (cells.flatMap Cell.codec.write).length := by
  change (LittleEndian.write 4 3 ++ (LittleEndian.write 8 statement.toNat ++
    ((Codec.list Cell.codec).write cells ++
      (LittleEndian.write 4 fetchSize.toNat ++ LittleEndian.write 8 maxRows.toNat)))).length = _
  simp only [List.length_append, LittleEndian.length_write, Codec.length_list]
  omega

private theorem Response.length_write_page (page : WirePage) :
    (Response.codec.write (.page page)).length = 4 + (WirePage.codec.write page).length := by
  change (LittleEndian.write 4 5 ++ WirePage.codec.write page).length = _
  rw [List.length_append, LittleEndian.length_write]

private theorem Response.length_write_resultSet (statement : UInt64) (columns : List Column) (page : WirePage) :
    (Response.codec.write (.resultSet statement columns page)).length =
      12 + ((Codec.list Column.codec).write columns).length + (WirePage.codec.write page).length := by
  change (LittleEndian.write 4 4 ++ (LittleEndian.write 8 statement.toNat ++
    ((Codec.list Column.codec).write columns ++ WirePage.codec.write page))).length = _
  simp only [List.length_append, LittleEndian.length_write]
  omega

private theorem Response.length_write_prepared (statement : UInt64) (columns : List Column) :
    (Response.codec.write (.prepared statement columns)).length =
      12 + ((Codec.list Column.codec).write columns).length := by
  change (LittleEndian.write 4 3 ++ (LittleEndian.write 8 statement.toNat ++
    (Codec.list Column.codec).write columns)).length = _
  simp only [List.length_append, LittleEndian.length_write]
  omega

/-- The rows of a page that fits into a frame can be in memory. -/
theorem Response.Fits.rows_storable {offset : UInt64} {isLast : Bool} {rows : List Row}
    (fits : (Response.page ⟨offset, isLast, rows.map Row.toCells⟩).Fits) : ∀ row ∈ rows, row.Storable := by
  intro row member
  have bound := (fits_iff _).mp fits
  have room := maxFrameLength_le_capacity
  rw [length_write_page, WirePage.length_write] at bound
  dsimp only at bound
  have part := Codec.length_write_le (Codec.list Cell.codec) (List.mem_map_of_mem (f := Row.toCells) member)
  exact Row.storable_of_small (by omega)

/-- The parameters in a request that fits into a frame can be in memory. -/
theorem Request.Fits.parameters_storable {statement : UInt64} {parameters : List Value} {fetchSize : UInt32}
    {maxRows : UInt64} (fits : (Request.execute statement (Value.toCells parameters) fetchSize maxRows).Fits) :
    ∀ value ∈ parameters, value.Storable := by
  have bound := (fits_iff _).mp fits
  have room := maxFrameLength_le_capacity
  rw [length_write_execute] at bound
  exact Value.storableAll_iff.mp (Value.storableAll_of_small parameters (by omega))

/-- A page that begins a result fits into a frame by itself. -/
theorem Response.Fits.first {statement : UInt64} {columns : List Column} {page : WirePage}
    (fits : (Response.resultSet statement columns page).Fits) : (Response.page page).Fits := by
  have bound := (fits_iff _).mp fits
  rw [length_write_resultSet] at bound
  rw [fits_iff, length_write_page]
  omega

/-- What several steps give, each of them gave its part of. -/
theorem Outcome.bind_eq_ok {ε α β : Type} {first : Outcome ε α} {next : α → Outcome ε β} {value : β}
    (given : (first >>= next) = .ok value) : ∃ part, first = .ok part ∧ next part = .ok value := by
  cases first with
  | ok part => exact ⟨part, rfl, given⟩
  | error failure => cases given

private theorem Page.length_rowsOf {offset : UInt64} {arity index : Nat} {cells : List (List Cell)} {rows : List Row}
    (read : rowsOf offset arity index cells = .ok rows) : rows.length = cells.length := by
  induction cells generalizing index rows with
  | nil =>
    rw [rowsOf] at read
    cases read
    rfl
  | cons first others ih =>
    rw [rowsOf] at read
    split at read
    · obtain ⟨number, -, read⟩ := Outcome.bind_eq_ok read
      obtain ⟨row, -, read⟩ := Outcome.bind_eq_ok read
      obtain ⟨behind, later, read⟩ := Outcome.bind_eq_ok read
      obtain rfl := Except.ok.inj read
      rw [List.length_cons, List.length_cons, ih later]
    · cases read

/-- A page that is read has the place of the one that was sent, and as many rows. -/
theorem Page.ofWire_keeps {arity : Nat} {wire : WirePage} {page : Page} (read : ofWire arity wire = .ok page) :
    page.offset = wire.offset ∧ page.rows.length = wire.rows.length := by
  rw [ofWire] at read
  cases rows : rowsOf wire.offset arity 0 wire.rows with
  | error failure =>
    rw [rows] at read
    cases read
  | ok all =>
    rw [rows] at read
    obtain rfl := Except.ok.inj read
    exact ⟨rfl, length_rowsOf rows⟩

namespace Table

variable {table : Table} {start size : Nat} {fetchSize : UInt32}

/-- `size` rows from `start` on, as the client has them. -/
def pageOf (start size : Nat) (table : Table) : Page :=
  let first := min start table.rows.length
  ⟨UInt64.ofNat first, table.rows.length ≤ first + size, (table.rows.drop first).take size⟩

/-- Every row has a value for each column. -/
def Complete (table : Table) : Prop := ∀ row ∈ table.rows, row.values.length = table.columns.length

instance (table : Table) : Decidable table.Complete :=
  inferInstanceAs (Decidable (∀ row ∈ table.rows, row.values.length = table.columns.length))

private theorem length_pageOf (inside : start ≤ table.rows.length) :
    (table.pageOf start size).rows.length = min size (table.rows.length - start) := by
  change ((table.rows.drop (min start table.rows.length)).take size).length = _
  rw [List.length_take, List.length_drop, Nat.min_eq_left inside]

theorem isLast_pageFrom (inside : start ≤ table.rows.length) :
    (table.pageFrom start size).isLast = decide (table.rows.length ≤ start + size) := by
  rw [pageFrom, Nat.min_eq_left inside]

theorem length_pageFrom (inside : start ≤ table.rows.length) :
    (table.pageFrom start size).rows.length = min size (table.rows.length - start) := by
  change (((table.rows.drop (min start table.rows.length)).take size).map Row.toCells).length = _
  rw [List.length_map, List.length_take, List.length_drop, Nat.min_eq_left inside]

theorem toNat_offset_pageFrom (inside : start ≤ table.rows.length)
    (addressable : table.rows.length < UInt64.size) : (table.pageFrom start size).offset.toNat = start := by
  rw [pageFrom, Nat.min_eq_left inside]
  exact UInt64.toNat_ofNat_of_lt' (Nat.lt_of_le_of_lt inside addressable)

/-- The place behind a page of a table. -/
theorem toNat_next_pageFrom (inside : start ≤ table.rows.length)
    (addressable : table.rows.length < UInt64.size) :
    (table.pageFrom start size).next.toNat = start + min size (table.rows.length - start) := by
  have wordSize : UInt64.size = 2 ^ 64 := rfl
  rw [WirePage.next, length_pageFrom inside, pageFrom, Nat.min_eq_left inside]
  dsimp only
  rw [UInt64.toNat_add, UInt64.toNat_ofNat', UInt64.toNat_ofNat',
    Nat.mod_eq_of_lt (by omega : start < 2 ^ 64), Nat.mod_eq_of_lt (by omega), Nat.mod_eq_of_lt (by omega)]

/-- A page is read back with all of its rows. -/
theorem ofWire_pageFrom (complete : table.Complete) (addressable : table.rows.length < UInt64.size)
    (fits : (Response.page (table.pageFrom start size)).Fits) :
    Page.ofWire table.columns.length (table.pageFrom start size) = .ok (table.pageOf start size) := by
  have storable := fits.rows_storable
  have places : (UInt64.ofNat (min start table.rows.length)).toNat + 0 +
      ((table.rows.drop (min start table.rows.length)).take size).length ≤ UInt64.size := by
    have size_eq : UInt64.size = 2 ^ 64 := rfl
    rw [UInt64.toNat_ofNat', List.length_take, List.length_drop, Nat.mod_eq_of_lt (by omega)]
    omega
  have read := Page.rowsOf_toCells 0 ((table.rows.drop (min start table.rows.length)).take size)
    (fun row member => complete row (List.mem_of_mem_drop (List.mem_of_mem_take member))) places storable
  rw [Page.ofWire, pageFrom]
  dsimp only
  rw [read]
  rfl

/-- Read back, a page shows the rows of its table from its place on. -/
theorem pageOf_shows (positive : 0 < size) (inside : start ≤ table.rows.length)
    (addressable : table.rows.length < UInt64.size) :
    (table.pageOf start size).Shows table.rows start := by
  have rows_eq : (table.pageOf start size).rows = (table.rows.drop start).take size := by
    rw [pageOf, Nat.min_eq_left inside]
  refine ⟨?_, ?_, ?_, ?_⟩
  · change (UInt64.ofNat (min start table.rows.length)).toNat = start
    rw [Nat.min_eq_left inside, UInt64.toNat_ofNat', Nat.mod_eq_of_lt]
    exact Nat.lt_of_le_of_lt inside addressable
  · rw [rows_eq]
    exact List.take_prefix _ _
  · intro more
    rw [← List.length_pos_iff, length_pageOf inside]
    omega
  · intro last
    have ends : table.rows.length ≤ min start table.rows.length + size := of_decide_eq_true last
    rw [length_pageOf inside]
    omega

/-! ## From page to page -/

/-- A place that a client comes to by going on from page to page. -/
structure Reaches (fetchSize : UInt32) (table : Table) (start : Nat) : Prop where
  inside : start ≤ table.rows.length
  sent : start = table.rows.length ∨ table.pagesFrom start fetchSize <:+ table.pagesFrom 0 fetchSize

theorem Reaches.zero (fetchSize : UInt32) (table : Table) : table.Reaches fetchSize 0 :=
  ⟨Nat.zero_le _, .inr (List.suffix_refl _)⟩

theorem Reaches.next (reaches : table.Reaches fetchSize start) :
    table.Reaches fetchSize (start + (table.pageOf start (pageSize fetchSize)).rows.length) := by
  obtain ⟨inside, sent⟩ := reaches
  rw [length_pageOf inside]
  refine ⟨by omega, ?_⟩
  rcases sent with rfl | behind
  · exact .inl (by omega)
  · by_cases more : table.rows.length ≤ start + pageSize fetchSize
    · exact .inl (by omega)
    · refine .inr (List.IsSuffix.trans ?_ behind)
      rw [Nat.min_eq_left (by omega), pagesFrom.eq_def start, if_neg more]
      exact List.suffix_cons _ _

/-- The place behind the page at a place that is reached. -/
theorem Reaches.behind (reaches : table.Reaches fetchSize start)
    (addressable : table.rows.length < UInt64.size) :
    table.Reaches fetchSize (table.pageFrom start (pageSize fetchSize)).next.toNat := by
  have next := reaches.next
  rw [length_pageOf reaches.inside] at next
  rw [toNat_next_pageFrom reaches.inside addressable]
  exact next

/-- The page at the end of a table is empty, and fits into a frame whatever the table. -/
theorem fits_end (table : Table) (size : Nat) :
    (Response.page (table.pageFrom table.rows.length size)).Fits := by
  have empty : (table.pageFrom table.rows.length size).rows = [] := by
    rw [pageFrom, Nat.min_self, List.drop_length, List.take_nil, List.map_nil]
  rw [Response.fits_iff, Response.length_write_page, WirePage.length_write, empty, List.flatMap_nil,
    List.length_nil]
  decide

/-- Whatever a client comes to fits into a frame if the pages of the stream do. -/
theorem Reaches.fits (reaches : table.Reaches fetchSize start)
    (fits : ∀ page ∈ table.pagesFrom 0 fetchSize, (Response.page page).Fits) :
    (Response.page (table.pageFrom start (pageSize fetchSize))).Fits := by
  rcases reaches.sent with rfl | behind
  · exact fits_end table _
  · apply fits
    apply behind.subset
    rw [pagesFrom]
    exact List.mem_cons_self ..

/-! ## Tables whose pages fit into frames -/

/-- The pages of the table fit into frames, the first one together with the columns. -/
structure PagesFit (fetchSize : UInt32) (table : Table) : Prop where
  first : ∀ statement, (Response.resultSet statement table.columns (table.page 0 fetchSize)).Fits
  all : ∀ page ∈ table.pagesFrom 0 fetchSize, (Response.page page).Fits

/-- The columns alone fit into a frame. -/
theorem PagesFit.prepared (fits : table.PagesFit fetchSize) (statement : UInt64) :
    (Response.prepared statement table.columns).Fits := by
  have bound := (Response.fits_iff _).mp (fits.first statement)
  rw [Response.length_write_resultSet] at bound
  rw [Response.fits_iff, Response.length_write_prepared]
  omega

private theorem mem_pagesFrom {page : WirePage} (member : page ∈ table.pagesFrom start fetchSize) :
    ∃ place, page = table.pageFrom place (pageSize fetchSize) := by
  induction left : table.rows.length - start using Nat.strongRecOn generalizing start with
  | ind left ih =>
    have positive := pageSize_pos fetchSize
    rw [pagesFrom] at member
    rcases List.mem_cons.mp member with rfl | behind
    · exact ⟨start, rfl⟩
    · split at behind
      · contradiction
      · exact ih _ (by omega) behind rfl

/-- No page is longer than all rows together. -/
theorem length_pageFrom_le (start size : Nat) (table : Table) :
    (WirePage.codec.write (table.pageFrom start size)).length ≤
      (WirePage.codec.write (table.pageFrom 0 table.rows.length)).length := by
  have part : ((table.rows.drop (min start table.rows.length)).take size).Sublist table.rows :=
    (List.take_sublist _ _).trans (List.drop_sublist _ _)
  have shorter := ((part.map Row.toCells).flatMap (Codec.list Cell.codec).write).length_le
  rw [WirePage.length_write, WirePage.length_write, pageFrom, pageFrom]
  dsimp only
  rw [Nat.zero_min, List.drop_zero, List.take_length]
  omega

/-- If all rows fit into one frame, so do the pages, whatever their size. -/
theorem PagesFit.of_whole
    (fits : (Response.resultSet 0 table.columns (table.pageFrom 0 table.rows.length)).Fits)
    (fetchSize : UInt32) : table.PagesFit fetchSize := by
  have bound := (Response.fits_iff _).mp fits
  rw [Response.length_write_resultSet] at bound
  constructor
  · intro statement
    have shorter := length_pageFrom_le 0 (pageSize fetchSize) table
    rw [Response.fits_iff, Response.length_write_resultSet, page]
    change 9 + (_ + _ + (WirePage.codec.write (table.pageFrom 0 _)).length) ≤ _
    omega
  · intro page member
    obtain ⟨place, rfl⟩ := mem_pagesFrom member
    have shorter := length_pageFrom_le place (pageSize fetchSize) table
    rw [Response.fits_iff, Response.length_write_page]
    omega

end Table

end PagedResults
