import PagedResults.Proofs.Calls
import PagedResults.Proofs.Cells
import PagedResults.Proofs.Pages

/-! # What a conversation answers

A statement that the data set answers with a table is run under the next id, which must be free. From
then on its result is open, cut to the rows that were asked for, and its pages can be fetched.
-/

namespace PagedResults.Conversation

variable {data : Dataset} {conversation : Conversation} {sql : String} {table : Table} {id : UInt64}

/-- The result of a statement is open. -/
def Shows (id : UInt64) (table : Table) (conversation : Conversation) : Prop :=
  ∃ sql, conversation.statement? id = some { sql, result := some table }

/-- The id that is given out next belongs to no statement. -/
def Fresh (conversation : Conversation) : Prop := conversation.statement? (conversation.latest + 1) = none

/-- A statement that is opened gets the next id. -/
theorem openStatement_eq (sql : String) (conversation : Conversation) :
    conversation.openStatement sql = (conversation.latest + 1, (conversation.openStatement sql).2) := rfl

theorem statement?_openStatement (fresh : conversation.Fresh) (sql : String) :
    (conversation.openStatement sql).2.statement? (conversation.latest + 1) = some { sql } :=
  lookup_append_new fresh _

theorem statement?_setStatement {statement : Statement} (known : conversation.statement? id = some statement)
    (replacement : Statement) :
    (conversation.setStatement id replacement).statement? id = some replacement := by
  unfold setStatement statement?
  dsimp only
  rw [lookup_replace, if_pos rfl]
  exact congrArg (Option.map _) known

/-- Running a statement that is open opens its result. -/
theorem runStatement_ok {statement : Statement} {parameters : List Value}
    (known : conversation.statement? id = some statement)
    (named : data statement.sql parameters = .ok table) (maxRows : UInt64) :
    ∃ next, conversation.runStatement data id parameters maxRows = (.ok (table.cut maxRows), next) ∧
      next.Shows id (table.cut maxRows) := by
  refine ⟨{ conversation with asked := conversation.asked ++ [(statement.sql, parameters)] }.setStatement id
    { statement with result := some (table.cut maxRows) }, ?_, statement.sql, ?_⟩
  · rw [runStatement, known]
    dsimp only
    rw [ask, named]
  · exact statement?_setStatement (by exact known) _

theorem runStatement_error {statement : Statement} {parameters : List Value} {detail : ServiceError}
    (known : conversation.statement? id = some statement)
    (refused : data statement.sql parameters = .error detail) (maxRows : UInt64) :
    ∃ next, conversation.runStatement data id parameters maxRows = (.error detail, next) := by
  rw [runStatement, known]
  dsimp only
  rw [ask, refused]
  exact ⟨_, rfl⟩

theorem answer_prepareAndExecute (fresh : conversation.Fresh) (named : data sql [] = .ok table)
    (fetchSize : UInt32) (maxRows : UInt64) :
    ∃ next, conversation.answer data (.prepareAndExecute sql fetchSize maxRows) =
        .ok (.one (firstPage (conversation.latest + 1) fetchSize (table.cut maxRows)), next) ∧
      next.Shows (conversation.latest + 1) (table.cut maxRows) := by
  obtain ⟨next, ran, shows⟩ := runStatement_ok (statement?_openStatement fresh sql) named maxRows
  refine ⟨next, ?_, shows⟩
  rw [answer, openStatement_eq]
  dsimp only
  rw [ran]

theorem answer_prepareAndExecute_error {detail : ServiceError} (fresh : conversation.Fresh)
    (refused : data sql [] = .error detail) (fetchSize : UInt32) (maxRows : UInt64) :
    ∃ next, conversation.answer data (.prepareAndExecute sql fetchSize maxRows) =
      .ok (.one (.error detail), next) := by
  obtain ⟨next, ran⟩ := runStatement_error (statement?_openStatement fresh sql) refused maxRows
  refine ⟨next.dropStatement (conversation.latest + 1), ?_⟩
  rw [answer, openStatement_eq]
  dsimp only
  rw [ran]

/-- A statement is prepared under the next id, and has no result yet. -/
theorem answer_prepare (fresh : conversation.Fresh) (named : data sql [] = .ok table) :
    ∃ next, conversation.answer data (.prepare sql) =
        .ok (.one (.prepared (conversation.latest + 1) table.columns), next) ∧
      next.statement? (conversation.latest + 1) = some { sql } := by
  have asked : ({ conversation with asked := conversation.asked ++ [(sql, [])] } : Conversation).Fresh := fresh
  refine ⟨_, ?_, statement?_openStatement asked sql⟩
  rw [answer, ask, named]
  rfl

/-- Parameters are read back from their cells. -/
theorem parametersOf_toCells (parameters : List Value)
    (storable : ∀ value ∈ parameters, value.Storable) :
    parametersOf (Value.toCells parameters) = .ok parameters := by
  induction parameters with
  | nil => rw [Value.toCells, parametersOf]
  | cons value values ih =>
    obtain ⟨here, others⟩ := List.forall_mem_cons.mp storable
    rw [Value.toCells, parametersOf, Value.ofCell_toCell value here, ih others]
    rfl

theorem answer_execute {statement : Statement} {parameters : List Value}
    (known : conversation.statement? id = some statement)
    (named : data statement.sql parameters = .ok table)
    (storable : ∀ value ∈ parameters, value.Storable)
    (fetchSize : UInt32) (maxRows : UInt64) :
    ∃ next, conversation.answer data (.execute id (Value.toCells parameters) fetchSize maxRows) =
        .ok (.one (firstPage id fetchSize (table.cut maxRows)), next) ∧
      next.Shows id (table.cut maxRows) := by
  obtain ⟨next, ran, shows⟩ := runStatement_ok known named maxRows
  refine ⟨next, ?_, shows⟩
  rw [answer, parametersOf_toCells parameters storable]
  dsimp only
  rw [ran]
  rfl

theorem answer_execute_error {statement : Statement} {parameters : List Value} {detail : ServiceError}
    (known : conversation.statement? id = some statement)
    (refused : data statement.sql parameters = .error detail)
    (storable : ∀ value ∈ parameters, value.Storable)
    (fetchSize : UInt32) (maxRows : UInt64) :
    ∃ next, conversation.answer data (.execute id (Value.toCells parameters) fetchSize maxRows) =
      .ok (.one (.error detail), next) := by
  obtain ⟨next, ran⟩ := runStatement_error known refused maxRows
  refine ⟨next, ?_⟩
  rw [answer, parametersOf_toCells parameters storable]
  dsimp only
  rw [ran]
  rfl

/-- A statement has one open result at most. -/
theorem Shows.unique {other : Table} (shows : conversation.Shows id table) (also : conversation.Shows id other) :
    table = other := by
  obtain ⟨sql, known⟩ := shows
  obtain ⟨text, same⟩ := also
  rw [known] at same
  exact Option.some.inj (Statement.mk.inj (Option.some.inj same)).2

private theorem fetch_of_shows (shows : conversation.Shows id table) (offset : UInt64) (fetchSize : UInt32) :
    conversation.fetch id offset fetchSize = .ok (.page (table.page offset fetchSize)) := by
  obtain ⟨sql, known⟩ := shows
  rw [fetch, known]

/-- An open result gives any page of it. -/
theorem answer_fetch (shows : conversation.Shows id table) (offset : UInt64) (fetchSize : UInt32) :
    conversation.answer data (.fetch id offset fetchSize) =
      .ok (.one (.page (table.page offset fetchSize)), conversation) := by
  rw [answer, fetch_of_shows shows]
  rfl

/-- The page behind one that is not the last goes on where that one ends. -/
theorem page_next {start : Nat} {fetchSize : UInt32} (addressable : table.rows.length < UInt64.size)
    (more : start + Table.pageSize fetchSize < table.rows.length) :
    table.page (table.pageFrom start (Table.pageSize fetchSize)).next fetchSize =
      table.pageFrom (start + Table.pageSize fetchSize) (Table.pageSize fetchSize) := by
  rw [Table.page, Table.toNat_next_pageFrom (by omega) addressable, Nat.min_eq_left (by omega)]

/-- The pages behind one that was sent are those that the table has behind it. -/
theorem pagesBehind_eq (shows : conversation.Shows id table) (addressable : table.rows.length < UInt64.size)
    (fetchSize : UInt32) {start : Nat} (inside : start ≤ table.rows.length) :
    conversation.pagesBehind id fetchSize (table.pageFrom start (Table.pageSize fetchSize)) =
      if table.rows.length ≤ start + Table.pageSize fetchSize then []
      else table.pagesFrom (start + Table.pageSize fetchSize) fetchSize := by
  have positive := Table.pageSize_pos fetchSize
  induction left : table.rows.length - start using Nat.strongRecOn generalizing start with
  | ind left ih =>
    rw [pagesBehind, Table.isLast_pageFrom inside]
    by_cases last : table.rows.length ≤ start + Table.pageSize fetchSize
    · rw [if_pos (decide_eq_true last), if_pos last]
    · have farther : (table.pageFrom start (Table.pageSize fetchSize)).next <
          (table.pageFrom (start + Table.pageSize fetchSize) (Table.pageSize fetchSize)).next := by
        rw [UInt64.lt_iff_toNat_lt, Table.toNat_next_pageFrom inside addressable,
          Table.toNat_next_pageFrom (by omega) addressable]
        omega
      rw [if_neg (by simpa using last), if_neg last, fetch_of_shows shows,
        page_next addressable (by omega)]
      dsimp only
      rw [if_pos farther, ih _ (by omega) (by omega) rfl, Table.pagesFrom.eq_def (start + _)]

/-- A streamed statement is answered by all pages of the whole table. -/
theorem answer_executeStream (fresh : conversation.Fresh) (named : data sql [] = .ok table)
    (addressable : table.rows.length < UInt64.size) (fetchSize : UInt32) :
    ∃ rest next, table.pagesFrom 0 fetchSize = table.page 0 fetchSize :: rest ∧
      conversation.answer data (.executeStream sql fetchSize) =
        .ok (.ofPages (conversation.latest + 1) table.columns (table.page 0 fetchSize) rest, next) := by
  obtain ⟨next, ran, shows⟩ := runStatement_ok (statement?_openStatement fresh sql) named 0
  rw [Table.cut, if_pos rfl] at ran shows
  have behind := pagesBehind_eq shows addressable fetchSize (Nat.zero_le table.rows.length)
  refine ⟨next.pagesBehind (conversation.latest + 1) fetchSize (table.page 0 fetchSize),
    next.dropStatement (conversation.latest + 1), ?_, ?_⟩
  · change _ = table.pageFrom 0 _ :: next.pagesBehind _ _ (table.pageFrom 0 _)
    rw [behind]
    exact Table.pagesFrom.eq_def ..
  · rw [answer, openStatement_eq]
    dsimp only
    rw [ran]

end PagedResults.Conversation
