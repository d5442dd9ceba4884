import PagedResults.Proofs.Conversation.Replies

/-! # What a request makes of a statement

A statement is opened by the request that hands its id out, gets a result whenever it is run, and is gone
once it is closed. Requests that fail, statements that are streamed, and whatever is asked about other
statements make no difference to it. `Request.effect` says so in one equation for each kind of request, and
`Conversation.answer_effect` that this is what the server does.
-/

namespace PagedResults

/-- A statement after a run that may have failed. -/
def Statement.ran (data : Dataset) (values : List Value) (maxRows : UInt64) (statement : Statement) :
    Statement :=
  match data statement.sql values with
  | .ok table => { statement with result := some (table.cut maxRows) }
  | .error _ => statement

/-- What becomes of the statement `id` by a request, where `known` is what it was and `latest` the id given
out last. -/
def Request.effect (data : Dataset) (latest id : UInt64) (known : Option Statement) :
    Request → Option Statement
  | .prepare sql =>
      if id = latest + 1 then (data sql []).toOption.map fun _ => { sql } else known
  | .prepareAndExecute sql _ maxRows =>
      if id = latest + 1 then
        (data sql []).toOption.map fun table => { sql, result := some (table.cut maxRows) }
      else known
  | .execute other parameters _ maxRows =>
      if id = other then
        match Conversation.parametersOf parameters with
        | .ok values => known.map (Statement.ran data values maxRows)
        | .error _ => known
      else known
  | .closeResult other =>
      if id = other then known.map fun statement => { statement with result := none } else known
  | .closeStatement other => if id = other then none else known
  | _ => known

/-- The id given out last after a request. -/
def Request.latestAfter (data : Dataset) (latest : UInt64) : Request → UInt64
  | .prepare sql => if (data sql []).toOption.isSome then latest + 1 else latest
  | .prepareAndExecute .. | .executeStream .. => latest + 1
  | _ => latest

namespace Conversation

variable {data : Dataset} {conversation next : Conversation} {request : Request} {block : Block}
  {id : UInt64} {spare : Nat}

/-- Running a statement that is open answers what the data set answers, and replaces the result. -/
theorem runStatement_apply (data : Dataset) (id : UInt64) (values : List Value) (maxRows : UInt64)
    (conversation : Conversation) :
    (conversation.runStatement data id values maxRows).1 =
      (match conversation.statement? id with
      | none => .error (unknownStatement id)
      | some statement => (data statement.sql values).map (·.cut maxRows)) ∧
    (conversation.runStatement data id values maxRows).2.statement? id =
      (conversation.statement? id).map (Statement.ran data values maxRows) := by
  rw [runStatement]
  cases known : conversation.statement? id with
  | none => exact ⟨rfl, known⟩
  | some statement =>
    dsimp only
    rw [ask, Option.map_some, Statement.ran]
    cases data statement.sql values with
    | error detail => exact ⟨rfl, known⟩
    | ok table => exact ⟨rfl, statement?_setStatement (by exact known) _⟩

theorem statement?_dropStatement (id : UInt64) (conversation : Conversation) :
    (conversation.dropStatement id).statement? id = none := by
  unfold dropStatement statement?
  dsimp only
  rw [lookup_filter_ne, if_pos rfl]

/-- A statement that is opened and run at once: its block, and what becomes of every statement. -/
theorem runStatement_opened (numbered : conversation.Numbered (spare + 1)) (data : Dataset) (sql : String)
    (maxRows : UInt64) :
    let ran := (conversation.openStatement sql).2.runStatement data (conversation.latest + 1) [] maxRows
    ran.1 = (data sql []).map (·.cut maxRows) ∧ ran.2.latest = conversation.latest + 1 ∧
      ∀ id, ran.2.statement? id = if id = conversation.latest + 1 then
        some (Statement.ran data [] maxRows { sql }) else conversation.statement? id := by
  intro ran
  have opened := statement?_openStatement numbered.fresh sql
  obtain ⟨answer, changed⟩ := runStatement_apply data (conversation.latest + 1) [] maxRows
    (conversation.openStatement sql).2
  rw [opened] at answer changed
  refine ⟨answer, latest_runStatement .., fun id => ?_⟩
  split
  · next same => exact same ▸ changed
  · next differs => rw [statement?_runStatement_ne differs, statement?_openStatement_ne differs]

/-- What a request makes of any statement. -/
theorem answer_effect (numbered : conversation.Numbered (spare + 1))
    (answered : conversation.answer data request = .ok (block, next)) :
    next.latest = request.latestAfter data conversation.latest ∧
    ∀ id, next.statement? id = request.effect data conversation.latest id (conversation.statement? id) := by
  cases request with
  | prepare sql =>
    rw [answer, ask] at answered
    rw [Request.latestAfter]
    cases named : data sql [] with
    | error detail =>
      rw [named] at answered
      obtain ⟨-, rfl⟩ := Prod.mk.inj (Except.ok.inj answered)
      refine ⟨rfl, fun id => ?_⟩
      rw [Request.effect, named]
      split
      · next same => exact same ▸ numbered.fresh
      · rfl
    | ok table =>
      rw [named] at answered
      obtain ⟨-, rfl⟩ := Prod.mk.inj (Except.ok.inj answered)
      refine ⟨rfl, fun id => ?_⟩
      rw [Request.effect, named]
      split
      · next same =>
        rw [same]
        exact statement?_openStatement (numbered.ask data sql []).fresh sql
      · next differs => exact statement?_openStatement_ne (by exact differs) sql
  | execute other parameters fetchSize maxRows =>
    rw [answer] at answered
    cases read : parametersOf parameters with
    | error failure =>
      rw [read] at answered
      cases failure with
      | halt reason => cases answered
      | error cause =>
        obtain ⟨-, rfl⟩ := Prod.mk.inj (Except.ok.inj answered)
        refine ⟨rfl, fun id => ?_⟩
        rw [Request.effect, read]
        exact (ite_self _).symm
    | ok values =>
      have latest_eq : (conversation.runStatement data other values maxRows).2.latest = conversation.latest :=
        latest_runStatement data other values maxRows
      have changed := (runStatement_apply data other values maxRows conversation).2
      have others (id : UInt64) (differs : id ≠ other) :
          (conversation.runStatement data other values maxRows).2.statement? id = conversation.statement? id :=
        statement?_runStatement_ne differs data values maxRows
      rw [read] at answered
      dsimp only at answered
      generalize conversation.runStatement data other values maxRows = ran at answered latest_eq changed others
      obtain ⟨-, rfl⟩ := Prod.mk.inj (Except.ok.inj answered)
      refine ⟨latest_eq, fun id => ?_⟩
      rw [Request.effect, read]
      by_cases same : id = other
      · rw [if_pos same, same]
        exact changed
      · rw [if_neg same]
        exact others id same
  | prepareAndExecute sql fetchSize maxRows =>
    obtain ⟨answer_eq, latest_eq, statements⟩ := runStatement_opened numbered data sql maxRows
    rw [answer, openStatement_eq] at answered
    dsimp only at answered
    generalize (conversation.openStatement sql).2.runStatement data (conversation.latest + 1) [] maxRows = ran
      at answered answer_eq latest_eq statements
    obtain ⟨result, after⟩ := ran
    dsimp only at answer_eq latest_eq statements
    subst answer_eq
    cases named : data sql [] with
    | error detail =>
      rw [named] at answered
      obtain ⟨-, rfl⟩ := Prod.mk.inj (Except.ok.inj answered)
      refine ⟨latest_eq, fun id => ?_⟩
      rw [Request.effect, named]
      by_cases same : id = conversation.latest + 1
      · rw [if_pos same, same, statement?_dropStatement]
        rfl
      · rw [if_neg same, statement?_dropStatement_ne same, statements, if_neg same]
    | ok table =>
      rw [named] at answered
      obtain ⟨-, rfl⟩ := Prod.mk.inj (Except.ok.inj answered)
      refine ⟨latest_eq, fun id => ?_⟩
      rw [Request.effect, statements, Statement.ran]
      simp only [named]
      rfl
  | executeStream sql fetchSize =>
    obtain ⟨-, latest_eq, statements⟩ := runStatement_opened numbered data sql 0
    rw [answer, openStatement_eq] at answered
    dsimp only at answered
    generalize (conversation.openStatement sql).2.runStatement data (conversation.latest + 1) [] 0 = ran
      at answered latest_eq statements
    obtain ⟨-, rfl⟩ := Prod.mk.inj (Except.ok.inj answered)
    refine ⟨latest_eq, fun id => ?_⟩
    change _ = conversation.statement? id
    by_cases same : id = conversation.latest + 1
    · rw [same, statement?_dropStatement, numbered.fresh]
    · rw [statement?_dropStatement_ne same, statements, if_neg same]
  | closeResult other =>
    rw [answer] at answered
    cases known : conversation.statement? other with
    | none =>
      rw [known] at answered
      obtain ⟨-, rfl⟩ := Prod.mk.inj (Except.ok.inj answered)
      refine ⟨rfl, fun id => ?_⟩
      rw [Request.effect]
      by_cases same : id = other
      · rw [if_pos same, same, known]
        rfl
      · rw [if_neg same]
    | some statement =>
      rw [known] at answered
      obtain ⟨-, rfl⟩ := Prod.mk.inj (Except.ok.inj answered)
      refine ⟨rfl, fun id => ?_⟩
      rw [Request.effect]
      by_cases same : id = other
      · rw [if_pos same, same, known]
        exact statement?_setStatement known _
      · rw [if_neg same]
        exact statement?_setStatement_ne same _
  | closeStatement other =>
    rw [answer] at answered
    obtain ⟨-, rfl⟩ := Prod.mk.inj (Except.ok.inj answered)
    refine ⟨rfl, fun id => ?_⟩
    rw [Request.effect]
    split
    · next same => exact same ▸ statement?_dropStatement other conversation
    · next differs => exact statement?_dropStatement_ne differs
  | _ =>
    rw [answer] at answered
    obtain ⟨-, rfl⟩ := Prod.mk.inj (Except.ok.inj answered)
    exact ⟨rfl, fun _ => rfl⟩

/-- What is answered to a request for a page depends on the statement alone. -/
theorem answer_fetch_block {offset : UInt64} {fetchSize : UInt32}
    (answered : conversation.answer data (.fetch id offset fetchSize) = .ok (block, next)) :
    block = .ofResult (match conversation.statement? id with
      | none => .error (unknownStatement id)
      | some { result := none, .. } => .error (noOpenResult id)
      | some { result := some table, .. } => .ok (.page (table.page offset fetchSize))) := by
  rw [answer] at answered
  exact (Prod.mk.inj (Except.ok.inj answered)).1.symm

/-- What is answered to a run depends on the statement and on the data set. -/
theorem answer_execute_block {parameters : List Cell} {values : List Value} {fetchSize : UInt32}
    {maxRows : UInt64} (read : parametersOf parameters = .ok values)
    (answered : conversation.answer data (.execute id parameters fetchSize maxRows) = .ok (block, next)) :
    block = .ofResult (match conversation.statement? id with
      | none => .error (unknownStatement id)
      | some statement =>
          (data statement.sql values).map fun table => firstPage id fetchSize (table.cut maxRows)) := by
  have result_eq := (runStatement_apply data id values maxRows conversation).1
  rw [answer, read] at answered
  dsimp only at answered
  generalize conversation.runStatement data id values maxRows = ran at answered result_eq
  obtain ⟨rfl, -⟩ := Prod.mk.inj (Except.ok.inj answered)
  rw [result_eq]
  cases conversation.statement? id with
  | none => rfl
  | some statement =>
    dsimp only
    cases data statement.sql values <;> rfl

end Conversation

end PagedResults
