import PagedResults.Proofs.Conversation.Effects

/-! # What the history of a conversation tells

What is answered about a statement follows from the replies so far: they tell whether it is open, and which
result it has. `Told` is this invariant. Ids are given out in order, so that a statement that was closed is
never open again.
-/

namespace PagedResults

namespace Conversation

variable {data : Dataset} {conversation next : Conversation} {request : Request} {block : Block}
  {id : UInt64} {spare : Nat}

/-! ## Replies -/

/-- The statement that was opened for a client to use, and its text. -/
def Reply.opened? (reply : Reply) : Option (UInt64 × String) :=
  match reply.envelope.request, reply.block.responses with
  | .prepare sql, [(_, .prepared id _)] => some (id, sql)
  | .prepareAndExecute sql _ _, [(_, .resultSet id _ _)] => some (id, sql)
  | _, _ => none

/-- The statement that was run for a client to fetch from, its parameters, and the limit on its rows. -/
def Reply.ran? (reply : Reply) : Option (UInt64 × List Value × UInt64) :=
  match reply.envelope.request, reply.block.responses with
  | .prepareAndExecute _ _ maxRows, [(_, .resultSet id _ _)] => some (id, [], maxRows)
  | .execute id parameters _ maxRows, [(_, .resultSet ..)] =>
      match parametersOf parameters with
      | .ok values => some (id, values, maxRows)
      | .error _ => none
  | _, _ => none

/-- The statement that a request opens for a client to use. -/
def opening? (data : Dataset) (latest : UInt64) : Request → Option (UInt64 × String)
  | .prepare sql | .prepareAndExecute sql _ _ => (data sql []).toOption.map fun _ => (latest + 1, sql)
  | _ => none

/-- A reply tells which statement was opened. -/
theorem opened?_eq {envelope : RequestEnvelope} (numbered : conversation.Numbered (spare + 1))
    (answered : conversation.answer data envelope.request = .ok (block, next)) :
    Reply.opened? ⟨envelope, conversation, block⟩ = opening? data conversation.latest envelope.request := by
  obtain ⟨number, request⟩ := envelope
  cases request with
  | prepare sql =>
    cases named : data sql [] with
    | error detail =>
      rw [answer, ask, named] at answered
      obtain ⟨rfl, -⟩ := Prod.mk.inj (Except.ok.inj answered)
      rw [opening?, named]
      rfl
    | ok table =>
      obtain ⟨after, prepared, -⟩ := answer_prepare numbered.fresh named
      obtain ⟨rfl, -⟩ := Prod.mk.inj (Except.ok.inj (prepared.symm.trans answered))
      rw [opening?, named]
      rfl
  | prepareAndExecute sql fetchSize maxRows =>
    cases named : data sql [] with
    | error detail =>
      obtain ⟨after, refused⟩ := answer_prepareAndExecute_error numbered.fresh named fetchSize maxRows
      obtain ⟨rfl, -⟩ := Prod.mk.inj (Except.ok.inj (refused.symm.trans answered))
      rw [opening?, named]
      rfl
    | ok table =>
      obtain ⟨after, ran, -⟩ := answer_prepareAndExecute numbered.fresh named fetchSize maxRows
      obtain ⟨rfl, -⟩ := Prod.mk.inj (Except.ok.inj (ran.symm.trans answered))
      rw [opening?, named]
      rfl
  | _ => rfl

/-- The run of a statement that a request makes, where `statement?` are the statements that are open. -/
def running? (data : Dataset) (latest : UInt64) (statement? : UInt64 → Option Statement) :
    Request → Option (UInt64 × List Value × UInt64)
  | .prepareAndExecute sql _ maxRows => (data sql []).toOption.map fun _ => (latest + 1, [], maxRows)
  | .execute id parameters _ maxRows =>
      match parametersOf parameters, statement? id with
      | .ok values, some statement =>
          (data statement.sql values).toOption.map fun _ => (id, values, maxRows)
      | _, _ => none
  | _ => none

/-- A reply tells which statement was run. -/
theorem ran?_eq {envelope : RequestEnvelope} (numbered : conversation.Numbered (spare + 1))
    (answered : conversation.answer data envelope.request = .ok (block, next)) :
    Reply.ran? ⟨envelope, conversation, block⟩ =
      running? data conversation.latest (fun id => conversation.statement? id) envelope.request := by
  obtain ⟨number, request⟩ := envelope
  cases request with
  | prepareAndExecute sql fetchSize maxRows =>
    cases named : data sql [] with
    | error detail =>
      obtain ⟨after, refused⟩ := answer_prepareAndExecute_error numbered.fresh named fetchSize maxRows
      obtain ⟨rfl, -⟩ := Prod.mk.inj (Except.ok.inj (refused.symm.trans answered))
      rw [running?, named]
      rfl
    | ok table =>
      obtain ⟨after, ran, -⟩ := answer_prepareAndExecute numbered.fresh named fetchSize maxRows
      obtain ⟨rfl, -⟩ := Prod.mk.inj (Except.ok.inj (ran.symm.trans answered))
      rw [running?, named]
      rfl
  | execute id parameters fetchSize maxRows =>
    cases read : parametersOf parameters with
    | error failure =>
      dsimp only at answered
      rw [answer, read] at answered
      cases failure with
      | halt reason => cases answered
      | error cause =>
        obtain ⟨rfl, -⟩ := Prod.mk.inj (Except.ok.inj answered)
        rw [running?, read]
        rfl
    | ok values =>
      rw [answer_execute_block read answered, running?, read]
      cases conversation.statement? id with
      | none => rfl
      | some statement =>
        cases named : data statement.sql values with
        | error detail =>
          simp only [named]
          rfl
        | ok table =>
          simp only [Reply.ran?, named, read, Except.map, Block.ofResult, Block.one, firstPage]
          rfl
  | _ => rfl

/-! ## Histories -/

/-- The replies after which a conversation stands where it does. -/
inductive Reached (data : Dataset) : List Reply → Conversation → Prop where
  | new : Reached data [] {}
  | step {earlier : List Reply} {conversation next : Conversation} {envelope : RequestEnvelope}
      {block : Block} (reached : Reached data earlier conversation)
      (answered : conversation.answer data envelope.request = .ok (block, next)) :
      Reached data (earlier ++ [⟨envelope, conversation, block⟩]) next

/-- A reply has happened, and behind it only replies of a kind. -/
def Since (happened allowed : Reply → Prop) (earlier : List Reply) : Prop :=
  ∃ before reply between, earlier = before ++ reply :: between ∧ happened reply ∧
    ∀ other ∈ between, allowed other

/-- The statement was opened, and not closed since. -/
def OpenAfter (earlier : List Reply) (id : UInt64) (sql : String) : Prop :=
  Since (fun reply => reply.opened? = some (id, sql))
    (fun reply => reply.envelope.request ≠ .closeStatement id) earlier

/-- The last run of the statement gave the table, and its result was not closed since. -/
def ResultAfter (data : Dataset) (earlier : List Reply) (id : UInt64) (sql : String) (table : Table) :
    Prop :=
  Since
    (fun reply => ∃ values maxRows whole, reply.ran? = some (id, values, maxRows) ∧
      data sql values = .ok whole ∧ table = whole.cut maxRows)
    (fun reply => reply.envelope.request ≠ .closeResult id ∧
      ∀ values maxRows, reply.ran? ≠ some (id, values, maxRows)) earlier

private theorem since_snoc {happened allowed : Reply → Prop} {earlier : List Reply} {reply : Reply} :
    Since happened allowed (earlier ++ [reply]) ↔
      happened reply ∨ Since happened allowed earlier ∧ allowed reply := by
  constructor
  · rintro ⟨before, first, between, split, first_happened, rest⟩
    rcases snoc_cases split with ⟨rfl, rfl, -⟩ | ⟨between, rfl, rfl⟩
    · exact .inl first_happened
    · obtain ⟨others, allows⟩ := List.forall_mem_append.mp rest
      exact .inr ⟨⟨before, first, between, rfl, first_happened, others⟩, List.forall_mem_singleton.mp allows⟩
  · rintro (happens | ⟨⟨before, first, between, rfl, first_happened, rest⟩, allows⟩)
    · exact ⟨earlier, reply, [], rfl, happens, List.forall_mem_nil _⟩
    · refine ⟨before, first, between ++ [reply], List.append_assoc .., first_happened, ?_⟩
      exact List.forall_mem_append.mpr ⟨rest, List.forall_mem_singleton.mpr allows⟩

theorem Reached.numbered {earlier : List Reply} (reached : Reached data earlier conversation)
    (few : earlier.length + spare < UInt64.size) : conversation.Numbered spare := by
  induction reached generalizing spare with
  | new => exact numbered_new (by simpa using few)
  | step reached answered ih =>
    rw [List.length_append, List.length_singleton] at few
    exact (answer_moves (ih (by omega)) answered).numbered

/-- A request leaves a statement open that it opens, or that was open and is not closed by it. -/
theorem effect_sql {latest : UInt64} {known : Option Statement} {sql : String}
    (unknown : id = latest + 1 → known = none) :
    (request.effect data latest id known).map (·.sql) = some sql ↔
      opening? data latest request = some (id, sql) ∨
      known.map (·.sql) = some sql ∧ request ≠ .closeStatement id := by
  have ran_sql (values : List Value) (maxRows : UInt64) (statement : Statement) :
      (statement.ran data values maxRows).sql = statement.sql := by
    rw [Statement.ran]
    split <;> rfl
  cases request with
  | prepare other | prepareAndExecute other =>
    rw [Request.effect, opening?]
    by_cases new : id = latest + 1
    · rw [if_pos new, unknown new, new]
      cases data other [] <;> simp [Except.toOption]
    · rw [if_neg new]
      cases data other [] <;> simp [Except.toOption, Ne.symm new]
  | execute other parameters fetchSize maxRows =>
    rw [Request.effect]
    split
    · cases parametersOf parameters with
      | error failure => simp [opening?]
      | ok values => simp [opening?, Option.map_map, Function.comp_def, ran_sql]
    · simp [opening?]
  | closeResult other =>
    rw [Request.effect]
    split <;> simp [opening?, Option.map_map, Function.comp_def]
  | closeStatement other =>
    rw [Request.effect]
    by_cases same : id = other
    · simp [opening?, same]
    · simp [opening?, same, Ne.symm same]
  | _ => simp [Request.effect, opening?]

/-- A request leaves a statement with the result that it gives it, or with the one that it had unless the
request closes that or runs the statement again. -/
theorem effect_result {latest : UInt64} (statement? : UInt64 → Option Statement) {statement : Statement}
    {table : Table} (unknown : id = latest + 1 → statement? id = none)
    (left : request.effect data latest id (statement? id) = some statement) :
    statement.result = some table ↔
      (∃ values maxRows whole, running? data latest statement? request = some (id, values, maxRows) ∧
        data statement.sql values = .ok whole ∧ table = whole.cut maxRows) ∨
      (∃ before, statement? id = some before ∧ before.sql = statement.sql ∧ before.result = some table) ∧
        request ≠ .closeResult id ∧
        ∀ values maxRows, running? data latest statement? request ≠ some (id, values, maxRows) := by
  have kept (same : statement? id = some statement) (unclosed : request ≠ .closeResult id)
      (unrun : ∀ values maxRows, running? data latest statement? request ≠ some (id, values, maxRows)) :
      statement.result = some table ↔
        (∃ values maxRows whole, running? data latest statement? request = some (id, values, maxRows) ∧
          data statement.sql values = .ok whole ∧ table = whole.cut maxRows) ∨
        (∃ before, statement? id = some before ∧ before.sql = statement.sql ∧ before.result = some table) ∧
          request ≠ .closeResult id ∧
          ∀ values maxRows, running? data latest statement? request ≠ some (id, values, maxRows) := by
    constructor
    · exact fun result => .inr ⟨⟨statement, same, rfl, result⟩, unclosed, unrun⟩
    · rintro (⟨values, maxRows, whole, ran, -⟩ | ⟨⟨before, known, -, result⟩, -⟩)
      · exact absurd ran (unrun values maxRows)
      · rw [same] at known
        exact Option.some.inj known ▸ result
  cases request with
  | prepare sql =>
    rw [Request.effect] at left
    by_cases new : id = latest + 1
    · rw [if_pos new] at left
      cases named : data sql [] with
      | error detail => simp [named, Except.toOption] at left
      | ok whole =>
        simp only [named, Except.toOption, Option.map_some, Option.some.injEq] at left
        subst left
        simp [running?, unknown new]
    · rw [if_neg new] at left
      exact kept left (by simp) (by simp [running?])
  | prepareAndExecute sql fetchSize maxRows =>
    rw [Request.effect] at left
    by_cases new : id = latest + 1
    · rw [if_pos new] at left
      cases named : data sql [] with
      | error detail => simp [named, Except.toOption] at left
      | ok whole =>
        simp only [named, Except.toOption, Option.map_some, Option.some.injEq] at left
        subst left
        simp [running?, new, named, Except.toOption, eq_comm]
    · rw [if_neg new] at left
      refine kept left (by simp) fun values limit ran => ?_
      rw [running?] at ran
      cases named : data sql [] <;> simp [named, Except.toOption, Ne.symm new] at ran
  | execute other parameters fetchSize maxRows =>
    rw [Request.effect] at left
    by_cases same : id = other
    · subst same
      rw [if_pos rfl] at left
      cases read : parametersOf parameters with
      | error failure =>
        rw [read] at left
        refine kept left (by simp) fun values limit ran => ?_
        simp [running?, read] at ran
      | ok values =>
        rw [read] at left
        obtain ⟨before, known, rfl⟩ := Option.map_eq_some_iff.mp left
        cases named : data before.sql values with
        | error detail =>
          have unchanged : before.ran data values maxRows = before := by rw [Statement.ran, named]
          rw [unchanged] at kept ⊢
          refine kept known (by simp) fun values limit ran => ?_
          simp [running?, read, known, named, Except.toOption] at ran
        | ok whole =>
          have changed : before.ran data values maxRows = { before with result := some (whole.cut maxRows) } := by
            rw [Statement.ran, named]
          rw [changed]
          simp [running?, read, known, named, Except.toOption, eq_comm]
    · rw [if_neg same] at left
      refine kept left (by simp) fun values limit ran => ?_
      rw [running?] at ran
      split at ran
      · obtain ⟨whole, -, found⟩ := Option.map_eq_some_iff.mp ran
        exact same (Prod.mk.inj found).1.symm
      · cases ran
  | closeResult other =>
    rw [Request.effect] at left
    by_cases same : id = other
    · rw [if_pos same] at left
      obtain ⟨before, known, rfl⟩ := Option.map_eq_some_iff.mp left
      simp [running?, same]
    · rw [if_neg same] at left
      exact kept left (fun closed => same (Request.closeResult.inj closed).symm) (by simp [running?])
  | closeStatement other =>
    rw [Request.effect] at left
    by_cases same : id = other
    · rw [if_pos same] at left
      cases left
    · rw [if_neg same] at left
      exact kept left (by simp) (by simp [running?])
  | _ => exact kept left (by simp) (by simp [running?])

private theorem opening?_eq_some {latest : UInt64} {sql : String}
    (opens : opening? data latest request = some (id, sql)) :
    id = latest + 1 ∧ request.latestAfter data latest = id := by
  cases request with
  | prepare other | prepareAndExecute other =>
    obtain ⟨table, named, same⟩ := Option.map_eq_some_iff.mp opens
    obtain ⟨rfl, -⟩ := Prod.mk.inj same
    simp [Request.latestAfter, named]
  | _ => cases opens

private theorem running?_eq_some {latest : UInt64} {statement? : UInt64 → Option Statement} {values : List Value}
    {maxRows : UInt64} (runs : running? data latest statement? request = some (id, values, maxRows)) :
    request.latestAfter data latest = id ∨ ∃ statement, statement? id = some statement := by
  cases request with
  | prepareAndExecute sql =>
    obtain ⟨table, named, same⟩ := Option.map_eq_some_iff.mp runs
    exact .inl (Prod.mk.inj same).1
  | execute other parameters =>
    rw [running?] at runs
    split at runs
    · next statement read known =>
      obtain ⟨table, named, same⟩ := Option.map_eq_some_iff.mp runs
      exact .inr ⟨statement, (Prod.mk.inj same).1 ▸ known⟩
    · cases runs
  | _ => cases runs

/-- What the replies so far tell of the statements of a conversation. -/
structure Told (data : Dataset) (earlier : List Reply) (conversation : Conversation) : Prop where
  opened_le : ∀ reply ∈ earlier, ∀ id sql, reply.opened? = some (id, sql) →
    id.toNat ≤ conversation.latest.toNat
  ran_le : ∀ reply ∈ earlier, ∀ id values maxRows, reply.ran? = some (id, values, maxRows) →
    id.toNat ≤ conversation.latest.toNat
  open_iff : ∀ id sql, OpenAfter earlier id sql ↔ (conversation.statement? id).map (·.sql) = some sql
  result_iff : ∀ id statement, conversation.statement? id = some statement →
    ∀ table, ResultAfter data earlier id statement.sql table ↔ statement.result = some table

theorem Told.new : Told data [] {} := by
  have nothing (happened allowed : Reply → Prop) : ¬ Since happened allowed [] := by
    rintro ⟨before, reply, between, split, -⟩
    simp at split
  refine ⟨nofun, nofun, fun id sql => ?_, fun id statement known => ?_⟩
  · exact iff_of_false (nothing _ _) nofun
  · cases known

/-- One more reply. -/
theorem Told.step {earlier : List Reply} {envelope : RequestEnvelope} (told : Told data earlier conversation)
    (numbered : conversation.Numbered (spare + 1))
    (answered : conversation.answer data envelope.request = .ok (block, next)) :
    Told data (earlier ++ [⟨envelope, conversation, block⟩]) next := by
  obtain ⟨latest_eq, effect⟩ := answer_effect numbered answered
  have opened := opened?_eq numbered answered
  have ran := ran?_eq numbered answered
  have later := (answer_moves numbered answered).latest_le
  have new (id : UInt64) (same : id = conversation.latest + 1) : conversation.statement? id = none :=
    same ▸ numbered.fresh
  constructor
  · intro reply member id sql opens
    rcases List.mem_append.mp member with before | newest
    · exact (told.opened_le reply before id sql opens).trans later
    · rw [List.mem_singleton.mp newest, opened] at opens
      rw [latest_eq, (opening?_eq_some opens).2]
  · intro reply member id values maxRows runs
    rcases List.mem_append.mp member with before | newest
    · exact (told.ran_le reply before id values maxRows runs).trans later
    · rw [List.mem_singleton.mp newest, ran] at runs
      rcases running?_eq_some runs with same | ⟨statement, known⟩
      · rw [latest_eq, same]
      · exact (numbered.statement?_known known).trans later
  · intro id sql
    rw [OpenAfter, since_snoc, opened, effect id, effect_sql (new id)]
    exact or_congr_right (and_congr_left' (told.open_iff id sql))
  · intro id statement left table
    rw [effect id] at left
    rw [ResultAfter, since_snoc, ran, effect_result (fun id => conversation.statement? id) (new id) left]
    refine or_congr_right (and_congr_left' ?_)
    rcases (effect_sql (new id)).mp (congrArg (Option.map (·.sql)) left) with opens | ⟨before_sql, -⟩
    · -- the statement is new, so that no reply so far is about it
      have same := (opening?_eq_some opens).1
      rw [new id same]
      refine iff_of_false ?_ (by simp)
      rintro ⟨before, reply, between, rfl, ⟨values, maxRows, whole, runs, -⟩, -⟩
      have given := told.ran_le reply (by simp) id values maxRows runs
      have := numbered.toNat_next
      rw [← same] at this
      omega
    · obtain ⟨before, known, sql_eq⟩ := Option.map_eq_some_iff.mp before_sql
      have result := told.result_iff id before known table
      rw [sql_eq] at result
      rw [known]
      refine result.trans ⟨fun holds => ⟨before, rfl, sql_eq, holds⟩, ?_⟩
      rintro ⟨other, same, -, holds⟩
      exact Option.some.inj same ▸ holds

/-- The replies that led to a conversation tell where it stands. -/
theorem Reached.told {earlier : List Reply} (reached : Reached data earlier conversation)
    (few : earlier.length < UInt64.size) : Told data earlier conversation := by
  induction reached with
  | new => exact .new
  | step reached answered ih =>
    rw [List.length_append, List.length_singleton] at few
    exact (ih (by omega)).step (reached.numbered few) answered

/-! ## Ids are given out in order and only once -/

/-- The id of a new statement that a reply gives away; a statement that is streamed is closed again. -/
def Reply.handsOut? (reply : Reply) : Option UInt64 :=
  match reply.envelope.request, reply.block.responses with
  | .executeStream .., (_, .resultSet id _ _) :: _ => some id
  | .executeStream .., _ => none
  | _, _ => reply.opened?.map (·.1)

/-- An id that is given away is the next one, and the latest one then. -/
theorem handsOut?_eq_some {envelope : RequestEnvelope} (numbered : conversation.Numbered (spare + 1))
    (answered : conversation.answer data envelope.request = .ok (block, next))
    (hands : Reply.handsOut? ⟨envelope, conversation, block⟩ = some id) :
    id = conversation.latest + 1 ∧ next.latest = id := by
  have latest_eq := (answer_effect numbered answered).1
  have opened := opened?_eq numbered answered
  obtain ⟨number, request⟩ := envelope
  cases request with
  | executeStream sql fetchSize =>
    rw [answer, openStatement_eq] at answered
    dsimp only at answered
    generalize (conversation.openStatement sql).2.runStatement data (conversation.latest + 1) [] 0 = ran
      at answered
    obtain ⟨result, after⟩ := ran
    obtain ⟨rfl, -⟩ := Prod.mk.inj (Except.ok.inj answered)
    cases result with
    | error detail => cases hands
    | ok table =>
      obtain rfl : conversation.latest + 1 = id := Option.some.inj hands
      exact ⟨rfl, latest_eq⟩
  | prepare sql | prepareAndExecute sql =>
    obtain ⟨⟨given, text⟩, opens, rfl⟩ := Option.map_eq_some_iff.mp ((congrArg _ opened).symm.trans hands)
    rw [latest_eq]
    exact opening?_eq_some opens
  | _ => cases hands

/-- The ids given away so far are in order, and no greater than the latest one. -/
theorem Reached.increasing {earlier : List Reply} (reached : Reached data earlier conversation)
    (few : earlier.length < UInt64.size) :
    (earlier.filterMap Reply.handsOut?).Pairwise (· < ·) ∧
      ∀ id ∈ earlier.filterMap Reply.handsOut?, id.toNat ≤ conversation.latest.toNat := by
  induction reached with
  | new => exact ⟨.nil, nofun⟩
  | @step earlier conversation next envelope block reached answered ih =>
    rw [List.length_append, List.length_singleton] at few
    obtain ⟨increasing, below⟩ := ih (by omega)
    have numbered : conversation.Numbered (0 + 1) := reached.numbered few
    have later := (answer_moves numbered answered).latest_le
    rw [List.filterMap_append, List.filterMap_cons, List.filterMap_nil]
    cases hands : Reply.handsOut? ⟨envelope, conversation, block⟩ with
    | none =>
      rw [List.append_nil]
      exact ⟨increasing, fun id member => (below id member).trans later⟩
    | some id =>
      obtain ⟨next_id, latest_eq⟩ := handsOut?_eq_some numbered answered hands
      have above := numbered.toNat_next
      rw [← next_id] at above
      rw [List.pairwise_append]
      refine ⟨⟨increasing, List.pairwise_singleton _ _, ?_⟩, ?_⟩
      · intro other member _ same
        rw [List.mem_singleton.mp same, UInt64.lt_iff_toNat_lt]
        have := below other member
        omega
      · intro other member
        rcases List.mem_append.mp member with before | newest
        · exact (below other before).trans later
        · rw [List.mem_singleton.mp newest, latest_eq]

/-- The statement that a reply closes; one that is streamed is closed by the same reply that opens it. -/
def Reply.closes? (reply : Reply) : Option UInt64 :=
  match reply.envelope.request with
  | .closeStatement id => some id
  | .executeStream .. => reply.handsOut?
  | _ => none

/-- The id was given away, and closed then or later. -/
def Closed (earlier : List Reply) (id : UInt64) : Prop :=
  ∃ before closing after, earlier = before ++ closing :: after ∧ closing.closes? = some id ∧
    ∃ giving ∈ before ++ [closing], giving.handsOut? = some id

/-- The statement that a reply closes is unknown behind it. -/
theorem closes?_statement {envelope : RequestEnvelope} (numbered : conversation.Numbered (spare + 1))
    (answered : conversation.answer data envelope.request = .ok (block, next))
    (closes : Reply.closes? ⟨envelope, conversation, block⟩ = some id) : next.statement? id = none := by
  rw [(answer_effect numbered answered).2]
  obtain ⟨number, request⟩ := envelope
  cases request with
  | closeStatement other =>
    obtain rfl : other = id := Option.some.inj closes
    exact if_pos rfl
  | executeStream sql fetchSize =>
    rw [(handsOut?_eq_some numbered answered closes).1]
    exact numbered.fresh
  | _ => cases closes

/-- An unknown statement with an id that was given out stays unknown. -/
theorem statement?_stays_none (numbered : conversation.Numbered (spare + 1))
    (answered : conversation.answer data request = .ok (block, next))
    (given : id.toNat ≤ conversation.latest.toNat) (unknown : conversation.statement? id = none) :
    next.statement? id = none := by
  have closed : ∀ sql, (next.statement? id).map (·.sql) ≠ some sql := by
    intro sql named
    rw [(answer_effect numbered answered).2, effect_sql (fun _ => unknown)] at named
    rcases named with new | ⟨still, -⟩
    · exact numbered.ne_next given (opening?_eq_some new).1
    · rw [unknown] at still
      cases still
  cases now : next.statement? id with
  | none => rfl
  | some statement => exact absurd (congrArg _ now) (closed statement.sql)

/-- A statement that was closed is unknown from then on. -/
theorem Reached.unknown_of_closed {earlier : List Reply} (reached : Reached data earlier conversation)
    (few : earlier.length < UInt64.size) (closed : Closed earlier id) : conversation.statement? id = none := by
  induction reached with
  | new =>
    obtain ⟨before, closing, after, split, -⟩ := closed
    simp at split
  | @step earlier conversation next envelope block reached answered ih =>
    rw [List.length_append, List.length_singleton] at few
    have numbered : conversation.Numbered (0 + 1) := reached.numbered few
    obtain ⟨before, closing, after, split, closes, giving, member, hands⟩ := closed
    rcases snoc_cases split with ⟨rfl, rfl, -⟩ | ⟨after, rfl, -⟩
    · exact closes?_statement numbered answered closes
    · have listed : giving ∈ before ++ closing :: after := by
        rw [List.append_cons]
        exact List.mem_append_left _ member
      have given := (reached.increasing (by omega)).2 id (List.mem_filterMap.mpr ⟨giving, listed, hands⟩)
      exact statement?_stays_none numbered answered given
        (ih (by omega) ⟨before, closing, after, rfl, closes, giving, member, hands⟩)

end Conversation

end PagedResults
