import PagedResults.Proofs.Conversation

/-! # The statements of a conversation

Statement ids are given out one after the other, so that as long as they have not all been given out a new
statement never gets the id of another one. `Conversation.Numbered` is this invariant. A request changes
the statement that it names, opens new ones, and leaves every other statement as it is.
-/

namespace PagedResults

/-- The statement that a request may change. -/
def Request.changes? : Request → Option UInt64
  | .execute id .. | .closeResult id | .closeStatement id => some id
  | _ => none

namespace Conversation

/-- All statements were given their ids, and at least `spare` ids are left. -/
structure Numbered (spare : Nat) (conversation : Conversation) : Prop where
  known : ∀ entry ∈ conversation.statements, entry.1.toNat ≤ conversation.latest.toNat
  room : conversation.latest.toNat + spare < UInt64.size

variable {data : Dataset} {conversation next : Conversation} {id other : UInt64} {spare : Nat}

theorem numbered_new {spare : Nat} (room : spare < UInt64.size) : Numbered spare {} :=
  ⟨nofun, by rwa [show ({} : Conversation).latest.toNat = 0 from rfl, Nat.zero_add]⟩

namespace Numbered

theorem mono (numbered : conversation.Numbered spare) {fewer : Nat} (le : fewer ≤ spare) :
    conversation.Numbered fewer :=
  ⟨numbered.known, by have := numbered.room; omega⟩

theorem toNat_next (numbered : conversation.Numbered (spare + 1)) :
    (conversation.latest + 1).toNat = conversation.latest.toNat + 1 := by
  have room := numbered.room
  have wordSize : UInt64.size = 2 ^ 64 := rfl
  rw [UInt64.toNat_add, UInt64.toNat_one, Nat.mod_eq_of_lt (by omega)]

/-- The next id differs from all that were given out. -/
theorem ne_next (numbered : conversation.Numbered (spare + 1))
    (given : id.toNat ≤ conversation.latest.toNat) : id ≠ conversation.latest + 1 := by
  rintro rfl
  have := numbered.toNat_next
  omega

/-- The next id belongs to no statement. -/
theorem fresh (numbered : conversation.Numbered (spare + 1)) : conversation.Fresh := by
  rw [Fresh, statement?, List.lookup_eq_none_iff]
  intro entry member
  exact bne_iff_ne.mpr (numbered.ne_next (numbered.known entry member)).symm

theorem statement?_known {statement : Statement} (numbered : conversation.Numbered spare)
    (known : conversation.statement? id = some statement) : id.toNat ≤ conversation.latest.toNat := by
  obtain ⟨before, after, split, -⟩ := List.lookup_eq_some_iff.mp known
  exact numbered.known (id, statement) (by rw [split]; simp)

theorem openStatement (numbered : conversation.Numbered (spare + 1)) (sql : String) :
    (conversation.openStatement sql).2.Numbered spare := by
  have next := numbered.toNat_next
  have room := numbered.room
  constructor
  · intro entry member
    change entry.1.toNat ≤ (conversation.latest + 1).toNat
    rcases List.mem_append.mp member with old | new
    · have := numbered.known entry old
      omega
    · rw [List.mem_singleton.mp new]
  · change (conversation.latest + 1).toNat + spare < _
    omega

theorem setStatement (numbered : conversation.Numbered spare) (id : UInt64) (statement : Statement) :
    (conversation.setStatement id statement).Numbered spare := by
  refine ⟨?_, numbered.room⟩
  intro entry member
  obtain ⟨old, listed, rfl⟩ := List.mem_map.mp member
  have bound := numbered.known old listed
  split
  · next same => exact same ▸ bound
  · exact bound

theorem dropStatement (numbered : conversation.Numbered spare) (id : UInt64) :
    (conversation.dropStatement id).Numbered spare :=
  ⟨fun entry member => numbered.known entry (List.mem_of_mem_filter member), numbered.room⟩

theorem ask (numbered : conversation.Numbered spare) (data : Dataset) (sql : String)
    (parameters : List Value) : (conversation.ask data sql parameters).2.Numbered spare :=
  ⟨numbered.known, numbered.room⟩

theorem runStatement (numbered : conversation.Numbered spare) (data : Dataset) (id : UInt64)
    (parameters : List Value) (maxRows : UInt64) :
    (conversation.runStatement data id parameters maxRows).2.Numbered spare := by
  rw [Conversation.runStatement]
  split
  · exact numbered
  · next statement known =>
    have asked := numbered.ask data statement.sql parameters
    split
    · next after refused =>
      rw [refused] at asked
      exact asked
    · next after answered =>
      rw [answered] at asked
      exact asked.setStatement id _

end Numbered

/-! ## What a request leaves alone -/

theorem statement?_openStatement_ne (differs : id ≠ conversation.latest + 1) (sql : String) :
    (conversation.openStatement sql).2.statement? id = conversation.statement? id :=
  lookup_append_of_ne differs _

theorem statement?_setStatement_ne (differs : id ≠ other) (statement : Statement) :
    (conversation.setStatement other statement).statement? id = conversation.statement? id := by
  unfold setStatement statement?
  dsimp only
  rw [lookup_replace, if_neg differs]

theorem statement?_dropStatement_ne (differs : id ≠ other) :
    (conversation.dropStatement other).statement? id = conversation.statement? id := by
  unfold dropStatement statement?
  dsimp only
  rw [lookup_filter_ne, if_neg differs]

private theorem statement?_ask (data : Dataset) (sql : String) (parameters : List Value) (id : UInt64) :
    (conversation.ask data sql parameters).2.statement? id = conversation.statement? id := rfl

theorem statement?_runStatement_ne (differs : id ≠ other) (data : Dataset) (parameters : List Value)
    (maxRows : UInt64) : (conversation.runStatement data other parameters maxRows).2.statement? id =
      conversation.statement? id := by
  rw [runStatement]
  split
  · rfl
  · next statement known =>
    have asked : _ = conversation.statement? id := statement?_ask data statement.sql parameters id
    split
    · next after refused =>
      rw [refused] at asked
      exact asked
    · next after answered =>
      rw [answered] at asked
      exact (statement?_setStatement_ne differs _).trans asked

theorem latest_runStatement (data : Dataset) (id : UInt64) (parameters : List Value) (maxRows : UInt64) :
    (conversation.runStatement data id parameters maxRows).2.latest = conversation.latest := by
  rw [runStatement]
  split
  · rfl
  · next statement known =>
    have asked : (conversation.ask data statement.sql parameters).2.latest = conversation.latest := rfl
    split
    · next after refused =>
      rw [refused] at asked
      exact asked
    · next after answered =>
      rw [answered] at asked
      exact asked

/-- Running a statement changes the text of none. -/
theorem sql_runStatement (data : Dataset) (other : UInt64) (parameters : List Value) (maxRows : UInt64) :
    ((conversation.runStatement data other parameters maxRows).2.statement? id).map (·.sql) =
      (conversation.statement? id).map (·.sql) := by
  by_cases same : id = other
  · subst same
    rw [runStatement]
    split
    · rfl
    · next statement known =>
      rw [ask]
      cases data statement.sql parameters with
      | error detail => rfl
      | ok table =>
        have asked : ({ conversation with asked := conversation.asked ++ [(statement.sql, parameters)] } :
          Conversation).statement? id = some statement := known
        dsimp only
        rw [statement?_setStatement asked, known]
        rfl
  · rw [statement?_runStatement_ne same]

/-- Releasing the result of a statement touches no other one, and is always confirmed. -/
theorem answer_closeResult (numbered : conversation.Numbered spare) (data : Dataset) (id : UInt64) :
    ∃ next, conversation.answer data (.closeResult id) = .ok (.one .ok, next) ∧ next.Numbered spare ∧
      next.latest = conversation.latest ∧
      ∀ other, other ≠ id → next.statement? other = conversation.statement? other := by
  refine ⟨_, rfl, ?_⟩
  split
  · exact ⟨numbered.setStatement id _, rfl, fun other differs => statement?_setStatement_ne differs _⟩
  · exact ⟨numbered, rfl, fun _ _ => rfl⟩

/-- A request gives out at most one id, and changes no statement but the one that it names. -/
structure Moves (spare : Nat) (request : Request) (before after : Conversation) : Prop where
  numbered : after.Numbered spare
  latest_le : before.latest.toNat ≤ after.latest.toNat
  others : ∀ id, id.toNat ≤ before.latest.toNat → request.changes? ≠ some id →
    after.statement? id = before.statement? id

theorem Moves.still {request : Request} (numbered : conversation.Numbered (spare + 1))
    (statements_eq : next.statements = conversation.statements)
    (latest_eq : next.latest = conversation.latest) : Moves spare request conversation next := by
  refine ⟨⟨?_, ?_⟩, by rw [latest_eq], ?_⟩
  · rw [statements_eq, latest_eq]
    exact numbered.known
  · rw [latest_eq]
    exact (numbered.mono (Nat.le_succ _)).room
  · intro id _ _
    rw [statement?, statement?, statements_eq]

/-- A statement that is known is changed. -/
theorem Moves.change {request : Request} (changes : request.changes? = some id) (numbered : next.Numbered spare)
    (latest_eq : next.latest = conversation.latest)
    (others : ∀ other, other ≠ id → next.statement? other = conversation.statement? other) :
    Moves spare request conversation next where
  numbered := numbered
  latest_le := by rw [latest_eq]
  others other _ unchanged := others other fun same => unchanged (changes.trans (congrArg some same.symm))

/-- A statement that is opened and run. -/
theorem Moves.run {request : Request} (numbered : conversation.Numbered (spare + 1)) (data : Dataset)
    (sql : String) (maxRows : UInt64) :
    Moves spare request conversation ((conversation.openStatement sql).2.runStatement data
      (conversation.latest + 1) [] maxRows).2 := by
  refine ⟨(numbered.openStatement sql).runStatement data _ _ _, ?_, ?_⟩
  · rw [latest_runStatement]
    change _ ≤ (conversation.latest + 1).toNat
    rw [numbered.toNat_next]
    exact Nat.le_succ _
  · intro id given _
    have differs := numbered.ne_next given
    rw [statement?_runStatement_ne differs, statement?_openStatement_ne differs]

/-- Dropping the statement that was opened. -/
theorem Moves.dropNew {request : Request} (numbered : conversation.Numbered (spare + 1))
    (moves : Moves spare request conversation next) :
    Moves spare request conversation (next.dropStatement (conversation.latest + 1)) where
  numbered := moves.numbered.dropStatement _
  latest_le := moves.latest_le
  others id given unchanged := by
    rw [statement?_dropStatement_ne (numbered.ne_next given)]
    exact moves.others id given unchanged

/-- Whatever a request does to a conversation, it only moves it on. -/
theorem answer_moves {request : Request} {block : Block} (numbered : conversation.Numbered (spare + 1))
    (answered : conversation.answer data request = .ok (block, next)) :
    Moves spare request conversation next := by
  -- requests that open a statement use up an id; those that name one change it alone; the rest look on
  cases request with
  | prepare sql =>
    rw [answer, ask] at answered
    split at answered
    · next refused =>
      obtain ⟨-, rfl⟩ := Prod.mk.inj refused
      obtain ⟨-, rfl⟩ := Prod.mk.inj (Except.ok.inj answered)
      exact .still numbered rfl rfl
    · next named =>
      obtain ⟨-, rfl⟩ := Prod.mk.inj named
      obtain ⟨-, rfl⟩ := Prod.mk.inj (Except.ok.inj answered)
      refine ⟨(numbered.ask data sql []).openStatement sql, ?_, ?_⟩
      · exact (Nat.le_succ _).trans numbered.toNat_next.ge
      · intro id given _
        have differs := numbered.ne_next given
        exact statement?_openStatement_ne (by exact differs) sql
  | execute id parameters fetchSize maxRows =>
    rw [answer] at answered
    split at answered
    · cases answered
    · obtain ⟨-, rfl⟩ := Prod.mk.inj (Except.ok.inj answered)
      exact .still numbered rfl rfl
    · next values read =>
      obtain ⟨-, rfl⟩ := Prod.mk.inj (Except.ok.inj answered)
      exact .change rfl ((numbered.mono (Nat.le_succ _)).runStatement data id values maxRows)
        (latest_runStatement data id values maxRows)
        fun other differs => statement?_runStatement_ne differs data values maxRows
  | prepareAndExecute sql fetchSize maxRows =>
    have ran : Moves spare (.prepareAndExecute sql fetchSize maxRows) conversation _ :=
      .run numbered data sql maxRows
    rw [answer, openStatement_eq] at answered
    dsimp only at answered
    split at answered
    · next refused =>
      rw [refused] at ran
      obtain ⟨-, rfl⟩ := Prod.mk.inj (Except.ok.inj answered)
      exact ran.dropNew numbered
    · next named =>
      rw [named] at ran
      obtain ⟨-, rfl⟩ := Prod.mk.inj (Except.ok.inj answered)
      exact ran
  | executeStream sql fetchSize =>
    have ran : Moves spare (.executeStream sql fetchSize) conversation _ := .run numbered data sql 0
    rw [answer, openStatement_eq] at answered
    obtain ⟨-, rfl⟩ := Prod.mk.inj (Except.ok.inj answered)
    exact ran.dropNew numbered
  | closeResult id =>
    rw [answer] at answered
    obtain ⟨-, rfl⟩ := Prod.mk.inj (Except.ok.inj answered)
    split
    · exact .change rfl ((numbered.mono (Nat.le_succ _)).setStatement id _) rfl
        fun other differs => statement?_setStatement_ne differs _
    · exact .still numbered rfl rfl
  | closeStatement id =>
    rw [answer] at answered
    obtain ⟨-, rfl⟩ := Prod.mk.inj (Except.ok.inj answered)
    exact .change rfl ((numbered.mono (Nat.le_succ _)).dropStatement id) rfl
      fun other differs => statement?_dropStatement_ne differs
  | _ =>
    rw [answer] at answered
    obtain ⟨rfl, rfl⟩ := Prod.mk.inj (Except.ok.inj answered)
    exact .still numbered rfl rfl

end Conversation

end PagedResults
