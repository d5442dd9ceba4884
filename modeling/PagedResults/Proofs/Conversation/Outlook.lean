import PagedResults.Proofs.Conversation.History

/-! # What later requests for a statement are answered

Whoever asks for a statement sees its text, its result and whether it is open, and nothing of the other
statements. Two conversations that agree about a statement and on the id given out last therefore answer
alike whatever is asked about it from then on. A request that leaves the statement alone may be left out:
only the ids that it uses up are missed.
-/

namespace PagedResults

/-- The request runs a statement or fetches from it. -/
def Request.Uses (id : UInt64) : Request → Prop
  | .execute other .. | .fetch other .. => other = id
  | _ => False

instance (id : UInt64) : DecidablePred (Request.Uses id) := fun request => by
  cases request <;> unfold Request.Uses <;> infer_instance

namespace Conversation

variable {data : Dataset} {conversation next first second : Conversation} {request : Request} {block : Block}
  {id : UInt64} {spare : Nat}

/-- The requests that use a statement, with their answers. -/
def outcomes (id : UInt64) (replies : List Reply) : List (RequestEnvelope × Block) :=
  (replies.filter fun reply => reply.envelope.request.Uses id).map fun reply => (reply.envelope, reply.block)

/-- The conversations have given out the same ids, and know the same of a statement. -/
structure Agree (id : UInt64) (first second : Conversation) : Prop where
  latest_eq : first.latest = second.latest
  statement_eq : first.statement? id = second.statement? id

/-- What is known of a statement decides the answer to a request that uses it. -/
theorem Agree.block_eq {firstNext secondNext : Conversation} {firstBlock secondBlock : Block}
    (agree : Agree id first second) (uses : request.Uses id)
    (one : first.answer data request = .ok (firstBlock, firstNext))
    (other : second.answer data request = .ok (secondBlock, secondNext)) : firstBlock = secondBlock := by
  cases request with
  | fetch used offset fetchSize =>
    obtain rfl : used = id := uses
    rw [answer_fetch_block one, answer_fetch_block other, agree.statement_eq]
  | execute used parameters fetchSize maxRows =>
    obtain rfl : used = id := uses
    cases read : parametersOf parameters with
    | ok values => rw [answer_execute_block read one, answer_execute_block read other, agree.statement_eq]
    | error failure =>
      rw [answer, read] at one other
      cases failure with
      | halt reason => cases one
      | error cause =>
        obtain ⟨rfl, -⟩ := Prod.mk.inj (Except.ok.inj one)
        obtain ⟨rfl, -⟩ := Prod.mk.inj (Except.ok.inj other)
        rfl
  | _ => exact uses.elim

/-- A request that one of them answers, the other one answers too, and they agree from then on. -/
theorem Agree.answer (agree : Agree id first second) (numbered : first.Numbered (spare + 1))
    (others : second.Numbered (spare + 1)) (answered : first.answer data request = .ok (block, next)) :
    ∃ otherBlock otherNext, second.answer data request = .ok (otherBlock, otherNext) ∧
      otherBlock.ends = block.ends ∧ Agree id next otherNext := by
  cases other : second.answer data request with
  | error reason =>
    rw [answer_halts.mpr (answer_halts.mp other)] at answered
    cases answered
  | ok outcome =>
    obtain ⟨otherBlock, otherNext⟩ := outcome
    obtain ⟨latest_eq, effect⟩ := answer_effect numbered answered
    obtain ⟨otherLatest, otherEffect⟩ := answer_effect others other
    refine ⟨otherBlock, otherNext, rfl, ?_, ?_, ?_⟩
    · exact Bool.eq_iff_iff.mpr ((answer_ends other).trans (answer_ends answered).symm)
    · rw [latest_eq, otherLatest, agree.latest_eq]
    · rw [effect, otherEffect, agree.latest_eq, agree.statement_eq]

/-- Conversations that agree about a statement give the same answers to all requests that use it. -/
theorem Agree.outcomes_eq {envelopes : List RequestEnvelope} (agree : Agree id first second)
    (numbered : first.Numbered envelopes.length) (others : second.Numbered envelopes.length) :
    outcomes id (converse data envelopes first).1 = outcomes id (converse data envelopes second).1 := by
  induction envelopes generalizing first second with
  | nil => rfl
  | cons envelope rest ih =>
    rw [converse, converse]
    cases answered : first.answer data envelope.request with
    | error reason => rw [answer_halts.mpr (answer_halts.mp answered)]
    | ok outcome =>
      obtain ⟨block, next⟩ := outcome
      obtain ⟨otherBlock, otherNext, other, ends, still⟩ := agree.answer numbered others answered
      have behind := ih still (answer_moves numbered answered).numbered (answer_moves others other).numbered
      -- the reply at hand is among the outcomes of both, with the same block, or of neither
      have here (replies otherReplies : List Reply) (same : outcomes id replies = outcomes id otherReplies) :
          outcomes id (⟨envelope, first, block⟩ :: replies) =
            outcomes id (⟨envelope, second, otherBlock⟩ :: otherReplies) := by
        unfold outcomes at same ⊢
        by_cases uses : envelope.request.Uses id
        · rw [List.filter_cons_of_pos (by simpa using uses), List.filter_cons_of_pos (by simpa using uses),
            List.map_cons, List.map_cons, same, agree.block_eq uses answered other]
        · rw [List.filter_cons_of_neg (by simpa using uses), List.filter_cons_of_neg (by simpa using uses), same]
      rw [other]
      dsimp only
      rw [ends]
      split
      · exact here [] [] rfl
      · exact here _ _ behind

/-! ## Requests that leave a statement alone -/

/-- The request fails, streams a statement, or neither opens the statement nor names it for a change. -/
def Reply.LeavesAlone (id : UInt64) (reply : Reply) : Prop :=
  (∃ detail, reply.block = .one (.error detail)) ∨
  (∃ sql fetchSize, reply.envelope.request = .executeStream sql fetchSize) ∨
  reply.envelope.request.changes? ≠ some id ∧ ∀ sql, reply.opened? ≠ some (id, sql)

/-- A request that fails changes no statement. -/
theorem answer_error_statement {detail : ServiceError} (numbered : conversation.Numbered (spare + 1))
    (answered : conversation.answer data request = .ok (.one (.error detail), next)) :
    next.statement? id = conversation.statement? id := by
  rw [(answer_effect numbered answered).2]
  cases request with
  | prepare sql =>
    rw [Request.effect]
    split
    · next new =>
      rw [new, numbered.fresh]
      cases named : data sql [] with
      | error cause => rfl
      | ok table =>
        obtain ⟨after, prepared, -⟩ := answer_prepare numbered.fresh named
        cases prepared.symm.trans answered
    · rfl
  | prepareAndExecute sql fetchSize maxRows =>
    rw [Request.effect]
    split
    · next new =>
      rw [new, numbered.fresh]
      cases named : data sql [] with
      | error cause => rfl
      | ok table =>
        obtain ⟨after, ran, -⟩ := answer_prepareAndExecute numbered.fresh named fetchSize maxRows
        cases ran.symm.trans answered
    · rfl
  | execute other parameters fetchSize maxRows =>
    rw [Request.effect]
    split
    · next same =>
      subst same
      cases read : parametersOf parameters with
      | error failure => rfl
      | ok values =>
        have refused := answer_execute_block read answered
        dsimp only
        cases known : conversation.statement? id with
        | none => rfl
        | some statement =>
          rw [known] at refused
          dsimp only at refused
          rw [Option.map_some, Statement.ran]
          cases named : data statement.sql values with
          | error cause => rfl
          | ok table =>
            rw [named] at refused
            cases refused
    · rfl
  | closeResult other | closeStatement other => cases answered
  | _ => rfl

/-- Such a reply leaves the statement as it was. -/
theorem Reply.LeavesAlone.statement_eq {envelope : RequestEnvelope} (numbered : conversation.Numbered (spare + 1))
    (answered : conversation.answer data envelope.request = .ok (block, next))
    (alone : Reply.LeavesAlone id ⟨envelope, conversation, block⟩) :
    next.statement? id = conversation.statement? id := by
  have effect := (answer_effect numbered answered).2 id
  have opened := opened?_eq numbered answered
  rcases alone with ⟨detail, rfl⟩ | ⟨sql, fetchSize, streams⟩ | ⟨unchanged, unopened⟩
  · exact answer_error_statement numbered answered
  · rw [effect, show envelope.request = _ from streams]
    rfl
  · rw [effect]
    dsimp only at unchanged
    rw [opened] at unopened
    cases asked : envelope.request with
    | prepare sql | prepareAndExecute sql =>
      rw [asked] at unopened
      rw [Request.effect]
      split
      · next new =>
        rw [new, numbered.fresh]
        cases named : data sql [] with
        | error cause => rfl
        | ok table => simp [opening?, named, new, Except.toOption] at unopened
      · rfl
    | execute other | closeResult other | closeStatement other =>
      rw [asked] at unchanged
      exact if_neg fun same => unchanged (congrArg some same.symm)
    | _ => rfl

end Conversation

end PagedResults
