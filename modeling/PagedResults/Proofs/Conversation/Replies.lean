import PagedResults.Proofs.Conversation.Statements

/-! # The replies of a conversation

Requests are answered one after the other, each by one block, up to the first goodbye. A block is a single
response, and only a table that is streamed takes more: then the block has the pages that a client would
get who opens the same result and asks for one page after the other, up to the last one, which alone is
marked.
-/

namespace PagedResults

/-- Exactly the last response is marked. -/
def Block.Marked (block : Block) : Prop :=
  ∃ before response, block.responses = before ++ [(true, response)] ∧ ∀ entry ∈ before, entry.1 = false

/-- The halt of the thread that answers a request: a parameter that cannot be set aside. -/
def Request.halt? : Request → Option Halt
  | .execute _ parameters .. =>
      match Conversation.parametersOf parameters with
      | .error (.halt reason) => some reason
      | _ => none
  | _ => none

/-- The requests that are answered: all up to the first goodbye, unless one before it halts the thread. -/
def RequestEnvelope.answered : List RequestEnvelope → List RequestEnvelope
  | [] => []
  | envelope :: rest =>
      if envelope.request.halt?.isSome then []
      else if envelope.request = .closeConnection then [envelope]
      else envelope :: answered rest

namespace Conversation

/-- A request, the conversation as it was then, and the block in answer. -/
structure Reply where
  envelope : RequestEnvelope
  before : Conversation
  block : Block

/-- The reply as it is sent. -/
def Reply.sent (reply : Reply) : List ResponseEnvelope := reply.block.envelopes reply.envelope.id

/-- The replies to requests that come one after the other, and the conversation afterwards, unless the
connection has ended. -/
def converse (data : Dataset) : List RequestEnvelope → Conversation → List Reply × Option Conversation
  | [], conversation => ([], some conversation)
  | envelope :: rest, conversation =>
      match conversation.answer data envelope.request with
      | .error _ => ([], none)
      | .ok (block, next) =>
          let reply := ⟨envelope, conversation, block⟩
          if block.ends then ([reply], none)
          else
            let (replies, last) := converse data rest next
            (reply :: replies, last)

variable {data : Dataset} {conversation next : Conversation} {request : Request} {block : Block}
  {sql : String} {table : Table} {fetchSize : UInt32} {id : UInt64} {envelopes : List RequestEnvelope}

/-- The pages behind one that was sent, up to the last one: each is the answer to a request for the page
where the one before it ends. -/
inductive Pulled (data : Dataset) (id : UInt64) (fetchSize : UInt32) (conversation : Conversation) :
    WirePage → List WirePage → Prop where
  | last {page : WirePage} (marked : page.isLast = true) : Pulled data id fetchSize conversation page []
  | more {page following : WirePage} {rest : List WirePage} (unmarked : page.isLast = false)
      (fetched : conversation.answer data (.fetch id page.next fetchSize) =
        .ok (.one (.page following), conversation))
      (behind : Pulled data id fetchSize conversation following rest) :
      Pulled data id fetchSize conversation page (following :: rest)

/-- A block with a whole table, in the pages that are pulled from the same result when it is opened. -/
def Streamed (data : Dataset) (sql : String) (fetchSize : UInt32) (table : Table) (before : Conversation)
    (block : Block) : Prop :=
  ∃ first rest opened,
    block = .ofPages (before.latest + 1) table.columns first rest ∧
    before.answer data (.prepareAndExecute sql fetchSize 0) =
      .ok (.one (.resultSet (before.latest + 1) table.columns first), opened) ∧
    Pulled data (before.latest + 1) fetchSize opened first rest ∧
    (first :: rest).flatMap (·.rows) = table.rows.map Row.toCells

/-- What every reply is like. -/
structure Reply.Disciplined (data : Dataset) (reply : Reply) : Prop where
  addressed : ∀ envelope ∈ reply.sent, envelope.id = reply.envelope.id
  marked : reply.block.Marked
  single : (∀ sql fetchSize table, reply.envelope.request = .executeStream sql fetchSize →
    data sql [] ≠ .ok table) → reply.block.responses.length = 1
  streamed : ∀ sql fetchSize table, reply.envelope.request = .executeStream sql fetchSize →
    data sql [] = .ok table → Streamed data sql fetchSize table reply.before reply.block

/-! ## One request -/

theorem answer_halts {reason : Halt} :
    conversation.answer data request = .error reason ↔ request.halt? = some reason := by
  cases request with
  | execute id parameters fetchSize maxRows =>
    rw [answer, Request.halt?]
    rcases parametersOf parameters with (cause | found) | values
    · simp only [reduceCtorEq]
    · exact ⟨fun same => congrArg some (Except.error.inj same),
        fun same => congrArg Except.error (Option.some.inj same)⟩
    · simp only [reduceCtorEq]
  | prepare sql =>
    rw [answer, show (Request.prepare sql).halt? = none from rfl]
    split <;> simp only [reduceCtorEq]
  | prepareAndExecute sql fetchSize maxRows =>
    rw [answer, show (Request.prepareAndExecute sql fetchSize maxRows).halt? = none from rfl]
    dsimp only
    split <;> simp only [reduceCtorEq]
  | _ => simp only [answer, Request.halt?, reduceCtorEq]

private theorem ofResult_single (result : Except ServiceError Response) :
    ∃ response, Block.ofResult result = .one response := by
  cases result with
  | ok response => exact ⟨response, rfl⟩
  | error detail => exact ⟨.error detail, rfl⟩

/-- Whatever is no table that is streamed is answered by a single response. -/
theorem answer_single (fresh : conversation.Fresh)
    (answered : conversation.answer data request = .ok (block, next))
    (unstreamed : ∀ sql fetchSize table, request = .executeStream sql fetchSize → data sql [] ≠ .ok table) :
    ∃ response, block = ⟨[(true, response)], request = .closeConnection⟩ := by
  cases request with
  | executeStream sql fetchSize =>
    cases named : data sql [] with
    | ok table => exact absurd named (unstreamed sql fetchSize table rfl)
    | error detail =>
      obtain ⟨after, ran⟩ := runStatement_error (statement?_openStatement fresh sql) named 0
      rw [answer, openStatement_eq] at answered
      dsimp only at answered
      rw [ran] at answered
      obtain ⟨rfl, -⟩ := Prod.mk.inj (Except.ok.inj answered)
      exact ⟨.error detail, rfl⟩
  | execute id parameters fetchSize maxRows =>
    rw [answer] at answered
    split at answered
    · cases answered
    · obtain ⟨rfl, -⟩ := Prod.mk.inj (Except.ok.inj answered)
      exact ⟨_, rfl⟩
    · obtain ⟨rfl, -⟩ := Prod.mk.inj (Except.ok.inj answered)
      obtain ⟨response, same⟩ := ofResult_single (Except.map (firstPage id fetchSize)
        (conversation.runStatement data id _ maxRows).1)
      exact ⟨response, same⟩
  | fetch id offset fetchSize =>
    rw [answer] at answered
    obtain ⟨rfl, -⟩ := Prod.mk.inj (Except.ok.inj answered)
    obtain ⟨response, same⟩ := ofResult_single (conversation.fetch id offset fetchSize)
    exact ⟨response, same⟩
  | prepare sql =>
    rw [answer] at answered
    split at answered <;>
    · obtain ⟨rfl, -⟩ := Prod.mk.inj (Except.ok.inj answered)
      exact ⟨_, rfl⟩
  | prepareAndExecute sql fetchSize maxRows =>
    rw [answer] at answered
    dsimp only at answered
    split at answered <;>
    · obtain ⟨rfl, -⟩ := Prod.mk.inj (Except.ok.inj answered)
      exact ⟨_, rfl⟩
  | _ =>
    obtain ⟨rfl, -⟩ := Prod.mk.inj (Except.ok.inj answered)
    exact ⟨_, rfl⟩

/-- An open result gives its pages one after the other, up to the last one. -/
theorem Shows.pulled (shows : conversation.Shows id table) (addressable : table.rows.length < UInt64.size)
    {start : Nat} (inside : start ≤ table.rows.length) :
    Pulled data id fetchSize conversation (table.pageFrom start (Table.pageSize fetchSize))
      (if table.rows.length ≤ start + Table.pageSize fetchSize then []
        else table.pagesFrom (start + Table.pageSize fetchSize) fetchSize) := by
  have positive := Table.pageSize_pos fetchSize
  -- on the rows that are left, as the pages themselves are found by that recursion
  induction left : table.rows.length - start using Nat.strongRecOn generalizing start with
  | ind left ih =>
    by_cases last : table.rows.length ≤ start + Table.pageSize fetchSize
    · rw [if_pos last]
      exact .last (by rw [Table.isLast_pageFrom inside, decide_eq_true last])
    · rw [if_neg last, Table.pagesFrom.eq_def (start + _)]
      refine .more (by rw [Table.isLast_pageFrom inside, decide_eq_false last]) ?_
        (ih _ (by omega) (by omega) rfl)
      rw [answer_fetch shows, page_next addressable (by omega)]

/-- The pages of a table have all of its rows. -/
theorem rows_pagesFrom (start : Nat) (inside : start ≤ table.rows.length) :
    (table.pagesFrom start fetchSize).flatMap (·.rows) = (table.rows.drop start).map Row.toCells := by
  have positive := Table.pageSize_pos fetchSize
  induction left : table.rows.length - start using Nat.strongRecOn generalizing start with
  | ind left ih =>
    have here : (table.pageFrom start (Table.pageSize fetchSize)).rows =
        ((table.rows.drop start).take (Table.pageSize fetchSize)).map Row.toCells := by
      rw [Table.pageFrom, Nat.min_eq_left inside]
    rw [Table.pagesFrom, List.flatMap_cons, here]
    by_cases last : table.rows.length ≤ start + Table.pageSize fetchSize
    · rw [if_pos last, List.flatMap_nil, List.append_nil, List.take_of_length_le]
      rw [List.length_drop]
      omega
    · rw [if_neg last, ih _ (by omega) _ (by omega) rfl, ← List.map_append, ← List.drop_drop,
        List.take_append_drop]

/-- Streaming a table gives the pages that are pulled from it when it is opened. -/
theorem answer_streamed (fresh : conversation.Fresh) (named : data sql [] = .ok table)
    (addressable : table.rows.length < UInt64.size)
    (answered : conversation.answer data (.executeStream sql fetchSize) = .ok (block, next)) :
    Streamed data sql fetchSize table conversation block := by
  obtain ⟨rest, after, pages, streams⟩ := answer_executeStream fresh named addressable fetchSize
  obtain ⟨rfl, -⟩ := Prod.mk.inj (Except.ok.inj (answered.symm.trans streams))
  obtain ⟨opened, executed, shows⟩ := answer_prepareAndExecute fresh named fetchSize 0
  rw [Table.cut, if_pos rfl] at executed shows
  have pulled : Pulled data _ fetchSize opened (table.page 0 fetchSize) _ :=
    shows.pulled addressable (Nat.zero_le _)
  have split := Table.pagesFrom.eq_def 0 fetchSize table
  rw [pages] at split
  obtain ⟨-, rest_eq⟩ := List.cons.inj split
  refine ⟨table.page 0 fetchSize, rest, opened, rfl, executed, ?_, ?_⟩
  · rw [rest_eq]
    exact pulled
  · rw [← pages, rows_pagesFrom 0 (Nat.zero_le _), List.drop_zero]

/-- The last of the pages that are pulled is the only one that is marked. -/
theorem Pulled.marked {first : WirePage} {rest : List WirePage}
    (pulled : Pulled data id fetchSize conversation first rest) (response : Response) :
    ∃ before last, (first.isLast, response) :: rest.map (fun page => (page.isLast, Response.page page)) =
      before ++ [(true, last)] ∧ ∀ entry ∈ before, entry.1 = false := by
  induction pulled generalizing response with
  | last marked => exact ⟨[], response, by rw [marked]; rfl, nofun⟩
  | @more page following rest unmarked _ _ ih =>
    obtain ⟨before, last, same, unmarkedBefore⟩ := ih (.page following)
    refine ⟨(page.isLast, response) :: before, last, ?_, ?_⟩
    · rw [List.map_cons, same, List.cons_append]
    · exact List.forall_mem_cons.mpr ⟨unmarked, unmarkedBefore⟩

/-- Every request that is answered is answered as it should be. -/
theorem answer_disciplined (fresh : conversation.Fresh)
    (addressable : ∀ sql table, data sql [] = .ok table → table.rows.length < UInt64.size)
    {envelope : RequestEnvelope}
    (answered : conversation.answer data envelope.request = .ok (block, next)) :
    Reply.Disciplined data ⟨envelope, conversation, block⟩ where
  addressed := by
    intro sent member
    obtain ⟨entry, -, rfl⟩ := List.mem_map.mp member
    rfl
  marked := by
    -- only a table that is streamed takes more than one response
    by_cases streams : ∃ sql fetchSize table, envelope.request = .executeStream sql fetchSize ∧
        data sql [] = .ok table
    · obtain ⟨sql, fetchSize, table, asked, named⟩ := streams
      rw [asked] at answered
      obtain ⟨first, rest, opened, rfl, -, pulled, -⟩ :=
        answer_streamed fresh named (addressable sql table named) answered
      exact pulled.marked _
    · obtain ⟨response, single⟩ := answer_single fresh answered fun sql fetchSize table asked named =>
        streams ⟨sql, fetchSize, table, asked, named⟩
      exact ⟨[], response, congrArg Block.responses single, nofun⟩
  single unstreamed := by
    obtain ⟨response, single⟩ := answer_single fresh answered unstreamed
    rw [single]
    rfl
  streamed sql fetchSize table asked named := by
    change envelope.request = _ at asked
    rw [asked] at answered
    exact answer_streamed fresh named (addressable sql table named) answered

private theorem ends_ofResult (result : Except ServiceError Response) : (Block.ofResult result).ends = false := by
  cases result <;> rfl

/-- The connection ends behind the answer to a goodbye. -/
theorem answer_ends (answered : conversation.answer data request = .ok (block, next)) :
    block.ends = true ↔ request = .closeConnection := by
  have stays (ends : block.ends = false) (other : request ≠ .closeConnection) :
      block.ends = true ↔ request = .closeConnection := by
    rw [ends]
    exact iff_of_false Bool.false_ne_true other
  cases request with
  | closeConnection =>
    obtain ⟨rfl, -⟩ := Prod.mk.inj (Except.ok.inj answered)
    exact iff_of_true rfl rfl
  | prepare sql =>
    rw [answer] at answered
    split at answered <;>
    · obtain ⟨rfl, -⟩ := Prod.mk.inj (Except.ok.inj answered)
      exact stays rfl (by simp)
  | prepareAndExecute sql fetchSize maxRows =>
    rw [answer] at answered
    dsimp only at answered
    split at answered <;>
    · obtain ⟨rfl, -⟩ := Prod.mk.inj (Except.ok.inj answered)
      exact stays rfl (by simp)
  | execute id parameters fetchSize maxRows =>
    rw [answer] at answered
    split at answered
    · cases answered
    · obtain ⟨rfl, -⟩ := Prod.mk.inj (Except.ok.inj answered)
      exact stays rfl (by simp)
    · obtain ⟨rfl, -⟩ := Prod.mk.inj (Except.ok.inj answered)
      exact stays (ends_ofResult _) (by simp)
  | fetch id offset fetchSize =>
    obtain ⟨rfl, -⟩ := Prod.mk.inj (Except.ok.inj answered)
    exact stays (ends_ofResult _) (by simp)
  | executeStream sql fetchSize =>
    rw [answer] at answered
    dsimp only at answered
    obtain ⟨rfl, -⟩ := Prod.mk.inj (Except.ok.inj answered)
    refine stays ?_ (by simp)
    split <;> rfl
  | _ =>
    obtain ⟨rfl, -⟩ := Prod.mk.inj (Except.ok.inj answered)
    exact stays rfl (by simp)

/-! ## All requests -/

theorem converse_append (first second : List RequestEnvelope) (conversation : Conversation) :
    converse data (first ++ second) conversation =
      match converse data first conversation with
      | (replies, none) => (replies, none)
      | (replies, some next) =>
          (replies ++ (converse data second next).1, (converse data second next).2) := by
  induction first generalizing conversation with
  | nil => rfl
  | cons envelope rest ih =>
    rw [List.cons_append, converse, converse]
    rcases conversation.answer data envelope.request with reason | ⟨block, next⟩
    · rfl
    · by_cases ends : block.ends = true
      · simp only [ends, if_true]
      · simp only [ends, if_false, Bool.false_eq_true]
        rw [ih]
        rcases converse data rest next with ⟨replies, _ | last⟩ <;> rfl

/-- Requests that come later change nothing about the replies so far. -/
theorem converse_prefix (first second : List RequestEnvelope) (conversation : Conversation) :
    (converse data first conversation).1 <+: (converse data (first ++ second) conversation).1 := by
  rw [converse_append]
  rcases converse data first conversation with ⟨replies, _ | next⟩
  · exact List.prefix_refl _
  · exact List.prefix_append _ _

/-- As long as there are ids, the replies are those to the requests that are answered, in their order, and
every one of them is as it should be. -/
theorem converse_disciplined
    (addressable : ∀ sql table, data sql [] = .ok table → table.rows.length < UInt64.size)
    (numbered : conversation.Numbered envelopes.length) :
    (converse data envelopes conversation).1.map (·.envelope) = RequestEnvelope.answered envelopes ∧
      ∀ reply ∈ (converse data envelopes conversation).1, reply.Disciplined data := by
  induction envelopes generalizing conversation with
  | nil => exact ⟨rfl, nofun⟩
  | cons envelope rest ih =>
    rw [converse, RequestEnvelope.answered]
    cases answered : conversation.answer data envelope.request with
    | error reason =>
      rw [answer_halts.mp answered]
      exact ⟨rfl, nofun⟩
    | ok outcome =>
      obtain ⟨block, next⟩ := outcome
      have here := answer_disciplined numbered.fresh addressable answered
      have ends := answer_ends answered
      have unhalted : ¬ envelope.request.halt?.isSome := by
        intro halts
        obtain ⟨reason, halts⟩ := Option.isSome_iff_exists.mp halts
        rw [answer_halts.mpr halts] at answered
        cases answered
      dsimp only
      rw [if_neg unhalted]
      by_cases goodbye : envelope.request = .closeConnection
      · rw [if_pos (ends.mpr goodbye), if_pos goodbye]
        exact ⟨rfl, List.forall_mem_singleton.mpr here⟩
      · rw [if_neg (fun last => goodbye (ends.mp last)), if_neg goodbye]
        obtain ⟨order, others⟩ := ih (answer_moves numbered answered).numbered
        exact ⟨congrArg (envelope :: ·) order, List.forall_mem_cons.mpr ⟨here, others⟩⟩

end Conversation

end PagedResults
