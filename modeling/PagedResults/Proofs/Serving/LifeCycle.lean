import PagedResults.Proofs.Conversation.Outlook
import PagedResults.Proofs.Serving.Replies

/-! # The life of a statement

A statement lives from the reply that gives its id away to the one that closes it. Whatever is asked on a
connection, the replies so far decide how a statement is run and fetched from: whether it is refused, which
page is sent, and which result the page is cut from. Requests that leave the statement alone decide nothing.
-/

namespace PagedResults

/-- The code of an error that is the whole answer. -/
def Block.code? (block : Block) : Option Int32 :=
  match block.responses with
  | [(_, .error detail)] => some detail.code
  | _ => none

/-- The error has its code in exactly this case, and then it is the whole answer. -/
def Block.RefusedWhen (detail : ServiceError) (reason : Prop) (block : Block) : Prop :=
  (block.code? = some detail.code ↔ reason) ∧ (reason → block = .one (.error detail))

theorem Block.RefusedWhen.intro {detail : ServiceError} {reason : Prop} (holds : reason) :
    (Block.one (.error detail)).RefusedWhen detail reason :=
  ⟨iff_of_true rfl holds, fun _ => rfl⟩

theorem Block.RefusedWhen.never {detail : ServiceError} {reason : Prop} {block : Block}
    (differs : block.code? ≠ some detail.code) (fails : ¬ reason) : block.RefusedWhen detail reason :=
  ⟨iff_of_false differs fails, fun holds => absurd holds fails⟩

namespace Conversation

variable {data : Dataset} {conversation next : Conversation} {request : Request} {block : Block}
  {id offset : UInt64} {fetchSize : UInt32} {maxRows : UInt64} {values : List Value}
  {envelopes : List RequestEnvelope} {before earlier later : List Reply} {reply : Reply}

/-! ## The decisions -/

/-- A request for a page is answered as the replies before it tell. -/
structure Fetched (data : Dataset) (earlier : List Reply) (id offset : UInt64) (fetchSize : UInt32)
    (block : Block) : Prop where
  unknown : block.RefusedWhen (unknownStatement id) (¬ ∃ sql, OpenAfter earlier id sql)
  no_result : block.RefusedWhen (noOpenResult id)
    (∃ sql, OpenAfter earlier id sql ∧ ¬ ∃ table, ResultAfter data earlier id sql table)
  page : ∀ sql table, OpenAfter earlier id sql → ResultAfter data earlier id sql table →
    block = .one (.page (table.page offset fetchSize))

/-- A run is answered as the replies before it tell. The data set has the last word on a statement that is
open, and may itself report any code. -/
structure Executed (data : Dataset) (earlier : List Reply) (id : UInt64) (values : List Value)
    (fetchSize : UInt32) (maxRows : UInt64) (block : Block) : Prop where
  code : block.code? = some (unknownStatement id).code ↔ (¬ ∃ sql, OpenAfter earlier id sql) ∨
    ∃ sql detail, OpenAfter earlier id sql ∧ data sql values = .error detail ∧
      detail.code = (unknownStatement id).code
  unknown : (¬ ∃ sql, OpenAfter earlier id sql) → block = .one (.error (unknownStatement id))
  known : ∀ sql, OpenAfter earlier id sql →
    block = .ofResult ((data sql values).map fun table => firstPage id fetchSize (table.cut maxRows))

/-- A statement is unknown unless it was opened, and not closed since. -/
theorem Told.not_open (told : Told data earlier conversation) (unknown : conversation.statement? id = none) :
    ¬ ∃ sql, OpenAfter earlier id sql := by
  rintro ⟨sql, opened⟩
  have known := (told.open_iff id sql).mp opened
  rw [unknown] at known
  cases known

/-- Only a statement that is open is known, under its own text. -/
theorem Told.openAfter_iff {statement : Statement} {sql : String} (told : Told data earlier conversation)
    (known : conversation.statement? id = some statement) : OpenAfter earlier id sql ↔ statement.sql = sql := by
  rw [told.open_iff, known, Option.map_some, Option.some.injEq]

theorem Told.fetched (told : Told data earlier conversation)
    (answered : conversation.answer data (.fetch id offset fetchSize) = .ok (block, next)) :
    Fetched data earlier id offset fetchSize block := by
  obtain rfl := answer_fetch_block answered
  have codes : some (unknownStatement id).code ≠ some (noOpenResult id).code :=
    (by decide : some (3 : Int32) ≠ some 4)
  cases known : conversation.statement? id with
  | none =>
    have closed := told.not_open known
    refine ⟨.intro closed, .never codes ?_, ?_⟩
    · exact fun ⟨sql, opened, _⟩ => closed ⟨sql, opened⟩
    · exact fun sql table opened => absurd ⟨sql, opened⟩ closed
  | some statement =>
    obtain ⟨sql, result⟩ := statement
    have opened : OpenAfter earlier id sql := (told.openAfter_iff known).mpr rfl
    have results := told.result_iff id _ known
    cases result with
    | none =>
      have nothing : ¬ ∃ table, ResultAfter data earlier id sql table :=
        fun ⟨table, shown⟩ => nomatch (results table).mp shown
      refine ⟨.never codes.symm (not_not_intro ⟨sql, opened⟩), .intro ⟨sql, opened, nothing⟩, ?_⟩
      intro text table other shown
      obtain rfl := (told.openAfter_iff known).mp other
      exact absurd ⟨table, shown⟩ nothing
    | some table =>
      refine ⟨.never nofun (not_not_intro ⟨sql, opened⟩), .never nofun ?_, ?_⟩
      · rintro ⟨text, other, nothing⟩
        obtain rfl := (told.openAfter_iff known).mp other
        exact nothing ⟨table, (results table).mpr rfl⟩
      · intro text shown other result
        obtain rfl := (told.openAfter_iff known).mp other
        obtain rfl := Option.some.inj ((results shown).mp result)
        rfl

theorem Told.executed {parameters : List Cell} (told : Told data earlier conversation)
    (read : parametersOf parameters = .ok values)
    (answered : conversation.answer data (.execute id parameters fetchSize maxRows) = .ok (block, next)) :
    Executed data earlier id values fetchSize maxRows block := by
  obtain rfl := answer_execute_block read answered
  cases known : conversation.statement? id with
  | none =>
    have closed := told.not_open known
    exact ⟨iff_of_true rfl (.inl closed), fun _ => rfl, fun sql opened => absurd ⟨sql, opened⟩ closed⟩
  | some statement =>
    have opened : OpenAfter earlier id statement.sql := (told.openAfter_iff known).mpr rfl
    refine ⟨?_, fun closed => absurd ⟨_, opened⟩ closed, ?_⟩
    · dsimp only
      constructor
      · intro refused
        cases named : data statement.sql values with
        | ok table =>
          rw [named] at refused
          cases refused
        | error detail =>
          rw [named] at refused
          exact .inr ⟨statement.sql, detail, opened, named, Option.some.inj refused⟩
      · rintro (closed | ⟨sql, detail, other, named, same⟩)
        · exact absurd ⟨_, opened⟩ closed
        · obtain rfl := (told.openAfter_iff known).mp other
          rw [named]
          exact congrArg some same
    · intro sql other
      obtain rfl := (told.openAfter_iff known).mp other
      rfl

/-! ## All replies -/

/-- How statements live, as the replies of a whole conversation tell. -/
structure LifeCycle (data : Dataset) (replies : List Reply) : Prop where
  increasing : (replies.filterMap Reply.handsOut?).Pairwise (· < ·)
  closed : ∀ earlier, earlier <+: replies → ∀ id, Closed earlier id → ¬ ∃ sql, OpenAfter earlier id sql
  fetched : ∀ earlier reply later, replies = earlier ++ reply :: later → ∀ id offset fetchSize,
    reply.envelope.request = .fetch id offset fetchSize →
    Fetched data earlier id offset fetchSize reply.block
  executed : ∀ earlier reply later, replies = earlier ++ reply :: later →
    ∀ id parameters values fetchSize maxRows,
      reply.envelope.request = .execute id parameters fetchSize maxRows → parametersOf parameters = .ok values →
      Executed data earlier id values fetchSize maxRows reply.block
  /-- Without a request that leaves a statement alone, whatever is asked later gets the same answers from the
  statement, but for the ids that the request uses up. -/
  undisturbed : ∀ earlier reply later, replies = earlier ++ reply :: later → ∀ id, reply.LeavesAlone id →
    ∃ next, reply.before.answer data reply.envelope.request = .ok (reply.block, next) ∧
      ∀ further, earlier.length + 1 + further.length < UInt64.size →
        outcomes id (converse data further next).1 =
          outcomes id (converse data further { reply.before with latest := next.latest }).1

/-- The replies before any of them have led to the conversation that it was given in. -/
theorem converse_split (reached : Reached data before conversation)
    (split : (converse data envelopes conversation).1 = earlier ++ reply :: later) :
    Reached data (before ++ earlier) reply.before ∧
      ∃ next, reply.before.answer data reply.envelope.request = .ok (reply.block, next) := by
  induction envelopes generalizing before conversation earlier with
  | nil => simp [converse] at split
  | cons envelope rest ih =>
    rw [converse] at split
    cases answered : conversation.answer data envelope.request with
    | error reason => simp [answered] at split
    | ok outcome =>
      obtain ⟨block, next⟩ := outcome
      rw [answered] at split
      dsimp only at split
      cases earlier with
      | nil =>
        have same : reply = ⟨envelope, conversation, block⟩ := by
          split at split <;> exact (List.cons.inj split).1.symm
        rw [same, List.append_nil]
        exact ⟨reached, next, answered⟩
      | cons first earlier =>
        split at split
        · simp at split
        · obtain ⟨rfl, behind⟩ := List.cons.inj split
          rw [List.append_cons]
          exact ih (.step reached answered) behind

private theorem converse_length_le (envelopes : List RequestEnvelope) (conversation : Conversation) :
    (converse data envelopes conversation).1.length ≤ envelopes.length := by
  induction envelopes generalizing conversation with
  | nil => exact le_rfl
  | cons envelope rest ih =>
    rw [converse]
    cases conversation.answer data envelope.request with
    | error reason => exact Nat.zero_le _
    | ok outcome =>
      dsimp only
      split
      · exact Nat.succ_le_succ (Nat.zero_le _)
      · exact Nat.succ_le_succ (ih _)

/-- All replies so far have led to some conversation. -/
theorem converse_reached (split : (converse data envelopes {}).1 = earlier ++ later) :
    ∃ conversation, Reached data earlier conversation := by
  rcases List.eq_nil_or_concat earlier with rfl | ⟨earlier, last, rfl⟩
  · exact ⟨{}, .new⟩
  · rw [List.concat_eq_append, List.append_assoc] at split
    obtain ⟨reached, next, answered⟩ := converse_split .new split
    rw [List.concat_eq_append]
    exact ⟨next, .step reached answered⟩

/-- As long as there are ids, the replies of a conversation tell how statements live. -/
theorem converse_lifeCycle (few : envelopes.length < UInt64.size) :
    LifeCycle data (converse data envelopes {}).1 := by
  have short : (converse data envelopes {}).1.length < UInt64.size :=
    (converse_length_le envelopes {}).trans_lt few
  have inside {earlier later : List Reply} (split : (converse data envelopes {}).1 = earlier ++ later) :
      earlier.length + later.length < UInt64.size := by
    rw [split, List.length_append] at short
    exact short
  constructor
  · obtain ⟨conversation, reached⟩ := converse_reached (List.append_nil _).symm
    exact (reached.increasing short).1
  · rintro earlier ⟨later, split⟩ id closed
    obtain ⟨conversation, reached⟩ := converse_reached split.symm
    have few := inside split.symm
    exact (reached.told (by omega)).not_open (reached.unknown_of_closed (by omega) closed)
  · intro earlier reply later split id offset fetchSize asked
    obtain ⟨reached, next, answered⟩ := converse_split .new split
    have few := inside split
    rw [asked] at answered
    exact (reached.told (by rw [List.nil_append]; omega)).fetched answered
  · intro earlier reply later split id parameters values fetchSize maxRows asked read
    obtain ⟨reached, next, answered⟩ := converse_split .new split
    have few := inside split
    rw [asked] at answered
    exact (reached.told (by rw [List.nil_append]; omega)).executed read answered
  · intro earlier reply later split id alone
    obtain ⟨reached, next, answered⟩ := converse_split .new split
    rw [List.nil_append] at reached
    refine ⟨next, answered, fun further few => ?_⟩
    have numbered : reply.before.Numbered (further.length + 1) := reached.numbered (by omega)
    have moved := answer_moves numbered answered
    have kept : next.statement? id = reply.before.statement? id := alone.statement_eq numbered answered
    have agree : Agree id next { reply.before with latest := next.latest } := ⟨rfl, kept⟩
    refine agree.outcomes_eq moved.numbered ⟨fun entry member => ?_, moved.numbered.room⟩
    exact (numbered.known entry member).trans moved.latest_le

end Conversation

namespace Serving

open Conversation (LifeCycle converse)

/-- On every connection the replies so far decide what is answered about a statement, and these replies are
what the server writes, however the bytes of the requests are cut, as long as every message fits into a
frame. -/
theorem statements_followed {data : Dataset} {envelopes : List RequestEnvelope}
    (few : envelopes.length < UInt64.size) :
    LifeCycle data (converse data envelopes {}).1 ∧
      ∀ chunks : List ByteArray, (∀ envelope ∈ envelopes, envelope.request.Fits) →
        (∀ reply ∈ (converse data envelopes {}).1, reply.block.Fits) →
        chunks.flatMap Bytes.ofBuffer = RequestEnvelope.frames envelopes →
        Inbound.content (receiveEach chunks { data }).1 = Conversation.framesOf (converse data envelopes {}).1 :=
  ⟨Conversation.converse_lifeCycle few, fun _ requests_fit replies_fit arrives =>
    (receiveEach_new requests_fit replies_fit arrives).1⟩

/-- A statement from its first day to the last, and what is asked too early or too late. -/
def lifetime : List RequestEnvelope :=
  [⟨1, .prepare "numbers"⟩, ⟨2, .fetch 1 0 2⟩, ⟨3, .execute 1 [] 2 3⟩, ⟨4, .prepareAndExecute "letters" 2 0⟩,
    ⟨5, .fetch 1 2 2⟩, ⟨6, .closeResult 1⟩, ⟨7, .fetch 1 2 2⟩, ⟨8, .closeStatement 1⟩, ⟨9, .fetch 1 0 2⟩,
    ⟨10, .prepare "numbers"⟩, ⟨11, .execute 1 [] 2 3⟩]

theorem statements_followed_lifetime :
    let data : Dataset := fun sql _ => if sql = "numbers" then .ok (.series 4) else .error ⟨2, "unknown table", none⟩
    let replies := (converse data lifetime {}).1
    LifeCycle data replies ∧
      Inbound.content (receiveEach [Bytes.toBuffer (RequestEnvelope.frames lifetime)] { data }).1 =
        Conversation.framesOf replies ∧
      replies.filterMap (·.handsOut?) = [1, 3] ∧
      replies.map (·.block.code?) =
        [none, some 4, none, some 2, none, none, some 4, none, some 3, none, some 3] := by
  intro data replies
  obtain ⟨cycle, written⟩ : LifeCycle data replies ∧ _ :=
    statements_followed (by decide : lifetime.length < UInt64.size)
  refine ⟨cycle, written _ (by decide) ?_ ?_, by decide +kernel, by decide +kernel⟩
  · have fits : ∀ reply ∈ replies, ∀ entry ∈ reply.block.responses, entry.2.Fits := by decide +kernel
    exact fits
  · rw [List.flatMap_singleton, Bytes.ofBuffer_toBuffer]

/-- A data set that takes no parameters may say so with the code of an unknown statement, although the
statement is open; and behind the end of a connection a statement that was never given away is not refused,
since nothing is answered there. -/
theorem refused_while_open :
    let data : Dataset := fun _ values =>
      if values.isEmpty then .ok (.series 4) else .error ⟨3, "no parameters", none⟩
    let replies := (converse data [⟨1, .prepare "numbers"⟩, ⟨2, .execute 1 [Value.toCell .null] 2 0⟩] {}).1
    let ended := (converse data [⟨1, .closeConnection⟩, ⟨2, .fetch 7 0 1⟩] {}).1
    (replies.map (·.block.code?) = [none, some 3] ∧
      Conversation.parametersOf [Value.toCell .null] = .ok [.null] ∧
      ∃ sql, Conversation.OpenAfter (replies.take 1) 1 sql) ∧
    ended.map (·.envelope.request) = [.closeConnection] ∧ ¬ ∃ sql, Conversation.OpenAfter ended 7 sql := by
  intro data replies ended
  refine ⟨⟨by decide +kernel, ?_, ?_⟩, by decide +kernel, ?_⟩
  · have read := Conversation.parametersOf_toCells [.null] (List.forall_mem_singleton.mpr (by trivial))
    rwa [Value.toCells, Value.toCells] at read
  · exact ⟨"numbers", [], _, [], rfl, rfl, List.forall_mem_nil _⟩
  · rintro ⟨sql, before, reply, between, split, opened, -⟩
    have none_opens : ∀ reply ∈ ended, reply.opened? = none := by decide +kernel
    have member : reply ∈ ended := by
      rw [split]
      exact List.mem_append_right _ (List.mem_cons_self ..)
    rw [none_opens reply member] at opened
    cases opened

end Serving

end PagedResults
