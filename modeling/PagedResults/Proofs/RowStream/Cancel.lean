import PagedResults.Proofs.Outcomes
import PagedResults.Proofs.RowStream.Owed
import PagedResults.Script.Peer

/-! # Reading and cancelling a stream in any order

A consumer reads rows from a stream and may cancel it at any time, while anything may happen on the connection.
The rows that are yielded and those that a cancel drops are, in this order, the first of the rows that the
server sends. A cancel drops the rows at hand, and what still comes for the call is not delivered any more; but
the pages that wait in the channel by then stay there, and their rows are yielded afterwards. So no row is
skipped as long as no page waits when the stream is cancelled.
-/

namespace PagedResults

/-- The responses that wait in the channel of a call. -/
def Link.waiting {π : Type} (id : UInt64) (link : Link π) : List Response :=
  Delivery.responses (((link.channel? id).map (·.queue)).getD [])

private theorem Link.waiting_eq {π : Type} {link : Link π} {id : UInt64} {channel : Channel}
    (found : link.channel? id = some channel) : link.waiting id = Delivery.responses channel.queue := by
  rw [waiting, found]
  rfl

namespace RowStream

/-- What a consumer does with a stream, and what happens in between. -/
inductive Use where
  | next (outcome : Outcome Error (Option Row))
  /-- The stream is cancelled, where `dropped` were at hand and `waiting` in the channel. -/
  | cancel (dropped : List Row) (waiting : List Response)
  | meanwhile (happenings : List Happening)

namespace Use

/-- The rows that the consumer gets. -/
def yielded : Use → List Row
  | next outcome => handedOut outcome
  | _ => []

/-- The rows that leave the stream. -/
def removed : Use → List Row
  | next outcome => handedOut outcome
  | cancel dropped _ => dropped
  | meanwhile _ => []

/-- What happens on the connection of the call. -/
def happenings (id : UInt64) : Use → List Happening
  | next _ => []
  | cancel _ _ => [.cancelled id]
  | meanwhile happenings => happenings

end Use

/-- All that happens on the connection while a stream is used. -/
def happened (id : UInt64) (uses : List Use) : List Happening := uses.flatMap (Use.happenings id)

/-- All rows that the consumer gets. -/
def yielded (uses : List Use) : List Row := uses.flatMap Use.yielded

/-- All rows that leave the stream. -/
def removed (uses : List Use) : List Row := uses.flatMap Use.removed

/-- The responses that the server sends for a streamed call. -/
def pushed (id : UInt64) (happenings : List Happening) : List Response :=
  Delivery.responses (happenings.filterMap (Happening.answer? id .stream))

variable {π : Type}

/-- One use of a stream and its session. In between anything may happen on the connection, but nobody else takes
from the channel of the call. -/
inductive Does : RowStream × Session π → Use → RowStream × Session π → Prop
  | next {state after : RowStream × Session π} {outcome : Outcome Error (Option Row)}
      (came : next state = (outcome, after)) : Does state (.next outcome) after
  | cancel {state after : RowStream × Session π} {found : Outcome Error Bool}
      (came : cancel state = (found, after)) :
      Does state (.cancel state.1.rows (state.2.link.waiting state.1.id)) after
  | meanwhile {stream : RowStream} {session after : Session π} {happenings : List Happening}
      (run : Link.Run session.link happenings after.link)
      (spares : ∀ happening ∈ happenings, happening.Spares stream.id) :
      Does (stream, session) (.meanwhile happenings) (stream, after)

/-- A stream and its session are used, once after the other. -/
inductive Used : RowStream × Session π → List Use → RowStream × Session π → Prop
  | refl {state : RowStream × Session π} : Used state [] state
  | step {state after last : RowStream × Session π} {use : Use} {uses : List Use} (does : Does state use after)
      (rest : Used after uses last) : Used state (use :: uses) last

variable {columns : List Column} {state after last : RowStream × Session π} {use : Use}
  {uses : List Use} {later : List Happening} {owed : List Response} {count : Nat} {id : UInt64}

/-- A stream is in use: its call is on the books, its channel is there, and it can take in what waits in the
channel and what the call is still owed. -/
structure InUse (columns : List Column) (state : RowStream × Session π) (later : List Happening)
    (owed : List Response) : Prop where
  booked : ∃ count index, state.2.link.Tidy count ∧ count + later.countP Happening.isSubmitted ≤ UInt64.size ∧
    index < count ∧ state.1.id = UInt64.ofNat (index + 1)
  attached : ∃ channel, state.2.link.channel? state.1.id = some channel
  owes : Link.Owes state.1.id state.2.link later owed
  expects : Expects columns state.1 (state.2.link.waiting state.1.id ++ owed)

/-- The rows that a stream has still to yield. -/
def remaining (columns : List Column) (state : RowStream × Session π) (owed : List Response) : List Row :=
  state.1.rows ++ rowsOf columns (state.2.link.waiting state.1.id ++ owed)

/-- Reading moves rows on, and hands out the first of them. -/
theorem InUse.next {outcome : Outcome Error (Option Row)} (inUse : InUse columns state later owed)
    (came : next state = (outcome, after)) :
    InUse columns after later owed ∧ after.1.id = state.1.id ∧
      handedOut outcome ++ remaining columns after owed = remaining columns state owed := by
  obtain ⟨booked, ⟨channel, found⟩, owes, expects⟩ := inUse
  obtain ⟨stream, session⟩ := state
  rw [Link.waiting_eq found] at expects
  dsimp only at found owes expects booked
  rcases read : nextRow session.options.callTimeout stream channel with ⟨outcome', next, rest⟩
  have same : RowStream.next (stream, session) =
      (outcome', next, { session with link := session.link.setChannel stream.id rest }) := by
    simp only [RowStream.next, found, Option.getD_some, read]
  obtain ⟨rfl, rfl⟩ := Prod.mk.inj (came.symm.trans same)
  obtain ⟨taken, queue_eq, id_eq, kept, expects⟩ := expects.nextRow session.options.callTimeout read
  have left : (session.link.setChannel stream.id rest).channel? next.id = some rest := by
    rw [id_eq, Link.channel?_setChannel, if_pos rfl, found]
    rfl
  refine ⟨⟨?_, ⟨rest, left⟩, ?_, ?_⟩, id_eq, ?_⟩
  · obtain ⟨count, index, tidy, few, old, numbered⟩ := booked
    refine ⟨count, index, ⟨tidy.calls, ?_⟩, few, old, id_eq.trans numbered⟩
    rw [Link.ids_setChannel]
    exact tidy.ids
  · rw [id_eq]
    exact owes
  · rw [Link.waiting_eq left]
    exact expects
  · rw [remaining, remaining, Link.waiting_eq left, Link.waiting_eq found, queue_eq, ← List.append_assoc, kept,
      Delivery.responses_append, rowsOf_append, rowsOf_append, rowsOf_append]
    simp only [List.append_assoc]

/-- What happens meanwhile brings what is owed into the channel. -/
theorem InUse.meanwhile {stream : RowStream} {session next : Session π} {happenings : List Happening}
    (inUse : InUse columns (stream, session) (happenings ++ later) owed)
    (run : Link.Run session.link happenings next.link)
    (spares : ∀ happening ∈ happenings, happening.Spares stream.id) :
    ∃ rest, InUse columns (stream, next) later rest ∧
      remaining columns (stream, next) rest = remaining columns (stream, session) owed := by
  obtain ⟨⟨count, index, tidy, few, old, numbered⟩, ⟨channel, found⟩, owes, expects⟩ := inUse
  dsimp only at numbered found owes expects tidy
  rw [List.countP_append] at few
  have held := Link.waiting_eq found
  rw [numbered] at spares found owes
  obtain ⟨handed, rest, filled, still, rfl⟩ := run.owes tidy (by omega) old spares found owes
  rw [← numbered] at filled still
  have moved : next.link.waiting stream.id ++ rest =
      session.link.waiting stream.id ++ (Delivery.responses handed ++ rest) := by
    rw [Link.waiting_eq filled, held, Channel.pushAll, Delivery.responses_append, List.append_assoc]
  refine ⟨rest, ⟨⟨_, index, run.tidy tidy (by omega), by omega, by omega, numbered⟩, ⟨_, filled⟩, still, ?_⟩, ?_⟩
  · dsimp only
    rw [moved]
    exact expects
  · rw [remaining, remaining, moved]

/-- A cancel drops the rows at hand. What waits in the channel stays there, and nothing more comes. -/
theorem InUse.cancel {found : Outcome Error Bool}
    (inUse : InUse columns state (.cancelled state.1.id :: later) owed) (came : cancel state = (found, after)) :
    InUse columns after later [] ∧ after.1.id = state.1.id ∧ owed = [] ∧
      remaining columns after [] = rowsOf columns (state.2.link.waiting state.1.id) := by
  obtain ⟨⟨count, index, tidy, few, old, numbered⟩, ⟨channel, held⟩, owes, expects⟩ := inUse
  obtain ⟨stream, session⟩ := state
  have same : RowStream.cancel (stream, session) = (.ok (session.link.cancel stream.id).1,
      { stream with rows := [] }, { session with link := (session.link.cancel stream.id).2 }) := rfl
  obtain ⟨-, rfl⟩ := Prod.mk.inj (came.symm.trans same)
  dsimp only at numbered held owes expects tidy ⊢
  have step : Link.Step session.link (.cancelled stream.id) (session.link.cancel stream.id).2 := .cancelled _
  have nothing : owed = [] := by
    rcases owes with ⟨-, rfl⟩ | ⟨-, none_left⟩
    · rw [Happening.due, if_pos (by simp [Happening.ends])]
      rfl
    · exact none_left
  subst nothing
  obtain ⟨handed, rest, filled, still, split⟩ := step.owes tidy (by simp [Happening.isSubmitted]) trivial held owes
  obtain ⟨none_handed, rfl⟩ := List.append_eq_nil_iff.mp split.symm
  have kept : (session.link.cancel stream.id).2.waiting stream.id = session.link.waiting stream.id := by
    rw [Link.waiting_eq filled, Link.waiting_eq held, Channel.pushAll, Delivery.responses_append, none_handed,
      List.append_nil]
  rw [List.countP_cons] at few
  refine ⟨⟨⟨count, index, step.tidy tidy ?_, ?_, old, numbered⟩, ⟨_, filled⟩, still, ?_⟩, rfl, rfl, ?_⟩
  · change count + 0 ≤ UInt64.size
    omega
  · omega
  · dsimp only
    rw [kept]
    exact expects
  · rw [remaining, kept, List.append_nil]
    rfl

/-- With every use, the rows that leave the stream and those that remain are those that were to come. -/
theorem InUse.step (inUse : InUse columns state (use.happenings state.1.id ++ later) owed)
    (does : Does state use after) :
    ∃ rest, InUse columns after later rest ∧ after.1.id = state.1.id ∧
      use.removed ++ remaining columns after rest = remaining columns state owed := by
  cases does with
  | next came =>
    obtain ⟨still, id_eq, kept⟩ := inUse.next came
    exact ⟨owed, still, id_eq, kept⟩
  | cancel came =>
    obtain ⟨still, id_eq, rfl, kept⟩ := inUse.cancel came
    refine ⟨[], still, id_eq, ?_⟩
    rw [kept, remaining, List.append_nil]
    rfl
  | meanwhile run spares =>
    obtain ⟨rest, still, kept⟩ := inUse.meanwhile run spares
    exact ⟨rest, still, rfl, kept⟩

/-- The same over any number of uses. -/
theorem Used.conserves (used : Used state uses last)
    (inUse : InUse columns state (happened state.1.id uses ++ later) owed) :
    ∃ rest, InUse columns last later rest ∧ last.1.id = state.1.id ∧
      removed uses ++ remaining columns last rest = remaining columns state owed := by
  induction used generalizing owed with
  | refl => exact ⟨owed, inUse, rfl, rfl⟩
  | @step state after last use uses does rest ih =>
    rw [happened, List.flatMap_cons, List.append_assoc] at inUse
    obtain ⟨due, still, id_eq, kept⟩ := inUse.step does
    rw [← id_eq] at still
    obtain ⟨left, still, last_id, others⟩ := ih still
    refine ⟨left, still, last_id.trans id_eq, ?_⟩
    rw [← kept, ← others, removed, List.flatMap_cons, List.append_assoc]
    rfl

theorem Used.split {first second : List Use} (used : Used state (first ++ second) last) :
    ∃ middle, Used state first middle ∧ Used middle second last := by
  induction first generalizing state with
  | nil => exact ⟨state, .refl, used⟩
  | cons use first ih =>
    cases used with
    | step does rest =>
      obtain ⟨middle, left, right⟩ := ih rest
      exact ⟨middle, .step does left, right⟩

/-- When nothing more happens, nothing is owed. -/
theorem InUse.owed_eq_nil (inUse : InUse columns state [] owed) : owed = [] := by
  rcases inUse.owes with ⟨-, rfl⟩ | ⟨-, none_left⟩
  · rfl
  · exact none_left

/-- Behind a cancel, the rows that leave the stream and those that remain are those that waited then. -/
theorem Used.after_cancel {first second : List Use} {dropped : List Row} {waiting : List Response}
    (used : Used state (first ++ .cancel dropped waiting :: second) last)
    (inUse : InUse columns state (happened state.1.id (first ++ .cancel dropped waiting :: second)) owed) :
    removed second ++ remaining columns last [] = rowsOf columns waiting := by
  obtain ⟨middle, left, right⟩ := used.split
  rw [happened, List.flatMap_append] at inUse
  obtain ⟨due, inUse, id_eq, -⟩ := left.conserves inUse
  rw [List.flatMap_cons, ← id_eq] at inUse
  cases right with
  | step does rest =>
    cases does with
    | cancel came =>
      obtain ⟨still, same, -, kept⟩ := inUse.cancel came
      rw [← same] at still
      rw [← List.append_nil (List.flatMap _ _)] at still
      obtain ⟨left, still, -, conserved⟩ := rest.conserves still
      obtain rfl := still.owed_eq_nil
      exact conserved.trans kept

/-- What the consumer gets is among the rows that leave the stream. -/
theorem yielded_eq_nil (nothing : removed uses = []) : yielded uses = [] := by
  rw [removed, List.flatMap_eq_nil_iff] at nothing
  rw [yielded, List.flatMap_eq_nil_iff]
  intro use member
  cases use with
  | next outcome => exact nothing _ member
  | _ => rfl

/-- If nothing leaves the stream behind a cancel that drops rows, the consumer gets the first of the rows. -/
theorem yielded_of_harmless (harmless : ∀ first dropped waiting second, uses = first ++ .cancel dropped waiting :: second →
    dropped = [] ∨ removed second = []) : yielded uses <+: removed uses := by
  induction uses with
  | nil => exact List.prefix_refl _
  | cons use uses ih =>
    have others : ∀ first dropped waiting second, uses = first ++ .cancel dropped waiting :: second →
        dropped = [] ∨ removed second = [] :=
      fun first dropped waiting second split => harmless (use :: first) dropped waiting second (by rw [split]; rfl)
    rw [yielded, removed, List.flatMap_cons, List.flatMap_cons]
    cases use with
    | next outcome => exact (List.prefix_append_right_inj _).mpr (ih others)
    | meanwhile happenings => exact ih others
    | cancel dropped waiting =>
      rcases harmless [] dropped waiting uses rfl with rfl | nothing
      · exact ih others
      · have silent : uses.flatMap Use.yielded = [] := yielded_eq_nil nothing
        rw [silent]
        exact List.nil_prefix

/-! ## From the request on -/

variable [Peer π] {session opened : Session π} {stream : RowStream} {sql : String} {fetchSize : UInt32}
  {first : List Happening}

/-- A statement that is streamed is a call that is submitted; while its request is sent, something may already
come in. -/
theorem query_run (asked : query sql fetchSize session = (.ok stream, opened)) :
    session.link.calls.standing = .live ∧ stream = { id := session.link.calls.nextId } ∧
      ∃ first, Link.Run session.link (.submitted .stream :: first) opened.link ∧
        first.all Happening.isRead = true := by
  rw [query, Op.bind_apply] at asked
  cases closed : session.closed with
  | true =>
    rw [Session.checkOpen_of_closed closed] at asked
    cases asked
  | false =>
    rw [Session.checkOpen_apply closed] at asked
    dsimp only at asked
    rw [Op.bind_apply, Session.onLink_apply] at asked
    rcases submitted : Link.submit .caller .stream (.executeStream sql fetchSize) session.link with
      ⟨failure | id, link⟩
    · rw [submitted] at asked
      cases asked
    · rw [submitted] at asked
      obtain ⟨same, rfl⟩ := Prod.mk.inj asked
      obtain ⟨live, rfl, first, run, reads⟩ := Link.submit_ok submitted
      exact ⟨live, (Except.ok.inj same).symm, first, run, reads⟩

/-- A stream is in use from the beginning. -/
theorem inUse_of_query {start : Link π} {before : List Happening} (new : start.New)
    (reached : Link.Run start before session.link) (asked : query sql fetchSize session = (.ok stream, opened))
    (run : Link.Run session.link (.submitted .stream :: first) opened.link)
    (reads : first.all Happening.isRead = true)
    (few : before.countP Happening.isSubmitted + 1 + later.countP Happening.isSubmitted ≤ UInt64.size)
    (wellFormed : WellFormed columns false (pushed stream.id (first ++ later))) :
    ∃ owed, InUse columns (stream, opened) later owed ∧
      remaining columns (stream, opened) owed <+: rowsOf columns (pushed stream.id (first ++ later)) := by
  obtain ⟨live, rfl, -⟩ := query_run asked
  obtain ⟨here, next, calls_eq, channels_eq, step, rest⟩ := run.cons_cases
  have tidy := (new.after reached (by omega)).aside calls_eq channels_eq
  have registered := step.tidy tidy (by change _ + 1 ≤ _; omega)
  change next.Tidy (_ + 1) at registered
  rw [← calls_eq] at live wellFormed ⊢
  obtain ⟨known, held⟩ : next.calls.shape? here.calls.nextId = some .stream ∧
      next.channel? here.calls.nextId = some {} := by
    cases step
    rw [Link.register_live live, Calls.register_live live]
    exact ⟨lookup_append_new (tidy.calls.shape?_nextId (by omega)) _,
      lookup_append_new (tidy.channel?_nextId (by omega)) _⟩
  have numbered := tidy.calls.nextId_eq
  have submits := Happening.countP_isSubmitted_of_isRead reads
  have spares (id : UInt64) : ∀ happening ∈ first, happening.Spares id :=
    fun happening member => .of_isRead (List.all_eq_true.mp reads happening member) id
  have owes : Link.Owes here.calls.nextId next (first ++ later) _ := .inl ⟨known, rfl⟩
  rw [numbered] at held owes
  obtain ⟨handed, owed, filled, still, split⟩ :=
    rest.owes registered (by omega) (Nat.lt_succ_self _) (spares _) held owes
  have kept := rest.tidy registered (by omega)
  rw [submits] at kept
  rw [← numbered] at filled still split
  have waiting : opened.link.waiting here.calls.nextId ++ owed =
      Delivery.responses (Happening.due here.calls.nextId .stream .connectionClosed (first ++ later)) := by
    rw [Link.waiting_eq filled, split]
    rfl
  have inside := Happening.responses_due_begins here.calls.nextId .stream .connectionClosed (first ++ later)
  rw [← waiting] at inside
  refine ⟨owed, ⟨⟨_, _, kept, few, Nat.lt_succ_self _, numbered⟩, ⟨_, filled⟩, still, ?_⟩, rowsOf_begins inside⟩
  obtain ⟨beyond, whole⟩ := inside
  rw [pushed, ← whole] at wellFormed
  exact ⟨false, wellFormed.left, nofun⟩

/-- How the rows that the server sends come out of a stream that is used. -/
structure InOrder (columns : List Column) (sent : List Response) (uses : List Use)
    (last : RowStream × Session π) : Prop where
  /-- The rows that are yielded and those that are dropped are the first that were sent, none left out, none twice
  and all in order. -/
  removed_inside : removed uses <+: rowsOf columns sent
  /-- Behind a cancel, the rows of the pages that waited then come out, and no others. -/
  cancelled : ∀ first dropped waiting second, uses = first ++ .cancel dropped waiting :: second →
    removed second ++ remaining columns last [] = rowsOf columns waiting
  /-- If no rows waited, the consumer gets none any more. -/
  silent : ∀ first dropped waiting second, uses = first ++ .cancel dropped waiting :: second →
    rowsOf columns waiting = [] → yielded second = []
  /-- The consumer gets the first of the rows, unless a cancel drops rows while others wait. -/
  unskipped : (∀ dropped waiting, .cancel dropped waiting ∈ uses → dropped = [] ∨ rowsOf columns waiting = []) →
    yielded uses <+: rowsOf columns sent

/-- A statement that is streamed on a connection with any past: something may come in while its request is sent,
and however the stream is used then, its rows come out in order. -/
theorem stream_in_order {start : Link π} {before : List Happening} (new : start.New)
    (reached : Link.Run start before session.link) (asked : query sql fetchSize session = (.ok stream, opened)) :
    (∃ first, Link.Run session.link (.submitted .stream :: first) opened.link ∧
      first.all Happening.isRead = true) ∧
    ∀ first uses last columns, Link.Run session.link (.submitted .stream :: first) opened.link →
      first.all Happening.isRead = true → Used (stream, opened) uses last →
      before.countP Happening.isSubmitted + 1 + (happened stream.id uses).countP Happening.isSubmitted ≤
        UInt64.size →
      WellFormed columns false (pushed stream.id (first ++ happened stream.id uses)) →
      InOrder columns (pushed stream.id (first ++ happened stream.id uses)) uses last := by
  refine ⟨(query_run asked).2.2, ?_⟩
  intro first uses last columns run reads used few wellFormed
  obtain ⟨owed, inUse, inside⟩ := inUse_of_query new reached asked run reads few wellFormed
  have removed_inside : removed uses <+: rowsOf columns (pushed stream.id (first ++ happened stream.id uses)) := by
    rw [← List.append_nil (happened stream.id uses)] at inUse
    obtain ⟨rest, -, -, kept⟩ := used.conserves inUse
    rw [← kept] at inside
    exact (List.prefix_append _ _).trans inside
  have cancelled : ∀ first dropped waiting second, uses = first ++ .cancel dropped waiting :: second →
      removed second ++ remaining columns last [] = rowsOf columns waiting := by
    rintro first dropped waiting second rfl
    exact used.after_cancel inUse
  have nothing : ∀ first dropped waiting second, uses = first ++ .cancel dropped waiting :: second →
      rowsOf columns waiting = [] → removed second = [] := by
    intro first dropped waiting second split empty
    have all := cancelled first dropped waiting second split
    rw [empty] at all
    exact (List.append_eq_nil_iff.mp all).1
  refine ⟨removed_inside, cancelled, ?_, ?_⟩
  · intro first dropped waiting second split empty
    exact yielded_eq_nil (nothing first dropped waiting second split empty)
  · intro harmless
    refine (yielded_of_harmless fun first dropped waiting second split => ?_).trans removed_inside
    exact (harmless dropped waiting (by simp [split])).imp_right (nothing first dropped waiting second split)

/-! ## Two pages of a table -/

/-- A session with a server that does not answer by itself. -/
def quiet : Session ScriptedPeer := { link := { peer := {} }, options := { address := .v4 [127, 0, 0, 1] 1 } }

/-- A stream that was just asked for. -/
def asking : RowStream × Session ScriptedPeer := ({ id := 1 }, (query "numbers" 2 quiet).2)

/-- The two pages of a table of four rows. -/
def bothPages : List ResponseEnvelope :=
  [⟨1, false, .resultSet 1 (Table.series 4).columns ((Table.series 4).page 0 2)⟩,
    ⟨1, true, .page ((Table.series 4).page 2 2)⟩]

/-- Responses arrive one after the other. -/
def arriving (envelopes : List ResponseEnvelope) (state : RowStream × Session ScriptedPeer) :
    RowStream × Session ScriptedPeer :=
  (state.1, { state.2 with link := envelopes.foldl (fun link envelope => link.arrive .reader envelope) state.2.link })

/-- The number in front of a row. -/
def numberOf (row : Row) : Option Int64 :=
  match row.values with
  | .int64 number :: _ => some number
  | _ => none

private theorem does_arriving (envelopes : List ResponseEnvelope) (state : RowStream × Session ScriptedPeer) :
    Does state (.meanwhile (envelopes.map .arrived)) (arriving envelopes state) := by
  have run (link : Link ScriptedPeer) : Link.Run link (envelopes.map .arrived)
      (envelopes.foldl (fun link envelope => link.arrive .reader envelope) link) := by
    induction envelopes generalizing link with
    | nil => exact .refl
    | cons envelope rest ih => exact .step (.arrived .reader envelope) (ih _)
  refine .meanwhile (run state.2.link) fun happening member => ?_
  obtain ⟨envelope, -, rfl⟩ := List.mem_map.mp member
  exact trivial

private theorem query_quiet : query "numbers" 2 quiet = (.ok { id := 1 }, asking.2) := by
  have answered : (query "numbers" 2 quiet).1.toOption.isSome = true := by decide +kernel
  rcases came : query "numbers" 2 quiet with ⟨failure | stream, opened⟩
  · rw [came] at answered
    cases answered
  · obtain ⟨-, rfl, -⟩ := query_run came
    rw [asking, came]
    rfl

private theorem run_quiet : Link.Run quiet.link [.submitted .stream] asking.2.link := by
  have books : asking.2.link.calls = (quiet.link.register .stream).2.calls ∧
      asking.2.link.channels = (quiet.link.register .stream).2.channels := by decide +kernel
  exact .step (.submitted .stream) (.of_eq books.1 books.2)

private theorem wellFormed_bothPages :
    WellFormed (Table.series 4).columns false (bothPages.map (·.response)) := by
  have read (start : Nat) (fits : (Response.page ((Table.series 4).pageFrom start 2)).Fits) :=
    Table.ofWire_pageFrom (by decide : (Table.series 4).Complete) (by decide) fits
  exact .resultSet (read 0 (by decide +kernel)) (.page (read 2 (by decide +kernel)) .nil)

/-- A stream that is read and then cancelled, where some pages have come before and the others come then. -/
def cancelling (early late : List ResponseEnvelope) : List Use × (RowStream × Session ScriptedPeer) :=
  let come := arriving early asking
  let read := next come
  let stopped := (cancel read.2).2
  let behind := arriving late stopped
  ([.meanwhile (early.map .arrived), .next read.1, .cancel read.2.1.rows (read.2.2.link.waiting read.2.1.id),
    .meanwhile (late.map .arrived), .next (next behind).1], (next behind).2)

private theorem used_cancelling (early late : List ResponseEnvelope) :
    Used asking (cancelling early late).1 (cancelling early late).2 :=
  .step (does_arriving early asking) <| .step (.next rfl) <| .step (.cancel rfl) <|
    .step (does_arriving late _) <| .step (.next rfl) .refl

/-- The second page comes after the cancel, and the consumer has got the first row. -/
theorem stream_in_order_late :
    let uses := (cancelling (bothPages.take 1) (bothPages.drop 1)).1
    InOrder (Table.series 4).columns (pushed 1 (happened 1 uses)) uses
        (cancelling (bothPages.take 1) (bothPages.drop 1)).2 ∧
      (yielded uses).map numberOf = [some 0] := by
  intro uses
  have wellFormed : WellFormed (Table.series 4).columns false (pushed 1 (happened 1 uses)) := wellFormed_bothPages
  have orderly := (stream_in_order ⟨rfl, rfl⟩ .refl query_quiet).2 [] uses _ (Table.series 4).columns run_quiet rfl
    (used_cancelling _ _) (by decide) wellFormed
  exact ⟨orderly, by decide +kernel⟩

/-- Both pages have come when the stream is cancelled after its first row. The next row that the consumer gets
is the third one. -/
theorem cancel_skips :
    let uses := (cancelling bothPages []).1
    query "numbers" 2 quiet = (.ok asking.1, asking.2) ∧ Used asking uses (cancelling bothPages []).2 ∧
      WellFormed (Table.series 4).columns false (pushed 1 (happened 1 uses)) ∧
      (rowsOf (Table.series 4).columns (pushed 1 (happened 1 uses))).map numberOf =
        [some 0, some 1, some 2, some 3] ∧
      (yielded uses).map numberOf = [some 0, some 2] ∧
      ¬ yielded uses <+: rowsOf (Table.series 4).columns (pushed 1 (happened 1 uses)) := by
  intro uses
  have sent : (rowsOf (Table.series 4).columns (pushed 1 (happened 1 uses))).map numberOf =
      [some 0, some 1, some 2, some 3] := by decide +kernel
  have got : (yielded uses).map numberOf = [some 0, some 2] := by decide +kernel
  refine ⟨query_quiet, used_cancelling _ _, wellFormed_bothPages, sent, got, fun inside => ?_⟩
  have numbers := inside.map numberOf
  rw [sent, got] at numbers
  exact absurd numbers (by decide)

end RowStream

end PagedResults
