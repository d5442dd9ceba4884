import PagedResults.Session

/-! # Streams of rows

The server sends the pages of a streamed statement without being asked. A stream of rows takes them
from the channel of its call and hands out their rows in order. Once the stream is cancelled, the rows
at hand are dropped and pages that still arrive are not taken in.
-/

namespace PagedResults

/-- The rows of a streamed statement. -/
structure RowStream where
  /-- The id of the call. -/
  id : UInt64
  /-- The columns, once the first page is there. -/
  columns : Option (List Column) := none
  /-- The rows at hand. -/
  rows : List Row := []
deriving Repr

private theorem Channel.take?_length {channel rest : Channel} {response : Response}
    (taken : channel.take? = some (.ok (some response), rest)) :
    rest.queue.length < channel.queue.length := by
  unfold take? at taken
  split at taken
  · simp at taken
  · split at taken
    · next queued =>
      simp only [Option.some.injEq, Prod.mk.injEq] at taken
      obtain ⟨_, rfl⟩ := taken
      simp [queued]
    · simp at taken
    · split at taken <;> simp at taken

namespace RowStream

/-- Take in the rows of a page. -/
def acceptPage (page : WirePage) (stream : RowStream) : Outcome Error Unit × RowStream :=
  match stream.columns with
  | none => (Outcome.fail (.protocol "page arrived before the result set"), stream)
  | some columns =>
      match Page.ofWire columns.length page with
      | .ok page => (.ok (), { stream with rows := stream.rows ++ page.rows })
      | .error failure => (.error failure, stream)

/-- Take in a response. -/
def accept (response : Response) (stream : RowStream) : Outcome Error Unit × RowStream :=
  match response with
  | .resultSet _ columns first => acceptPage first { stream with columns := some columns }
  | .page page => acceptPage page stream
  | other => (Outcome.fail (Session.unexpected "execute_stream" other), stream)

/-- The next row, for which no more than `limit` is waited where no time at all is for ever. -/
def nextRow (limit : Duration) (stream : RowStream) (channel : Channel) :
    Outcome Error (Option Row) × RowStream × Channel :=
  match stream.rows with
  | row :: rest => (.ok (some row), { stream with rows := rest }, channel)
  | [] =>
      match _taken : channel.take? with
      | none =>
          let failure :=
            if limit.isZero then Failure.halt .endlessWait else .error (.timeout stream.id limit)
          (.error failure, stream, channel)
      | some (.ok none, channel) => (.ok none, stream, channel)
      | some (.error cause, channel) => (Outcome.fail cause, stream, channel)
      | some (.ok (some response), rest) =>
          match stream.accept response with
          | (.ok (), stream) => nextRow limit stream rest
          | (.error failure, stream) => (.error failure, stream, rest)
termination_by channel.queue.length
decreasing_by exact Channel.take?_length _taken

variable {π : Type} [Peer π]

/-- Have the server stream the result of a statement. -/
def query (sql : String) (fetchSize : UInt32) : Op Error (Session π) RowStream := do
  Session.checkOpen
  let id ← Session.onLink (Link.submit .caller .stream (.executeStream sql fetchSize))
  return { id }

/-- The next row, up to the end of the result. -/
def next : Op Error (RowStream × Session π) (Option Row) := fun (stream, session) =>
  let channel := (session.link.channel? stream.id).getD {}
  let (row, next, channel) := nextRow session.options.callTimeout stream channel
  (row, next, { session with link := session.link.setChannel stream.id channel })

/-- Stop the stream; the result says whether more was to come. -/
def cancel : Op Error (RowStream × Session π) Bool := fun (stream, session) =>
  let (found, link) := session.link.cancel stream.id
  (.ok found, { stream with rows := [] }, { session with link })

end RowStream

end PagedResults
