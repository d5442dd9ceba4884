import PagedResults.Proofs.RowStream

/-! # What one reading of a stream takes in

Rows that were not yielded yet lie in two places: at hand, and in the pages that wait in the channel. As long
as the pages are well formed, reading a row moves rows from the second place to the first and hands out the
one at the front. Nothing else happens to them.
-/

namespace PagedResults

/-- The responses among some deliveries. -/
def Delivery.responses (deliveries : List Delivery) : List Response :=
  deliveries.filterMap fun
    | .message response _ => some response
    | .failure _ => none

theorem Delivery.responses_append (first second : List Delivery) :
    responses (first ++ second) = responses first ++ responses second := List.filterMap_append

theorem Delivery.responses_cons (delivery : Delivery) (rest : List Delivery) :
    responses (delivery :: rest) = responses [delivery] ++ responses rest := responses_append [delivery] rest

/-- The rows that a response carries, for a result with these columns. -/
def Response.rows (columns : List Column) : Response → List Row
  | .resultSet _ _ wire | .page wire =>
      match Page.ofWire columns.length wire with
      | .ok read => read.rows
      | .error _ => []
  | _ => []

/-- What a receiver takes comes from the front of the queue, and no response is lost. -/
theorem Channel.take?_front {channel rest : Channel} {received : Except Error (Option Response)}
    (taken : channel.take? = some (received, rest)) :
    ∃ front, channel.queue = front ++ rest.queue ∧
      Delivery.responses front = received.toOption.join.toList := by
  unfold take? at taken
  split at taken
  · obtain ⟨rfl, rfl⟩ := Prod.mk.inj (Option.some.inj taken)
    exact ⟨[], rfl, rfl⟩
  · split at taken
    · next response last queue held =>
      obtain ⟨rfl, rfl⟩ := Prod.mk.inj (Option.some.inj taken)
      exact ⟨[.message response last], held, rfl⟩
    · next cause queue held =>
      obtain ⟨rfl, rfl⟩ := Prod.mk.inj (Option.some.inj taken)
      exact ⟨[.failure cause], held, rfl⟩
    · split at taken
      · contradiction
      · obtain ⟨rfl, rfl⟩ := Prod.mk.inj (Option.some.inj taken)
        exact ⟨[], rfl, rfl⟩

namespace RowStream

/-- The rows of several responses, from the first to the last. -/
def rowsOf (columns : List Column) (responses : List Response) : List Row :=
  responses.flatMap (Response.rows columns)

theorem rowsOf_append (columns : List Column) (first second : List Response) :
    rowsOf columns (first ++ second) = rowsOf columns first ++ rowsOf columns second := List.flatMap_append

private theorem rowsOf_singleton (columns : List Column) (response : Response) :
    rowsOf columns [response] = response.rows columns := List.flatMap_singleton ..

theorem rowsOf_begins {columns : List Column} {first second : List Response} (inside : first <+: second) :
    rowsOf columns first <+: rowsOf columns second := by
  obtain ⟨rest, rfl⟩ := inside
  rw [rowsOf_append]
  exact List.prefix_append _ _

/-- Responses that stream a result with these columns: the result set and the pages behind it, with rows that
can be read. The pages make sense only once the columns are `known`. -/
inductive WellFormed (columns : List Column) : (known : Bool) → List Response → Prop
  | nil {known : Bool} : WellFormed columns known []
  | resultSet {known : Bool} {id : UInt64} {wire : WirePage} {page : Page} {rest : List Response}
      (read : Page.ofWire columns.length wire = .ok page) (behind : WellFormed columns true rest) :
      WellFormed columns known (.resultSet id columns wire :: rest)
  | page {wire : WirePage} {page : Page} {rest : List Response}
      (read : Page.ofWire columns.length wire = .ok page) (behind : WellFormed columns true rest) :
      WellFormed columns true (.page wire :: rest)

/-- The stream can take in what comes. -/
def Expects (columns : List Column) (stream : RowStream) (coming : List Response) : Prop :=
  ∃ known, WellFormed columns known coming ∧ (known = true → stream.columns = some columns)

/-- The row that a reading hands out. -/
def handedOut : Outcome Error (Option Row) → List Row
  | .ok (some row) => [row]
  | _ => []

variable {columns : List Column} {stream after : RowStream} {channel rest : Channel} {response : Response}
  {coming : List Response} {outcome : Outcome Error (Option Row)} {known : Bool}

theorem WellFormed.left {first second : List Response} (whole : WellFormed columns known (first ++ second)) :
    WellFormed columns known first := by
  generalize all : first ++ second = responses at whole
  induction whole generalizing first with
  | nil =>
    obtain ⟨rfl, -⟩ := List.append_eq_nil_iff.mp all
    exact .nil
  | resultSet read behind ih =>
    cases first with
    | nil => exact .nil
    | cons head first =>
      obtain ⟨rfl, others⟩ := List.cons.inj all
      exact .resultSet read (ih others)
  | page read behind ih =>
    cases first with
    | nil => exact .nil
    | cons head first =>
      obtain ⟨rfl, others⟩ := List.cons.inj all
      exact .page read (ih others)

/-- A response that is expected is taken in with its rows. -/
theorem Expects.accept (expects : Expects columns stream (response :: coming)) :
    ∃ next, stream.accept response = (.ok (), next) ∧ next.id = stream.id ∧
      next.rows = stream.rows ++ response.rows columns ∧ Expects columns next coming := by
  obtain ⟨known, wellFormed, columns_eq⟩ := expects
  cases wellFormed with
  | @resultSet known id wire page coming read behind =>
    refine ⟨_, (adds_page read).first id stream nofun, rfl, ?_, true, behind, fun _ => rfl⟩
    rw [Response.rows, read]
  | @page wire page coming read behind =>
    refine ⟨_, adds_page read stream fun _ => columns_eq rfl, rfl, ?_, true, behind, fun _ => rfl⟩
    rw [Response.rows, read]

/-- An end or a failure that is taken leaves all responses in the channel. -/
theorem Expects.take_nothing {received : Except Error (Option Response)}
    (expects : Expects columns stream (Delivery.responses channel.queue ++ coming))
    (taken : channel.take? = some (received, rest)) (nothing : received.toOption.join = none) :
    ∃ front, channel.queue = front ++ rest.queue ∧ Delivery.responses front = [] ∧
      Expects columns stream (Delivery.responses rest.queue ++ coming) := by
  obtain ⟨front, queue_eq, responses_eq⟩ := Channel.take?_front taken
  rw [nothing] at responses_eq
  rw [queue_eq, Delivery.responses_append, responses_eq] at expects
  exact ⟨front, queue_eq, responses_eq, expects⟩

/-- Reading a row takes in pages from the front of the channel, and hands out the first of the rows. -/
theorem Expects.nextRow (limit : Duration)
    (expects : Expects columns stream (Delivery.responses channel.queue ++ coming))
    (came : nextRow limit stream channel = (outcome, after, rest)) :
    ∃ taken, channel.queue = taken ++ rest.queue ∧ after.id = stream.id ∧
      handedOut outcome ++ after.rows = stream.rows ++ rowsOf columns (Delivery.responses taken) ∧
      Expects columns after (Delivery.responses rest.queue ++ coming) := by
  -- on the deliveries that are left; every case but the fifth ends the reading
  fun_induction RowStream.nextRow limit stream channel with
  | case1 stream channel row others held =>
    obtain ⟨rfl, rfl, rfl⟩ := came
    refine ⟨[], rfl, rfl, ?_, expects⟩
    rw [held]
    exact (List.append_nil _).symm
  | case2 stream channel empty waits failure =>
    obtain ⟨rfl, rfl, rfl⟩ := came
    exact ⟨[], rfl, rfl, (List.append_nil _).symm, expects⟩
  | case3 stream channel empty left taken =>
    obtain ⟨rfl, rfl, rfl⟩ := came
    obtain ⟨front, queue_eq, nothing, expects⟩ := expects.take_nothing taken rfl
    refine ⟨front, queue_eq, rfl, ?_, expects⟩
    rw [nothing]
    exact (List.append_nil _).symm
  | case4 stream channel empty cause left taken =>
    obtain ⟨rfl, rfl, rfl⟩ := came
    obtain ⟨front, queue_eq, nothing, expects⟩ := expects.take_nothing taken rfl
    refine ⟨front, queue_eq, rfl, ?_, expects⟩
    rw [nothing]
    exact (List.append_nil _).symm
  | case5 stream channel empty response left taken next accepted ih =>
    obtain ⟨front, queue_eq, responses_eq⟩ := Channel.take?_front taken
    change _ = [response] at responses_eq
    rw [queue_eq, Delivery.responses_append, responses_eq] at expects
    obtain ⟨following, same, id_eq, rows_eq, expects⟩ := Expects.accept expects
    obtain ⟨-, rfl⟩ := Prod.mk.inj (accepted.symm.trans same)
    obtain ⟨behind, left_eq, after_id, kept, expects⟩ := ih expects came
    refine ⟨front ++ behind, ?_, after_id.trans id_eq, ?_, expects⟩
    · rw [queue_eq, left_eq, List.append_assoc]
    · rw [kept, rows_eq, Delivery.responses_append, responses_eq, rowsOf_append, rowsOf_singleton,
        List.append_assoc]
  | case6 stream channel empty response left taken failure next refused =>
    obtain ⟨front, queue_eq, responses_eq⟩ := Channel.take?_front taken
    rw [queue_eq, Delivery.responses_append, responses_eq] at expects
    obtain ⟨following, same, -⟩ := Expects.accept expects
    cases refused.symm.trans same

end RowStream

end PagedResults
