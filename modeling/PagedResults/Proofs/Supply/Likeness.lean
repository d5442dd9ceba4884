import PagedResults.Proofs.Supply

/-! # Supplies that stay alike

Two supplies over different sources cannot be told apart by what they hand on if every operation comes to
the same on both and keeps them related. `Supply.Likeness` collects what such a relation must satisfy;
how a supply is closed is put together from its steps once, for every relation. An invariant is a
relation between a supply and itself.
-/

namespace PagedResults

namespace Op

/-- Two operations came to the same, and what they left is related. -/
def Alike {ε α σ τ : Type} (Rel : σ → τ → Prop) (left : Outcome ε α × σ)
    (right : Outcome ε α × τ) : Prop :=
  left.1 = right.1 ∧ Rel left.2 right.2

namespace Alike

variable {ε α β σ τ : Type} {Rel Other : σ → τ → Prop} {left : σ} {right : τ}

theorem elim {results : Outcome ε α × σ} {others : Outcome ε α × τ} (alike : Alike Rel results others) :
    ∃ outcome left right, results = (outcome, left) ∧ others = (outcome, right) ∧ Rel left right :=
  ⟨results.1, results.2, others.2, rfl, Prod.ext alike.1.symm rfl, alike.2⟩

theorem mono {results : Outcome ε α × σ} {others : Outcome ε α × τ} (alike : Alike Rel results others)
    (weaker : ∀ left right, Rel left right → Other left right) : Alike Other results others :=
  ⟨alike.1, weaker _ _ alike.2⟩

theorem bind {op : Op ε σ α} {op' : Op ε τ α} {next : α → Op ε σ β} {next' : α → Op ε τ β}
    (first : Alike Rel (op left) (op' right))
    (rest : ∀ value left right, Rel left right → Alike Rel (next value left) (next' value right)) :
    Alike Rel ((op >>= next) left) ((op' >>= next') right) := by
  obtain ⟨outcome, after, after', came, came', related⟩ := first.elim
  rw [Op.bind_apply, Op.bind_apply, came, came']
  cases outcome with
  | ok value => exact rest value after after' related
  | error failure => exact ⟨rfl, related⟩

/-- Both operations look at their own states. -/
theorem get_bind {next : σ → Op ε σ β} {next' : τ → Op ε τ β}
    (rest : Alike Rel (next left left) (next' right right)) :
    Alike Rel ((get >>= next) left) ((get >>= next') right) := by
  rw [Op.bind_apply, Op.bind_apply]
  exact rest

theorem pure (value : α) (related : Rel left right) :
    Alike Rel ((Pure.pure value : Op ε σ α) left) ((Pure.pure value : Op ε τ α) right) :=
  ⟨rfl, related⟩

theorem map (change : α → β) {op : Op ε σ α} {op' : Op ε τ α}
    (alike : Alike Rel (op left) (op' right)) :
    Alike Rel ((change <$> op) left) ((change <$> op') right) := by
  rw [Op.map_apply, Op.map_apply]
  exact ⟨congrArg (Except.map change) alike.1, alike.2⟩

theorem attempt {op : Op ε σ α} {op' : Op ε τ α} (alike : Alike Rel (op left) (op' right)) :
    Alike Rel (op.attempt left) (op'.attempt right) := by
  obtain ⟨outcome, after, after', came, came', related⟩ := alike.elim
  rw [Op.attempt, Op.attempt, came, came']
  rcases outcome with (cause | reason) | value <;> exact ⟨rfl, related⟩

end Alike

end Op

namespace Supply

variable {σ ρ τ υ : Type} [PageSource σ ρ] [PageSource τ υ]

/-- Waiting for the request under way, whatever comes of it. -/
theorem join_apply (supply : Supply ρ) (source : σ) : join (supply, source) =
    match supply.inFlight with
    | none => (.ok none, supply, source)
    | some (offset, request) =>
        let finished := PageSource.finish request source
        let idle : Supply ρ × σ := ({ supply with inFlight := none }, finished.2)
        match joined offset finished.1 with
        | .error failure => (.error failure, idle)
        | .ok page => ((accept page idle).1.map some, (accept page idle).2) := by
  rw [join, Op.bind_apply, wait]
  cases supply.inFlight with
  | none => rfl
  | some flight =>
    obtain ⟨offset, request⟩ := flight
    rcases finished : PageSource.finish request source with ⟨outcome, after⟩
    simp only [finished]
    cases joined offset outcome with
    | ok page => exact Op.map_apply _ _ _
    | error failure => rfl

/-- A page whose end is a valid offset is taken in. -/
theorem accept_of_fits {page : Page} (supply : Supply ρ) (source : σ)
    (fits : page.offset.toNat + page.rows.length < UInt64.size) :
    ∃ rows taken, supply.take page = .ok (rows, taken) ∧
      accept page (supply, source) =
        (.ok rows, taken, PageSource.noteAll .caller (supply.remarks page) source) := by
  have advanced : advance page.offset page.rows.length =
      .ok (page.offset + UInt64.ofNat page.rows.length) := by
    rw [advance, if_pos fits]
  have taken := supply.take_of_advance advanced
  exact ⟨_, _, taken, by rw [accept]; simp only [taken]⟩

/-- Any other page halts the thread that is to take it in, and leaves the supply as it was. -/
theorem accept_of_not_fits {page : Page} (supply : Supply ρ) (source : σ)
    (beyond : ¬ page.offset.toNat + page.rows.length < UInt64.size) :
    accept page (supply, source) = (Outcome.halt .additionOverflow, supply,
      PageSource.noteAll .caller (supply.remarks page) source) := by
  have refused : supply.take page = .error .additionOverflow := by
    rw [take, advance, if_neg beyond]
    rfl
  rw [accept]
  simp only [refused]

/-! ## What every supply keeps -/

theorem prefetch_closed (state : Supply ρ × σ) : (prefetch state).1.closed = state.1.closed := by
  rw [prefetch]
  split <;> rfl

theorem prefetch_surfaced (state : Supply ρ × σ) :
    (prefetch state).1.surfaced = state.1.surfaced := by
  rw [prefetch]
  split <;> rfl

/-- The rows that an operation has handed on. -/
def handedOn : Outcome Error (Option (List Row)) → List Row
  | .ok rows => rows.getD []
  | .error _ => []

theorem take_rows_le {page : Page} {rows : List Row} {supply taken : Supply ρ}
    (took : supply.take page = .ok (rows, taken)) : rows.length ≤ page.rows.length := by
  obtain ⟨-, -, rfl, -⟩ := take_eq_ok took
  exact List.length_take_le' _ _

/-- Taking in a page changes no setting of the supply and counts the rows handed on. -/
theorem take_keeps {page : Page} {rows : List Row} {supply taken : Supply ρ}
    (took : supply.take page = .ok (rows, taken)) :
    taken.closed = supply.closed ∧ taken.surfaced = supply.surfaced + rows.length ∧
      taken.statement = supply.statement ∧ taken.options = supply.options ∧
      taken.inFlight = supply.inFlight := by
  obtain ⟨-, -, -, rfl⟩ := take_eq_ok took
  exact ⟨rfl, rfl, rfl, rfl, rfl⟩

/-- Taking in a page closes nothing and counts the rows handed on. -/
theorem accept_counts (page : Page) (supply : Supply ρ) (source : σ) :
    (accept page (supply, source)).2.1.closed = supply.closed ∧
    (accept page (supply, source)).2.1.surfaced =
      supply.surfaced + (handedOn ((accept page (supply, source)).1.map some)).length := by
  by_cases fits : page.offset.toNat + page.rows.length < UInt64.size
  · obtain ⟨rows, taken, took, accepted⟩ := accept_of_fits supply source fits
    rw [accepted]
    exact ⟨(take_keeps took).1, (take_keeps took).2.1⟩
  · rw [accept_of_not_fits supply source fits]
    exact ⟨rfl, rfl⟩

/-- Waiting for a request closes nothing and counts the rows handed on. -/
theorem join_counts (state : Supply ρ × σ) :
    (join state).2.1.closed = state.1.closed ∧
    (join state).2.1.surfaced = state.1.surfaced + (handedOn (join state).1).length := by
  obtain ⟨supply, source⟩ := state
  rw [join_apply]
  cases supply.inFlight with
  | none => exact ⟨rfl, rfl⟩
  | some flight =>
    obtain ⟨offset, request⟩ := flight
    dsimp only
    cases joined offset (PageSource.finish request source).1 with
    | ok page => exact accept_counts page { supply with inFlight := none } _
    | error failure => exact ⟨rfl, rfl⟩

/-- Fetching the next page closes nothing and counts the rows handed on. -/
theorem fetchNow_counts (state : Supply ρ × σ) :
    (fetchNow state).2.1.closed = state.1.closed ∧
    (fetchNow state).2.1.surfaced =
      state.1.surfaced + (handedOn ((fetchNow state).1.map some)).length := by
  rw [fetchNow_apply, ← prefetch_closed state, ← prefetch_surfaced state]
  obtain ⟨closed, surfaced⟩ := join_counts (prefetch state)
  refine ⟨closed, surfaced.trans ?_⟩
  cases (join (prefetch state)).1 <;> rfl

/-! ## Related supplies -/

/-- Related supplies learn the same from being closed, and stay related. -/
structure Closing (Rel : Supply ρ × σ → Supply υ × τ → Prop) : Prop where
  options_eq : ∀ {left right}, Rel left right → left.1.options = right.1.options
  ownsStatement_eq : ∀ {left right}, Rel left right → left.1.ownsStatement = right.1.ownsStatement
  closed_eq : ∀ {left right}, Rel left right → left.1.closed = right.1.closed
  shut : ∀ {left right}, Rel left right → left.1.closed = false →
    Rel ({ left.1 with closed := true }, left.2) ({ right.1 with closed := true }, right.2)
  wait : ∀ {left right}, Rel left right → left.1.closed = true → Op.Alike Rel (wait left) (wait right)
  closeResult : ∀ {left right} (limit : Duration), Rel left right → left.1.closed = true →
    left.1.inFlight = none → Op.Alike Rel (ofSource (PageSource.closeResult left.1.statement limit) left)
      (ofSource (PageSource.closeResult right.1.statement limit) right)
  closeStatement : ∀ {left right} (limit : Duration), Rel left right → left.1.closed = true →
    left.1.inFlight = none → Op.Alike Rel (ofSource (PageSource.closeStatement left.1.statement limit) left)
      (ofSource (PageSource.closeStatement right.1.statement limit) right)
  note : ∀ {left right} (event : Event), Rel left right →
    Rel (left.1, PageSource.note .caller event left.2) (right.1, PageSource.note .caller event right.2)
  noteClosed : ∀ {left right}, Rel left right →
    Rel (left.1, PageSource.note .caller (.resultClosed left.1.statement) left.2)
      (right.1, PageSource.note .caller (.resultClosed right.1.statement) right.2)

/-- Related supplies learn the same from every operation, and stay related. -/
structure Likeness (Rel : Supply ρ × σ → Supply υ × τ → Prop) : Prop extends Closing Rel where
  exhausted_eq : ∀ {left right}, Rel left right → left.1.exhausted = right.1.exhausted
  busy_eq : ∀ {left right}, Rel left right → left.1.inFlight.isSome = right.1.inFlight.isSome
  prefetch : ∀ {left right}, Rel left right → left.1.closed = false →
    Rel (prefetch left) (prefetch right)
  join : ∀ {left right}, Rel left right → left.1.closed = false →
    Op.Alike Rel (join left) (join right)

variable {Rel : Supply ρ × σ → Supply υ × τ → Prop}

/-- No request is under way after waiting for it. -/
theorem wait_keeps (state : Supply ρ × σ) : (wait state).2.1.closed = state.1.closed ∧
    (wait state).2.1.statement = state.1.statement ∧ (wait state).2.1.inFlight = none := by
  rw [wait]
  split
  · next idle => exact ⟨rfl, rfl, idle⟩
  · exact ⟨rfl, rfl, rfl⟩

/-- Release the result of a supply, and its statement if that belongs to the result. -/
def release (supply : Supply ρ) : Op Error (Supply ρ × σ) Unit := do
  let limit := supply.options.timeout
  let result ← (ofSource (PageSource.closeResult supply.statement limit)).attempt
  let released ←
    if supply.ownsStatement then
      (ofSource (PageSource.closeStatement supply.statement limit)).attempt
    else pure (.ok ())
  note (.resultClosed supply.statement)
  Op.ofOutcome ((result *> released).mapError .error)

/-- Closing waits out the request under way and then releases. -/
theorem close_of_open {supply : Supply ρ} (source : σ) (isOpen : supply.closed = false) :
    close (supply, source) =
      (do
        match ← wait.attempt with
        | .ok _ => release supply
        | .error cause =>
          note (.fetchDiscarded cause)
          release supply) ({ supply with closed := true }, source) := by
  rw [close, Op.bind_apply, Op.get_apply]
  simp only [isOpen, Bool.false_eq_true, if_false]
  rfl

/-- Closing a closed supply does nothing. -/
theorem close_of_closed {supply : Supply ρ} (source : σ) (closed : supply.closed = true) :
    close (supply, source) = (.ok (), supply, source) := by
  rw [close, Op.bind_apply, Op.get_apply]
  simp only [closed, if_true]
  rfl

/-- Two related supplies that are being closed, with nothing under way any more. -/
structure Shut (Rel : Supply ρ × σ → Supply υ × τ → Prop) (statement statement' : UInt64)
    (left : Supply ρ × σ) (right : Supply υ × τ) : Prop where
  related : Rel left right
  closed : left.1.closed = true
  idle : left.1.inFlight = none
  left_eq : left.1.statement = statement
  right_eq : right.1.statement = statement'

namespace Closing

variable {statement statement' : UInt64} {first : Supply ρ} {second : Supply υ} {left : Supply ρ × σ}
  {right : Supply υ × τ}

private theorem waitShut (closing : Closing Rel) (related : Rel left right) (closed : left.1.closed = true) :
    Op.Alike (Shut Rel left.1.statement right.1.statement) (Supply.wait left) (Supply.wait right) := by
  have waited := closing.wait related closed
  obtain ⟨same, statement, idle⟩ := wait_keeps left
  exact ⟨waited.1, waited.2, same.trans closed, idle, statement, (wait_keeps right).2.1⟩

private theorem noteShut (closing : Closing Rel) (event : Event)
    (shut : Shut Rel statement statement' left right) :
    Op.Alike (Shut Rel statement statement') (Supply.note event left) (Supply.note event right) :=
  ⟨rfl, closing.note event shut.related, shut.closed, shut.idle, shut.left_eq, shut.right_eq⟩

/-- Releasing two related supplies comes to the same. -/
theorem releaseShut (closing : Closing Rel) (options_eq : first.options = second.options)
    (ownsStatement_eq : first.ownsStatement = second.ownsStatement)
    (shut : Shut Rel first.statement second.statement left right) :
    Op.Alike (Shut Rel first.statement second.statement) (release first left) (release second right) := by
  have noted (outcome : Outcome Error Unit) (left : Supply ρ × σ) (right : Supply υ × τ)
      (shut : Shut Rel first.statement second.statement left right) :
      Op.Alike (Shut Rel first.statement second.statement)
        ((do Supply.note (.resultClosed first.statement); Op.ofOutcome outcome : Op Error _ Unit) left)
        ((do Supply.note (.resultClosed second.statement); Op.ofOutcome outcome : Op Error _ Unit) right) := by
    refine ⟨rfl, ?_, shut.closed, shut.idle, shut.left_eq, shut.right_eq⟩
    have related := closing.noteClosed shut.related
    rw [shut.left_eq, shut.right_eq] at related
    exact related
  rw [release, release, ← options_eq, ← ownsStatement_eq]
  refine Op.Alike.bind (Op.Alike.attempt ?_) fun result left right shut => ?_
  · have closed := closing.closeResult first.options.timeout shut.related shut.closed shut.idle
    rw [shut.left_eq, shut.right_eq] at closed
    exact ⟨closed.1, closed.2, shut.closed, shut.idle, shut.left_eq, shut.right_eq⟩
  · split
    · refine Op.Alike.bind (Op.Alike.attempt ?_) fun released left right shut => noted _ _ _ shut
      have closed := closing.closeStatement first.options.timeout shut.related shut.closed shut.idle
      rw [shut.left_eq, shut.right_eq] at closed
      exact ⟨closed.1, closed.2, shut.closed, shut.idle, shut.left_eq, shut.right_eq⟩
    · exact Op.Alike.bind (Op.Alike.pure _ shut) fun released left right shut => noted _ _ _ shut

/-- Closing two related supplies comes to the same, and they are closed then. -/
theorem close (closing : Closing Rel) (related : Rel left right) :
    Op.Alike (fun left right => Rel left right ∧ left.1.closed = true) (Supply.close left)
      (Supply.close right) := by
  obtain ⟨supply, source⟩ := left
  obtain ⟨supply', source'⟩ := right
  have same : supply.closed = supply'.closed := closing.closed_eq related
  cases isOpen : supply.closed with
  | true =>
    rw [close_of_closed source isOpen, close_of_closed source' (same.symm.trans isOpen)]
    exact ⟨rfl, related, isOpen⟩
  | false =>
    rw [close_of_open source isOpen, close_of_open source' (same.symm.trans isOpen)]
    have waited : Op.Alike (Shut Rel supply.statement supply'.statement)
        (Supply.wait ({ supply with closed := true }, source))
        (Supply.wait ({ supply' with closed := true }, source')) :=
      closing.waitShut (closing.shut related isOpen) rfl
    have released (left : Supply ρ × σ) (right : Supply υ × τ)
        (shut : Shut Rel supply.statement supply'.statement left right) :=
      closing.releaseShut (closing.options_eq related) (closing.ownsStatement_eq related) shut
    refine Op.Alike.mono ?_
      fun _ _ (shut : Shut Rel supply.statement supply'.statement _ _) => ⟨shut.related, shut.closed⟩
    refine Op.Alike.bind waited.attempt fun outcome left right shut => ?_
    cases outcome with
    | ok page => exact released left right shut
    | error cause =>
      exact Op.Alike.bind (closing.noteShut _ shut) fun _ left right shut => released left right shut

end Closing

/-- What closing a supply keeps. -/
structure Lasts (Inv : Supply ρ × σ → Prop) : Prop where
  shut : ∀ {state}, Inv state → state.1.closed = false → Inv ({ state.1 with closed := true }, state.2)
  wait : ∀ {state}, Inv state → state.1.closed = true → Inv (wait state).2
  closeResult : ∀ {state} (limit : Duration), Inv state → state.1.closed = true →
    state.1.inFlight = none → Inv (ofSource (PageSource.closeResult state.1.statement limit) state).2
  closeStatement : ∀ {state} (limit : Duration), Inv state → state.1.closed = true →
    state.1.inFlight = none → Inv (ofSource (PageSource.closeStatement state.1.statement limit) state).2
  note : ∀ {state} (event : Event), Inv state → Inv (state.1, PageSource.note .caller event state.2)

/-- An invariant relates a supply to itself. -/
def Same (Inv : Supply ρ × σ → Prop) (left right : Supply ρ × σ) : Prop := left = right ∧ Inv left

theorem Lasts.closing {Inv : Supply ρ × σ → Prop} (lasts : Lasts Inv) : Closing (Same Inv) where
  options_eq related := by rw [related.1]
  ownsStatement_eq related := by rw [related.1]
  closed_eq related := by rw [related.1]
  shut := by
    rintro left _ ⟨rfl, inv⟩ isOpen
    exact ⟨rfl, lasts.shut inv isOpen⟩
  wait := by
    rintro left _ ⟨rfl, inv⟩ closed
    exact ⟨rfl, rfl, lasts.wait inv closed⟩
  closeResult := by
    rintro left _ limit ⟨rfl, inv⟩ closed idle
    exact ⟨rfl, rfl, lasts.closeResult limit inv closed idle⟩
  closeStatement := by
    rintro left _ limit ⟨rfl, inv⟩ closed idle
    exact ⟨rfl, rfl, lasts.closeStatement limit inv closed idle⟩
  note := by
    rintro left _ event ⟨rfl, inv⟩
    exact ⟨rfl, lasts.note event inv⟩
  noteClosed := by
    rintro left _ ⟨rfl, inv⟩
    exact ⟨rfl, lasts.note _ inv⟩

theorem Lasts.likeness {Inv : Supply ρ × σ → Prop} (lasts : Lasts Inv)
    (prefetch : ∀ {state}, Inv state → state.1.closed = false → Inv (prefetch state))
    (join : ∀ {state}, Inv state → state.1.closed = false → Inv (join state).2) :
    Likeness (Same Inv) where
  toClosing := lasts.closing
  exhausted_eq related := by rw [related.1]
  busy_eq related := by rw [related.1]
  prefetch := by
    rintro left _ ⟨rfl, inv⟩ isOpen
    exact ⟨rfl, prefetch inv isOpen⟩
  join := by
    rintro left _ ⟨rfl, inv⟩ isOpen
    exact ⟨rfl, rfl, join inv isOpen⟩

/-- Closing hands nothing on. -/
theorem close_surfaced (state : Supply ρ × σ) : (close state).2.1.surfaced = state.1.surfaced := by
  have lasts : Lasts fun now : Supply ρ × σ => now.1.surfaced = state.1.surfaced :=
    { shut := fun same _ => same
      wait := fun same _ => by
        refine Eq.trans ?_ same
        rw [wait]
        split <;> rfl
      closeResult := fun _ same _ _ => same
      closeStatement := fun _ same _ _ => same
      note := fun _ same => same }
  exact (lasts.closing.close ⟨rfl, rfl⟩).2.1.2

/-- The next page arrives at both supplies or at neither. -/
theorem Likeness.fetchNow (likeness : Likeness Rel) {left : Supply ρ × σ} {right : Supply υ × τ}
    (related : Rel left right) (isOpen : left.1.closed = false) {outcome : Outcome Error (List Row)}
    {after : Supply ρ × σ} (fetched : Supply.fetchNow left = (outcome, after)) :
    ∃ after', Supply.fetchNow right = (outcome, after') ∧ Rel after after' ∧ after.1.closed = false ∧
      after.1.surfaced = left.1.surfaced + (handedOn (outcome.map some)).length := by
  have begun := likeness.prefetch related isOpen
  have joined := likeness.join begun ((prefetch_closed left).trans isOpen)
  obtain ⟨closed, surfaced⟩ := fetchNow_counts left
  rw [fetched] at closed surfaced
  rw [fetchNow_apply] at fetched
  obtain ⟨rfl, rfl⟩ := Prod.mk.inj fetched
  refine ⟨_, fetchNow_apply right |>.trans ?_, joined.2, closed.trans isOpen, surfaced⟩
  rw [joined.1]

end Supply

end PagedResults
