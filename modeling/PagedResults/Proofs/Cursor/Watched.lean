import PagedResults.Proofs.Cursor.Likeness

/-! # Watching a source

A watched source does what the source does and keeps a record of everything it is asked and answers. A
cursor cannot tell that it is watched, so that the record tells what any cursor does to any source.
-/

namespace PagedResults

/-- What passes between a cursor and its source. A request has ended when its result is waited for and
known. -/
inductive Contact where
  | started (request : PageRequest)
  | ended (request : PageRequest) (outcome : Outcome Error Page)
  | resultClosed (statement : UInt64) (outcome : Outcome Error Unit)
  | statementClosed (statement : UInt64) (outcome : Outcome Error Unit)

namespace Contact

def started? : Contact → Option PageRequest
  | started request => some request
  | _ => none

def ended? : Contact → Option (PageRequest × Outcome Error Page)
  | ended request outcome => some (request, outcome)
  | _ => none

/-- The page that a request was answered with. -/
def answered? : Contact → Option Page
  | ended _ (.ok page) => some page
  | _ => none

end Contact

/-- A source and the contacts with it so far. -/
structure Watched (σ : Type) where
  source : σ
  contacts : List Contact := []

namespace Watched

variable {σ ρ : Type}

/-- One more contact. -/
def push (contact : Contact) (source : σ) (watched : Watched σ) : Watched σ :=
  ⟨source, watched.contacts ++ [contact]⟩

instance [PageSource σ ρ] : PageSource (Watched σ) (PageRequest × ρ) where
  start request watched :=
    let (handle, source) := PageSource.start request watched.source
    ((request, handle), watched.push (.started request) source)
  finish request := fun watched =>
    let (outcome, source) := PageSource.finish request.2 watched.source
    (outcome, watched.push (.ended request.1 outcome) source)
  closeResult statement limit := fun watched =>
    let (outcome, source) := PageSource.closeResult statement limit watched.source
    (outcome, watched.push (.resultClosed statement outcome) source)
  closeStatement statement limit := fun watched =>
    let (outcome, source) := PageSource.closeStatement statement limit watched.source
    (outcome, watched.push (.statementClosed statement outcome) source)
  note thread event watched := { watched with source := PageSource.note thread event watched.source }

variable [PageSource σ ρ]

theorem noteAll_eq (thread : Thread) (events : List Event) (watched : Watched σ) :
    PageSource.noteAll thread events watched =
      { watched with source := PageSource.noteAll thread events watched.source } := by
  induction events generalizing watched with
  | nil => rfl
  | cons event events ih => exact ih _

/-! ## Watching changes nothing -/

/-- What is left of a supply when nobody watches. -/
def unwatched (state : Supply (PageRequest × ρ) × Watched σ) : Supply ρ × σ :=
  ({ state.1 with inFlight := state.1.inFlight.map fun (offset, request) => (offset, request.2) },
    state.2.source)

/-- A watched supply, and the same without the watch. -/
def Unwatches (left : Supply (PageRequest × ρ) × Watched σ) (right : Supply ρ × σ) : Prop :=
  right = unwatched left

private theorem wait_unwatched (state : Supply (PageRequest × ρ) × Watched σ) :
    Op.Alike Unwatches (Supply.wait state) (Supply.wait (unwatched state)) := by
  obtain ⟨supply, watched⟩ := state
  cases started : supply.inFlight with
  | none => simp only [Op.Alike, Unwatches, unwatched, Supply.wait, started, Option.map_none, and_self]
  | some flight =>
    obtain ⟨offset, request⟩ := flight
    simp only [Op.Alike, Unwatches, unwatched, Supply.wait, started, Option.map_some]
    exact ⟨rfl, rfl⟩

private theorem prefetch_unwatched (state : Supply (PageRequest × ρ) × Watched σ) :
    Unwatches (Supply.prefetch state) (Supply.prefetch (unwatched state)) := by
  obtain ⟨supply, watched⟩ := state
  by_cases busy : supply.exhausted = true ∨ supply.inFlight.isSome = true
  · have busy' : (unwatched (supply, watched)).1.exhausted = true ∨
        (unwatched (supply, watched)).1.inFlight.isSome = true :=
      busy.imp_right fun isSome => (Option.isSome_map ..).trans isSome
    rw [Supply.prefetch_busy supply watched busy]
    exact Supply.prefetch_busy _ _ busy'
  · obtain ⟨more, idle⟩ : supply.exhausted = false ∧ supply.inFlight = none := by
      simpa [not_or] using busy
    have idle' : (unwatched (supply, watched)).1.inFlight = none := by
      simp only [unwatched, idle, Option.map_none]
    rw [Supply.prefetch_idle supply watched more idle]
    exact Supply.prefetch_idle (unwatched (supply, watched)).1 watched.source more idle'

private theorem accept_unwatched (page : Page) (state : Supply (PageRequest × ρ) × Watched σ) :
    Op.Alike Unwatches (Supply.accept page state) (Supply.accept page (unwatched state)) := by
  obtain ⟨supply, watched⟩ := state
  rw [unwatched, Supply.accept, Supply.accept, noteAll_eq]
  cases advanced : advance page.offset page.rows.length with
  | ok nextOffset =>
    simp only [Supply.take_of_advance _ advanced]
    exact ⟨rfl, rfl⟩
  | error reason =>
    simp only [Supply.take, advanced]
    exact ⟨rfl, rfl⟩

private theorem join_unwatched (state : Supply (PageRequest × ρ) × Watched σ) :
    Op.Alike Unwatches (Supply.join state) (Supply.join (unwatched state)) := by
  refine Op.Alike.bind (wait_unwatched state) ?_
  rintro (_ | page) left right related
  · exact Op.Alike.pure _ related
  · rw [Unwatches] at related
    subst related
    exact (accept_unwatched page left).map some

theorem unwatched_likeness : Supply.Likeness (@Unwatches σ ρ) where
  options_eq := by rintro left _ rfl; rfl
  ownsStatement_eq := by rintro left _ rfl; rfl
  closed_eq := by rintro left _ rfl; rfl
  exhausted_eq := by rintro left _ rfl; rfl
  busy_eq := by rintro left _ rfl; exact (Option.isSome_map ..).symm
  shut := by rintro left _ rfl -; rfl
  wait := by rintro left _ rfl -; exact wait_unwatched left
  closeResult := by rintro left _ limit rfl - -; exact ⟨rfl, rfl⟩
  closeStatement := by rintro left _ limit rfl - -; exact ⟨rfl, rfl⟩
  note := by rintro left _ event rfl; rfl
  noteClosed := by rintro left _ rfl; rfl
  prefetch := by rintro left _ rfl -; exact prefetch_unwatched left
  join := by rintro left _ rfl -; exact join_unwatched left

/-- The first page of a result is taken in whether or not the source is watched. -/
theorem ofFirst_unwatched {first : Page} (statement : UInt64) (options : FetchOptions)
    (ownsStatement : Bool) (source : σ)
    (fits : first.offset.toNat + first.rows.length < UInt64.size) :
    ∃ rows supply watched unwatched,
      Supply.ofFirst statement first options ownsStatement (⟨source, []⟩ : Watched σ) =
        (.ok rows, supply, watched) ∧
      Supply.take first { statement, options, ownsStatement, nextOffset := first.offset } =
        .ok (rows, supply) ∧
      watched.contacts = [] ∧
      Supply.ofFirst statement first options ownsStatement source = (.ok rows, unwatched) ∧
      Unwatches (supply, watched) unwatched := by
  obtain ⟨rows, supply, took, accepted⟩ := Supply.accept_of_fits
    { statement, options, ownsStatement, nextOffset := first.offset } (⟨source, []⟩ : Watched σ) fits
  have both := accept_unwatched first
    ({ statement, options, ownsStatement, nextOffset := first.offset }, (⟨source, []⟩ : Watched σ))
  rw [accepted] at both
  refine ⟨rows, supply, _, _, accepted, took, by rw [noteAll_eq], ?_, both.2⟩
  exact Prod.ext both.1.symm rfl

end Watched

end PagedResults
