import PagedResults.Proofs.Cursor.Likeness
import PagedResults.Proofs.Session.Attached

/-! # A result keeps to its statement

What is done with a result concerns its own statement and no other one. Where the same result is open on two
clients, under ids that may differ, it goes through the same on both, whatever else they have open or under
way.
-/

namespace PagedResults

namespace Supply

section Steps

variable {ρ : Type} {table : Table} {supply : Supply ρ}

/-- What the request for the next page comes to, over an open result. -/
def answer (table : Table) (supply : Supply ρ) : Outcome Error Page :=
  Page.ofWire table.columns.length (table.page supply.nextOffset supply.options.effectiveFetchSize)

/-- The supply with a request for the next page under way. -/
def asking (ticket : ρ) (supply : Supply ρ) : Supply ρ :=
  { supply with
    inFlight := some (supply.nextOffset, ticket)
    fetches := supply.fetches + 1 }

/-- The supply with the next page requested, unless a request is under way or no page follows. -/
def begun (ticket : ρ) (supply : Supply ρ) : Supply ρ :=
  if supply.exhausted || supply.inFlight.isSome then supply else supply.asking ticket

/-- What waiting for the request under way comes to. -/
def waited (table : Table) (supply : Supply ρ) : Outcome Error (Option Page) :=
  match supply.inFlight with
  | none => .ok none
  | some (offset, _) => (joined offset (supply.answer table)).map some

/-- The supply with no request under way. -/
def idle (supply : Supply ρ) : Supply ρ := { supply with inFlight := none }

/-- What taking in the page under way comes to. -/
def arrived (table : Table) (supply : Supply ρ) : Outcome Error (Option (List Row)) × Supply ρ :=
  match supply.waited table with
  | .error failure => (.error failure, supply.idle)
  | .ok none => (.ok none, supply.idle)
  | .ok (some page) =>
      match supply.idle.take page with
      | .ok (rows, taken) => (.ok (some rows), taken)
      | .error reason => (Outcome.halt reason, supply.idle)

/-- A page that was waited for is the one that was asked for. -/
theorem answer_of_waited {page : Page} (came : supply.waited table = .ok (some page)) :
    supply.answer table = .ok page := by
  rw [waited] at came
  split at came
  · cases came
  · rcases asked : supply.answer table with (cause | reason) | other
    · rw [asked] at came
      cases came
    · rw [asked] at came
      cases reason <;> cases came
    · rw [asked] at came
      exact congrArg _ (Option.some.inj (Except.ok.inj came))

private theorem idle_eq (nothing : supply.inFlight = none) : supply.idle = supply := by
  rw [idle, ← nothing]

/-! What a supply is, whatever its statement and its ticket. -/

/-- The supply without its statement and its ticket. -/
def face (supply : Supply ρ) : Supply Unit :=
  { supply with
    statement := 0
    inFlight := supply.inFlight.map fun (offset, _) => (offset, ()) }

private theorem isSome_face (supply : Supply ρ) : supply.face.inFlight.isSome = supply.inFlight.isSome :=
  Option.isSome_map

private theorem busy_face : (supply.face.exhausted || supply.face.inFlight.isSome) =
    (supply.exhausted || supply.inFlight.isSome) := by
  rw [isSome_face]
  rfl

private theorem waited_face : supply.face.waited table = supply.waited table := by
  rw [waited, waited, face]
  cases supply.inFlight <;> rfl

private theorem take_face (page : Page) : supply.face.take page =
    (supply.take page).map fun (rows, taken) => (rows, taken.face) := by
  rw [take, take]
  cases advance page.offset page.rows.length <;> rfl

private theorem arrived_face : supply.face.arrived table = ((supply.arrived table).1, (supply.arrived table).2.face) := by
  have idle_face : supply.face.idle = supply.idle.face := rfl
  rw [arrived, arrived, waited_face, idle_face]
  rcases supply.waited table with failure | none | page
  · rfl
  · rfl
  · dsimp only
    rw [take_face]
    cases supply.idle.take page <;> rfl

end Steps

open Attached

variable {σ ρ : Type} [Attached σ ρ] {data : Dataset} {own : UInt64} {spare : Nat} {table : Table} {ground source : σ}
  {supply : Supply ρ}

/-- The supply of a result that keeps to its statement `own`, over a client that was `ground` before. -/
structure Keeps (data : Dataset) (own : UInt64) (table : Table) (spare : Nat) (ground : σ) (state : Supply ρ × σ) :
    Prop where
  statement_eq : state.1.statement = own
  rests : Rests data spare state.2
  spares : Spares own ground state.2
  given : own.toNat ≤ (talk state.2).latest.toNat
  shows : state.1.closed = false → (talk state.2).Shows own table
  arity_eq : state.1.closed = false → (arities state.2).lookup own = some table.columns.length
  fits : ∀ page ∈ table.pagesFrom 0 state.1.options.effectiveFetchSize, (Response.page page).Fits
  reaches : table.Reaches state.1.options.effectiveFetchSize state.1.nextOffset.toNat
  free : state.1.inFlight = none → Free own state.2
  awaits : ∀ offset ticket, state.1.inFlight = some (offset, ticket) →
    offset = state.1.nextOffset ∧ Awaits ticket state.1.request table state.2

namespace Keeps

/-- Something is done with another statement of the client. -/
theorem elsewhere {other : UInt64} {more : Nat} {after : σ}
    (keeps : Keeps data own table spare ground (supply, source)) (rests : Rests data more after)
    (spares : Spares other source after) (differs : own ≠ other) :
    Keeps data own table more after (supply, after) :=
  { keeps with
    rests
    spares := .refl own after
    given := keeps.given.trans spares.latest_le
    shows := fun isOpen => by
      obtain ⟨sql, known⟩ := keeps.shows isOpen
      exact ⟨sql, (spares.statement_eq own keeps.given differs).trans known⟩
    arity_eq := fun isOpen => (spares.arity_eq own keeps.given differs).trans (keeps.arity_eq isOpen)
    free := fun nothing => spares.free own keeps.given differs (keeps.free nothing)
    awaits := fun offset ticket flying => by
      obtain ⟨offset_eq, awaits⟩ := keeps.awaits offset ticket flying
      have own_eq : supply.request.statement = own := keeps.statement_eq
      exact ⟨offset_eq, spares.awaits ticket _ table (own_eq ▸ keeps.given) (own_eq ▸ differs) awaits⟩ }

/-- What comes next is measured from here. -/
theorem afresh (keeps : Keeps data own table spare ground (supply, source)) :
    Keeps data own table spare source (supply, source) :=
  { keeps with spares := .refl own source }

/-- Of a closed supply with no page under way, the statement and the result can be released. -/
private theorem released {after : σ} (keeps : Keeps data own table spare ground (supply, source))
    (closed : supply.closed = true) (nothing : supply.inFlight = none) (rests : Rests data spare after)
    (spares : Spares own source after) (free : Free own after) :
    Keeps data own table spare ground (supply, after) := by
  have never {prop : Prop} (isOpen : supply.closed = false) : prop := by
    rw [closed] at isOpen
    cases isOpen
  exact { keeps with
    rests
    spares := keeps.spares.trans spares
    given := keeps.given.trans spares.latest_le
    shows := never
    arity_eq := never
    free := fun _ => free
    awaits := fun offset ticket flying => by
      change supply.inFlight = _ at flying
      rw [nothing] at flying
      cases flying }

/-- A supply that is to be closed. -/
theorem shut (keeps : Keeps data own table spare ground (supply, source)) :
    Keeps data own table spare ground ({ supply with closed := true }, source) :=
  { keeps with shows := nofun, arity_eq := nofun }

variable [Faithful σ]

theorem mono {fewer : Nat} (keeps : Keeps data own table spare ground (supply, source)) (le : fewer ≤ spare) :
    Keeps data own table fewer ground (supply, source) :=
  { keeps with rests := Faithful.mono keeps.rests le }

theorem note (keeps : Keeps data own table spare ground (supply, source)) (thread : Thread) (event : Event) :
    Keeps data own table spare ground (supply, PageSource.note thread event source) := by
  obtain ⟨rests, still⟩ := Faithful.note thread event keeps.rests
  exact { keeps with
    rests
    spares := keeps.spares.trans (still.spares own)
    given := by rw [still.talk_eq]; exact keeps.given
    shows := by rw [still.talk_eq]; exact keeps.shows
    arity_eq := by rw [still.arities_eq]; exact keeps.arity_eq
    free := fun nothing => still.free own (keeps.free nothing)
    awaits := fun offset ticket flying => by
      obtain ⟨offset_eq, awaits⟩ := keeps.awaits offset ticket flying
      exact ⟨offset_eq, still.awaits ticket _ table awaits⟩ }

theorem noteAll (keeps : Keeps data own table spare ground (supply, source)) (thread : Thread)
    (events : List Event) :
    Keeps data own table spare ground (supply, PageSource.noteAll thread events source) := by
  induction events generalizing source with
  | nil => exact keeps
  | cons event rest ih => exact ih (keeps.note thread event)

/-- Requesting a page. -/
theorem start (keeps : Keeps data own table spare ground (supply, source)) (isOpen : supply.closed = false)
    (nothing : supply.inFlight = none) :
    ∃ ticket after, PageSource.start supply.request source = (ticket, after) ∧
      Keeps data own table spare ground (supply.asking ticket, after) := by
  have own_eq : supply.request.statement = own := keeps.statement_eq
  have shows : (talk source).Shows supply.request.statement table := own_eq ▸ keeps.shows isOpen
  have arity_eq : (arities source).lookup supply.request.statement = some table.columns.length :=
    own_eq ▸ keeps.arity_eq isOpen
  have free : Free supply.request.statement source := own_eq ▸ keeps.free nothing
  obtain ⟨ticket, after, started, rests, spares, talk_eq, arities_eq, awaits⟩ :=
    Faithful.start keeps.rests shows arity_eq (keeps.reaches.fits keeps.fits) free
  rw [own_eq] at spares
  refine ⟨ticket, after, started, ?_⟩
  exact { keeps with
    rests
    spares := keeps.spares.trans spares
    given := by rw [talk_eq]; exact keeps.given
    shows := by rw [talk_eq]; exact keeps.shows
    arity_eq := by rw [arities_eq]; exact keeps.arity_eq
    free := nofun
    awaits := by
      rintro _ _ ⟨⟩
      exact ⟨rfl, awaits⟩ }

theorem prefetch (keeps : Keeps data own table spare ground (supply, source)) (isOpen : supply.closed = false) :
    ∃ begun after, Supply.prefetch (supply, source) = (begun, after) ∧ begun.face = supply.face.begun () ∧
      Keeps data own table spare ground (begun, after) := by
  rw [begun, busy_face, Supply.prefetch]
  cases busy : supply.exhausted || supply.inFlight.isSome with
  | true => exact ⟨supply, source, rfl, rfl, keeps⟩
  | false =>
    have nothing : supply.inFlight = none := Option.not_isSome_iff_eq_none.mp (by simp_all)
    obtain ⟨ticket, after, started, kept⟩ :=
      (keeps.note .fetch (.fetching supply.statement supply.nextOffset)).start isOpen nothing
    dsimp only
    rw [started]
    exact ⟨_, _, rfl, rfl, kept.note .caller (.prefetching supply.statement supply.nextOffset)⟩

/-- Waiting for the request under way. -/
theorem wait (keeps : Keeps data own table spare ground (supply, source)) :
    ∃ after, Supply.wait (supply, source) = (supply.waited table, supply.idle, after) ∧
      Keeps data own table spare ground (supply.idle, after) := by
  rw [Supply.wait, waited]
  cases flying : supply.inFlight with
  | none =>
    rw [idle_eq flying]
    exact ⟨source, rfl, keeps⟩
  | some flight =>
    obtain ⟨offset, ticket⟩ := flight
    have own_eq : supply.request.statement = own := keeps.statement_eq
    obtain ⟨-, awaits⟩ := keeps.awaits offset ticket flying
    obtain ⟨after, finished, rests, spares, talk_eq, arities_eq, free⟩ := Faithful.finish keeps.rests awaits
    rw [own_eq] at spares free
    dsimp only
    rw [finished]
    refine ⟨after, rfl, ?_⟩
    exact { keeps with
      rests
      spares := keeps.spares.trans spares
      given := by rw [talk_eq]; exact keeps.given
      shows := by rw [talk_eq]; exact keeps.shows
      arity_eq := by rw [arities_eq]; exact keeps.arity_eq
      free := fun _ => free
      awaits := by rintro _ _ ⟨⟩ }

/-- Taking in a page that was asked for. -/
theorem accept {page : Page} (keeps : Keeps data own table spare ground (supply, source))
    (nothing : supply.inFlight = none) (addressable : table.rows.length < UInt64.size)
    (read : supply.answer table = .ok page) :
    ∃ rows taken after, supply.take page = .ok (rows, taken) ∧
      Supply.accept page (supply, source) = (.ok rows, taken, after) ∧
      Keeps data own table spare ground (taken, after) := by
  obtain ⟨offset_eq, length_eq⟩ := Page.ofWire_keeps read
  have inside : supply.nextOffset.toNat ≤ table.rows.length := keeps.reaches.inside
  -- the page lies inside the table, so the place behind it does not wrap around
  have fits : page.offset.toNat + page.rows.length < UInt64.size := by
    rw [offset_eq, length_eq, Table.page, Table.toNat_offset_pageFrom inside addressable,
      Table.length_pageFrom inside]
    omega
  have advanced : advance page.offset page.rows.length =
      .ok (table.page supply.nextOffset supply.options.effectiveFetchSize).next := by
    rw [advance, if_pos fits, offset_eq, length_eq]
    rfl
  have took := supply.take_of_advance advanced
  have noted := keeps.noteAll .caller (supply.remarks page)
  refine ⟨_, _, PageSource.noteAll .caller (supply.remarks page) source, took, ?_, ?_⟩
  · rw [Supply.accept]
    simp only [took]
  · exact { noted with
      reaches := keeps.reaches.behind addressable
      awaits := fun offset ticket flying => by
        change supply.inFlight = _ at flying
        rw [nothing] at flying
        cases flying }

/-- Taking in the page under way. -/
theorem join (keeps : Keeps data own table spare ground (supply, source))
    (addressable : table.rows.length < UInt64.size) :
    ∃ after, Supply.join (supply, source) = ((supply.arrived table).1, (supply.arrived table).2, after) ∧
      Keeps data own table spare ground ((supply.arrived table).2, after) := by
  obtain ⟨after, waits, idle⟩ := keeps.wait
  rw [Supply.join, Op.bind_apply, waits, Supply.arrived]
  rcases came : supply.waited table with failure | none | page
  · exact ⟨after, rfl, idle⟩
  · exact ⟨after, rfl, idle⟩
  · have read : supply.answer table = .ok page := Supply.answer_of_waited came
    obtain ⟨rows, taken, after, took, accepted, kept⟩ := idle.accept rfl addressable read
    dsimp only
    rw [took, Op.map_apply, accepted]
    exact ⟨after, rfl, kept⟩

omit [Attached σ ρ] [Faithful σ] in
private theorem ofSource_apply (operation : Op Error σ Unit) (supply : Supply ρ) (source : σ) :
    ofSource operation (supply, source) = ((operation source).1, supply, (operation source).2) := rfl

/-- A closed supply releases its result. -/
theorem closeResult (keeps : Keeps data own table spare ground (supply, source)) (closed : supply.closed = true)
    (nothing : supply.inFlight = none) (limit : Duration) :
    ∃ after, Supply.ofSource (PageSource.closeResult supply.statement limit) (supply, source) =
        (.ok (), supply, after) ∧ Keeps data own table spare ground (supply, after) := by
  obtain ⟨after, released, rests, spares, -, free⟩ := Faithful.closeResult keeps.rests (keeps.free nothing) limit
  dsimp only at released
  refine ⟨after, ?_, keeps.released closed nothing rests spares free⟩
  rw [show supply.statement = own from keeps.statement_eq, ofSource_apply, released]

/-- A closed supply releases its statement, which the server forgets. -/
theorem closeStatement (keeps : Keeps data own table spare ground (supply, source)) (closed : supply.closed = true)
    (nothing : supply.inFlight = none) (limit : Duration) :
    ∃ after, Supply.ofSource (PageSource.closeStatement supply.statement limit) (supply, source) =
        (.ok (), supply, after) ∧ Keeps data own table spare ground (supply, after) ∧
      talk after = (talk source).dropStatement own := by
  obtain ⟨after, released, rests, spares, dropped, free⟩ :=
    Faithful.closeStatement keeps.rests (keeps.free nothing) limit
  dsimp only at released
  refine ⟨after, ?_, keeps.released closed nothing rests spares free, dropped⟩
  rw [show supply.statement = own from keeps.statement_eq, ofSource_apply, released]

end Keeps

/-! ## The same result on two clients -/

variable {τ υ : Type} [Attached τ υ] {own' : UInt64} {spare' : Nat} {ground' : τ}
  {left : Supply ρ × σ} {right : Supply υ × τ}

/-- The supplies of the same result on two clients, each with its own statement. -/
structure Twins (data : Dataset) (table : Table) (own own' : UInt64) (spare spare' : Nat) (ground : σ) (ground' : τ)
    (left : Supply ρ × σ) (right : Supply υ × τ) : Prop where
  same : left.1.face = right.1.face
  left : Keeps data own table spare ground left
  right : Keeps data own' table spare' ground' right

theorem Twins.closed_eq (twins : Twins data table own own' spare spare' ground ground' left right) :
    left.1.closed = right.1.closed :=
  congrArg (·.closed) twins.same

theorem Twins.idle (twins : Twins data table own own' spare spare' ground ground' left right)
    (nothing : left.1.inFlight = none) : right.1.inFlight = none := by
  have busy_eq : right.1.inFlight.isSome = left.1.inFlight.isSome := by
    rw [← isSome_face, ← twins.same, isSome_face]
  rw [nothing] at busy_eq
  exact Option.not_isSome_iff_eq_none.mp (Bool.eq_false_iff.mp busy_eq)

variable [Faithful σ] [Faithful τ]

/-- Nobody can tell a result on one client from the same result on another one. -/
theorem twins_likeness (addressable : table.rows.length < UInt64.size) :
    Likeness (Twins data table own own' spare spare' ground ground') where
  options_eq twins := congrArg (·.options) twins.same
  ownsStatement_eq twins := congrArg (·.ownsStatement) twins.same
  closed_eq twins := congrArg (·.closed) twins.same
  exhausted_eq twins := congrArg (·.exhausted) twins.same
  busy_eq twins := by rw [← isSome_face, twins.same, isSome_face]
  shut twins _ := ⟨congrArg (fun face => { face with closed := true }) twins.same, twins.left.shut, twins.right.shut⟩
  wait {left right} twins closed := by
    obtain ⟨after, waits, kept⟩ := twins.left.wait
    obtain ⟨after', waits', kept'⟩ := twins.right.wait
    have came : left.1.waited table = right.1.waited table := by rw [← waited_face, twins.same, waited_face]
    rw [waits, waits', came]
    exact ⟨rfl, congrArg idle twins.same, kept, kept'⟩
  closeResult {left right} limit twins closed nothing := by
    obtain ⟨after, done, kept⟩ := twins.left.closeResult closed nothing limit
    obtain ⟨after', done', kept'⟩ := twins.right.closeResult (twins.closed_eq ▸ closed) (twins.idle nothing) limit
    rw [done, done']
    exact ⟨rfl, twins.same, kept, kept'⟩
  closeStatement {left right} limit twins closed nothing := by
    obtain ⟨after, done, kept, -⟩ := twins.left.closeStatement closed nothing limit
    obtain ⟨after', done', kept', -⟩ :=
      twins.right.closeStatement (twins.closed_eq ▸ closed) (twins.idle nothing) limit
    rw [done, done']
    exact ⟨rfl, twins.same, kept, kept'⟩
  note event twins := ⟨twins.same, twins.left.note .caller event, twins.right.note .caller event⟩
  noteClosed twins := ⟨twins.same, twins.left.note .caller _, twins.right.note .caller _⟩
  prefetch twins isOpen := by
    obtain ⟨begun, after, begins, face_eq, kept⟩ := twins.left.prefetch isOpen
    obtain ⟨begun', after', begins', face_eq', kept'⟩ := twins.right.prefetch (twins.closed_eq ▸ isOpen)
    rw [begins, begins']
    exact ⟨by rw [face_eq, face_eq', twins.same], kept, kept'⟩
  join twins _ := by
    obtain ⟨after, joined, kept⟩ := twins.left.join addressable
    obtain ⟨after', joined', kept'⟩ := twins.right.join addressable
    have same := arrived_face.symm.trans ((congrArg (arrived table) twins.same).trans arrived_face)
    obtain ⟨came, left_behind⟩ := Prod.mk.inj same
    rw [joined, joined']
    exact ⟨came, left_behind, kept, kept'⟩

/-- The first page of the same result is taken in alike. -/
theorem Twins.accept {page : Page} (twins : Twins data table own own' spare spare' ground ground' left right)
    (nothing : left.1.inFlight = none) (addressable : table.rows.length < UInt64.size)
    (read : left.1.answer table = .ok page) :
    ∃ rows taken taken', Supply.accept page left = (.ok rows, taken) ∧ Supply.accept page right = (.ok rows, taken') ∧
      Twins data table own own' spare spare' ground ground' taken taken' := by
  have same : left.1.answer table = right.1.answer table := congrArg (answer table) twins.same
  obtain ⟨rows, taken, after, took, accepted, kept⟩ := twins.left.accept nothing addressable read
  obtain ⟨rows', taken', after', took', accepted', kept'⟩ :=
    twins.right.accept (twins.idle nothing) addressable (same ▸ read)
  have faces : left.1.face.take page = (left.1.take page).map fun (rows, taken) => (rows, taken.face) := take_face page
  rw [twins.same, take_face, took, took'] at faces
  obtain ⟨rfl, face_eq⟩ := Prod.mk.inj (Except.ok.inj faces)
  exact ⟨_, (taken, after), (taken', after'), accepted, accepted', face_eq.symm, kept, kept'⟩

end Supply

end PagedResults
