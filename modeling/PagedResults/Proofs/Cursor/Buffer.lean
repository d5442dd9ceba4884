import PagedResults.Proofs.Cursor.Life

/-! # How many rows a forward cursor holds

A forward cursor takes in a page only when it has no row at hand, however early the page was requested and
whoever needs it: a call of `next` that begins to fetch ahead, one that finds nothing left, or the question
whether the current row is the last one. `ForwardCursor.Draws` says so about one call over any source. Where
no request is answered with more rows than it asked for, a cursor therefore never holds more rows than its
first page or one page of the size asked for.
-/

namespace PagedResults

namespace Contact

/-- It is no answer with more rows than the request asked for. -/
def isModerate : Contact → Bool
  | ended request (.ok page) => page.rows.length ≤ request.size.toNat
  | _ => true

/-- No request was answered with more rows than it asked for. -/
def Moderate (contacts : List Contact) : Prop := ∀ contact ∈ contacts, contact.isModerate = true

instance (contacts : List Contact) : Decidable (Moderate contacts) :=
  inferInstanceAs (Decidable (∀ contact ∈ contacts, contact.isModerate = true))

theorem Moderate.of_append {before later : List Contact} (moderate : Moderate (before ++ later)) :
    Moderate before :=
  fun contact member => moderate contact (List.mem_append_left later member)

theorem Moderate.length_le {contacts : List Contact} (moderate : Moderate contacts) {request : PageRequest}
    {page : Page} (member : .ended request (.ok page) ∈ contacts) :
    page.rows.length ≤ request.size.toNat :=
  of_decide_eq_true (moderate _ member)

/-- An accepted page is the answer to a request. -/
theorem exists_ended {contacts : List Contact} {page : Page} (member : page ∈ accepted contacts) :
    ∃ request, .ended request (.ok page) ∈ contacts := by
  obtain ⟨contact, recorded, answered⟩ := List.mem_filterMap.mp (List.mem_filter.mp member).1
  obtain ⟨request, rfl⟩ := Cursor.answered?_eq_some answered
  exact ⟨request, recorded⟩

end Contact

namespace Supply

variable {σ ρ : Type} [PageSource σ ρ] (state : Supply (PageRequest × ρ) × Watched σ)

/-- A request that is begun brings no page yet. -/
theorem prefetch_accepted : ∃ contacts, (prefetch state).2.contacts = state.2.contacts ++ contacts ∧
    Contact.accepted contacts = [] := by
  rcases prefetch_watched state with same | ⟨-, request, -, contacts_eq⟩
  · exact ⟨[], by rw [same, List.append_nil], rfl⟩
  · exact ⟨[.started request], contacts_eq, rfl⟩

/-- Fetching the next page accepts one page and hands on rows of it, or it accepts none and hands on
nothing. -/
theorem fetchNow_accepted : ∃ contacts, (fetchNow state).2.2.contacts = state.2.contacts ++ contacts ∧
    ((Contact.accepted contacts = [] ∧ handedOn ((fetchNow state).1.map some) = []) ∨
      ∃ page rows, Contact.accepted contacts = [page] ∧ rows <+: page.rows ∧
        (fetchNow state).1 = .ok rows) := by
  obtain ⟨begun, begun_eq, unanswered⟩ := prefetch_accepted state
  rw [fetchNow_apply]
  rcases join_watched (prefetch state) with idle | ⟨offset, request, outcome, -, contacts_eq, settles⟩
  · exact ⟨begun, by rw [idle]; exact begun_eq, .inl ⟨unanswered, by rw [idle]; rfl⟩⟩
  · refine ⟨begun ++ [.ended request.1 outcome], ?_, ?_⟩
    · rw [← List.append_assoc, ← begun_eq]
      exact contacts_eq
    · rcases settles with ⟨page, rows, rfl, fits, answer, took⟩ | ⟨unfit, ⟨failure, answer⟩, -⟩
      · obtain ⟨-, -, rfl, -⟩ := take_eq_ok took
        refine .inr ⟨page, _, ?_, List.take_prefix _ page.rows, by rw [answer]; rfl⟩
        rw [accepted_page begun request.1 fits, unanswered, List.nil_append]
      · refine .inl ⟨?_, by rw [answer]; rfl⟩
        rw [accepted_refused begun request.1 unfit, unanswered]

end Supply

namespace ForwardCursor

/-- What a call does to the rows at hand, where `contacts` are the contacts with the source meanwhile: the
row that it visits, if any, was the first one at hand, or the first one of the only page that it accepts.
The page is accepted only where no row was at hand. -/
inductive Draws (visited : Option Row) (contacts : List Contact) : (before after : List Row) → Prop
  | kept {after : List Row} (nothing : Contact.accepted contacts = []) :
      Draws visited contacts (visited.toList ++ after) after
  | merged {after : List Row} {page : Page} (one : Contact.accepted contacts = [page])
      (part : visited.toList ++ after <+: page.rows) : Draws visited contacts [] after

/-- Contacts that bring no page may come before. -/
theorem Draws.behind {visited : Option Row} {contacts begun : List Contact} {before after : List Row}
    (draws : Draws visited contacts before after) (nothing : Contact.accepted begun = []) :
    Draws visited (begun ++ contacts) before after := by
  have same : Contact.accepted (begun ++ contacts) = Contact.accepted contacts := by
    rw [Contact.accepted_append, nothing, List.nil_append]
  cases draws with
  | kept none_came => exact .kept (same.trans none_came)
  | merged one part => exact .merged (same.trans one) part

/-- No more rows were ever at hand during a call than there were before it, or than one page holds. -/
theorem Draws.length_le {visited : Option Row} {contacts : List Contact} {before after : List Row}
    {most size : Nat} (draws : Draws visited contacts before after) (held : before.length ≤ most)
    (sized : ∀ page ∈ Contact.accepted contacts, page.rows.length ≤ size) (fits : size ≤ most) :
    (visited.toList ++ after).length ≤ most := by
  cases draws with
  | kept nothing => exact held
  | merged one part =>
    have small := sized _ (by rw [one]; exact List.mem_singleton_self _)
    exact part.length_le.trans (small.trans fits)

variable {σ ρ : Type} [PageSource σ ρ] (state : ForwardCursor (PageRequest × ρ) × Watched σ)

private theorem refill_draws : ∃ contacts, (refill state).2.2.contacts = state.2.contacts ++ contacts ∧
    Draws none contacts state.1.buffer (refill state).2.1.buffer := by
  obtain ⟨cursor, watched⟩ := state
  rw [refill, Op.bind_apply, Op.get_apply]
  dsimp only
  split
  · next dry =>
    obtain ⟨empty, -⟩ := Bool.and_eq_true_iff.mp dry
    rw [List.isEmpty_iff.mp empty, Op.bind_apply, onSupply_apply]
    obtain ⟨contacts, contacts_eq, taken⟩ := Supply.fetchNow_accepted (cursor.supply, watched)
    rcases came : Supply.fetchNow (cursor.supply, watched) with ⟨failure | added, supply, after⟩ <;>
      rw [came] at contacts_eq taken
    · refine ⟨contacts, contacts_eq, ?_⟩
      rcases taken with ⟨nothing, -⟩ | ⟨page, rows, -, -, answer⟩
      · rw [List.isEmpty_iff.mp empty]
        exact .kept nothing
      · cases answer
    · refine ⟨contacts, contacts_eq, ?_⟩
      change Draws none contacts [] (cursor.buffer ++ added)
      rw [List.isEmpty_iff.mp empty, List.nil_append]
      rcases taken with ⟨nothing, added_eq⟩ | ⟨page, rows, one, part, answer⟩
      · obtain rfl : added = [] := added_eq
        exact .kept nothing
      · obtain rfl := Except.ok.inj answer
        exact .merged one part
  · exact ⟨[], (List.append_nil _).symm, .kept rfl⟩

/-- The row that a call of `next` visits is taken off the rows at hand. -/
theorem Draws.advance {contacts : List Contact} {before : List Row} {cursor : ForwardCursor ρ}
    (draws : Draws none contacts before cursor.buffer) :
    Draws (if (advance cursor).1 then (advance cursor).2.current else none) contacts before
      (advance cursor).2.buffer := by
  rw [ForwardCursor.advance]
  cases held : cursor.buffer with
  | nil =>
    rw [held] at draws
    exact draws
  | cons row rest =>
    rw [held] at draws
    cases draws with
    | kept nothing => exact .kept nothing
    | merged one part => exact .merged one part

private theorem next_draws : ∃ contacts, (next state).2.2.contacts = state.2.contacts ++ contacts ∧
    Draws (match (next state).1 with | .ok true => (next state).2.1.current | _ => none) contacts
      state.1.buffer (next state).2.1.buffer := by
  obtain ⟨cursor, watched⟩ := state
  have unmoved : ∃ contacts, watched.contacts = watched.contacts ++ contacts ∧
      Draws none contacts cursor.buffer cursor.buffer := ⟨[], (List.append_nil _).symm, .kept rfl⟩
  cases closed : cursor.supply.closed with
  | true =>
    rw [next, Cursor.forward_checked closed]
    exact unmoved
  | false =>
    cases off : cursor.afterLast with
    | true =>
      rw [next_afterLast closed off]
      exact unmoved
    | false =>
      rw [next_apply watched closed off]
      dsimp only
      -- the request in front brings no page, so that what is taken in is what refilling takes in
      obtain ⟨begun, begun_eq, nothing⟩ : ∃ contacts,
          (if (cursor.buffer.drop cursor.supply.options.prefetchThreshold).isEmpty
            then Supply.prefetch (cursor.supply, watched) else (cursor.supply, watched)).2.contacts =
              watched.contacts ++ contacts ∧ Contact.accepted contacts = [] := by
        split
        · exact Supply.prefetch_accepted (cursor.supply, watched)
        · exact ⟨[], (List.append_nil _).symm, rfl⟩
      generalize (if (cursor.buffer.drop cursor.supply.options.prefetchThreshold).isEmpty
        then Supply.prefetch (cursor.supply, watched) else (cursor.supply, watched)) = start at begun_eq
      obtain ⟨contacts, contacts_eq, draws⟩ := refill_draws ({ cursor with supply := start.1 }, start.2)
      rw [begun_eq, List.append_assoc] at contacts_eq
      dsimp only at draws ⊢
      generalize refill (_ : ForwardCursor (PageRequest × ρ) × Watched σ) = result at contacts_eq draws ⊢
      obtain ⟨failure | ⟨⟩, after, source⟩ := result
      · exact ⟨_, contacts_eq, draws.behind nothing⟩
      · refine ⟨_, contacts_eq, ?_⟩
        have visited := (draws.behind nothing).advance
        dsimp only
        cases moved : (advance after).1 <;> rw [moved] at visited <;> exact visited

private theorem isLast_draws : ∃ contacts, (isLast state).2.2.contacts = state.2.contacts ++ contacts ∧
    Draws none contacts state.1.buffer (isLast state).2.1.buffer := by
  obtain ⟨cursor, watched⟩ := state
  have unmoved : ∃ contacts, watched.contacts = watched.contacts ++ contacts ∧
      Draws none contacts cursor.buffer cursor.buffer := ⟨[], (List.append_nil _).symm, .kept rfl⟩
  cases closed : cursor.supply.closed with
  | true =>
    rw [isLast, Cursor.forward_checked closed]
    exact unmoved
  | false =>
    rw [isLast_apply watched closed]
    split
    · exact unmoved
    · have drawn := refill_draws (cursor, watched)
      generalize refill (cursor, watched) = result at drawn ⊢
      obtain ⟨failure | ⟨⟩, after⟩ := result <;> exact drawn

end ForwardCursor

namespace Cursor

variable {σ ρ : Type}

/-- The rows at hand. -/
def atHand : Cursor ρ → List Row
  | .forward cursor => cursor.buffer
  | .scrollable cursor => cursor.rows.toList

private theorem length_atHand (cursor : Cursor ρ) : cursor.atHand.length = cursor.buffered := by
  cases cursor <;> rfl

variable [PageSource σ ρ] {state : Cursor (PageRequest × ρ) × Watched σ}

/-- Every call but `close` draws on the rows at hand. -/
theorem perform_draws (mode : state.1.mode = .forward) {call : CursorCall} (stays : call ≠ .close) :
    ∃ contacts, (perform call state).2.2.contacts = state.2.contacts ++ contacts ∧
      ForwardCursor.Draws (Turn.row ⟨call, (perform call state).1, (perform call state).2.1⟩) contacts
        state.1.atHand (perform call state).2.1.atHand := by
  obtain ⟨cursor | cursor, watched⟩ := state
  · cases call with
    | next =>
      have drawn := ForwardCursor.next_draws (cursor, watched)
      simp only [perform, performForward, Op.map_apply, Turn.row, Turn.visit]
      generalize ForwardCursor.next (cursor, watched) = result at drawn ⊢
      obtain ⟨failure | _ | _, after⟩ := result <;> exact drawn
    | isLast =>
      simp only [perform, performForward, Op.map_apply, Turn.row, Turn.visit, Option.bind_none]
      exact ForwardCursor.isLast_draws (cursor, watched)
    | close => exact absurd rfl stays
    | _ => exact ⟨[], (List.append_nil _).symm, .kept rfl⟩
  · cases mode

/-- A cursor that was closed has no row at hand. -/
theorem Over.atHand {cursor : Cursor ρ} (ended : Over cursor) : cursor.atHand = [] :=
  List.length_eq_zero_iff.mp (cursor.length_atHand.trans ended.buffered)

/-- Every request that has ended asked for the effective number of rows. -/
theorem Disciplined.size_eq {statement : UInt64} {options : FetchOptions} {first : Page}
    {contacts : List Contact} (disciplined : Disciplined statement options first contacts)
    {request : PageRequest} {outcome : Outcome Error Page} (member : .ended request outcome ∈ contacts) :
    request.size = options.effectiveFetchSize := by
  obtain ⟨before, later, rfl⟩ := List.append_of_mem member
  obtain ⟨earlier, rfl⟩ := disciplined.ends_started before request outcome later rfl
  rw [disciplined.request_eq earlier request (.ended request outcome :: later) (List.append_assoc ..)]
  rfl

variable {statement : UInt64} {options : FetchOptions} {first : Page} {most : Nat}

/-- A call holds no more rows at any time than were held before it, or than one page of the size asked
for has. -/
theorem Keeps.length_draws_le (keeps : Keeps statement options first state) (mode : state.1.mode = .forward)
    (call : CursorCall) (moderate : Contact.Moderate (perform call state).2.2.contacts)
    (held : state.1.atHand.length ≤ most) (fits : options.effectiveFetchSize.toNat ≤ most) :
    ((Turn.row ⟨call, (perform call state).1, (perform call state).2.1⟩).toList ++
      (perform call state).2.1.atHand).length ≤ most := by
  by_cases closes : call = .close
  · subst closes
    rw [(perform_close state).2.atHand]
    exact Nat.zero_le _
  · obtain ⟨contacts, contacts_eq, draws⟩ := perform_draws mode closes
    refine draws.length_le held ?_ fits
    intro page member
    obtain ⟨request, recorded⟩ := Contact.exists_ended member
    have there : .ended request (.ok page) ∈ (perform call state).2.2.contacts := by
      rw [contacts_eq]
      exact List.mem_append_right _ recorded
    have disciplined := (keeps.after [call]).logged.disciplined
    exact disciplined.size_eq there ▸ moderate.length_le there

/-- What is held stays within bounds through any sequence of calls. -/
theorem Keeps.length_atHand_le (keeps : Keeps statement options first state)
    (mode : state.1.mode = .forward) (calls : List CursorCall)
    (moderate : Contact.Moderate (Cursor.after calls state).2.contacts)
    (held : state.1.atHand.length ≤ most) (fits : options.effectiveFetchSize.toNat ≤ most) :
    (Cursor.after calls state).1.atHand.length ≤ most := by
  induction calls generalizing state with
  | nil => exact held
  | cons call calls ih =>
    have kept : Keeps statement options first (perform call state).2 := keeps.after [call]
    obtain ⟨later, grown⟩ := kept.contacts_grow calls
    have before : Contact.Moderate (perform call state).2.2.contacts :=
      Contact.Moderate.of_append (grown.symm ▸ moderate)
    have drawn := keeps.length_draws_le mode call before held fits
    rw [List.length_append] at drawn
    exact ih kept ((perform_mode call state).trans mode) moderate (Nat.le_of_add_left_le drawn)

/-- Cursors that are alike hold equally many rows. -/
theorem Like.buffered_eq {σ ρ τ υ : Type} {Rel : Supply ρ × σ → Supply υ × τ → Prop}
    {left : Cursor ρ × σ} {right : Cursor υ × τ} (like : Like Rel left right) :
    left.1.buffered = right.1.buffered := by
  cases like with
  | forward like => exact congrArg List.length like.buffer_eq
  | scrollable like => exact congrArg Array.size like.rows_eq

/-- Opening a cursor asks the source for nothing. -/
theorem open_contacts (statement : UInt64) (first : Page) (options : FetchOptions) (ownsStatement : Bool)
    (watched : Watched σ) :
    («open» statement first options ownsStatement watched).2.contacts = watched.contacts :=
  Supply.accept_contacts first ({ statement, options, ownsStatement, nextOffset := first.offset }, watched)

/-- Over any source, with any options and through any calls, a forward cursor takes in a page only where
no row is at hand, with at most one more page under way. Where no request is answered with more rows than it
asked for, it therefore holds no more rows at any time, in the middle of a call or behind it, than the first
page shows or than one page of the size asked for has. Watching the source makes no difference to the
cursor. -/
theorem holds_one_page (statement : UInt64) {first : Page} (options : FetchOptions) (ownsStatement : Bool)
    (source : σ) (mode : options.mode = .forward)
    (fits : first.offset.toNat + first.rows.length < UInt64.size) :
    ∃ cursor watched cursor' source',
      «open» statement first options ownsStatement (⟨source, []⟩ : Watched σ) = (.ok cursor, watched) ∧
      «open» statement first options ownsStatement source = (.ok cursor', source') ∧
      ∀ calls,
        let state := after calls (cursor, watched)
        let most := max (options.shown first.rows).length options.effectiveFetchSize.toNat
        (history calls (cursor, watched)).map Turn.sight =
          (history calls (cursor', source')).map Turn.sight ∧
        (after calls (cursor', source')).1.buffered = state.1.buffered ∧
        (Contact.Moderate state.2.contacts → state.1.buffered ≤ most) ∧
        (∀ earlier, earlier <+: state.2.contacts →
          (Contact.requests earlier).length ≤ (Contact.endings earlier).length + 1) ∧
        ∀ call,
          let visited := Turn.row ⟨call, (perform call state).1, (perform call state).2.1⟩
          let next := (perform call state).2
          (call = .close → next.1.atHand = []) ∧
          (call ≠ .close → ∃ contacts, next.2.contacts = state.2.contacts ++ contacts ∧
            ForwardCursor.Draws visited contacts state.1.atHand next.1.atHand) ∧
          (Contact.Moderate next.2.contacts → (visited.toList ++ next.1.atHand).length ≤ most) := by
  obtain ⟨cursor, watched, cursor', source', opened, opened', like, keeps, running, mode_eq⟩ :=
    open_running options ownsStatement source fits
  have forward : cursor.mode = .forward := mode_eq.trans mode
  refine ⟨cursor, watched, cursor', source', opened, opened', fun calls => ?_⟩
  intro state most
  have held : cursor.atHand.length ≤ most := by
    have fresh : watched.contacts = [] := by
      have unasked := open_contacts statement first options ownsStatement (⟨source, []⟩ : Watched σ)
      rwa [opened] at unasked
    have taken := running.sublist.length_le
    rw [fresh] at taken
    refine le_trans ?_ (Nat.le_max_left _ _)
    have same : cursor.atHand = cursor.merged [] := by cases cursor <;> rfl
    have alone : Page.allRows (first :: Contact.accepted []) = first.rows := List.append_nil _
    rwa [same, ← alone]
  have asked : options.effectiveFetchSize.toNat ≤ most := Nat.le_max_right _ _
  have kept : Keeps statement options first state := keeps.after calls
  have still : state.1.mode = .forward := (after_mode calls (cursor, watched)).trans forward
  have bounded (moderate : Contact.Moderate state.2.contacts) : state.1.atHand.length ≤ most :=
    keeps.length_atHand_le forward calls moderate held asked
  refine ⟨history_alike Watched.unwatched_likeness calls like,
    (after_alike Watched.unwatched_likeness calls like).buffered_eq.symm, ?_, ?_, ?_⟩
  · exact fun moderate => state.1.length_atHand ▸ bounded moderate
  · rintro earlier ⟨later, split⟩
    exact (kept.logged.disciplined.one_at_a_time earlier later split.symm).2
  · intro call visited next
    refine ⟨?_, fun stays => perform_draws still stays, fun moderate => ?_⟩
    · rintro rfl
      exact (perform_close state).2.atHand
    · obtain ⟨later, grown⟩ := kept.contacts_grow [call]
      have before : Contact.Moderate state.2.contacts :=
        Contact.Moderate.of_append (grown.symm ▸ moderate)
      exact kept.length_draws_le still call moderate (bounded before) asked

/-- A source of three rows that first fails and then halts its thread: whatever is asked of it row by row, no
more than one row is at hand. -/
theorem holds_one_page_interrupted :
    ScriptedSource.firstOfThree.offset.toNat + ScriptedSource.firstOfThree.rows.length < UInt64.size ∧
    ∃ cursor watched,
      «open» 1 ScriptedSource.firstOfThree { fetchSize := 1 } false
        (⟨ScriptedSource.interrupted, []⟩ : Watched ScriptedSource) = (.ok cursor, watched) ∧
      Contact.Moderate (after [.next, .isLast, .next, .next, .next] (cursor, watched)).2.contacts ∧
      (after [.next, .isLast, .next, .next, .next] (cursor, watched)).1.buffered ≤ 1 := by
  have fits : ScriptedSource.firstOfThree.offset.toNat + ScriptedSource.firstOfThree.rows.length <
      UInt64.size := by decide
  obtain ⟨cursor, watched, _, _, opened, -, holds⟩ :=
    holds_one_page 1 { fetchSize := 1 } false ScriptedSource.interrupted rfl fits
  have moderate : Contact.Moderate (match «open» 1 ScriptedSource.firstOfThree { fetchSize := 1 } false
      (⟨ScriptedSource.interrupted, []⟩ : Watched ScriptedSource) with
      | (.ok cursor, watched) => (after [.next, .isLast, .next, .next, .next] (cursor, watched)).2.contacts
      | (.error _, _) => []) := by
    decide +kernel
  rw [opened] at moderate
  exact ⟨fits, cursor, watched, opened, moderate, (holds _).2.2.1 moderate⟩

end Cursor

end PagedResults
