import PagedResults.Proofs.Cursor.Life

/-! # A result is released once

Closing a cursor waits for the request under way, then releases the result, and then the statement if it
belongs to the result, whatever the first release came to. That happens once in the life of a cursor: at
the first call of `close`, or when the cursor is dropped. Nothing is asked of the source afterwards.
-/

namespace PagedResults

namespace Contact

/-- The source has come back: a request did not go on for ever, and a release succeeded or failed. -/
def returned : Contact → Bool
  | .ended _ (.error (.halt .endlessWait)) => false
  | .resultClosed _ (.error (.halt _)) => false
  | .statementClosed _ (.error (.halt _)) => false
  | _ => true

/-- The contacts by which a result is released. -/
def releasing (statement : UInt64) (ownsStatement : Bool) (result released : Outcome Error Unit) :
    List Contact :=
  .resultClosed statement result :: if ownsStatement then [.statementClosed statement released] else []

end Contact

/-- What comes behind an attempt runs unless the attempt halts. -/
theorem Op.attempt_bind {ε α β σ : Type} (op : Op ε σ α) (next : Except ε α → Op ε σ β) (state : σ) :
    (op.attempt >>= next) state =
      match op state with
      | (.ok value, after) => next (.ok value) after
      | (.error (.error cause), after) => next (.error cause) after
      | (.error (.halt reason), after) => (.error (.halt reason), after) := by
  rw [Op.bind_apply, Op.attempt]
  rcases op state with ⟨(cause | reason) | value, after⟩ <;> rfl

namespace Supply

variable {σ ρ : Type} [PageSource σ ρ]

/-- What is left of a release once the source has answered for the result. -/
def releaseStatement (supply : Supply ρ) (answer : Except Error Unit) : Op Error (Supply ρ × σ) Unit := do
  let released ←
    if supply.ownsStatement then
      (ofSource (PageSource.closeStatement supply.statement supply.options.timeout)).attempt
    else pure (.ok ())
  note (.resultClosed supply.statement)
  Op.ofOutcome ((answer *> released).mapError .error)

/-- The statement is released behind the result if it belongs to it, and the first error is answered. -/
theorem releaseStatement_watched (supply : Supply (PageRequest × ρ)) (answer : Except Error Unit)
    (state : Supply (PageRequest × ρ) × Watched σ)
    (returned : ∀ contact ∈ (releaseStatement supply answer state).2.2.contacts, contact.returned = true) :
    ∃ released, (releaseStatement supply answer state).2.2.contacts = state.2.contacts ++
        (if supply.ownsStatement then [.statementClosed supply.statement released] else []) ∧
      (releaseStatement supply answer state).1 =
        answer.mapError .error *> if supply.ownsStatement then released else .ok () := by
  rw [releaseStatement] at returned ⊢
  cases owns : supply.ownsStatement with
  | false =>
    simp only [Bool.false_eq_true, if_false]
    refine ⟨.ok (), (List.append_nil _).symm, ?_⟩
    cases answer <;> rfl
  | true =>
    simp only [owns, if_true] at returned ⊢
    rw [Op.attempt_bind] at returned ⊢
    have recorded : (ofSource (PageSource.closeStatement supply.statement supply.options.timeout)
          state).2.2.contacts = state.2.contacts ++ [.statementClosed supply.statement
        (ofSource (PageSource.closeStatement supply.statement supply.options.timeout) state).1] := rfl
    generalize ofSource (PageSource.closeStatement supply.statement supply.options.timeout) state = closed
      at returned recorded ⊢
    obtain ⟨(cause | reason) | ⟨⟩, after⟩ := closed
    · refine ⟨_, recorded, ?_⟩
      cases answer <;> rfl
    · have absent := returned _ (recorded ▸ List.mem_append_right _ (List.mem_singleton_self _))
      cases absent
    · refine ⟨_, recorded, ?_⟩
      cases answer <;> rfl

/-- A release tells the source so, and answers with the first error. -/
theorem release_watched (supply : Supply (PageRequest × ρ)) (state : Supply (PageRequest × ρ) × Watched σ)
    (returned : ∀ contact ∈ (release supply state).2.2.contacts, contact.returned = true) :
    ∃ result released, (release supply state).2.2.contacts = state.2.contacts ++
        Contact.releasing supply.statement supply.ownsStatement result released ∧
      (release supply state).1 = result *> if supply.ownsStatement then released else .ok () := by
  have split : release supply state =
      ((ofSource (PageSource.closeResult supply.statement supply.options.timeout)).attempt >>=
        releaseStatement supply) state := rfl
  have recorded : (ofSource (PageSource.closeResult supply.statement supply.options.timeout)
        state).2.2.contacts = state.2.contacts ++ [.resultClosed supply.statement
      (ofSource (PageSource.closeResult supply.statement supply.options.timeout) state).1] := rfl
  rw [split, Op.attempt_bind] at returned ⊢
  generalize ofSource (PageSource.closeResult supply.statement supply.options.timeout) state = closed
    at returned recorded ⊢
  obtain ⟨(cause | reason) | ⟨⟩, after⟩ := closed
  · obtain ⟨released, contacts_eq, answered⟩ := releaseStatement_watched supply _ after returned
    refine ⟨_, released, ?_, answered⟩
    rw [contacts_eq, recorded, List.append_assoc]
    rfl
  · have absent := returned _ (recorded ▸ List.mem_append_right _ (List.mem_singleton_self _))
    cases absent
  · obtain ⟨released, contacts_eq, answered⟩ := releaseStatement_watched supply _ after returned
    refine ⟨_, released, ?_, answered⟩
    rw [contacts_eq, recorded, List.append_assoc]
    rfl

private theorem joined_eq_halt {offset : UInt64} {outcome : Outcome Error Page} {reason : Halt}
    (came : joined offset outcome = .error (.halt reason)) : outcome = .error (.halt .endlessWait) := by
  unfold joined at came
  split at came
  · rfl
  · cases came
  · next other => exact absurd came (other reason)

/-- Waiting halts only where a request goes on for ever. -/
theorem wait_halted {state after : Supply (PageRequest × ρ) × Watched σ} {reason : Halt}
    (halted : wait state = (.error (.halt reason), after)) :
    ∃ contact ∈ after.2.contacts, contact.returned = false := by
  obtain ⟨supply, watched⟩ := state
  rw [wait] at halted
  cases started : supply.inFlight with
  | none =>
    rw [started] at halted
    cases halted
  | some flight =>
    obtain ⟨offset, request⟩ := flight
    simp only [started] at halted
    obtain ⟨answered, rfl⟩ := Prod.mk.inj halted
    change (joined offset (PageSource.finish request watched).1).map some = _ at answered
    have endless : (PageSource.finish request watched).1 = .error (.halt .endlessWait) := by
      cases came : joined offset (PageSource.finish request watched).1 with
      | ok page =>
        rw [came] at answered
        cases answered
      | error failure =>
        rw [came] at answered
        obtain rfl := Except.error.inj answered
        exact joined_eq_halt came
    refine ⟨_, List.mem_append_right _ (List.mem_singleton_self _), ?_⟩
    change Contact.returned (.ended request.1 (PageSource.finish request watched).1) = false
    rw [endless]
    rfl

/-- Closing an open supply waits for the request under way, releases, and answers with the first error. -/
theorem close_watched {state : Supply (PageRequest × ρ) × Watched σ} (isOpen : state.1.closed = false)
    (returned : ∀ contact ∈ (close state).2.2.contacts, contact.returned = true) :
    ∃ result released,
      (close state).2.2.contacts = (wait ({ state.1 with closed := true }, state.2)).2.2.contacts ++
        Contact.releasing state.1.statement state.1.ownsStatement result released ∧
      (close state).1 = result *> if state.1.ownsStatement then released else .ok () := by
  obtain ⟨supply, watched⟩ := state
  rw [close_of_open watched isOpen, Op.attempt_bind] at returned ⊢
  rcases waited : wait ({ supply with closed := true }, watched) with ⟨(cause | reason) | page, after⟩ <;>
    rw [waited] at returned
  · exact release_watched supply _ returned
  · obtain ⟨contact, member, away⟩ := wait_halted waited
    rw [returned contact member] at away
    cases away
  · exact release_watched supply after returned

/-- Until it is closed a supply has only requested pages; then it waits for the last of them and releases. -/
theorem Running.close {statement : UInt64} {options : FetchOptions} {ownsStatement : Bool} {first : Page}
    {rows : List Row} {state : Supply (PageRequest × ρ) × Watched σ}
    (running : Running statement options ownsStatement first rows state)
    (returned : ∀ contact ∈ (close state).2.2.contacts, contact.returned = true) :
    ∃ fetches result released,
      (Supply.close state).2.2.contacts =
        fetches ++ Contact.releasing statement ownsStatement result released ∧
      (∀ contact ∈ fetches, contact.releases = false) ∧
      (Contact.endings fetches).length = (Contact.requests fetches).length ∧
      (Supply.close state).1 = result *> if ownsStatement then released else .ok () := by
  obtain ⟨result, released, contacts_eq, answered⟩ := close_watched running.is_open returned
  rw [running.logged.statement_eq, running.owns_eq] at contacts_eq
  rw [running.owns_eq] at answered
  have shut : Logged statement options first ({ state.1 with closed := true }, state.2) :=
    ((logged_likeness statement options first).shut ⟨rfl, running.logged⟩ running.is_open).2
  refine ⟨_, result, released, contacts_eq, ?_, ?_, answered⟩
  · rw [wait]
    split
    · exact running.unreleased
    · exact List.forall_mem_append.mpr ⟨running.unreleased, List.forall_mem_singleton.mpr rfl⟩
  · exact (shut.wait rfl).idle (wait_keeps _).2.2

end Supply

namespace Cursor

variable {σ ρ : Type} [PageSource σ ρ]

omit [PageSource σ ρ] in
/-- There is only one first call of `close`. -/
theorem first_close_unique {before later before' later' : List CursorCall} (open_ : .close ∉ before)
    (open' : .close ∉ before') (same : before ++ .close :: later = before' ++ .close :: later') :
    before = before' ∧ later = later' := by
  rcases List.append_eq_append_iff.mp same with ⟨_ | ⟨call, more⟩, rfl, rest⟩ | ⟨_ | ⟨call, more⟩, rfl, rest⟩
  · exact ⟨(List.append_nil before).symm, (List.cons.inj rest).2⟩
  · obtain ⟨rfl, -⟩ := List.cons.inj rest
    exact absurd (List.mem_append_right _ (List.mem_cons_self ..)) open'
  · exact ⟨List.append_nil before', (List.cons.inj rest).2.symm⟩
  · obtain ⟨rfl, -⟩ := List.cons.inj rest
    exact absurd (List.mem_append_right _ (List.mem_cons_self ..)) open_

/-- Whatever a source does, a result is released once in the life of its cursor: behind all requests for
pages, first the result and then the statement if it belongs to it. The first call of `close` answers
with the first error of the two, and a closed cursor refuses every call and leaves everything as it is.
Watching the source makes no difference to the cursor. -/
theorem released_once (statement : UInt64) {first : Page} (options : FetchOptions) (ownsStatement : Bool)
    (source : σ) (fits : first.offset.toNat + first.rows.length < UInt64.size) :
    ∃ cursor watched cursor' source',
      «open» statement first options ownsStatement (⟨source, []⟩ : Watched σ) = (.ok cursor, watched) ∧
      «open» statement first options ownsStatement source = (.ok cursor', source') ∧
      ∀ calls,
        (history calls (cursor, watched)).map Turn.sight =
          (history calls (cursor', source')).map Turn.sight ∧
        ((∀ contact ∈ life calls (cursor, watched), contact.returned = true) →
          ∃ fetches result released,
            life calls (cursor, watched) =
              fetches ++ Contact.releasing statement ownsStatement result released ∧
            (∀ contact ∈ fetches, contact.releases = false) ∧
            (Contact.endings fetches).length = (Contact.requests fetches).length ∧
            ∀ before later, calls = before ++ .close :: later → .close ∉ before →
              (perform .close (after before (cursor, watched))).1 =
                (result *> if ownsStatement then released else .ok ()).map (fun _ => none) ∧
              (∀ turn ∈ history later (after (before ++ [.close]) (cursor, watched)),
                turn.answer = refusal options.mode turn.call) ∧
              after calls (cursor, watched) = after (before ++ [.close]) (cursor, watched) ∧
              (after (before ++ [.close]) (cursor, watched)).2.contacts = life calls (cursor, watched)) := by
  obtain ⟨cursor, watched, cursor', source', opened, opened', like, keeps, running, mode⟩ :=
    open_running options ownsStatement source fits
  refine ⟨cursor, watched, cursor', source', opened, opened', fun calls => ⟨?_, fun returned => ?_⟩⟩
  · exact history_alike Watched.unwatched_likeness calls like
  · by_cases closes : .close ∈ calls
    · obtain ⟨before, later, rfl, stays⟩ := List.eq_append_cons_of_mem closes
      have there := after_carries (Supply.running_carries _ _ _ _) stays (cursor, watched) running
      obtain ⟨answered, ended⟩ := perform_close (after before (cursor, watched))
      have closed : after (before ++ [.close]) (cursor, watched) =
          (perform .close (after before (cursor, watched))).2 := after_append before [.close] _
      have source_eq := congrArg Prod.snd (supply_perform_close (after before (cursor, watched)))
      dsimp only at source_eq
      rw [life_close, closed, source_eq] at returned ⊢
      obtain ⟨fetches, result, released, shape, unreleased, balanced, came⟩ := there.close returned
      refine ⟨fetches, result, released, shape, unreleased, balanced, ?_⟩
      intro before' later' split stays'
      obtain ⟨rfl, rfl⟩ := first_close_unique stays stays' split
      refine ⟨answered.trans (congrArg _ came), ?_, after_close before later _, ?_⟩
      · rw [closed, ended.history later, perform_mode, after_mode, mode]
        simp
      · rw [closed, source_eq]
    · have there := after_carries (Supply.running_carries _ _ _ _) closes (cursor, watched) running
      rw [life_eq] at returned ⊢
      obtain ⟨fetches, result, released, contacts_eq, unreleased, balanced, -⟩ := there.close returned
      refine ⟨fetches, result, released, contacts_eq, unreleased, balanced, ?_⟩
      rintro before later rfl
      exact absurd (List.mem_append_right _ (List.mem_cons_self ..)) closes

/-- A source that first fails to give a page, then halts its thread, and then fails to release. -/
def failing : ScriptedSource :=
  { ScriptedSource.interrupted with
    resultClosed := Outcome.fail .connectionClosed
    statementClosed := Outcome.fail .resultClosed }

/-- The statement is released although the result was not, and the first error is answered. -/
theorem released_once_failing :
    ScriptedSource.firstOfThree.offset.toNat + ScriptedSource.firstOfThree.rows.length < UInt64.size ∧
    ∃ cursor watched,
      «open» 1 ScriptedSource.firstOfThree { fetchSize := 1 } true (⟨failing, []⟩ : Watched ScriptedSource) =
        (.ok cursor, watched) ∧
      (∀ contact ∈ life [.next, .next, .next, .close, .next, .close] (cursor, watched),
        contact.returned = true) ∧
      ∃ fetches result released,
        life [.next, .next, .next, .close, .next, .close] (cursor, watched) =
          fetches ++ Contact.releasing 1 true result released ∧
        (perform .close (after [.next, .next, .next] (cursor, watched))).1 =
          (result *> released).map fun _ => none := by
  have fits : ScriptedSource.firstOfThree.offset.toNat + ScriptedSource.firstOfThree.rows.length <
      UInt64.size := by decide
  obtain ⟨cursor, watched, _, _, opened, -, released⟩ :=
    released_once 1 { fetchSize := 1 } true failing fits
  have returned : ∀ contact ∈ life [.next, .next, .next, .close, .next, .close] (cursor, watched),
      contact.returned = true := by
    cases opened
    decide
  obtain ⟨fetches, result, answer, shape, -, -, first⟩ := (released _).2 returned
  exact ⟨fits, cursor, watched, opened, returned, fetches, result, answer, shape,
    (first [.next, .next, .next] [.next, .close] rfl (by decide)).1⟩

end Cursor

end PagedResults
