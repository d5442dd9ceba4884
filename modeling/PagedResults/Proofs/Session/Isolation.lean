import Mathlib.Algebra.GroupWithZero.Nat
import Mathlib.Logic.Function.Basic
import PagedResults.Proofs.Session.Sharing
import PagedResults.Proofs.Session.Viewer

/-! # Viewers on one session do not disturb each other

Several viewers open their results on one session and read them, in any order, while pages are fetched in the
background for any of them. As long as no two of them run the same statement that was prepared, each of them
sees what it would see if it were alone.
-/

namespace PagedResults

/-- A client and the results that its viewers have opened over it. -/
structure Desk (ι σ ρ : Type) where
  client : σ
  results : ι → Option (OpenResult ρ)

namespace Desk

variable {ι : Type}

section Acts

variable {σ ρ : Type}

/-- A viewer's result and the client that all of them share. -/
def place (who : ι) (desk : Desk ι σ ρ) : Place σ ρ := (desk.results who, desk.client)

/-- What belongs to one viewer. -/
def part {α : Type} [DecidableEq ι] (who : ι) (entries : List (ι × α)) : List α :=
  entries.filterMap fun (owner, entry) => if owner = who then some entry else none

/-- The ids that the server gives out on the way. -/
def cost (schedule : List (ι × Act)) : Nat := (schedule.map fun (_, act) => act.cost).sum

variable [Client σ ρ]

/-- One of the viewers does something. -/
def act [DecidableEq ι] (viewers : ι → Viewer) (who : ι) (act : Act) (desk : Desk ι σ ρ) : Sight × Desk ι σ ρ :=
  let (sight, result, client) := (viewers who).act act (desk.place who)
  (sight, ⟨client, Function.update desk.results who result⟩)

/-- What the viewers see, one after the other. -/
def sights [DecidableEq ι] (viewers : ι → Viewer) : List (ι × Act) → Desk ι σ ρ → List (ι × Sight)
  | [], _ => []
  | (who, act) :: rest, desk =>
      (who, (desk.act viewers who act).1) :: sights viewers rest (desk.act viewers who act).2

end Acts

variable {σ ρ τ υ : Type} [Attached σ ρ] [Attached τ υ] {data : Dataset} {texts : ι → String} {viewers : ι → Viewer}
  {spare : Nat} {desk : Desk ι σ ρ} {solos : ι → Place τ υ} {who other : ι} {deed : Act}

/-- Every viewer stands as it would alone, and no two of them have the same statement. -/
structure Holds (data : Dataset) (texts : ι → String) (viewers : ι → Viewer) (spare : Nat) (desk : Desk ι σ ρ)
    (solos : ι → Place τ υ) : Prop where
  alike : ∀ who, (viewers who).Alike data (texts who) (spare + 1) (spare + 1) (desk.place who) (solos who)
  apart : ∀ who other, who ≠ other → ∀ id, (viewers who).own (desk.results who) = some id →
    (viewers other).own (desk.results other) ≠ some id

variable [DecidableEq ι]

private theorem results_act_self :
    (desk.act viewers who deed).2.results who = ((viewers who).act deed (desk.place who)).2.1 :=
  Function.update_self who _ _

private theorem results_act_other (differs : other ≠ who) :
    (desk.act viewers who deed).2.results other = desk.results other :=
  Function.update_of_ne differs _ _

private theorem place_act_self : (desk.act viewers who deed).2.place who =
    ((viewers who).act deed (desk.place who)).2 :=
  Prod.ext results_act_self rfl

private theorem place_act_other (differs : other ≠ who) : (desk.act viewers who deed).2.place other =
    (desk.results other, (desk.act viewers who deed).2.client) :=
  Prod.ext (results_act_other differs) rfl

variable [Faithful σ] [Faithful τ]

omit [DecidableEq ι] [Faithful τ] in
/-- Nobody else has the statement that a viewer is about to touch. -/
theorem Holds.ne_touched (holds : Holds data texts viewers spare desk solos) (differs : other ≠ who)
    {id : UInt64} (own : (viewers other).own (desk.results other) = some id) :
    id ≠ (viewers who).touched (desk.place who) := by
  have given := (holds.alike other).own_le own
  rw [Viewer.touched, place]
  dsimp only
  cases mine : (viewers who).own (desk.results who) with
  | none => exact (Faithful.numbered (holds.alike who).rests).ne_next given
  | some statement =>
    rintro rfl
    exact holds.apart who other differs.symm _ mine own

/-- One act of a viewer: it sees what it would see alone, and everybody stands as before. -/
theorem Holds.act (served : ∀ who, (viewers who).Served data (texts who))
    (holds : Holds data texts viewers (spare + deed.cost) desk solos) (who : ι) :
    (desk.act viewers who deed).1 = ((viewers who).act deed (solos who)).1 ∧
      Holds data texts viewers spare (desk.act viewers who deed).2
        (Function.update solos who ((viewers who).act deed (solos who)).2) := by
  have mine := holds.alike who
  rw [Nat.add_right_comm] at mine
  have acts := mine.acts (served who)
  -- what the acting viewer has now is what it touched, and nobody else had that
  have had_by_nobody {other : ι} (differs : other ≠ who) {id : UInt64}
      (own : (viewers who).own ((desk.act viewers who deed).2.results who) = some id) :
      (viewers other).own (desk.results other) ≠ some id := by
    intro same
    rw [results_act_self] at own
    exact holds.ne_touched differs same (acts.own_eq id own)
  refine ⟨acts.sight_eq, ?_, ?_⟩
  · intro other
    by_cases same : other = who
    · subst same
      rw [place_act_self, Function.update_self]
      exact acts.alike
    -- what was touched is not the statement of anybody else
    · rw [place_act_other same, Function.update_of_ne same]
      exact ((holds.alike other).elsewhere acts.alike.rests acts.spares
        fun id own => holds.ne_touched same own).mono (Nat.le_refl _) (by omega)
  · intro one other differs id own
    by_cases first : one = who
    · subst first
      rw [results_act_other differs.symm]
      exact had_by_nobody differs.symm own
    · rw [results_act_other first] at own
      by_cases second : other = who
      · subst second
        exact fun same => had_by_nobody first same own
      · rw [results_act_other second]
        exact holds.apart one other differs id own

private theorem part_cons_self {α : Type} (entry : α) (rest : List (ι × α)) :
    part who ((who, entry) :: rest) = entry :: part who rest :=
  List.filterMap_cons_some (if_pos rfl)

private theorem part_cons_other {α : Type} (differs : other ≠ who) (entry : α) (rest : List (ι × α)) :
    part who ((other, entry) :: rest) = part who rest :=
  List.filterMap_cons_none (if_neg differs)

omit [DecidableEq ι] in
private theorem cost_cons (who : ι) (deed : Act) (rest : List (ι × Act)) :
    cost ((who, deed) :: rest) = deed.cost + cost rest :=
  List.sum_cons

/-- What a viewer sees among others is what it would see alone. -/
theorem Holds.sights (served : ∀ who, (viewers who).Served data (texts who)) {schedule : List (ι × Act)}
    (holds : Holds data texts viewers (spare + cost schedule) desk solos) (who : ι) :
    part who (desk.sights viewers schedule) = (viewers who).sights (part who schedule) (solos who) := by
  induction schedule generalizing desk solos with
  | nil => rfl
  | cons entry rest ih =>
    obtain ⟨owner, deed⟩ := entry
    rw [cost_cons, Nat.add_comm deed.cost, ← Nat.add_assoc] at holds
    obtain ⟨sight_eq, stands⟩ := holds.act served owner
    have later := ih stands
    rw [Desk.sights]
    by_cases same : owner = who
    · subst same
      rw [part_cons_self, part_cons_self, Viewer.sights, sight_eq, later, Function.update_self]
    · rw [part_cons_other same, part_cons_other same, later, Function.update_of_ne (Ne.symm same)]

end Desk

end PagedResults
