import Mathlib.Data.List.Nodup
import PagedResults.Calls

/-! # The table of pending calls, call by call

Every step of the table concerns the calls of one id, or all of them when the connection closes. What it
does to the entry of an id, and what it hands to the receiver of that id, depends on that entry alone.
`Calls.Tidy` is the invariant behind this: ids are given out one after the other, so that as long as
they have not all been given out a new call never gets the id of another one.
-/

namespace PagedResults

/-- The deliveries to one receiver among some effects. -/
def Effect.handed (id : UInt64) (effects : List Effect) : List Delivery :=
  effects.filterMap fun
    | .deliver other delivery => if other = id then some delivery else none
    | .note _ => none

theorem Effect.handed_append (id : UInt64) (effects others : List Effect) :
    handed id (effects ++ others) = handed id effects ++ handed id others :=
  List.filterMap_append

section Entries

variable {κ α : Type} [DecidableEq κ] {entries : List (κ × α)} {id other : κ}

theorem lookup_filter_ne : (entries.filter (·.1 ≠ other)).lookup id =
    if id = other then none else entries.lookup id := by
  induction entries with
  | nil => simp
  | cons entry rest ih =>
    by_cases dropped : entry.1 = other
    · rw [List.filter_cons_of_neg (by simpa using dropped), ih]
      split
      · rfl
      · next differs => rw [List.lookup_cons, beq_eq_false_iff_ne.mpr (dropped ▸ differs)]
    · rw [List.filter_cons_of_pos (by simpa using dropped), List.lookup_cons, List.lookup_cons, ih]
      split
      · next found =>
        rw [if_neg (fun same => dropped ((beq_iff_eq.mp found).symm.trans same))]
      · rfl

theorem lookup_append_of_ne (differs : id ≠ other) (value : α) :
    (entries ++ [(other, value)]).lookup id = entries.lookup id := by
  have alone : [(other, value)].lookup id = none := by
    rw [List.lookup_cons, beq_eq_false_iff_ne.mpr differs]
    rfl
  rw [List.lookup_append, alone, Option.or_none]

theorem lookup_append_new (absent : entries.lookup other = none) (value : α) :
    (entries ++ [(other, value)]).lookup other = some value := by
  rw [List.lookup_append, absent, List.lookup_cons, beq_self_eq_true]
  rfl

/-- Replacing the value of an entry. -/
theorem lookup_replace (value : α) :
    (entries.map fun entry => if entry.1 = other then (other, value) else entry).lookup id =
      if id = other then (entries.lookup other).map fun _ => value else entries.lookup id := by
  induction entries with
  | nil => simp
  | cons entry rest ih =>
    rw [List.map_cons, List.lookup_cons, List.lookup_cons, List.lookup_cons, ih]
    by_cases here : entry.1 = other
    · by_cases same : id = other
      · simp [here, same]
      · have differs : (id == other) = false := beq_eq_false_iff_ne.mpr same
        simp [here, same, differs]
    · have missed : (other == entry.1) = false := beq_eq_false_iff_ne.mpr (Ne.symm here)
      by_cases same : id = other
      · simp [here, same, missed]
      · simp [here, same]

/-- Where no key comes twice, looking one up finds its entry. -/
theorem lookup_eq_some_iff (distinct : (entries.map (·.1)).Nodup) {value : α} :
    entries.lookup id = some value ↔ (id, value) ∈ entries := by
  induction entries with
  | nil => simp
  | cons entry rest ih =>
    obtain ⟨absent, distinct⟩ := List.nodup_cons.mp distinct
    rw [List.lookup_cons, List.mem_cons]
    by_cases here : id = entry.1
    · subst here
      have elsewhere : (entry.1, value) ∉ rest := fun member => absent (List.mem_map.mpr ⟨_, member, rfl⟩)
      simp [elsewhere, Prod.ext_iff, eq_comm]
    · have missed : (id == entry.1) = false := beq_eq_false_iff_ne.mpr here
      simp [missed, ih distinct, Prod.ext_iff, here]

theorem ne_of_absent (absent : entries.lookup id = none) : ∀ entry ∈ entries, entry.1 ≠ id := by
  rw [List.lookup_eq_none_iff] at absent
  intro entry member
  exact (bne_iff_ne.mp (absent entry member)).symm

theorem replace_absent (absent : entries.lookup id = none) (value : α) :
    (entries.map fun entry => if entry.1 = id then (id, value) else entry) = entries := by
  rw [List.map_congr_left fun entry member => if_neg (ne_of_absent absent entry member)]
  exact List.map_id entries

theorem filter_absent (absent : entries.lookup id = none) : entries.filter (·.1 ≠ id) = entries := by
  rw [List.filter_eq_self]
  intro entry member
  exact decide_eq_true (ne_of_absent absent entry member)

end Entries

namespace Calls

variable {id other : UInt64} {calls : Calls}

theorem shape?_withdraw : (calls.withdraw other).shape? id =
    if id = other then none else calls.shape? id := lookup_filter_ne

theorem register_live (live : calls.standing = .live) (shape : Shape) : calls.register shape =
    (.ok calls.nextId, { calls with
      nextId := calls.nextId + 1
      pending := calls.pending ++ [(calls.nextId, shape)] }) := by
  rw [register, live]
  rfl

theorem register_closed {cause : Option Error} (closed : calls.standing = .closed cause) (shape : Shape) :
    calls.register shape =
      (.error (cause.getD .connectionClosed), { calls with nextId := calls.nextId + 1 }) := by
  rw [register, closed]
  rfl

theorem arrive_unknown {envelope : ResponseEnvelope} (unknown : calls.shape? envelope.id = none) :
    calls.arrive envelope = (calls, [.note (.responseDropped envelope.id)]) := by
  rw [arrive, unknown]

theorem arrive_known {envelope : ResponseEnvelope} {shape : Shape}
    (known : calls.shape? envelope.id = some shape) :
    calls.arrive envelope =
      (if (deliveryOf shape envelope.last envelope.response).isFinal then calls.withdraw envelope.id
        else calls,
      [.note (.responseDelivered envelope.id envelope.last),
        .deliver envelope.id (deliveryOf shape envelope.last envelope.response)]) := by
  rw [arrive, known]

theorem cancel_unknown (unknown : calls.shape? id = none) : calls.cancel id = (false, calls, []) := by
  rw [cancel, unknown]

theorem cancel_known {shape : Shape} (known : calls.shape? id = some shape) :
    calls.cancel id = (true, calls.withdraw id,
      [.deliver id (.failure (.interrupted s!"request {id} cancelled"))]) := by
  rw [cancel, known]

/-- Everyone who is still in the table is told once. -/
theorem handed_all {pending : List (UInt64 × Shape)} (distinct : (pending.map (·.1)).Nodup)
    (delivery : Delivery) :
    Effect.handed id (pending.map fun (id, _) => .deliver id delivery) =
      ((pending.lookup id).map fun _ => delivery).toList := by
  induction pending with
  | nil => rfl
  | cons entry rest ih =>
    obtain ⟨absent, distinct⟩ := List.nodup_cons.mp distinct
    rw [List.map_cons, ← List.singleton_append, Effect.handed_append, ih distinct, List.lookup_cons]
    by_cases same : entry.1 = id
    · have gone : rest.lookup id = none := by
        rw [List.lookup_eq_none_iff]
        intro other member
        rw [bne_iff_ne]
        rintro rfl
        exact absent (List.mem_map.mpr ⟨other, member, same.symm⟩)
      rw [gone, same, beq_self_eq_true]
      simp [Effect.handed, same]
    · rw [beq_eq_false_iff_ne.mpr (fun here => same here.symm)]
      simp [Effect.handed, same]

/-- The failure that ends every pending call when a live connection is closed. -/
def closingError (cause : Option Error) (calls : Calls) : Error :=
  (if calls.closing then none else cause).getD .connectionClosed

theorem shut_live (live : calls.standing = .live) (cause : Option Error) :
    (calls.shut cause).1.standing.error? = some (calls.closingError cause) ∧
      (calls.shut cause).1.pending = [] ∧ (calls.shut cause).1.nextId = calls.nextId := by
  rw [shut, live]
  exact ⟨rfl, rfl, rfl⟩

theorem handed_shut (live : calls.standing = .live) (distinct : (calls.pending.map (·.1)).Nodup)
    (cause : Option Error) : Effect.handed id (calls.shut cause).2 =
      ((calls.shape? id).map fun _ => .failure (calls.closingError cause)).toList := by
  rw [shut, live]
  simp only [Effect.handed_append]
  rw [handed_all distinct]
  have silent (noted : Option Error) :
      Effect.handed id (noted.map fun cause => Effect.note (.connectionFailed cause)).toList = [] := by
    cases noted <;> rfl
  rw [silent]
  rfl

theorem shut_closed {first : Option Error} (closed : calls.standing = .closed first)
    (cause : Option Error) : calls.shut cause = (calls, []) := by
  rw [shut, closed]

/-- The books of the calls of a connection, after `count` of them. -/
structure Tidy (count : Nat) (calls : Calls) : Prop where
  nextId_eq : calls.nextId = UInt64.ofNat (count + 1)
  ids : ∀ entry ∈ calls.pending, ∃ index < count, entry.1 = UInt64.ofNat (index + 1)
  distinct : (calls.pending.map (·.1)).Nodup
  closed : calls.standing ≠ .live → calls.pending = []

theorem ofNat_succ_ne {index count : Nat} (before : index < count) (few : count < UInt64.size) :
    UInt64.ofNat (index + 1) ≠ UInt64.ofNat (count + 1) := by
  intro same
  have size : UInt64.size = 2 ^ 64 := rfl
  have values := congrArg UInt64.toNat same
  rw [UInt64.toNat_ofNat', UInt64.toNat_ofNat'] at values
  omega

namespace Tidy

variable {count : Nat}

theorem shape?_nextId (tidy : calls.Tidy count) (few : count < UInt64.size) :
    calls.shape? calls.nextId = none := by
  rw [shape?, List.lookup_eq_none_iff]
  intro entry member
  obtain ⟨index, before, same⟩ := tidy.ids entry member
  rw [same, tidy.nextId_eq, bne_iff_ne]
  exact (ofNat_succ_ne before few).symm

theorem withdraw (tidy : calls.Tidy count) (id : UInt64) : (calls.withdraw id).Tidy count where
  nextId_eq := tidy.nextId_eq
  ids entry member := tidy.ids entry (List.mem_of_mem_filter member)
  distinct := tidy.distinct.sublist (List.filter_sublist.map _)
  closed isClosed := by
    rw [Calls.withdraw, tidy.closed isClosed]
    rfl

theorem register (tidy : calls.Tidy count) (few : count < UInt64.size) (shape : Shape) :
    (calls.register shape).2.Tidy (count + 1) := by
  have advanced : calls.nextId + 1 = UInt64.ofNat (count + 1 + 1) := by
    rw [tidy.nextId_eq, ← UInt64.ofNat_one, ← UInt64.ofNat_add]
  have ids : ∀ entry ∈ calls.pending, ∃ index < count + 1, entry.1 = UInt64.ofNat (index + 1) := by
    intro entry member
    obtain ⟨index, before, same⟩ := tidy.ids entry member
    exact ⟨index, by omega, same⟩
  cases standing : calls.standing with
  | closed cause =>
    rw [register_closed standing]
    exact ⟨advanced, ids, tidy.distinct, tidy.closed⟩
  | live =>
    rw [register_live standing]
    refine ⟨advanced, ?_, ?_, fun ended => absurd standing ended⟩
    · intro entry member
      rcases List.mem_append.mp member with old | new
      · exact ids entry old
      · obtain rfl := List.mem_singleton.mp new
        exact ⟨count, by omega, tidy.nextId_eq⟩
    · change ((calls.pending ++ [(calls.nextId, shape)]).map (·.1)).Nodup
      rw [List.map_append, List.nodup_append]
      refine ⟨tidy.distinct, List.nodup_singleton _, ?_⟩
      intro one held other new same
      obtain ⟨entry, member, rfl⟩ := List.mem_map.mp held
      obtain ⟨index, before, numbered⟩ := tidy.ids entry member
      rw [List.map_singleton, List.mem_singleton] at new
      rw [numbered, new, tidy.nextId_eq] at same
      exact ofNat_succ_ne before few same

theorem arrive (tidy : calls.Tidy count) (envelope : ResponseEnvelope) :
    (calls.arrive envelope).1.Tidy count := by
  cases known : calls.shape? envelope.id with
  | none => rw [arrive_unknown known]; exact tidy
  | some shape =>
    rw [arrive_known known]
    dsimp only
    split
    · exact tidy.withdraw _
    · exact tidy

theorem cancel (tidy : calls.Tidy count) (id : UInt64) : (calls.cancel id).2.1.Tidy count := by
  cases known : calls.shape? id with
  | none => rw [cancel_unknown known]; exact tidy
  | some shape => rw [cancel_known known]; exact tidy.withdraw _

theorem shut (tidy : calls.Tidy count) (cause : Option Error) : (calls.shut cause).1.Tidy count := by
  cases standing : calls.standing with
  | closed first => rw [shut_closed standing]; exact tidy
  | live =>
    obtain ⟨-, empty, same⟩ := shut_live standing cause
    refine ⟨same.trans tidy.nextId_eq, ?_, ?_, fun _ => empty⟩
    · rw [empty]
      exact fun entry member => nomatch member
    · rw [empty]
      exact List.nodup_nil

end Tidy

end Calls

end PagedResults
