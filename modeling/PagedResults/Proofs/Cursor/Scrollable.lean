import Mathlib.Algebra.Group.Nat.Defs
import PagedResults.Proofs.Cursor.Index
import PagedResults.Proofs.Cursor.Plain
import PagedResults.Proofs.ScriptedSource

/-! # Scrollable cursors move as if every row were at hand

A scrollable cursor keeps the shown rows of the accepted pages and stands at the index of a plain
cursor: among the rows kept, or at the end of a result that has been read as a whole. An operation
first reads on, which only adds rows, and then moves, which cannot fail; so where a request fails the
cursor is still where it was. `ScrollableCursor.Goes` says both of an operation.
-/

namespace PagedResults

namespace ScrollableCursor

variable {σ ρ : Type} [PageSource σ ρ]

/-- A scrollable cursor, with the first `loaded` rows of a result accepted, at the place of a plain
one. -/
structure Stands (rows : List Row) (loaded : Nat) (plain : PlainCursor)
    (state : ScrollableCursor ρ × σ) : Prop where
  steady : Supply.Steady rows loaded (state.1.supply, state.2)
  bounded : rows.length ≤ mostRows
  rows_eq : plain.rows = state.1.supply.options.shown rows
  kept_eq : state.1.rows.toList = plain.rows.take loaded
  index_eq : state.1.index.toInt = plain.index
  low : -1 ≤ plain.index
  place : plain.index < state.1.rows.size ∨ plain.index = plain.count ∧ state.1.supply.exhausted = true

section Standing

variable {rows : List Row} {loaded loaded' : Nat} {plain : PlainCursor} {cursor : ScrollableCursor ρ}
  {source : σ}

theorem Stands.length_le (stands : Stands rows loaded plain (cursor, source)) :
    cursor.rows.size ≤ plain.count := by
  have kept := congrArg List.length stands.kept_eq
  rw [Array.length_toList, List.length_take] at kept
  dsimp only at kept
  unfold PlainCursor.count
  omega

/-- There are no more rows than indices. -/
theorem Stands.count_le (stands : Stands rows loaded plain (cursor, source)) : plain.count ≤ mostRows := by
  have shown := cursor.supply.options.shown_length_le rows
  have all : plain.rows = cursor.supply.options.shown rows := stands.rows_eq
  have bounded := stands.bounded
  rw [← all] at shown
  unfold PlainCursor.count
  omega

theorem Stands.size_le (stands : Stands rows loaded plain (cursor, source)) :
    cursor.rows.size ≤ mostRows := by
  have held := stands.length_le
  have counted := stands.count_le
  omega

theorem Stands.toInt_length (stands : Stands rows loaded plain (cursor, source)) :
    cursor.length.toInt = cursor.rows.size :=
  ScrollableCursor.toInt_length stands.size_le

/-- An exhausted supply has handed on everything that is shown. -/
theorem Stands.length_of_exhausted (stands : Stands rows loaded plain (cursor, source))
    (exhausted : cursor.supply.exhausted = true) : (cursor.rows.size : Int) = plain.count := by
  have whole := (stands.steady.counts.ended exhausted).1
  rw [← stands.rows_eq] at whole
  have kept := congrArg List.length stands.kept_eq
  rw [Array.length_toList, List.length_take, Nat.min_eq_right whole] at kept
  exact congrArg Nat.cast kept

theorem Stands.index_lt (stands : Stands rows loaded plain (cursor, source))
    (more : cursor.supply.exhausted = false) : plain.index < plain.count := by
  rcases stands.place with inside | ⟨-, exhausted⟩
  · exact Int.lt_of_lt_of_le inside stands.length_le
  · rw [more] at exhausted
    contradiction

theorem Stands.inRange (stands : Stands rows loaded plain (cursor, source)) : plain.InRange := by
  refine ⟨stands.low, ?_⟩
  rcases stands.place with inside | ⟨there, -⟩
  · exact Int.le_of_lt (Int.lt_of_lt_of_le inside stands.length_le)
  · exact Int.le_of_eq there

theorem Stands.onRow_eq (stands : Stands rows loaded plain (cursor, source)) :
    cursor.onRow = plain.onRow := by
  have held := stands.length_le
  have index : cursor.index.toInt = plain.index := stands.index_eq
  unfold onRow PlainCursor.onRow
  simp only [Int64.le_iff_toInt_le, Int64.lt_iff_toInt_lt, Index.toInt_zero, index, stands.toInt_length]
  rcases stands.place with inside | ⟨there, exhausted⟩
  · rw [decide_eq_true inside, decide_eq_true (Int.lt_of_lt_of_le inside held)]
  · rw [stands.length_of_exhausted exhausted]

theorem Stands.current_eq (stands : Stands rows loaded plain (cursor, source)) :
    cursor.current = plain.current := by
  have index : cursor.index.toInt = plain.index := stands.index_eq
  unfold current PlainCursor.current Int64.toNatClampNeg
  simp only [Int64.le_iff_toInt_le, Index.toInt_zero, index]
  rw [← Array.getElem?_toList, stands.kept_eq, List.getElem?_take]
  split
  · next start =>
    rcases stands.place with inside | ⟨there, exhausted⟩
    · have kept := congrArg List.length stands.kept_eq
      rw [Array.length_toList, List.length_take] at kept
      rw [if_pos (by dsimp only at kept inside; omega)]
    · rw [there]
      simp [PlainCursor.count]
  · rfl

/-- Replacing the supply by one that has advanced keeps the cursor at its place. -/
theorem Stands.supplied (stands : Stands rows loaded plain (cursor, source))
    {answers : List (Outcome Error Page)} {after : Supply ρ × σ} {added : List Row}
    (advances : Supply.Advances rows loaded (cursor.supply, source) answers loaded' after)
    (handed : plain.rows.take loaded ++ added = plain.rows.take loaded')
    (final : cursor.supply.exhausted = true → after.1.exhausted = true) :
    Stands rows loaded' plain (keep added { cursor with supply := after.1 }, after.2) where
  steady := advances.steady stands.steady
  bounded := stands.bounded
  rows_eq := by rw [stands.rows_eq]; exact congrArg (·.shown rows) advances.options_eq.symm
  kept_eq := by
    rw [← handed, ← stands.kept_eq, keep]
    exact Array.toList_append
  index_eq := stands.index_eq
  low := stands.low
  place := by
    refine stands.place.imp ?_ (fun ⟨there, exhausted⟩ => ⟨there, final exhausted⟩)
    intro inside
    unfold keep
    rw [Array.size_append]
    dsimp only at *
    omega

/-- Going to an index, once the cursor has read up to it or to the end. -/
theorem Stands.lands (stands : Stands rows loaded plain (cursor, source)) {target : Int} {index : Int64}
    (arrives : max (-1) (min target plain.count) = index.toInt)
    (reached : index.toInt < cursor.rows.size ∨ cursor.supply.exhausted = true) :
    Stands rows loaded (plain.goTo target) ({ cursor with index }, source) where
  steady := stands.steady
  bounded := stands.bounded
  rows_eq := stands.rows_eq
  kept_eq := stands.kept_eq
  index_eq := arrives.symm
  low := (PlainCursor.goTo_inRange target plain).1
  place := by
    rw [PlainCursor.goTo_eq arrives]
    rcases reached with inside | exhausted
    · exact .inl inside
    · have whole := stands.length_of_exhausted exhausted
      have nonneg : 0 ≤ plain.count := Int.natCast_nonneg _
      have high : index.toInt < plain.count ∨ index.toInt = plain.count := by omega
      exact high.imp (fun inside => whole ▸ inside) (fun last => ⟨last, exhausted⟩)

end Standing

/-- An operation that went well, or failed with the last of its requests: then the cursor stands where it
stood, and the request was made before the end of the result. -/
inductive Goes (rows : List Row) (loaded : Nat) (plain : PlainCursor) (before : ScrollableCursor ρ × σ)
    {α : Type} (Good : α → PlainCursor → ScrollableCursor ρ → Prop) :
    Outcome Error α × ScrollableCursor ρ × σ → Prop
  | well {pages : List Page} {loaded' : Nat} {value : α} {next : PlainCursor}
      {after : ScrollableCursor ρ × σ} (stands : Stands rows loaded' next after)
      (advances : Supply.Advances rows loaded (before.1.supply, before.2) (pages.map .ok) loaded'
        (after.1.supply, after.2))
      (good : Good value next after.1) : Goes rows loaded plain before Good (.ok value, after)
  | failed {answers : List (Outcome Error Page)} {loaded' : Nat} {error : Error}
      {after : ScrollableCursor ρ × σ} (stands : Stands rows loaded' plain after)
      (advances : Supply.Advances rows loaded (before.1.supply, before.2) answers loaded'
        (after.1.supply, after.2))
      (accounts : Supply.Accounts answers (Outcome.fail error : Outcome Error Unit))
      (inside : plain.index < plain.count) :
      Goes rows loaded plain before Good (Outcome.fail error, after)

/-- An operation that only reads on. -/
def Reads (rows : List Row) (loaded : Nat) (plain : PlainCursor) (before : ScrollableCursor ρ × σ)
    {α : Type} (Good : α → ScrollableCursor ρ → Prop) :
    Outcome Error α × ScrollableCursor ρ × σ → Prop :=
  Goes rows loaded plain before fun value next after => next = plain ∧ Good value after

/-- An operation that moves to the place of another plain cursor and returns `answer`. -/
def Moves (rows : List Row) (loaded : Nat) (plain : PlainCursor) (before : ScrollableCursor ρ × σ)
    {α : Type} (next : PlainCursor) (answer : α) : Outcome Error α × ScrollableCursor ρ × σ → Prop :=
  Goes rows loaded plain before fun value there _ => there = next ∧ value = answer

section Operations

variable {rows : List Row} {loaded loaded' : Nat} {plain : PlainCursor} {cursor : ScrollableCursor ρ}
  {source : σ}

/-- Going on after pages were read already. -/
theorem Goes.prepend {α : Type} {Good : α → PlainCursor → ScrollableCursor ρ → Prop} {pages : List Page}
    {middle : ScrollableCursor ρ × σ} {result : Outcome Error α × ScrollableCursor ρ × σ}
    (advances : Supply.Advances rows loaded (cursor.supply, source) (pages.map .ok) loaded'
      (middle.1.supply, middle.2))
    (goes : Goes rows loaded' plain middle Good result) :
    Goes rows loaded plain (cursor, source) Good result := by
  cases goes with
  | @well more last _ _ after stands later good =>
    have went : Supply.Advances rows loaded (cursor.supply, source) ((pages ++ more).map .ok) last
        (after.1.supply, after.2) := by
      rw [List.map_append]
      exact advances.trans later
    exact .well stands went good
  | failed stands later accounts inside =>
    exact .failed stands (advances.trans later) (accounts.prepend pages) inside

/-- An operation that goes on where another one has read to. -/
theorem Reads.bind {α β : Type} {Good : α → ScrollableCursor ρ → Prop}
    {Better : β → PlainCursor → ScrollableCursor ρ → Prop}
    {first : Op Error (ScrollableCursor ρ × σ) α} {next : α → Op Error (ScrollableCursor ρ × σ) β}
    (reads : Reads rows loaded plain (cursor, source) Good (first (cursor, source)))
    (goes : ∀ loaded' value after, Stands rows loaded' plain after → Good value after.1 →
      Goes rows loaded' plain after Better (next value after)) :
    Goes rows loaded plain (cursor, source) Better ((first >>= next) (cursor, source)) := by
  rw [Op.bind_apply]
  rcases began : first (cursor, source) with ⟨outcome, after⟩
  rw [began] at reads
  cases reads with
  | failed stands advances accounts inside => exact .failed stands advances accounts inside
  | well stands advances good =>
    obtain ⟨rfl, good⟩ := good
    exact (goes _ _ _ stands good).prepend advances

/-- An operation that reads nothing. -/
theorem Stands.goes {α : Type} {Good : α → PlainCursor → ScrollableCursor ρ → Prop} {value : α}
    {after : ScrollableCursor ρ} {next : PlainCursor}
    (stands : Stands rows loaded plain (cursor, source))
    (moved : Stands rows loaded next (after, source)) (same : after.supply = cursor.supply)
    (good : Good value next after) :
    Goes rows loaded plain (cursor, source) Good (.ok value, after, source) := by
  have went : Supply.Advances rows loaded (cursor.supply, source) (([] : List Page).map .ok) loaded
      (after.supply, source) := by
    rw [same]
    exact stands.steady.refl
  exact .well moved went good

theorem Stands.reads {α : Type} {Good : α → ScrollableCursor ρ → Prop} {value : α}
    (stands : Stands rows loaded plain (cursor, source)) (good : Good value cursor) :
    Reads rows loaded plain (cursor, source) Good (.ok value, cursor, source) :=
  stands.goes stands rfl ⟨rfl, good⟩

omit [PageSource σ ρ] in
theorem keep_nil (cursor : ScrollableCursor ρ) : keep [] cursor = cursor := by
  simp [keep]

omit [PageSource σ ρ] in
theorem onSupply_apply {α : Type} (operation : Op Error (Supply ρ × σ) α) (cursor : ScrollableCursor ρ)
    (source : σ) :
    onSupply operation (cursor, source) =
      let result := operation (cursor.supply, source)
      (result.1, { cursor with supply := result.2.1 }, result.2.2) := rfl

/-- Waiting for the request under way keeps its rows. -/
theorem mergeInFlight_reads (stands : Stands rows loaded plain (cursor, source)) :
    Reads rows loaded plain (cursor, source) (fun _ _ => True) (mergeInFlight (cursor, source)) := by
  rw [mergeInFlight, Op.bind_apply, onSupply_apply]
  rcases started : cursor.supply.inFlight with _ | ⟨offset, request⟩
  · simp only [Supply.join_idle started]
    exact stands.reads trivial
  · have more : cursor.supply.exhausted = false := by
      by_contra exhausted
      have ended := (stands.steady.counts.ended (by simpa using exhausted)).2
      rw [started] at ended
      contradiction
    rcases Supply.join_cases stands.steady started with
      ⟨added, page, after, loaded', joined, advances, handed, -, -⟩ |
      ⟨error, answers, after, joined, advances, accounts⟩
    · rw [← stands.rows_eq] at handed
      have stood := stands.supplied advances handed (fun exhausted => by rw [more] at exhausted; contradiction)
      have went : Supply.Advances rows loaded (cursor.supply, source) ([page].map .ok) loaded' after := advances
      have fits := stood.size_le
      simp only [keep, Array.size_append, List.size_toArray] at fits
      simp only [joined]
      rw [extend_apply { cursor with supply := after.1 } after.2 fits]
      exact .well stood went ⟨rfl, trivial⟩
    · have stood := stands.supplied advances (List.append_nil _)
        (fun exhausted => by rw [more] at exhausted; contradiction)
      rw [keep_nil] at stood
      simp only [joined]
      exact .failed stood advances accounts (stands.index_lt more)

/-- The next page of a result that has not ended adds its rows. -/
theorem Stands.fetched (stands : Stands rows loaded plain (cursor, source))
    (more : cursor.supply.exhausted = false) {added : List Row} {supply : Supply ρ} {next : σ}
    (fetched : Supply.fetchNow (cursor.supply, source) = (.ok added, supply, next)) :
    ∃ (page : Page) (loaded' : Nat),
      Supply.Advances rows loaded (cursor.supply, source) ([page].map .ok) loaded' (supply, next) ∧
      Stands rows loaded' plain (keep added { cursor with supply }, next) ∧
      (added = [] → supply.exhausted = true) := by
  rcases Supply.fetchNow_cases stands.steady more with
    ⟨_, page, after, loaded', given, advances, handed, last⟩ | ⟨_, _, _, refused, -⟩
  · rw [fetched] at given
    cases given
    rw [← stands.rows_eq] at handed
    have stood := stands.supplied advances handed (fun exhausted => by rw [more] at exhausted; contradiction)
    exact ⟨page, loaded', advances, stood, last⟩
  · rw [fetched] at refused
    cases refused

/-- Where the next page cannot be fetched, the cursor stays where it is. -/
theorem Stands.refused (stands : Stands rows loaded plain (cursor, source))
    (more : cursor.supply.exhausted = false) {failure : Failure Error} {supply : Supply ρ} {next : σ}
    (refused : Supply.fetchNow (cursor.supply, source) = (.error failure, supply, next)) :
    ∃ error answers, failure = .error error ∧
      Supply.Advances rows loaded (cursor.supply, source) answers loaded (supply, next) ∧
      Supply.Accounts answers (Outcome.fail error : Outcome Error Unit) ∧
      Stands rows loaded plain ({ cursor with supply }, next) := by
  rcases Supply.fetchNow_cases stands.steady more with
    ⟨_, _, _, _, given, -⟩ | ⟨error, answers, after, failed, advances, accounts⟩
  · rw [refused] at given
    cases given
  · rw [refused] at failed
    cases failed
    have stood := stands.supplied advances (List.append_nil _)
      (fun exhausted => by rw [more] at exhausted; contradiction)
    rw [keep_nil] at stood
    exact ⟨error, answers, rfl, advances, accounts, stood⟩

/-- Reading pages ends with enough rows or at the end of the result. -/
theorem readUntil_reads (enough : Nat → Bool) (stands : Stands rows loaded plain (cursor, source)) :
    Reads rows loaded plain (cursor, source)
      (fun _ after => enough after.rows.size = true ∨ after.supply.exhausted = true)
      (readUntil enough cursor source) := by
  fun_induction readUntil enough cursor source generalizing loaded with
  | case1 cursor source done =>
    apply stands.reads
    simpa only [Bool.or_eq_true] using done
  | case2 cursor source unfinished failure supply next refused =>
    have more : cursor.supply.exhausted = false := by simp_all
    obtain ⟨error, answers, rfl, advances, accounts, stood⟩ := stands.refused more refused
    exact .failed stood advances accounts (stands.index_lt more)
  | case3 cursor source unfinished supply next fetched =>
    have more : cursor.supply.exhausted = false := by simp_all
    obtain ⟨page, loaded', advances, stood, last⟩ := stands.fetched more fetched
    rw [keep_nil] at stood
    exact .well stood advances ⟨rfl, .inr (last rfl)⟩
  | case4 cursor source unfinished added supply next fetched some_row full =>
    have more : cursor.supply.exhausted = false := by simp_all
    obtain ⟨page, loaded', -, stood, -⟩ := stands.fetched more fetched
    have fits := stood.size_le
    simp only [keep, Array.size_append, List.size_toArray] at fits
    omega
  | case5 cursor source unfinished added supply next fetched some_row fits ih =>
    have more : cursor.supply.exhausted = false := by simp_all
    obtain ⟨page, loaded', advances, stood, -⟩ := stands.fetched more fetched
    exact (ih stood).prepend advances

/-- Reading up to a row finds out whether the result has such a row. -/
theorem materializeTo_reads (target : Int64) (stands : Stands rows loaded plain (cursor, source)) :
    Reads rows loaded plain (cursor, source)
      (fun found after => found = true ∧ target.toInt < after.rows.size ∨
        found = false ∧ plain.count ≤ target.toInt ∧ after.supply.exhausted = true)
      (materializeTo target (cursor, source)) := by
  have reached {loaded : Nat} {after : ScrollableCursor ρ} {next : σ}
      (stands : Stands rows loaded plain (after, next)) :
      target < after.length ↔ target.toInt < after.rows.size := by
    rw [Int64.lt_iff_toInt_lt, stands.toInt_length]
  rw [materializeTo, Op.bind_apply, Op.get_apply]
  dsimp only
  split
  · next there => exact stands.reads (.inl ⟨rfl, (reached stands).mp there⟩)
  · apply (mergeInFlight_reads stands).bind
    intro merged _ ⟨cursor, source⟩ stood _
    apply Reads.bind (readUntil_reads (fun size => target < Int64.ofNat size) stood)
    intro loaded' _ ⟨after, next⟩ final ended
    apply final.reads
    by_cases there : target < after.length
    · exact .inl ⟨decide_eq_true there, (reached final).mp there⟩
    · have exhausted := ended.resolve_left (fun enough => there (of_decide_eq_true enough))
      have whole := final.length_of_exhausted exhausted
      have beyond := mt (reached final).mpr there
      exact .inr ⟨decide_eq_false there, by omega, exhausted⟩

/-- Reading the whole result. -/
theorem drain_reads (stands : Stands rows loaded plain (cursor, source)) :
    Reads rows loaded plain (cursor, source) (fun _ after => after.supply.exhausted = true)
      (drain (cursor, source)) := by
  apply (mergeInFlight_reads stands).bind
  intro merged _ ⟨cursor, source⟩ stood _
  apply Reads.bind (readUntil_reads (fun _ => false) stood)
  intro loaded' _ ⟨after, next⟩ final ended
  have exhausted : after.supply.exhausted = true := ended.resolve_left Bool.false_ne_true
  have noted := Supply.note_advances final.steady .caller (.allRowsRead after.rows.size)
  have stays := final.supplied noted (List.append_nil _) id
  rw [keep_nil] at stays
  have went : Supply.Advances rows loaded' (after.supply, next) (([] : List Page).map .ok) loaded' _ := noted
  exact .well stays went ⟨rfl, exhausted⟩

omit [PageSource σ ρ] in
/-- A check that the result is open lets every operation of an open one through. -/
theorem checkOpen_bind {α : Type} (isOpen : cursor.supply.closed = false)
    (next : Unit → Op Error (ScrollableCursor ρ × σ) α) :
    (onSupply Supply.checkOpen >>= next) (cursor, source) = next () (cursor, source) := by
  rw [Op.bind_apply, onSupply_apply, Supply.checkOpen_apply isOpen]

/-- Moving to a row ends where the plain cursor ends. -/
theorem moveTo_moves (target : Int64) (stands : Stands rows loaded plain (cursor, source)) :
    Moves rows loaded plain (cursor, source) (plain.goTo target.toInt) (plain.goTo target.toInt).onRow
      (moveTo target (cursor, source)) := by
  have nonneg : 0 ≤ plain.count := Int.natCast_nonneg _
  have start : target < 0 ↔ target.toInt < 0 := Int64.lt_iff_toInt_lt
  rw [moveTo, Op.ite_apply]
  split
  · next before =>
    have low := start.mp before
    have arrives : max (-1) (min target.toInt plain.count) = (-1 : Int64).toInt := by
      rw [Index.toInt_neg_one]
      omega
    have held : (-1 : Int64).toInt < cursor.rows.size := by
      rw [Index.toInt_neg_one]
      omega
    refine stands.goes (stands.lands arrives (.inl held)) rfl ⟨rfl, ?_⟩
    rw [PlainCursor.onRow_goTo, decide_eq_false (by omega), Bool.false_and]
  · next inside =>
    have low := mt start.mpr inside
    apply (materializeTo_reads target stands).bind
    intro loaded' found ⟨after, next⟩ stood reached
    rcases reached with ⟨rfl, there⟩ | ⟨rfl, beyond, exhausted⟩
    · have high := Int.lt_of_lt_of_le there stood.length_le
      have arrives : max (-1) (min target.toInt plain.count) = target.toInt := by omega
      refine stood.goes (stood.lands arrives (.inl there)) rfl ⟨rfl, ?_⟩
      rw [PlainCursor.onRow_goTo, decide_eq_true (by omega), decide_eq_true high, Bool.and_self]
    · have arrives : max (-1) (min target.toInt plain.count) = after.length.toInt := by
        rw [stood.toInt_length, stood.length_of_exhausted exhausted]
        omega
      refine stood.goes (stood.lands arrives (.inr exhausted)) rfl ⟨rfl, ?_⟩
      rw [PlainCursor.onRow_goTo, decide_eq_false (p := target.toInt < plain.count) (by omega), Bool.and_false]

/-- Moving by a row number. -/
theorem absolute_moves (row : Int64) (stands : Stands rows loaded plain (cursor, source)) :
    Moves rows loaded plain (cursor, source) (plain.move (.absolute row))
      (plain.move (.absolute row)).onRow (absolute row (cursor, source)) := by
  have nonneg : 0 ≤ plain.count := Int.natCast_nonneg _
  have counted : plain.count ≤ mostRows := stands.count_le
  have most : mostRows = 2 ^ 63 - 1 := rfl
  have least : -2 ^ 63 ≤ row.toInt := row.le_toInt
  have greatest : row.toInt < 2 ^ 63 := row.toInt_lt
  have above : 0 < row ↔ 0 < row.toInt := Int64.lt_iff_toInt_lt
  have none : row = 0 ↔ row.toInt = 0 := Int64.toInt_inj.symm
  rw [absolute, checkOpen_bind stands.steady.counts.is_open, Op.ite_apply, Op.ite_apply,
    PlainCursor.move, PlainCursor.target]
  rcases Int.lt_trichotomy 0 row.toInt with positive | zero | negative
  · have exact_eq : (row - 1).toInt = row.toInt - 1 := by
      apply Index.toInt_sub <;> rw [Index.toInt_one] <;> omega
    rw [if_neg (mt none.mp (by omega)), if_pos (above.mpr positive), if_pos positive, ← exact_eq]
    exact moveTo_moves _ stands
  · have arrives : max (-1) (min (-1) plain.count) = (-1 : Int64).toInt := by
      rw [Index.toInt_neg_one]
      omega
    have held : (-1 : Int64).toInt < cursor.rows.size := by
      rw [Index.toInt_neg_one]
      omega
    rw [if_pos (none.mpr zero.symm), if_neg (by omega), if_pos zero.symm]
    exact stands.goes (stands.lands arrives (.inl held)) rfl ⟨rfl, by rw [PlainCursor.onRow_goTo]; rfl⟩
  · rw [if_neg (mt none.mp (by omega)), if_neg (mt above.mp (by omega)), if_neg (by omega), if_neg (by omega)]
    apply (drain_reads stands).bind
    intro loaded' _ ⟨after, next⟩ stood exhausted
    have whole := stood.length_of_exhausted exhausted
    have exact_eq : (after.length + row).toInt = plain.count + row.toInt := by
      rw [Index.toInt_add, stood.toInt_length, whole] <;> rw [stood.toInt_length] <;> omega
    rw [Op.bind_apply, Op.get_apply, ← exact_eq]
    exact moveTo_moves _ stood

/-- A sum that saturates leads past the same end as the exact one. -/
theorem goTo_saturatingAdd (stands : Stands rows loaded plain (cursor, source)) (offset : Int64) :
    plain.goTo (saturatingAdd cursor.index offset).toInt = plain.goTo (plain.index + offset.toInt) := by
  have index : cursor.index.toInt = plain.index := stands.index_eq
  have counted : plain.count ≤ mostRows := stands.count_le
  have most : mostRows = 2 ^ 63 - 1 := rfl
  rw [Index.toInt_saturatingAdd, index, PlainCursor.goTo, PlainCursor.goTo]
  congr 1
  omega

/-- Moving by a number of rows. -/
theorem relative_moves (offset : Int64) (stands : Stands rows loaded plain (cursor, source)) :
    Moves rows loaded plain (cursor, source) (plain.move (.relative offset))
      (plain.move (.relative offset)).onRow (relative offset (cursor, source)) := by
  rw [relative, checkOpen_bind stands.steady.counts.is_open, Op.bind_apply, Op.get_apply]
  dsimp only
  rw [Op.ite_apply, PlainCursor.move, PlainCursor.target]
  split
  · next zero =>
    rw [zero, Index.toInt_zero, Int.add_zero, PlainCursor.goTo_index stands.inRange]
    exact stands.goes stands rfl ⟨rfl, stands.onRow_eq⟩
  · rw [← goTo_saturatingAdd stands offset]
    exact moveTo_moves _ stands

/-- Moving past the last row. -/
theorem afterLast_moves (stands : Stands rows loaded plain (cursor, source)) :
    Moves rows loaded plain (cursor, source) (plain.move .afterLast) ()
      (afterLast (cursor, source)) := by
  rw [afterLast, checkOpen_bind stands.steady.counts.is_open]
  apply (drain_reads stands).bind
  intro loaded' _ ⟨after, next⟩ stood exhausted
  have nonneg : 0 ≤ plain.count := Int.natCast_nonneg _
  have arrives : max (-1) (min plain.count plain.count) = after.length.toInt := by
    rw [stood.toInt_length, stood.length_of_exhausted exhausted]
    omega
  exact stood.goes (stood.lands arrives (.inr exhausted)) rfl ⟨rfl, rfl⟩

/-- Reading up to the next row and moving there. -/
theorem proceed_moves {target : Int64} (ahead : target.toInt = plain.index + 1)
    (stands : Stands rows loaded plain (cursor, source)) :
    Moves rows loaded plain (cursor, source) (plain.move .next) (plain.move .next).onRow
      ((do
        let _ ← materializeTo target
        update fun cursor => { cursor with index := min target cursor.length }
        return (← get).1.onRow : Op Error (ScrollableCursor ρ × σ) Bool) (cursor, source)) := by
  have low := stands.low
  apply (materializeTo_reads target stands).bind
  intro loaded' _ ⟨after, next⟩ stood reached
  have lands : Stands rows loaded' (plain.move .next)
      ({ after with index := min target after.length }, next) := by
    have least := Index.toInt_min target after.length
    rw [stood.toInt_length] at least
    rw [PlainCursor.move, PlainCursor.target, ← ahead]
    rcases reached with ⟨-, there⟩ | ⟨-, beyond, exhausted⟩
    · have high := Int.lt_of_lt_of_le there stood.length_le
      dsimp only at there
      exact stood.lands (by omega) (.inl (by omega))
    · have whole := stood.length_of_exhausted exhausted
      have nonneg : 0 ≤ plain.count := Int.natCast_nonneg _
      exact stood.lands (by omega) (.inr exhausted)
  exact stood.goes lands rfl ⟨rfl, lands.onRow_eq⟩

/-- Behind a row there is an index. -/
theorem Stands.toInt_index_add_one (stands : Stands rows loaded plain (cursor, source))
    (inside : plain.index < plain.count) : (cursor.index + 1).toInt = plain.index + 1 := by
  have index : cursor.index.toInt = plain.index := stands.index_eq
  have low := stands.low
  have counted : plain.count ≤ mostRows := stands.count_le
  have most : mostRows = 2 ^ 63 - 1 := rfl
  rw [Index.toInt_add, index, Index.toInt_one] <;> rw [index, Index.toInt_one] <;> omega

/-- Moving to the next row begins to fetch the next page first, if few rows are left. -/
theorem next_moves (stands : Stands rows loaded plain (cursor, source)) :
    Moves rows loaded plain (cursor, source) (plain.move .next) (plain.move .next).onRow
      (next (cursor, source)) := by
  have index : cursor.index.toInt = plain.index := stands.index_eq
  have past : cursor.length ≤ cursor.index ↔ cursor.rows.size ≤ plain.index := by
    rw [Int64.le_iff_toInt_le, stands.toInt_length, index]
  have nonneg : 0 ≤ plain.count := Int.natCast_nonneg _
  rw [next, checkOpen_bind stands.steady.counts.is_open, Op.bind_apply, Op.get_apply]
  dsimp only
  rw [Op.ite_apply]
  split
  · next off =>
    have there : plain.index = plain.count := by
      rcases stands.place with inside | ⟨there, -⟩
      · exact absurd inside (Int.not_lt.mpr (past.mp off))
      · exact there
    have still : plain.move .next = plain := PlainCursor.goTo_eq (by
      rw [PlainCursor.target]
      omega)
    rw [still]
    refine stands.goes stands rfl ⟨rfl, ?_⟩
    unfold PlainCursor.onRow
    rw [there, decide_eq_false (p := plain.count < plain.count) (Int.lt_irrefl _), Bool.and_false]
  · next on =>
    have held := stands.length_le
    have inside : plain.index < plain.count := by
      have := mt past.mpr on
      omega
    have ahead := stands.toInt_index_add_one inside
    rw [Op.ite_apply]
    split
    · rw [Op.bind_apply, onSupply_apply]
      have begun := Supply.prefetch_advances stands.steady
      have stood := stands.supplied begun (List.append_nil _)
        (fun exhausted => (Supply.prefetch_exhausted cursor.supply source).trans exhausted)
      rw [keep_nil] at stood
      have went : Supply.Advances rows loaded (cursor.supply, source) (([] : List Page).map .ok) loaded
          (Supply.prefetch (cursor.supply, source)) := begun
      exact (proceed_moves ahead stood).prepend went
    · exact proceed_moves ahead stands

/-- Whether a next row exists may need its page. -/
theorem isLast_moves (stands : Stands rows loaded plain (cursor, source)) :
    Moves rows loaded plain (cursor, source) (plain.move .isLast)
      (plain.onRow && plain.index + 1 == plain.count) (isLast (cursor, source)) := by
  have still : plain.move .isLast = plain := PlainCursor.goTo_index stands.inRange
  rw [isLast, checkOpen_bind stands.steady.counts.is_open, Op.bind_apply, Op.get_apply, still]
  dsimp only
  rw [Op.ite_apply, stands.onRow_eq]
  split
  · next off =>
    have nowhere : plain.onRow = false := by simpa using off
    exact stands.goes stands rfl ⟨rfl, by rw [nowhere, Bool.false_and]⟩
  · next on =>
    have there : plain.onRow = true := by simpa using on
    have inside := PlainCursor.index_lt_of_onRow there
    have ahead := stands.toInt_index_add_one inside
    apply (materializeTo_reads _ stands).bind
    intro loaded' found ⟨after, next⟩ stood reached
    refine stood.goes stood rfl ⟨rfl, ?_⟩
    rw [there, Bool.true_and]
    rcases reached with ⟨rfl, more⟩ | ⟨rfl, beyond, -⟩
    · have high := Int.lt_of_lt_of_le more stood.length_le
      rw [beq_eq_false_iff_ne.mpr (by omega)]
      rfl
    · rw [beq_iff_eq.mpr (by omega)]
      rfl

theorem Moves.map {α β : Type} {next : PlainCursor} {answer : α}
    {op : Op Error (ScrollableCursor ρ × σ) α} (change : α → β)
    (moves : Moves rows loaded plain (cursor, source) next answer (op (cursor, source))) :
    Moves rows loaded plain (cursor, source) next (change answer) ((change <$> op) (cursor, source)) := by
  rw [Op.map_apply]
  rcases ended : op (cursor, source) with ⟨outcome, after⟩
  rw [ended] at moves
  cases moves with
  | well stands advances good => exact .well stands advances ⟨good.1, congrArg change good.2⟩
  | failed stands advances accounts inside => exact .failed stands advances accounts inside

/-- Every call but closing moves a scrollable cursor where it moves a plain one. -/
theorem performScrollable_moves {call : CursorCall} (stays : call ≠ .close)
    (stands : Stands rows loaded plain (cursor, source)) :
    Moves rows loaded plain (cursor, source) (plain.move call) (plain.answer call)
      (Cursor.performScrollable call (cursor, source)) := by
  cases call with
  | next => exact (next_moves stands).map some
  | isLast => exact (isLast_moves stands).map some
  | previous => exact (relative_moves (-1) stands).map some
  | first => exact (absolute_moves 1 stands).map some
  | last =>
    have moved := (absolute_moves (-1) stands).map some
    exact moved
  | absolute row => exact (absolute_moves row stands).map some
  | relative offset => exact (relative_moves offset stands).map some
  | beforeFirst =>
    rw [Cursor.performScrollable, ← map_eq_pure_bind]
    exact (absolute_moves 0 stands).map fun _ => none
  | afterLast =>
    rw [Cursor.performScrollable, ← map_eq_pure_bind]
    exact (afterLast_moves stands).map fun _ => none
  | close => exact absurd rfl stays

end Operations

end ScrollableCursor

namespace Cursor

variable {σ ρ : Type} [PageSource σ ρ]

/-- A scrollable cursor at the place of a plain one. -/
def HoldsScrollable (rows : List Row) (ask : UInt64 → PageRequest) (plain : PlainCursor) :
    Cursor ρ × σ → Prop
  | (.scrollable cursor, source) => cursor.supply.ask = ask ∧
      ∃ loaded, ScrollableCursor.Stands rows loaded plain (cursor, source)
  | (.forward _, _) => False

variable {rows : List Row} {ask : UInt64 → PageRequest} {plain : PlainCursor} {state : Cursor ρ × σ}

/-- Every call but closing keeps a scrollable cursor at the place of the plain one. -/
theorem HoldsScrollable.step (call : CursorCall) (stays : call ≠ .close)
    (holds : HoldsScrollable rows ask plain state) :
    ∃ next, Step ask .scrollable call plain state (perform call state) next ∧
      HoldsScrollable rows ask next (perform call state).2 := by
  match state, holds with
  | (.scrollable cursor, source), ⟨same, loaded, stands⟩ =>
    subst same
    have moves := ScrollableCursor.performScrollable_moves stays stands
    rcases ended : performScrollable call (cursor, source) with ⟨outcome, after, source'⟩
    have result : perform call (.scrollable cursor, source) = (outcome, .scrollable after, source') := by
      simp only [perform, ended]
    rw [ended] at moves
    rw [result]
    cases moves with
    | well stood advances good =>
      obtain ⟨rfl, rfl⟩ := good
      exact ⟨_, .moved rfl advances.run, advances.ask_eq, _, stood⟩
    | failed stood advances accounts inside =>
      obtain ⟨pages, cause, offset, rfl, passed⟩ := accounts
      exact ⟨_, .failed rfl inside advances.run passed, advances.ask_eq, _, stood⟩

theorem HoldsScrollable.agrees (holds : HoldsScrollable rows ask plain state) :
    plain.Agrees state.1 := by
  match state, holds with
  | (.scrollable _, _), ⟨_, _, stands⟩ => exact ⟨stands.current_eq, stands.index_eq⟩

/-- A scrollable cursor over the first page of a result stands before the first shown row. -/
theorem HoldsScrollable.of_open {first : Page} {source : σ} (statement : UInt64)
    (options : FetchOptions) (ownsStatement : Bool) (bounded : rows.length ≤ ScrollableCursor.mostRows)
    (mode : options.mode = .scrollable) (shows : first.Shows rows 0)
    (honest : Paging.Honest rows (options.ask statement)
      ⟨UInt64.ofNat first.rows.length, none, source⟩) :
    ∃ cursor opened, «open» statement first options ownsStatement source = (.ok cursor, opened) ∧
      HoldsScrollable rows (options.ask statement) ⟨options.shown rows, -1⟩ (cursor, opened) ∧
      Paging.Run (options.ask statement) ⟨UInt64.ofNat first.rows.length, none, source⟩ []
        (paging (cursor, opened)) := by
  have addressable : rows.length < UInt64.size := Nat.lt_of_le_of_lt bounded (by decide)
  obtain ⟨supply, opened, begun, steady, same, asks, run⟩ :=
    Supply.ofFirst_eq statement options ownsStatement addressable shows honest
  refine ⟨.scrollable { supply, rows := ((options.shown rows).take first.rows.length).toArray }, opened,
    ?_, ⟨asks, first.rows.length, ?_⟩, run⟩
  · simp only [«open», begun, Except.map, mode]
  · exact { steady, bounded, rows_eq := by rw [same], kept_eq := rfl, index_eq := rfl,
            low := Int.le_refl _
            place := .inl (Int.lt_of_lt_of_le (by decide : (-1 : Int) < 0) (Int.natCast_nonneg _)) }

/-- Over an honest source, a scrollable cursor does call after call what a plain cursor over the shown
rows does, or reports the request that failed and stays where it is. -/
theorem scrollable_follows {first : Page} {source : σ} (statement : UInt64) (options : FetchOptions)
    (ownsStatement : Bool) (bounded : rows.length < 2 ^ 63) (mode : options.mode = .scrollable)
    (shows : first.Shows rows 0)
    (honest : Paging.Honest rows (options.ask statement)
      ⟨UInt64.ofNat first.rows.length, none, source⟩) :
    ∃ cursor opened, «open» statement first options ownsStatement source = (.ok cursor, opened) ∧
      ∀ calls : List CursorCall, (∀ call ∈ calls, call ≠ .close) →
        Follows (options.ask statement) .scrollable calls ⟨options.shown rows, -1⟩ (cursor, opened) := by
  have fits : rows.length ≤ ScrollableCursor.mostRows := Nat.le_sub_one_of_lt bounded
  obtain ⟨cursor, opened, begun, holds, -⟩ :=
    HoldsScrollable.of_open statement options ownsStatement fits mode shows honest
  refine ⟨cursor, opened, begun, ?_⟩
  intro calls stays
  exact Follows.of_invariant HoldsScrollable.agrees HoldsScrollable.step calls stays holds

theorem scrollable_over_interrupted :
    ∃ cursor opened,
      «open» 1 ScriptedSource.firstOfThree { fetchSize := 1, maxRows := 2, mode := .scrollable } true
        ScriptedSource.interrupted = (.ok cursor, opened) ∧
      ∀ calls : List CursorCall, (∀ call ∈ calls, call ≠ .close) →
        Follows (FetchOptions.ask { fetchSize := 1, maxRows := 2, mode := .scrollable } 1) .scrollable
          calls ⟨Table.seriesRows 0 2, -1⟩ (cursor, opened) :=
  scrollable_follows 1 { fetchSize := 1, maxRows := 2, mode := .scrollable } true
    (by rw [Table.length_seriesRows]; decide) rfl ScriptedSource.firstOfThree_shows
    ScriptedSource.interrupted_honest

end Cursor

end PagedResults
