import Mathlib.Algebra.Order.Floor.Div
import PagedResults.Proofs.Conversation.Replies

/-! # Pages partition a table

A page holds the rows between two places, both inside of the table whatever offset was asked for. Whoever
starts at offset 0 and goes on to where each page ends, up to the first page that is marked as the last
one, meets every row once: the pages on the way are full, and there are as many as the rows need, or a
single one without rows.
-/

namespace PagedResults

namespace Table

variable {table : Table} {fetchSize : UInt32} {offset : UInt64} {start : Nat}

/-- The pages that are met from an offset on when each page is followed by the one where it ends, up to the
first page that is marked. -/
inductive Visits (fetchSize : UInt32) (table : Table) : UInt64 → List WirePage → Prop where
  | last {offset : UInt64} (marked : (table.page offset fetchSize).isLast = true) :
      Visits fetchSize table offset [table.page offset fetchSize]
  | more {offset : UInt64} {rest : List WirePage} (unmarked : (table.page offset fetchSize).isLast = false)
      (behind : Visits fetchSize table (table.page offset fetchSize).next rest) :
      Visits fetchSize table offset (table.page offset fetchSize :: rest)

/-! ## One page -/

/-- No place of a page is too large for an offset, as it is not behind the offset that was asked for. -/
theorem toNat_clamped (offset : UInt64) (count : Nat) :
    (UInt64.ofNat (min offset.toNat count)).toNat = min offset.toNat count :=
  UInt64.toNat_ofNat_of_lt' (Nat.lt_of_le_of_lt (Nat.min_le_left _ _) offset.toNat_lt)

/-- A page has the rows between two places of the table. -/
theorem page_eq_extract (offset : UInt64) (fetchSize : UInt32) (table : Table) :
    table.page offset fetchSize =
      ⟨UInt64.ofNat (min offset.toNat table.rows.length),
        decide (table.rows.length ≤ offset.toNat + pageSize fetchSize),
        (table.rows.extract (min offset.toNat table.rows.length)
          (min (offset.toNat + pageSize fetchSize) table.rows.length)).map Row.toCells⟩ := by
  have positive := pageSize_pos fetchSize
  have reaches : table.rows.length ≤ min offset.toNat table.rows.length + pageSize fetchSize ↔
      table.rows.length ≤ offset.toNat + pageSize fetchSize := by omega
  have rows : (table.rows.drop (min offset.toNat table.rows.length)).take (pageSize fetchSize) =
      table.rows.extract (min offset.toNat table.rows.length)
        (min (offset.toNat + pageSize fetchSize) table.rows.length) := by
    rw [List.extract_eq_take_drop, List.take_eq_take_iff, List.length_drop]
    omega
  simp only [page, pageFrom, reaches, rows]

/-- A page is the one from the clamped offset on. -/
theorem page_clamped (offset : UInt64) (fetchSize : UInt32) (table : Table) :
    table.page offset fetchSize =
      table.pageFrom (min offset.toNat table.rows.length) (pageSize fetchSize) := by
  rw [page, pageFrom, pageFrom, Nat.min_assoc, Nat.min_self]

/-- A page ends inside of the table. -/
theorem toNat_next_page (addressable : table.rows.length < UInt64.size) (offset : UInt64)
    (fetchSize : UInt32) :
    (table.page offset fetchSize).next.toNat =
      min (offset.toNat + pageSize fetchSize) table.rows.length := by
  rw [page_clamped, toNat_next_pageFrom (Nat.min_le_right _ _) addressable]
  omega

/-! ## From page to page -/

/-- There is only one way from page to page. -/
theorem Visits.unique {pages others : List WirePage} (visits : Visits fetchSize table offset pages)
    (visited : Visits fetchSize table offset others) : pages = others := by
  induction visits generalizing others with
  | last marked =>
    cases visited with
    | last => rfl
    | more unmarked => exact absurd (marked.symm.trans unmarked) (by decide)
  | more unmarked _ ih =>
    cases visited with
    | last marked => exact absurd (marked.symm.trans unmarked) (by decide)
    | more _ behind => rw [ih behind]

/-- From the place of a page on, the pages of the table are met. -/
theorem visits_pagesFrom (addressable : table.rows.length < UInt64.size)
    (inside : offset.toNat ≤ table.rows.length) :
    Visits fetchSize table offset (table.pagesFrom offset.toNat fetchSize) := by
  have positive := pageSize_pos fetchSize
  -- on the rows that are left, as the pages themselves are found by that recursion
  induction left : table.rows.length - offset.toNat using Nat.strongRecOn generalizing offset with
  | ind left ih =>
    have next_eq := toNat_next_page addressable offset fetchSize
    have mark : (table.page offset fetchSize).isLast =
        decide (table.rows.length ≤ offset.toNat + pageSize fetchSize) := isLast_pageFrom inside
    rw [pagesFrom]
    by_cases last : table.rows.length ≤ offset.toNat + pageSize fetchSize
    · rw [if_pos last]
      exact .last (mark.trans (decide_eq_true last))
    · rw [if_neg last]
      have behind : Visits fetchSize table (table.page offset fetchSize).next
          (table.pagesFrom (table.page offset fetchSize).next.toNat fetchSize) :=
        ih _ (by omega) (by omega) rfl
      rw [next_eq, Nat.min_eq_left (by omega)] at behind
      exact .more (mark.trans (decide_eq_false last)) behind

/-- There are as many pages as the rows need, and at least one. -/
theorem length_pagesFrom (inside : start ≤ table.rows.length) :
    (table.pagesFrom start fetchSize).length =
      max 1 ((table.rows.length - start) ⌈/⌉ pageSize fetchSize) := by
  have positive := pageSize_pos fetchSize
  induction left : table.rows.length - start using Nat.strongRecOn generalizing start with
  | ind count ih =>
    rw [pagesFrom, List.length_cons]
    by_cases last : table.rows.length ≤ start + pageSize fetchSize
    · have few : count ⌈/⌉ pageSize fetchSize ≤ 1 := by
        rw [ceilDiv_le_iff_le_mul positive]
        omega
      rw [if_pos last, List.length_nil, Nat.max_eq_left few]
    · have more : count ⌈/⌉ pageSize fetchSize = (count - pageSize fetchSize) ⌈/⌉ pageSize fetchSize + 1 := by
        rw [Nat.ceilDiv_eq_add_pred_div, Nat.ceilDiv_eq_add_pred_div,
          ← Nat.add_div_right _ positive]
        congr 1
        omega
      have some_left : 0 < (count - pageSize fetchSize) ⌈/⌉ pageSize fetchSize := by
        rw [Nat.ceilDiv_eq_add_pred_div]
        exact Nat.div_pos (by omega) positive
      rw [if_neg last, ih (count - pageSize fetchSize) (by omega) (by omega) (by omega), more]
      omega

/-- All pages but the last one are full. -/
theorem pagesFrom_full (fetchSize : UInt32) (inside : start ≤ table.rows.length) :
    ∃ before last, table.pagesFrom start fetchSize = before ++ [last] ∧
      (∀ page ∈ before, page.rows.length = pageSize fetchSize ∧ page.isLast = false) ∧
      last.isLast = true := by
  have positive := pageSize_pos fetchSize
  induction left : table.rows.length - start using Nat.strongRecOn generalizing start with
  | ind left ih =>
    have mark : (table.pageFrom start (pageSize fetchSize)).isLast =
        decide (table.rows.length ≤ start + pageSize fetchSize) := isLast_pageFrom inside
    rw [pagesFrom]
    by_cases last : table.rows.length ≤ start + pageSize fetchSize
    · exact ⟨[], _, by rw [if_pos last]; rfl, List.forall_mem_nil _, mark.trans (decide_eq_true last)⟩
    · obtain ⟨before, final, pages, full, marked⟩ := ih _ (by omega) (by omega : start + pageSize fetchSize ≤
        table.rows.length) rfl
      have here : (table.pageFrom start (pageSize fetchSize)).rows.length = pageSize fetchSize := by
        rw [length_pageFrom inside]
        omega
      exact ⟨_ :: before, final, by rw [if_neg last, pages, List.cons_append],
        List.forall_mem_cons.mpr ⟨⟨here, mark.trans (decide_eq_false last)⟩, full⟩, marked⟩

/-- Whatever the offset, a page has the rows between two places inside of the table. From offset 0 on the
pages partition the table, and they are the pages that the server sends when it streams the table. -/
theorem pages_partition (table : Table) (fetchSize : UInt32)
    (addressable : table.rows.length < UInt64.size) :
    (∀ offset : UInt64,
      let first := min offset.toNat table.rows.length
      let stop := min (offset.toNat + pageSize fetchSize) table.rows.length
      let page := table.page offset fetchSize
      first ≤ stop ∧ stop ≤ table.rows.length ∧
        page.rows = (table.rows.extract first stop).map Row.toCells ∧
        page.offset.toNat = first ∧
        (page.isLast = true ↔ table.rows.length ≤ offset.toNat + pageSize fetchSize) ∧
        page.next.toNat = stop) ∧
      ∃ before last,
        (∀ pages, Visits fetchSize table 0 pages ↔ pages = before ++ [last]) ∧
        (before ++ [last]).length = max 1 (table.rows.length ⌈/⌉ pageSize fetchSize) ∧
        (∀ page ∈ before, page.rows.length = pageSize fetchSize ∧ page.isLast = false) ∧
        last.isLast = true ∧
        (before ++ [last]).flatMap (·.rows) = table.rows.map Row.toCells ∧
        ∀ conversation id, Conversation.Shows id table conversation →
          table.page 0 fetchSize :: conversation.pagesBehind id fetchSize (table.page 0 fetchSize) =
            before ++ [last] := by
  constructor
  · intro offset first stop page
    have shape : page = _ := page_eq_extract offset fetchSize table
    refine ⟨by omega, Nat.min_le_right _ _, congrArg WirePage.rows shape, ?_, ?_,
      toNat_next_page addressable offset fetchSize⟩
    · rw [shape]
      exact toNat_clamped offset _
    · rw [shape]
      exact decide_eq_true_iff
  · have origin : 0 ≤ table.rows.length := Nat.zero_le _
    have visits : Visits fetchSize table 0 (table.pagesFrom 0 fetchSize) :=
      visits_pagesFrom addressable origin
    obtain ⟨before, last, pages, full, marked⟩ := pagesFrom_full fetchSize origin
    refine ⟨before, last, ?_, ?_, full, marked, ?_, ?_⟩
    all_goals rw [← pages]
    · exact fun others => ⟨fun visited => visited.unique visits, fun same => same ▸ visits⟩
    · exact length_pagesFrom origin
    · exact Conversation.rows_pagesFrom 0 origin
    · intro conversation id shows
      have behind := Conversation.pagesBehind_eq shows addressable fetchSize origin
      rw [pagesFrom]
      exact congrArg _ behind

/-- Five rows in pages of two, and the page at the largest offset. -/
theorem pages_partition_five :
    let beyond := (series 5).page 0xffffffffffffffff 2
    beyond.rows = [] ∧ beyond.offset.toNat = 5 ∧ beyond.isLast = true ∧
      ∃ before last, (∀ pages, Visits 2 (series 5) 0 pages ↔ pages = before ++ [last]) ∧
        (before ++ [last]).length = 3 ∧
        (∀ page ∈ before, page.rows.length = 2 ∧ page.isLast = false) ∧
        (before ++ [last]).flatMap (·.rows) = (series 5).rows.map Row.toCells := by
  obtain ⟨each, before, last, visits, count, full, -, whole, -⟩ :=
    pages_partition (series 5) 2 (by decide)
  obtain ⟨-, -, rows, place, mark, -⟩ := each 0xffffffffffffffff
  exact ⟨rows.trans (by rfl), place.trans (by decide), mark.mpr (by decide), before, last, visits,
    count.trans (by decide), full, whole⟩

end Table

end PagedResults
