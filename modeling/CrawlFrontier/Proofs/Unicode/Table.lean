import CrawlFrontier.Unicode.Table

/-!
# Searching tables of code points

A search finds an interval exactly if the table has one in which the code point lies: the intervals
of a table are in order, so the half that is left out holds none. What a table says of a whole range
of code points follows from its list of intervals.
-/

namespace CrawlFrontier.Unicode

/-- Whether a code point lies in an interval. -/
def Span.Holds {α : Type} (span : Span α) (n : Nat) : Prop := span.first ≤ n ∧ n ≤ span.last

/-- Intervals in order are not empty, lie behind the bound, and each behind those in front of it. -/
theorem pairwise_of_areOrdered {α : Type} {low : Nat} {spans : List (Span α)}
    (ordered : areOrdered low spans = true) :
    (∀ span ∈ spans, low ≤ span.first ∧ span.first ≤ span.last) ∧
      spans.Pairwise fun a b => a.last < b.first := by
  induction spans generalizing low with
  | nil => exact ⟨nofun, .nil⟩
  | cons span spans ih =>
    simp only [areOrdered, Bool.and_eq_true, decide_eq_true_eq] at ordered
    obtain ⟨own, rest⟩ := ordered
    obtain ⟨behind, pairwise⟩ := ih rest
    have later (other : Span α) (mem : other ∈ spans) : span.last < other.first :=
      (behind other mem).1
    refine ⟨List.forall_mem_cons.mpr ⟨own, fun other mem => ⟨?_, (behind other mem).2⟩⟩,
      .cons later pairwise⟩
    have after := later other mem
    omega

namespace Table

variable {α : Type} {table : Table α} {n : Nat} {span : Span α}

/-- An interval of a table is not empty. -/
theorem first_le_last (table : Table α) {i : Nat} (inside : i < table.spans.size) :
    table.spans[i].first ≤ table.spans[i].last :=
  ((pairwise_of_areOrdered table.ordered).1 _ (Array.getElem_mem_toList inside)).2

/-- An interval of a table ends in front of those behind it. -/
theorem last_lt_first (table : Table α) {i j : Nat} (before : i < j) (inside : j < table.spans.size) :
    table.spans[i].last < table.spans[j].first :=
  List.pairwise_iff_getElem.mp (pairwise_of_areOrdered table.ordered).2 i j _ inside before

/-- What is found is an interval of the table, and the code point lies in it. -/
theorem mem_of_search {low high : Nat} (found : table.search n low high = some span) :
    span ∈ table.spans.toList ∧ span.Holds n := by
  fun_induction search table n low high with
  | case1 low high inside middle missing => cases found
  | case2 low high inside middle candidate present before ih => exact ih found
  | case3 low high inside middle candidate present notBefore after ih => exact ih found
  | case4 low high inside middle candidate present notBefore notAfter =>
    obtain rfl := Option.some.inj found
    have mem := Array.mem_of_getElem? present
    exact ⟨Array.mem_def.mp mem, by omega, by omega⟩
  | case5 low high outside => cases found

/-- Where nothing is found, no interval holds the code point. -/
theorem not_holds_of_search {low high : Nat} (bound : high ≤ table.spans.size)
    (nothing : table.search n low high = none) {i : Nat} (least : low ≤ i) (less : i < high) :
    ¬table.spans[i].Holds n := by
  rintro ⟨first, last⟩
  fun_induction search table n low high with
  | case1 low high inside middle missing =>
    have outside := Array.getElem?_eq_none_iff.mp missing
    omega
  | case2 low high inside middle candidate present before ih =>
    obtain ⟨within, rfl⟩ := Array.getElem?_eq_some_iff.mp present
    -- The interval in the middle begins behind the code point, and so do those behind it.
    rcases Nat.lt_trichotomy i middle with left | rfl | right
    · exact ih (by omega) nothing least left first last
    · omega
    · have order := table.last_lt_first right (Nat.lt_of_lt_of_le less bound)
      have filled := table.first_le_last within
      omega
  | case3 low high inside middle candidate present notBefore after ih =>
    obtain ⟨within, rfl⟩ := Array.getElem?_eq_some_iff.mp present
    rcases Nat.lt_trichotomy i middle with left | rfl | right
    · have order := table.last_lt_first left within
      have filled := table.first_le_last within
      omega
    · omega
    · exact ih bound nothing right less first last
  | case4 low high inside middle candidate present notBefore notAfter => cases nothing
  | case5 low high outside => omega

/-- An interval is found exactly if it is one of the table and the code point lies in it. -/
theorem find?_eq_some_iff :
    table.find? n = some span ↔ span ∈ table.spans.toList ∧ span.Holds n := by
  refine ⟨mem_of_search, ?_⟩
  rintro ⟨mem, holds⟩
  obtain ⟨i, inside, rfl⟩ := List.mem_iff_getElem.mp mem
  have within : i < table.spans.size := inside
  cases found : table.find? n with
  | none => exact absurd holds (not_holds_of_search (Nat.le_refl _) found (Nat.zero_le i) within)
  | some other =>
    obtain ⟨present, same⟩ := mem_of_search found
    obtain ⟨j, inside', rfl⟩ := List.mem_iff_getElem.mp present
    have within' : j < table.spans.size := inside'
    -- Two intervals in which the code point lies stand in one place.
    rcases Nat.lt_trichotomy i j with before | rfl | after
    · have order := table.last_lt_first before within'
      exact absurd order (Nat.not_lt.mpr (Nat.le_trans same.1 holds.2))
    · rfl
    · have order := table.last_lt_first after within
      exact absurd order (Nat.not_lt.mpr (Nat.le_trans holds.1 same.2))

/-- Nothing is found exactly if the code point lies in no interval of the table. -/
theorem find?_eq_none_iff :
    table.find? n = none ↔ ∀ span ∈ table.spans.toList, ¬span.Holds n := by
  rw [Option.eq_none_iff_forall_ne_some]
  simp only [ne_eq, find?_eq_some_iff, not_and]

/-- Whether no interval of a table meets a range of code points. -/
def avoids (table : Table α) (low high : Nat) : Bool :=
  table.spans.toList.all fun span => span.last < low || high < span.first

/-- Nothing is found for a code point of a range that no interval meets. -/
theorem find?_of_avoids {low high : Nat} (apart : table.avoids low high = true) (least : low ≤ n)
    (most : n ≤ high) : table.find? n = none := by
  refine find?_eq_none_iff.mpr fun span mem holds => ?_
  have outside := List.all_eq_true.mp apart span mem
  simp only [Bool.or_eq_true, decide_eq_true_eq] at outside
  obtain ⟨first, last⟩ := holds
  omega

/-- Whether a range of code points lies in one interval of a table. -/
def covers (table : Table α) (low high : Nat) : Bool :=
  table.spans.toList.any fun span => span.first ≤ low && high ≤ span.last

/-- Every code point of a range that lies in an interval is found. -/
theorem contains_of_covers {low high : Nat} (covered : table.covers low high = true)
    (least : low ≤ n) (most : n ≤ high) : table.contains n = true := by
  obtain ⟨span, mem, around⟩ := List.any_eq_true.mp covered
  simp only [Bool.and_eq_true, decide_eq_true_eq] at around
  have found : table.find? n = some span := find?_eq_some_iff.mpr ⟨mem, by omega, by omega⟩
  rw [contains, found]
  rfl

end Table

end CrawlFrontier.Unicode
