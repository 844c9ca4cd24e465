import CrawlFrontier.Canonical.Url
import CrawlFrontier.Proofs.Url.Form

/-!
# Queries in normal form

Main statements: two queries have one normal form exactly if the pairs that count are the same up to
their order, and a query in normal form is its own normal form.
-/

namespace CrawlFrontier.Canonical

open CrawlFrontier.Url CrawlFrontier.Text

/-- The order of pairs in words. -/
theorem pairLe_iff {a b : String × String} :
    pairLe a b = true ↔ a.1 < b.1 ∨ (a.1 = b.1 ∧ a.2 ≤ b.2) := by
  simp [pairLe]

/-- The order of pairs is transitive. -/
theorem pairLe_trans (a b c : String × String) (first : pairLe a b = true)
    (second : pairLe b c = true) : pairLe a c = true := by
  rw [pairLe_iff] at first second ⊢
  rcases first with less | ⟨same, value⟩
  · rcases second with next | ⟨equal, -⟩
    · exact .inl (String.lt_trans less next)
    · exact .inl (by rw [← equal]; exact less)
  · rcases second with next | ⟨equal, last⟩
    · exact .inl (by rw [same]; exact next)
    · exact .inr ⟨same.trans equal, String.le_trans value last⟩

/-- The order of pairs is total. -/
theorem pairLe_total (a b : String × String) : (pairLe a b || pairLe b a) = true := by
  rw [Bool.or_eq_true, pairLe_iff, pairLe_iff]
  by_cases same : a.1 = b.1
  · rcases String.le_total a.2 b.2 with le | ge
    · exact .inl (.inr ⟨same, le⟩)
    · exact .inr (.inr ⟨same.symm, ge⟩)
  · by_cases less : a.1 < b.1
    · exact .inl (.inl less)
    · have le : b.1 ≤ a.1 := less
      by_cases greater : b.1 < a.1
      · exact .inr (.inl greater)
      · exact absurd (String.le_antisymm greater le) same

/-- Pairs of which each comes before the other are equal. -/
theorem pairLe_antisymm (a b : String × String) (first : pairLe a b = true)
    (second : pairLe b a = true) : a = b := by
  rw [pairLe_iff] at first second
  rcases first with less | ⟨same, value⟩
  · rcases second with greater | ⟨same, -⟩
    · exact absurd greater (String.lt_asymm less)
    · rw [same] at less
      exact absurd less (String.lt_irrefl _)
  · rcases second with less | ⟨-, other⟩
    · rw [same] at less
      exact absurd less (String.lt_irrefl _)
    · exact Prod.ext same (String.le_antisymm value other)

/-- Sorting forgets the order of pairs and nothing else. -/
theorem mergeSort_pairLe_inj {a b : List (String × String)} :
    a.mergeSort pairLe = b.mergeSort pairLe ↔ a.Perm b := by
  constructor
  · intro same
    have left := List.mergeSort_perm a pairLe
    rw [same] at left
    exact left.symm.trans (List.mergeSort_perm b pairLe)
  · intro perm
    have sorted := ((List.mergeSort_perm a pairLe).trans perm).trans
      (List.mergeSort_perm b pairLe).symm
    exact List.Perm.eq_of_pairwise (fun x y _ _ => pairLe_antisymm x y)
      (List.pairwise_mergeSort pairLe_trans pairLe_total a)
      (List.pairwise_mergeSort pairLe_trans pairLe_total b) sorted

/-- The pairs of a query that count, as they are written. -/
def countedPairs (rules : Rules) (query : Option String) : List (String × String) :=
  (Form.readPairs (query.getD "").toList).filter fun pair => !isTracking rules pair.1

/-- The pairs that are kept are those that count, in order. -/
theorem keptPairs_eq (rules : Rules) (query : String) :
    keptPairs rules query = (countedPairs rules (some query)).mergeSort pairLe := rfl

/-- The normal form of a query that is not left out is written from the pairs that count. -/
theorem normalizeQuery_eq {rules : Rules} (kept : rules.stripQuery = false)
    (query : Option String) :
    normalizeQuery rules query =
      if countedPairs rules query = [] then none
      else
        some (String.ofList (Form.writePairs ((countedPairs rules query).mergeSort pairLe))) := by
  cases query with
  | none => rfl
  | some query =>
    have empty : ((countedPairs rules (some query)).mergeSort pairLe).isEmpty = true ↔
        countedPairs rules (some query) = [] := by
      rw [List.isEmpty_iff, ← List.length_eq_zero_iff, List.length_mergeSort,
        List.length_eq_zero_iff]
    unfold normalizeQuery
    simp only [kept, Bool.false_eq_true, if_false, keptPairs_eq]
    by_cases none : countedPairs rules (some query) = []
    · rw [if_pos (empty.mpr none), if_pos none]
    · rw [if_neg (mt empty.mp none), if_neg none]

/-- A query that is left out has no normal form. -/
theorem normalizeQuery_of_strip {rules : Rules} (strip : rules.stripQuery = true)
    (query : Option String) : normalizeQuery rules query = none := by
  cases query with
  | none => rfl
  | some query =>
    unfold normalizeQuery
    simp [strip]

/-- Two queries have one normal form exactly if the pairs that count are the same up to their
order. -/
theorem normalizeQuery_inj {rules : Rules} (kept : rules.stripQuery = false)
    {a b : Option String} :
    normalizeQuery rules a = normalizeQuery rules b ↔
      (countedPairs rules a).Perm (countedPairs rules b) := by
  rw [normalizeQuery_eq kept, normalizeQuery_eq kept]
  constructor
  · intro same
    split at same
    · next noneA =>
      split at same
      · next noneB => rw [noneA, noneB]
      · cases same
    · split at same
      · cases same
      · have text := congrArg String.toList (Option.some.inj same)
        rw [String.toList_ofList, String.toList_ofList] at text
        have pairs := congrArg Form.readPairs text
        rw [Form.readPairs_writePairs, Form.readPairs_writePairs] at pairs
        exact mergeSort_pairLe_inj.mp pairs
  · intro perm
    have sorted := mergeSort_pairLe_inj.mpr perm
    have empty : countedPairs rules a = [] ↔ countedPairs rules b = [] := by
      constructor
      · intro none
        rw [none] at perm
        exact perm.nil_eq.symm
      · intro none
        rw [none] at perm
        exact perm.eq_nil
    simp only [empty, sorted]

/-- The pairs that count are those of the normal form, which has them in order. -/
theorem countedPairs_normalizeQuery {rules : Rules} (kept : rules.stripQuery = false)
    (query : Option String) :
    countedPairs rules (normalizeQuery rules query)
      = (countedPairs rules query).mergeSort pairLe := by
  rw [normalizeQuery_eq kept]
  split
  · next none =>
    rw [none, List.mergeSort_nil]
    rfl
  · have counts : ∀ pair ∈ (countedPairs rules query).mergeSort pairLe,
        (!isTracking rules pair.1) = true := by
      intro pair mem
      exact (List.mem_filter.mp (List.mem_mergeSort.mp mem)).2
    rw [countedPairs, Option.getD_some, String.toList_ofList, Form.readPairs_writePairs]
    exact List.filter_eq_self.mpr counts

/-- A query in normal form is its own normal form. -/
theorem normalizeQuery_idempotent (rules : Rules) (query : Option String) :
    normalizeQuery rules (normalizeQuery rules query) = normalizeQuery rules query := by
  cases strip : rules.stripQuery with
  | true => rw [normalizeQuery_of_strip strip, normalizeQuery_of_strip strip]
  | false =>
    refine (normalizeQuery_inj strip).mpr ?_
    rw [countedPairs_normalizeQuery strip]
    exact List.mergeSort_perm _ _

/-- A query in normal form is escaped. -/
theorem normalizeQuery_clean {rules : Rules} {query : Option String} :
    ∀ text ∈ normalizeQuery rules query, ∀ c ∈ text.toList, escapedInSpecialQuery c = false := by
  intro text present
  cases strip : rules.stripQuery with
  | true =>
    rw [normalizeQuery_of_strip strip] at present
    cases present
  | false =>
    rw [normalizeQuery_eq strip] at present
    split at present
    · cases present
    · obtain rfl := Option.mem_some_iff.mp present
      rw [String.toList_ofList]
      exact Form.writePairs_clean _

end CrawlFrontier.Canonical
