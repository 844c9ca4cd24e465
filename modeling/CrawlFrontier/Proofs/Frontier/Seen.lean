import CrawlFrontier.Frontier.Seen

/-!
# What operations do to the store of seen URLs

The store is known by the kind that it records for each URL. Each operation is described by what it
does to these records: a mark adds one where there is none, forgetting takes one away, and clearing
takes all of them away.
-/

namespace CrawlFrontier.SeenStore

/-- A URL was seen exactly if a kind is recorded for it. -/
theorem contains_eq_isSome_kind? (store : SeenStore) (url : String) :
    store.contains url = (store.kind? url).isSome :=
  Std.ExtHashMap.contains_eq_isSome_getElem?

/-- Nothing is recorded for a URL that was not seen. -/
theorem kind?_eq_none {store : SeenStore} {url : String} (fresh : ¬store.contains url = true) :
    store.kind? url = none := by
  rw [contains_eq_isSome_kind?] at fresh
  simpa using fresh

/-- Nothing is recorded in the empty store. -/
@[simp] theorem kind?_empty (url : String) : empty.kind? url = none := by
  simp [empty, kind?]

/-- A mark succeeds exactly if the URL was not seen. -/
theorem mark_fst (store : SeenStore) (url : String) (kind : DocumentKind) :
    (store.mark url kind).1 = !store.contains url := by
  unfold mark
  split <;> simp_all

/-- A mark that fails changes nothing. -/
theorem mark_of_contains {store : SeenStore} {url : String} (seen : store.contains url = true)
    (kind : DocumentKind) : store.mark url kind = (false, store) := by
  rw [mark, if_pos seen]

/-- A mark records the kind of a URL that was not seen and changes no other record. -/
theorem kind?_mark (store : SeenStore) (url other : String) (kind : DocumentKind) :
    (store.mark url kind).2.kind? other =
      if other = url then some ((store.kind? url).getD kind) else store.kind? other := by
  by_cases seen : store.contains url = true
  · rw [mark_of_contains seen]
    rw [contains_eq_isSome_kind?] at seen
    obtain ⟨recorded, found⟩ := Option.isSome_iff_exists.mp seen
    by_cases same : other = url
    · simp [same, found]
    · simp [same]
  · have inserted : (store.mark url kind).2.kind? other =
        if url == other then some kind else store.kind? other := by
      rw [mark, if_neg seen]
      exact Std.ExtHashMap.getElem?_insert
    rw [inserted, kind?_eq_none seen, Option.getD_none]
    simp only [beq_iff_eq, @eq_comm _ url other]

/-- A mark leaves what is recorded already. -/
theorem kind?_mark_of_eq_some {store : SeenStore} {other : String} {recorded : DocumentKind}
    (found : store.kind? other = some recorded) (url : String) (kind : DocumentKind) :
    (store.mark url kind).2.kind? other = some recorded := by
  rw [kind?_mark]
  by_cases same : other = url
  · rw [if_pos same, ← same, found, Option.getD_some]
  · rw [if_neg same, found]

/-- A mark that succeeds counts the URL if it is content. -/
theorem content_mark {store : SeenStore} {url : String} (fresh : ¬store.contains url = true)
    (kind : DocumentKind) :
    (store.mark url kind).2.content = store.content + if kind.isContent then 1 else 0 := by
  rw [mark, if_neg fresh]
  by_cases isContent : kind.isContent = true
  · simp only [if_pos isContent]
  · simp only [if_neg isContent, Nat.add_zero]

/-- Forgetting a URL takes away its record and no other. -/
theorem kind?_forget (store : SeenStore) (url other : String) :
    (store.forget url).1.kind? other = if other = url then none else store.kind? other := by
  unfold forget
  split
  · next missing =>
    by_cases same : other = url
    · rw [if_pos same, same, missing]
    · rw [if_neg same]
  · have erased : (store.kinds.erase url)[other]? =
        if url == other then none else store.kinds[other]? := Std.ExtHashMap.getElem?_erase
    simp only [kind?, erased, beq_iff_eq, @eq_comm _ url other]

/-- Forgetting a URL that was not seen changes nothing. -/
theorem forget_of_kind?_eq_none {store : SeenStore} {url : String}
    (missing : store.kind? url = none) : (store.forget url).1 = store := by
  rw [forget, missing]

/-- Nothing is recorded after clearing. -/
@[simp] theorem kind?_clear (store : SeenStore) (url : String) :
    store.clear.1.kind? url = none :=
  kind?_empty url

/-- A mark that succeeds adds one URL. -/
theorem size_mark {store : SeenStore} {url : String} (fresh : ¬store.contains url = true)
    (kind : DocumentKind) : (store.mark url kind).2.size = store.size + 1 := by
  have missing : url ∉ store.kinds := fresh
  rw [mark, if_neg fresh]
  exact Std.ExtHashMap.size_insert.trans (if_neg missing)

/-- Forgetting a URL that was seen takes away one URL. -/
theorem size_forget {store : SeenStore} {url : String} (seen : store.contains url = true) :
    (store.forget url).1.size = store.size - 1 := by
  have present : url ∈ store.kinds := seen
  rw [contains_eq_isSome_kind?] at seen
  obtain ⟨kind, found⟩ := Option.isSome_iff_exists.mp seen
  rw [forget, found]
  exact Std.ExtHashMap.size_erase.trans (if_pos present)

/-- Forgetting a URL of content counts it no longer. -/
theorem content_forget {store : SeenStore} {url : String} {kind : DocumentKind}
    (found : store.kind? url = some kind) :
    (store.forget url).1.content = store.content - if kind.isContent then 1 else 0 := by
  rw [forget, found]
  by_cases isContent : kind.isContent = true
  · simp only [if_pos isContent]
  · simp only [if_neg isContent, Nat.sub_zero]

end CrawlFrontier.SeenStore
