import CrawlFrontier.Proofs.Canonical.Key

/-!
# Canonical URLs that were made

A canonical URL is made by reading a text or by following a link from another one, each time under
some rules. Main statement: whatever it was made of, its key is one word of printed ASCII
characters, and no other canonical URL that was made has the same key.
-/

namespace CrawlFrontier.CanonicalUrl

open CrawlFrontier.Text CrawlFrontier.Canonical

/-- Whether a canonical URL was read from a text, or named by a link on one that was made. -/
inductive IsMade : CanonicalUrl → Prop where
  | parsed {rules : Rules} {text : String} {url : CanonicalUrl} :
      parse rules text = .ok url → IsMade url
  | joined {rules : Rules} {base url : CanonicalUrl} {link : String} :
      IsMade base → join rules base link = .ok url → IsMade url

/-- The canonical URL of a page that was read is read, and it is a page. -/
theorem isRead_of_ofUrl {rules : Rules} {page : Url} {url : CanonicalUrl} (read : IsRead page)
    (made : ofUrl rules page = .ok url) : IsRead url.url ∧ url.url.isWeb = true := by
  obtain ⟨out, canonical, rfl⟩ := map_eq_ok made
  have valid := read.wellFormed (isWeb_of_canonicalize canonical)
  obtain ⟨host, kept, -, -, -, -, -, rfl⟩ := canonicalize_spec valid canonical
  exact ⟨.canonical read canonical, valid.web⟩

/-- A canonical URL that was made is read, and it is a page. -/
theorem IsMade.isRead {url : CanonicalUrl} (made : url.IsMade) :
    IsRead url.url ∧ url.url.isWeb = true := by
  induction made with
  | parsed found =>
    unfold parse at found
    split at found
    · next page parsed => exact isRead_of_ofUrl (.parsed parsed) found
    · cases found
  | joined base found ih =>
    unfold join at found
    split at found
    · next page joined => exact isRead_of_ofUrl (.joined ih.1 joined) found
    · cases found

/-- A canonical URL that was made is well formed. -/
theorem IsMade.wellFormed {url : CanonicalUrl} (made : url.IsMade) : url.url.WellFormed :=
  made.isRead.1.wellFormed made.isRead.2

/-- A key is one word. -/
theorem IsMade.isBlank_of_mem_key {url : CanonicalUrl} (made : url.IsMade) {c : Char}
    (mem : c ∈ url.key.toList) : isBlank c = false := by
  have inside : c ∈ url.url.chars := by
    rwa [key, Url.toString, String.toList_ofList] at mem
  exact isBlank_of_isPrinted (made.wellFormed.isPrinted_of_mem inside)

/-- A key begins with the scheme, whose first letter is the same for all pages. -/
theorem IsMade.exists_key_eq {url : CanonicalUrl} (made : url.IsMade) :
    ∃ rest, url.key.toList = 'h' :: rest := by
  have chars : url.key.toList = url.url.chars := String.toList_ofList
  rw [chars, Url.chars]
  rcases Url.isWeb_iff.mp made.wellFormed.web with scheme | scheme
  · rw [scheme]
    exact ⟨_, rfl⟩
  · rw [scheme]
    exact ⟨_, rfl⟩

/-- Keys tell apart what was made. -/
theorem IsMade.key_inj {first second : CanonicalUrl} (made : first.IsMade)
    (other : second.IsMade) : first.key = second.key ↔ first = second := by
  constructor
  · intro same
    have chars : first.url.chars = second.url.chars := String.ofList_injective same
    exact congrArg mk (made.wellFormed.chars_injective other.wellFormed chars)
  · exact congrArg key

end CrawlFrontier.CanonicalUrl
