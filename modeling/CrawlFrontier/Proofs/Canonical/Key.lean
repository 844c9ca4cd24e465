import CrawlFrontier.Proofs.Canonical.Site

/-!
# Keys of pages

The key of a page is read as the canonical URL of which it is the key. Main statement: it is then
its own key, unless its host has still a `www.` to lose, or is too long to be read again.
-/

namespace CrawlFrontier.Canonical

open CrawlFrontier.Text CrawlFrontier.Url

/-- What may be printed is not blank. -/
theorem isBlank_of_isPrinted {c : Char} (printed : isPrinted c = true) : isBlank c = false := by
  unfold isPrinted at printed
  unfold isBlank
  grind

/-- The text of a page is read as the page, if it is short enough to be read. -/
theorem parse_toString (rules : Rules) {url : Url} (valid : url.WellFormed) :
    CanonicalUrl.parse rules url.toString =
      if url.isShort then CanonicalUrl.ofUrl rules url
      else .error (.ofParseError .invalidDomainName) := by
  have chars : url.toString.toList = url.chars := String.toList_ofList
  have untrimmed : trim url.chars = url.chars :=
    dropBothWhile_of_forall fun c mem => isBlank_of_isPrinted (valid.isPrinted_of_mem mem)
  unfold CanonicalUrl.parse
  rw [chars, untrimmed, valid.parseFrom_chars none, reread]
  cases url.isShort <;> rfl

/-- What a text has for its canonical URL is that of a well-formed page. -/
theorem parse_spec {rules : Rules} {raw : String} {page : CanonicalUrl}
    (made : CanonicalUrl.parse rules raw = .ok page) :
    ∃ (url : Url) (kept : Host), url.WellFormed ∧ kept.IsNormal ∧
      page.url = canonicalPage rules url kept := by
  unfold CanonicalUrl.parse at made
  split at made
  · next url read =>
    obtain ⟨out, canonical, rfl⟩ := map_eq_ok made
    have valid := WellFormed.of_parseFrom_none read (isWeb_of_canonicalize canonical)
    obtain ⟨-, kept, -, -, normal, -, -, same⟩ := canonicalize_spec valid canonical
    exact ⟨url, kept, valid, normal, same⟩
  · cases made

/-- Of a canonical URL nothing but the host is left to be changed. -/
theorem canonicalPage_canonicalPage (rules : Rules) (url : Url) (kept again : Host) :
    canonicalPage rules (canonicalPage rules url kept) again = canonicalPage rules url again := by
  have segments : (canonicalPage rules url kept).segments
      = orEmpty (filledSegments url.segments) := rfl
  have query : (canonicalPage rules url kept).query = normalizeQuery rules url.query := rfl
  rw [canonicalPage, segments, filledSegments_orEmpty, query, normalizeQuery_idempotent]
  rfl

/-- A canonical URL is its own canonical URL exactly if its host is compared as it is. -/
theorem canonicalize_canonicalPage_iff {rules : Rules} {url : Url} (valid : url.WellFormed)
    {kept : Host} (normal : kept.IsNormal) :
    canonicalize rules (canonicalPage rules url kept) = .ok (canonicalPage rules url kept) ↔
      comparedHost rules kept.chars = kept.chars := by
  have page := wellFormed_canonicalPage rules valid normal
  constructor
  -- A second pass that changes nothing keeps the host, and the host that it keeps is the bare one.
  · intro same
    obtain ⟨host, again, present, -, -, printed, -, fixed⟩ := canonicalize_spec page same
    obtain rfl : kept = host := Option.some.inj present
    obtain rfl : kept = again := Option.some.inj (congrArg Url.host fixed)
    exact printed.symm
  · intro same
    rw [canonicalize_of_chars page rfl normal normal same.symm, if_pos (.inl rfl),
      canonicalPage_canonicalPage]

/-- A key is its own key exactly if its host has no `www.` that the rules leave out and no label that
is too long to be read. -/
theorem parse_key_eq_ok_iff {rules : Rules} {raw : String} {page : CanonicalUrl}
    (made : CanonicalUrl.parse rules raw = .ok page) :
    CanonicalUrl.parse rules page.key = .ok page ↔
      ¬(rules.stripWww = true ∧ ∃ host ∈ page.url.hostText?, wwwLabel <+: host.toList) ∧
        page.url.isShort = true := by
  obtain ⟨url, kept, valid, normal, same⟩ := parse_spec made
  obtain rfl : page = ⟨canonicalPage rules url kept⟩ := congrArg CanonicalUrl.mk same
  have canonical := wellFormed_canonicalPage rules valid normal
  have printed : (canonicalPage rules url kept).hostText? = some kept.text :=
    hostText?_of_isNormal rfl normal
  have text : kept.text.toList = kept.chars := String.toList_ofList
  have again : CanonicalUrl.ofUrl rules (canonicalPage rules url kept)
      = .ok ⟨canonicalPage rules url kept⟩ ↔
      canonicalize rules (canonicalPage rules url kept) = .ok (canonicalPage rules url kept) := by
    constructor
    · intro wrapped
      obtain ⟨out, made, same⟩ := map_eq_ok wrapped
      rw [made, CanonicalUrl.mk.inj same]
    · intro made
      rw [CanonicalUrl.ofUrl, made]
      rfl
  rw [CanonicalUrl.key, parse_toString rules canonical]
  cases short : (canonicalPage rules url kept).isShort with
  | false => simp
  | true =>
    rw [if_pos rfl, again, canonicalize_canonicalPage_iff valid normal, comparedHost_eq_self_iff,
      printed]
    simp [text]

/-- A page of the machine itself is its own key. -/
theorem parse_key_eq_ok_iff_loopback :
    CanonicalUrl.parse {} "http://[::1]:80//#top" = .ok ⟨loopbackPage [""] none none⟩ ∧
      CanonicalUrl.parse {} (CanonicalUrl.key ⟨loopbackPage [""] none none⟩)
        = .ok ⟨loopbackPage [""] none none⟩ := by
  have made : CanonicalUrl.parse {} "http://[::1]:80//#top"
      = .ok ⟨loopbackPage [""] none none⟩ := by
    decide +kernel
  refine ⟨made, (parse_key_eq_ok_iff made).mpr ⟨?_, rfl⟩⟩
  rintro ⟨-, host, present, begins⟩
  have text : some "[::1]" = some host := present
  obtain rfl := Option.some.inj text
  exact absurd begins (by decide)

/-- A site whose name has two `www.` in front has a key that is not its own key, and so has a site whose
name is too long to be read once it is written. -/
theorem parse_key_ne_ok :
    (CanonicalUrl.parse {} "https://www.www.example.com/" = .ok ⟨sitePage "www.example.com"⟩ ∧
      CanonicalUrl.parse {} (CanonicalUrl.key ⟨sitePage "www.example.com"⟩) =
        .ok ⟨sitePage "example.com"⟩ ∧
      sitePage "example.com" ≠ sitePage "www.example.com") ∧
    CanonicalUrl.parse {} (siteText [Idna.longLabel]) =
        .ok ⟨sitePage (siteName [Idna.longLabel])⟩ ∧
      CanonicalUrl.parse {} (CanonicalUrl.key ⟨sitePage (siteName [Idna.longLabel])⟩) =
        .error (.parse "invalid international domain name") := by
  have bare : IsSite ["example".toList, "com".toList] := by decide
  have www : IsSite [['w', 'w', 'w'], "example".toList, "com".toList] := by decide
  have text : siteText [['w', 'w', 'w'], ['w', 'w', 'w'], "example".toList, "com".toList] =
      "https://www.www.example.com/" := by
    decide
  have key : siteText [['w', 'w', 'w'], "example".toList, "com".toList] =
      CanonicalUrl.key ⟨sitePage "www.example.com"⟩ := by
    decide
  have twice := www.parse_www {} rfl (by decide)
  have once := bare.parse_www {} rfl (by decide)
  have again := parse_toString {} (wellFormed_sitePage isSite_longLabel.isNormal)
  rw [isShort_longLabel] at again
  rw [text] at twice
  rw [key] at once
  refine ⟨⟨twice, once, by decide⟩, ?_, again⟩
  rw [isSite_longLabel.parse_siteText, ofUrl_longLabel]

end CrawlFrontier.Canonical
