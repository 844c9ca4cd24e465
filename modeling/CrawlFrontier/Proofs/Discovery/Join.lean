import CrawlFrontier.Proofs.Canonical.Made
import CrawlFrontier.Proofs.Discovery.Kind
import CrawlFrontier.Proofs.Url.Relative

/-!
# Following links

A link that is found in a document is printed and read again before it is put into canonical form,
and a link that is joined to a canonical URL is not. A page stands under its canonical URL, which
has lost empty segments and perhaps a label of the host, so a link may lead elsewhere from there
than from the URL of the page. Main statements: both ways to follow a link from a canonical URL
agree, unless the URL that is printed is too long to be read again; and a link leads to the same from
a page and from its canonical URL exactly if it does not depend on what was lost.
-/

namespace CrawlFrontier

open CrawlFrontier.Text

namespace Url

/-- Whether all that is left out at the ends of a text is ASCII white space. -/
def EndsPlainly (text : List Char) : Prop :=
  ∃ front back, front ++ trim text ++ back = text ∧ ∀ c ∈ front ++ back, c.toNat ≤ 0x20

/-- ASCII white space at the ends of a reference makes no difference, for it is dropped from URLs in
any case. -/
theorem parseFrom_trim {text : List Char} (base : Option Url) (plain : EndsPlainly text) :
    parseFrom base (trim text) = parseFrom base text := by
  obtain ⟨front, back, parts, ascii⟩ := plain
  have dropped : dropBothWhile (fun c => c.toNat ≤ 0x20) text =
      dropBothWhile (fun c => c.toNat ≤ 0x20) (trim text) := by
    conv_lhs => rw [← parts]
    refine dropBothWhile_append (fun c mem => ?_) (fun c mem => ?_) _
    · exact decide_eq_true (ascii c (List.mem_append_left back mem))
    · exact decide_eq_true (ascii c (List.mem_append_right front mem))
  have cleaned : clean (trim text) = clean text := by
    rw [clean, clean, dropped]
  unfold parseFrom
  rw [cleaned]

end Url

namespace Canonical

open Url

/-- A link that names a page is joined to the canonical URL of that page. -/
theorem join_of_parseFrom {rules : Rules} {base : CanonicalUrl} {link : String} {page : Url}
    (named : parseFrom (some base.url) (trim link.toList) = .ok page) :
    CanonicalUrl.join rules base link = CanonicalUrl.ofUrl rules page := by
  unfold CanonicalUrl.join
  rw [named]

/-- That a text is not read is no error of a URL that was read. -/
theorem ofUrl_ne_ofParseError (rules : Rules) {url : Url} (valid : url.WellFormed)
    (cause : ParseError) : CanonicalUrl.ofUrl rules url ≠ .error (.ofParseError cause) := by
  obtain ⟨host, present, normal⟩ := valid.host
  rw [CanonicalUrl.ofUrl]
  by_cases empty : comparedHost rules host.chars = []
  · rw [canonicalize_of_nil valid.web present normal empty]
    intro same
    cases same
  · obtain ⟨kept, keptNormal, printed⟩ := exists_chars_eq_comparedHost normal empty
    rw [canonicalize_of_chars valid present normal keptNormal printed]
    split <;> (intro same; cases same)

/-- A link that is found in a document has the canonical URL that its destination has when it is
joined to the canonical URL of the document, exactly if the destination is short enough to be read
again once it is printed. One that is too long is not read. -/
theorem parse_discovered_eq_join_iff {rules : Rules} {base : CanonicalUrl} {href : String}
    {page : Url} {link : Link} (made : base.IsMade)
    (found : Link.resolve? base.url href.toList = some page)
    (discovered : link = .classified page ∨ link = .toSitemap page) :
    (CanonicalUrl.parse rules link.url = CanonicalUrl.join rules base href ↔
        page.isShort = true) ∧
      (page.isShort = false → CanonicalUrl.parse rules link.url =
        .error (.parse "invalid international domain name")) := by
  obtain ⟨read, web⟩ := isRead_of_resolve? made.isRead.1 found
  have valid := read.wellFormed web
  have text : link.url = page.toString := by
    rcases discovered with rfl | rfl <;> rfl
  rw [text, join_of_parseFrom (parseFrom_of_resolve? found).1, parse_toString rules valid]
  cases page.isShort with
  | true => simp
  | false =>
    have other := ofUrl_ne_ofParseError rules valid .invalidDomainName
    exact ⟨iff_of_false (fun same => other same.symm) Bool.false_ne_true, fun _ => rfl⟩

/-- A link that is found on a page of the machine itself leads to the page that it leads to when it
is joined. -/
theorem parse_discovered_eq_join_iff_loopback :
    ∃ (base : CanonicalUrl) (page : Url), base.IsMade ∧
      Link.resolve? base.url " ../c/?y=2&x=1#top".toList = some page ∧
      CanonicalUrl.parse {} (Link.classified page).url =
        CanonicalUrl.join {} base " ../c/?y=2&x=1#top" := by
  have read : CanonicalUrl.parse {} "http://[::1]/a/b/" =
      .ok ⟨loopbackPage ["a", "b"] none none⟩ := by
    decide +kernel
  have found : Link.resolve? (loopbackPage ["a", "b"] none none) " ../c/?y=2&x=1#top".toList =
      some (loopbackPage ["c", ""] (some "y=2&x=1") (some "top")) := by
    decide +kernel
  have made : CanonicalUrl.IsMade ⟨loopbackPage ["a", "b"] none none⟩ := .parsed read
  exact ⟨_, _, made, found, (parse_discovered_eq_join_iff made found (.inl rfl)).1.mpr rfl⟩

/-- A link to a site whose name is too long to be read once it is written leads to that site if it is
joined, and nowhere if it is printed and read again. -/
theorem parse_discovered_ne_join :
    ∃ (base : CanonicalUrl) (page : Url), base.IsMade ∧
      Link.resolve? base.url (siteText [Idna.longLabel]).toList = some page ∧
      CanonicalUrl.join {} base (siteText [Idna.longLabel]) = .ok ⟨page⟩ ∧
      CanonicalUrl.parse {} (Link.classified page).url =
        .error (.parse "invalid international domain name") := by
  have read : CanonicalUrl.parse {} "http://[::1]" = .ok ⟨loopbackPage [""] none none⟩ := by
    decide +kernel
  have made : CanonicalUrl.IsMade ⟨loopbackPage [""] none none⟩ := .parsed read
  have trimmed : trim (siteText [Idna.longLabel]).toList = (siteText [Idna.longLabel]).toList := by
    rw [siteText, String.toList_ofList, trim_pageChars]
  have parsed := isSite_longLabel.parseFrom_siteText (some (loopbackPage [""] none none))
  rw [← trimmed] at parsed
  have found : Link.resolve? (loopbackPage [""] none none) (siteText [Idna.longLabel]).toList =
      some (sitePage (siteName [Idna.longLabel])) := by
    have begins : (siteText [Idna.longLabel]).toList.head? = some 'h' := by
      rw [siteText, String.toList_ofList]
      rfl
    refine Link.resolve?_eq_some_iff.mpr ⟨?_, ?_, parsed, rfl⟩
    · rw [trimmed]
      rintro empty
      rw [empty] at begins
      cases begins
    · rw [trimmed, begins]
      decide
  have again := parse_toString {} (wellFormed_sitePage isSite_longLabel.isNormal)
  rw [isShort_longLabel] at again
  exact ⟨_, _, made, found, (join_of_parseFrom parsed).trans (ofUrl_longLabel {}), again⟩

/-- A reference without a host takes a query from a page that counts as the page's own. -/
theorem normalizeQuery_place (rules : Rules) (page : Url) (kept : Host) (reference : Reference) :
    normalizeQuery rules ((canonicalPage rules page kept).place reference).query =
      normalizeQuery rules (page.place reference).query := by
  rw [query_place, query_place]
  split
  · exact normalizeQuery_idempotent rules page.query
  · rfl

/-- A reference without a host names the same path from a page and from its canonical URL exactly if
the segments that it leaves are the same without the empty ones. -/
theorem filledSegments_place_iff (rules : Rules) {page : Url} (valid : page.WellFormed)
    {kept : Host} (normal : kept.IsNormal) (reference : Reference) :
    filledSegments ((canonicalPage rules page kept).place reference).segments =
        filledSegments (page.place reference).segments ↔
      LeavesSameNames (reference.kept page.segments) (reference.left page.segments) := by
  obtain ⟨tail, all⟩ := exists_segments_place reference
  have names : (canonicalPage rules page kept).segments =
      orEmpty (filledSegments page.segments) := rfl
  rw [all page valid, all _ (wellFormed_canonicalPage rules valid normal), names,
    filledSegments_append, filledSegments_append, List.append_cancel_right_eq,
    filledSegments_kept_iff reference valid.path_eq.2.1]

/-- What the canonical URL of a page is. -/
theorem canonicalize_eq_ok_iff {rules : Rules} {url : Url} (valid : url.WellFormed)
    {host kept : Host} (present : url.host = some host) (normal : host.IsNormal)
    (keptNormal : kept.IsNormal) (stays : kept = host ∨ kept.isShort = true) (page : Url) :
    canonicalize rules url = .ok (canonicalPage rules page kept) ↔
      kept.chars = comparedHost rules host.chars ∧
        canonicalPage rules url kept = canonicalPage rules page kept := by
  constructor
  · intro made
    obtain ⟨other, again, presentOther, -, -, printed, -, same⟩ := canonicalize_spec valid made
    obtain rfl : host = other := Option.some.inj (present.symm.trans presentOther)
    obtain rfl : kept = again := Option.some.inj (congrArg Url.host same)
    exact ⟨printed, same.symm⟩
  · rintro ⟨printed, same⟩
    rw [canonicalize_of_chars valid present normal keptNormal printed, if_pos stays, same]

/-- A reference without a host leads to the same from a page and from its canonical URL exactly if
no label of the host is left out once more and the path loses the same names. -/
theorem canonicalize_place_eq_iff {rules : Rules} {page : Url} (valid : page.WellFormed)
    {host kept : Host} (present : page.host = some host) (normal : host.IsNormal)
    (keptNormal : kept.IsNormal) (printed : kept.chars = comparedHost rules host.chars)
    (stays : kept = host ∨ kept.isShort = true) {reference : Reference} (placed : (page.place reference).WellFormed)
    (placedOut : ((canonicalPage rules page kept).place reference).WellFormed) :
    canonicalize rules ((canonicalPage rules page kept).place reference) =
        canonicalize rules (page.place reference) ↔
      comparedHost rules kept.chars = kept.chars ∧
        LeavesSameNames (reference.kept page.segments) (reference.left page.segments) := by
  obtain ⟨scheme, username, password, sameHost, port⟩ := place_keeps page reference
  obtain ⟨schemeOut, usernameOut, passwordOut, sameHostOut, portOut⟩ :=
    place_keeps (canonicalPage rules page kept) reference
  have direct : canonicalize rules (page.place reference) =
      .ok (canonicalPage rules (page.place reference) kept) :=
    (canonicalize_eq_ok_iff placed (sameHost.trans present) normal keptNormal stays _).mpr
      ⟨printed, rfl⟩
  have sameParts :
      canonicalPage rules ((canonicalPage rules page kept).place reference) kept =
        canonicalPage rules (page.place reference) kept ↔
      LeavesSameNames (reference.kept page.segments) (reference.left page.segments) := by
    rw [canonicalPage_inj keptNormal keptNormal, filledSegments_place_iff rules valid keptNormal,
      normalizeQuery_place, scheme, username, password, port, schemeOut, usernameOut, passwordOut,
      portOut]
    simp [canonicalPage]
  rw [direct, canonicalize_eq_ok_iff placedOut sameHostOut keptNormal keptNormal (.inl rfl),
    sameParts, eq_comm]

/-- URLs in canonical form are known from the URLs that they hold. -/
theorem ofUrl_eq_iff {rules : Rules} {u v : Url} :
    CanonicalUrl.ofUrl rules u = CanonicalUrl.ofUrl rules v ↔
      canonicalize rules u = canonicalize rules v := by
  unfold CanonicalUrl.ofUrl
  cases canonicalize rules u <;> cases canonicalize rules v <;> simp [Except.map]

/-- A link leads to the same from a page and from its canonical URL exactly if it names its own
host, or no `www.` is left out once more and the segments that it leaves are the same without the
empty ones. -/
theorem join_eq_ofUrl_iff {rules : Rules} {page : Url} {canonical : CanonicalUrl}
    (read : IsRead page) (made : CanonicalUrl.ofUrl rules page = .ok canonical) (link : String) :
    (EndsPlainly link.toList →
        parseFrom (some page) (trim link.toList) = page.join link) ∧
      ∀ url, parseFrom (some page) (trim link.toList) = .ok url → url.isWeb = true →
        (CanonicalUrl.join rules canonical link = CanonicalUrl.ofUrl rules url ↔
          ∀ reference ∈ placed? page.scheme (trim link.toList),
            ¬(rules.stripWww = true ∧
              ∃ host ∈ canonical.url.hostText?, wwwLabel <+: host.toList) ∧
            LeavesSameNames (reference.kept page.segments) (reference.left page.segments)) := by
  refine ⟨parseFrom_trim (some page), fun url named web => ?_⟩
  obtain ⟨out, canonicalized, rfl⟩ := map_eq_ok made
  have valid := read.wellFormed (isWeb_of_canonicalize canonicalized)
  have readOut : IsRead out := .canonical read canonicalized
  obtain ⟨host, kept, present, normal, keptNormal, printed, stays, rfl⟩ :=
    canonicalize_spec valid canonicalized
  have validOut := wellFormed_canonicalPage rules valid keptNormal
  -- A link that names its own host does not ask from which page it is followed.
  cases placed : placed? page.scheme (trim link.toList) with
  | none =>
    have namedOut : parseFrom (some (canonicalPage rules page kept)) (trim link.toList) = .ok url :=
      (valid.parseFrom_congr validOut rfl placed).trans named
    have joined : CanonicalUrl.join rules ⟨canonicalPage rules page kept⟩ link =
        CanonicalUrl.ofUrl rules url := join_of_parseFrom namedOut
    simp [joined]
  | some reference =>
    have namedOut := validOut.parseFrom_of_placed? placed
    have namedPage := valid.parseFrom_of_placed? placed
    obtain rfl : page.place reference = url := Except.ok.inj (namedPage.symm.trans named)
    have joined : CanonicalUrl.join rules ⟨canonicalPage rules page kept⟩ link =
        CanonicalUrl.ofUrl rules ((canonicalPage rules page kept).place reference) :=
      join_of_parseFrom namedOut
    have webOut : ((canonicalPage rules page kept).place reference).isWeb = true := by
      rw [isWeb_iff, (place_keeps (canonicalPage rules page kept) reference).1, ← isWeb_iff]
      exact validOut.web
    have same := canonicalize_place_eq_iff valid present normal keptNormal printed stays
      ((IsRead.joined read named).wellFormed web)
      ((IsRead.joined readOut namedOut).wellFormed webOut)
    have hostText : (canonicalPage rules page kept).hostText? = some kept.text :=
      hostText?_of_isNormal rfl keptNormal
    have text : kept.text.toList = kept.chars := String.toList_ofList
    rw [joined, ofUrl_eq_iff, same, comparedHost_eq_self_iff, hostText]
    simp [text]

/-- A page of the machine itself with an empty segment that the link does not leave. -/
theorem join_eq_ofUrl_iff_loopback :
    ∃ (page url : Url) (canonical : CanonicalUrl),
      parseFrom none "http://[::1]/a//b/c".toList = .ok page ∧
      CanonicalUrl.ofUrl {} page = .ok canonical ∧
      page.join " ../x " = .ok url ∧
      CanonicalUrl.join {} canonical " ../x " = CanonicalUrl.ofUrl {} url := by
  have read : parseFrom none "http://[::1]/a//b/c".toList =
      .ok (loopbackPage ["a", "", "b", "c"] none none) := by
    decide +kernel
  have made : CanonicalUrl.ofUrl {} (loopbackPage ["a", "", "b", "c"] none none) =
      .ok ⟨loopbackPage ["a", "b", "c"] none none⟩ := by
    decide +kernel
  have named : parseFrom (some (loopbackPage ["a", "", "b", "c"] none none))
      (trim " ../x ".toList) = .ok (loopbackPage ["a", "", "x"] none none) := by
    decide +kernel
  have plain : EndsPlainly " ../x ".toList := by
    refine ⟨[' '], [' '], by decide +kernel, fun c mem => ?_⟩
    obtain rfl : c = ' ' := by simpa using mem
    decide
  obtain ⟨joined, same⟩ := join_eq_ofUrl_iff (.parsed read) made " ../x "
  refine ⟨_, _, _, read, made, (joined plain).symm.trans named, (same _ named rfl).mpr ?_⟩
  intro reference mem
  have placed : placed? (loopbackPage ["a", "", "b", "c"] none none).scheme
      (trim " ../x ".toList) = some ⟨"../x".toList, none, none⟩ := by
    rfl
  obtain rfl := Option.some.inj (placed.symm.trans mem)
  refine ⟨?_, .inl ?_⟩
  · rintro ⟨-, host, present, begins⟩
    have text : some "[::1]" = some host := present
    obtain rfl := Option.some.inj text
    exact absurd begins (by decide)
  · decide

/-- A page that ends with a slash is the place from which its links start, and its canonical URL is
not: a link leads elsewhere from there. -/
theorem join_ne_ofUrl_of_slash :
    parseFrom none "http://[::1]/docs/".toList = .ok (loopbackPage ["docs", ""] none none) ∧
      CanonicalUrl.ofUrl {} (loopbackPage ["docs", ""] none none) =
        .ok ⟨loopbackPage ["docs"] none none⟩ ∧
      (loopbackPage ["docs", ""] none none).join "guide" =
        .ok (loopbackPage ["docs", "guide"] none none) ∧
      CanonicalUrl.join {} ⟨loopbackPage ["docs"] none none⟩ "guide" ≠
        CanonicalUrl.ofUrl {} (loopbackPage ["docs", "guide"] none none) := by
  decide +kernel

end Canonical

end CrawlFrontier
