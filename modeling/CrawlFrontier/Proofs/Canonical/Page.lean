import CrawlFrontier.Canonical.Url
import CrawlFrontier.Proofs.Canonical.Query
import CrawlFrontier.Proofs.Url.Printed

/-!
# Canonical URLs of pages

A canonical URL is well formed, and each of its parts is known from the same part of the URL that it
was made of. Main statement: two pages have one canonical URL exactly if they differ in nothing but
what never matters.
-/

namespace CrawlFrontier.Canonical

open CrawlFrontier.Text CrawlFrontier.Url

/-- A host without one `www.` in front of it. -/
def withoutWww : List Char → List Char
  | 'w' :: 'w' :: 'w' :: '.' :: rest => rest
  | host => host

/-- The part of a host by which pages are compared. -/
def comparedHost (rules : Rules) (host : List Char) : List Char :=
  if rules.stripWww then withoutWww host else host

/-- Leaving out the label in front is leaving out its characters. -/
theorem withoutWww_eq (host : List Char) :
    withoutWww host = if wwwLabel.isPrefixOf host then host.drop wwwLabel.length else host := by
  unfold withoutWww
  split
  · rfl
  · next other =>
    rw [if_neg]
    intro begins
    obtain ⟨rest, rfl⟩ := List.isPrefixOf_iff_prefix.mp begins
    exact other rest rfl

/-- A host is compared as it is, unless there is a label to leave out. -/
theorem comparedHost_eq_self_iff {rules : Rules} {host : List Char} :
    comparedHost rules host = host ↔ ¬(rules.stripWww = true ∧ wwwLabel <+: host) := by
  rw [comparedHost, withoutWww_eq, ← List.isPrefixOf_iff_prefix]
  cases rules.stripWww with
  | false => simp
  | true =>
    cases begins : wwwLabel.isPrefixOf host with
    | false => simp
    | true =>
      obtain ⟨rest, rfl⟩ := List.isPrefixOf_iff_prefix.mp begins
      have shorter : rest ≠ wwwLabel ++ rest := by
        intro same
        have lengths := congrArg List.length same
        rw [List.length_append] at lengths
        exact absurd lengths (by simp [wwwLabel])
      simpa using shorter

/-- The label that is left out makes no host too long. -/
theorem isShort_comparedHost (rules : Rules) (host : List Char) :
    Idna.isShort (comparedHost rules host) = Idna.isShort host := by
  by_cases begins : rules.stripWww = true ∧ wwwLabel <+: host
  · obtain ⟨strip, rest, rfl⟩ := begins
    have bare : comparedHost rules (wwwLabel ++ rest) = rest := by
      rw [comparedHost, strip, if_pos rfl]
      rfl
    have parts : wwwLabel ++ rest = ['w', 'w', 'w'] ++ '.' :: rest := rfl
    rw [bare, parts, Idna.isShort_append (by decide)]
    rfl
  · rw [comparedHost_eq_self_iff.mpr begins]

/-- The host that is kept is the one that is compared. -/
theorem bareHost_text (rules : Rules) {host : Host} (normal : host.IsNormal) :
    bareHost rules host.text = comparedHost rules host.chars := by
  have text : lower host.text.toList = host.chars := by
    rw [Host.text, String.toList_ofList, Host.lower_chars normal]
  rw [bareHost, text, comparedHost, withoutWww_eq]
  cases rules.stripWww <;> simp

/-- What is left of a host is a host. -/
theorem exists_chars_eq_comparedHost {rules : Rules} {host : Host} (normal : host.IsNormal)
    (filled : comparedHost rules host.chars ≠ []) :
    ∃ kept : Host, kept.IsNormal ∧ kept.chars = comparedHost rules host.chars := by
  by_cases begins : rules.stripWww = true ∧ wwwLabel <+: host.chars
  swap
  · exact ⟨host, normal, (comparedHost_eq_self_iff.mpr begins).symm⟩
  obtain ⟨strip, rest, shape⟩ := begins
  have bare : comparedHost rules host.chars = rest := by
    rw [comparedHost, strip, if_pos rfl, ← shape]
    rfl
  rw [bare] at filled ⊢
  cases host with
  | domain name =>
    have parts : name.toList = ['w', 'w', 'w'] ++ '.' :: rest := shape.symm
    refine ⟨_, Host.isNormal_of_append normal (by decide) filled parts, ?_⟩
    rw [Host.chars, String.toList_ofList]
  -- Printed addresses hold no letter that the label begins with.
  | ipv4 address =>
    have first : 'w' ∈ address.text := by
      change wwwLabel ++ rest = address.text at shape
      rw [← shape]
      exact List.mem_cons_self
    have digits : 'w' ∉ printedDigits 10 := by decide
    rcases Ipv4.mem_text first with stop | digit
    · cases stop
    · exact absurd digit digits
  | ipv6 address => cases shape
  | verbatim text => exact normal.elim

/-- What is left of a host is short enough to be read exactly if the host is. -/
theorem isShort_of_chars {rules : Rules} {host kept : Host} (normal : host.IsNormal)
    (keptNormal : kept.IsNormal) (printed : kept.chars = comparedHost rules host.chars) :
    kept.isShort = host.isShort := by
  rw [Host.isShort_eq keptNormal, Host.isShort_eq normal, printed, isShort_comparedHost]

/-- The canonical URL of a page of which the given host is kept. -/
def canonicalPage (rules : Rules) (url : Url) (kept : Host) : Url :=
  { url with
    host := some kept
    path := .segments (orEmpty (filledSegments url.segments))
    query := normalizeQuery rules url.query
    fragment := none }

/-- The path of a canonical URL is that of the segments that are not empty. -/
theorem setPath_normalizePath {url : Url} (valid : url.WellFormed) :
    url.setPath (normalizePath url.path.chars)
      = { url with path := .segments (orEmpty (filledSegments url.segments)) } := by
  obtain ⟨path, filled, kept⟩ := valid.path_eq
  rw [setPath, ofScheme_of_isWeb valid.web, path, chars_segments filled,
    kept.normalizePath filled, kept.rootSegments_filled]

/-- The host of a page is printed. -/
theorem hostText?_of_isNormal {url : Url} {host : Host} (present : url.host = some host)
    (normal : host.IsNormal) : url.hostText? = some host.text := by
  have filled : host.isEmpty = false := by
    simpa [Host.isEmpty] using Host.chars_ne_nil normal
  simp [hostText?, present, filled]

/-- The error of a page of whose host too much is left to be read again. -/
def overlongHost : UrlError :=
  .malformed ("Failed to set host: " ++ ParseError.invalidDomainName.message)

/-- A page has a canonical URL if something is left of its host: all of it, or a host that is short
enough to be read again. -/
theorem canonicalize_of_chars {rules : Rules} {url : Url} (valid : url.WellFormed) {host kept : Host}
    (present : url.host = some host) (normal : host.IsNormal) (keptNormal : kept.IsNormal)
    (printed : kept.chars = comparedHost rules host.chars) :
    canonicalize rules url =
      if kept = host ∨ kept.isShort = true then .ok (canonicalPage rules url kept)
      else .error overlongHost := by
  have filled : comparedHost rules host.chars ≠ [] := by
    rw [← printed]
    exact Host.chars_ne_nil keptNormal
  have replaced : replaceHost url host.text kept.chars =
      if kept = host ∨ kept.isShort = true then .ok { url with host := some kept }
      else .error overlongHost := by
    have text : host.text.toList = host.chars := String.toList_ofList
    have same : kept.chars = host.chars ↔ kept = host :=
      ⟨Host.chars_injective keptNormal normal, congrArg Host.chars⟩
    rw [replaceHost, text]
    by_cases own : kept = host
    · rw [if_pos (same.mpr own), if_pos (.inl own), own, ← present]
    · rw [if_neg (mt same.mp own), setHost, Host.parse_chars keptNormal, Host.reread]
      cases kept.isShort with
      | true => rw [if_pos rfl, if_pos (.inr rfl)]; rfl
      | false => rw [if_neg (by simp), if_neg (by simp [own])]; rfl
  have path := setPath_normalizePath (valid.withHost keptNormal)
  unfold canonicalize
  simp only [valid.web, hostText?_of_isNormal present normal, bareHost_text rules normal, ← printed]
  rw [if_neg (by simp), if_neg (by simpa [printed] using filled), replaced]
  split
  · simp only [bind, Except.bind, pure, Except.pure, path]
    rfl
  · rfl

/-- A page of whose host nothing is left has no canonical URL. -/
theorem canonicalize_of_nil {rules : Rules} {url : Url} (web : url.isWeb = true) {host : Host}
    (present : url.host = some host) (normal : host.IsNormal)
    (empty : comparedHost rules host.chars = []) :
    canonicalize rules url = .error .missingDomain := by
  unfold canonicalize
  simp only [web, hostText?_of_isNormal present normal, bareHost_text rules normal, empty]
  rfl

/-- What has a canonical URL is a page. -/
theorem isWeb_of_canonicalize {rules : Rules} {url out : Url}
    (made : canonicalize rules url = .ok out) : url.isWeb = true := by
  unfold canonicalize at made
  cases web : url.isWeb with
  | true => rfl
  | false =>
    rw [web] at made
    cases made

/-- The canonical URL of a page and the host that is kept in it. -/
theorem canonicalize_spec {rules : Rules} {url out : Url} (valid : url.WellFormed)
    (made : canonicalize rules url = .ok out) :
    ∃ host kept : Host, url.host = some host ∧ host.IsNormal ∧ kept.IsNormal ∧
      kept.chars = comparedHost rules host.chars ∧ (kept = host ∨ kept.isShort = true) ∧
      out = canonicalPage rules url kept := by
  obtain ⟨host, present, normal⟩ := valid.host
  by_cases empty : comparedHost rules host.chars = []
  · rw [canonicalize_of_nil valid.web present normal empty] at made
    cases made
  · obtain ⟨kept, keptNormal, printed⟩ := exists_chars_eq_comparedHost normal empty
    rw [canonicalize_of_chars valid present normal keptNormal printed] at made
    split at made
    · next stays =>
      exact ⟨host, kept, present, normal, keptNormal, printed, stays, (Except.ok.inj made).symm⟩
    · cases made

/-- A canonical URL is well formed. -/
theorem wellFormed_canonicalPage (rules : Rules) {url : Url} (valid : url.WellFormed)
    {kept : Host} (normal : kept.IsNormal) : (canonicalPage rules url kept).WellFormed where
  web := valid.web
  username := valid.username
  password := valid.password
  host := ⟨kept, rfl, normal⟩
  port := valid.port
  path := by
    refine ⟨_, rfl, ?_, ?_⟩
    · unfold orEmpty
      split
      · exact List.cons_ne_nil "" []
      · assumption
    · unfold orEmpty
      split
      · intro segment mem
        rw [List.mem_singleton.mp mem]
        exact isSegment_nil
      · exact valid.segments.filled
  query := normalizeQuery_clean
  fragment := fun text none => nomatch none

/-- A URL that was read, stands on a page that was read, or is the canonical URL of such a one. -/
inductive IsRead : Url → Prop where
  | parsed {text : List Char} {url : Url} : parseFrom none text = .ok url → IsRead url
  | joined {base url : Url} {text : List Char} :
      IsRead base → parseFrom (some base) text = .ok url → IsRead url
  | canonical {rules : Rules} {url out : Url} :
      IsRead url → canonicalize rules url = .ok out → IsRead out

/-- Pages that were read are well formed. -/
theorem IsRead.wellFormed {url : Url} (read : IsRead url) (web : url.isWeb = true) :
    url.WellFormed := by
  induction read with
  | parsed found => exact WellFormed.of_parseFrom_none found web
  | joined base found ih =>
    refine WellFormed.of_parseFrom (fun page mem pageWeb => ?_) found web
    obtain rfl := Option.mem_some_iff.mp mem
    exact ih pageWeb
  | canonical url made ih =>
    have valid := ih (isWeb_of_canonicalize made)
    obtain ⟨host, kept, -, -, normal, -, -, rfl⟩ := canonicalize_spec valid made
    exact wellFormed_canonicalPage _ valid normal

/-- Two pages differ in nothing but what never matters: they agree on scheme, credentials and port,
on the host without one `www.` in front if the rules leave it out, on the segments that are not
empty, and, unless the rules leave queries out, on the pairs that count, in whatever order. -/
structure SamePage (rules : Rules) (u v : Url) : Prop where
  scheme : u.scheme = v.scheme
  username : u.username = v.username
  password : u.password = v.password
  port : u.port = v.port
  host : (u.host.map fun host => comparedHost rules host.chars)
    = v.host.map fun host => comparedHost rules host.chars
  path : filledSegments u.segments = filledSegments v.segments
  query : rules.stripQuery = false →
    (countedPairs rules u.query).Perm (countedPairs rules v.query)

/-- Canonical URLs are equal exactly if the pages agree on what they are made of. -/
theorem canonicalPage_inj {rules : Rules} {u v : Url} {keptU keptV : Host}
    (normalU : keptU.IsNormal) (normalV : keptV.IsNormal) :
    canonicalPage rules u keptU = canonicalPage rules v keptV ↔
      u.scheme = v.scheme ∧ u.username = v.username ∧ u.password = v.password ∧
        keptU.chars = keptV.chars ∧ u.port = v.port ∧
        filledSegments u.segments = filledSegments v.segments ∧
        normalizeQuery rules u.query = normalizeQuery rules v.query := by
  have host : some keptU = some keptV ↔ keptU.chars = keptV.chars := by
    constructor
    · exact fun same => congrArg Host.chars (Option.some.inj same)
    · exact fun same => congrArg some (Host.chars_injective normalU normalV same)
  simp only [canonicalPage, Url.mk.injEq, Path.segments.injEq, orEmpty_filled_inj, host, and_true]

/-- Two pages have one canonical URL exactly if they differ in nothing but what never matters. -/
theorem toString_canonicalize_eq_iff {rules : Rules} {u v outU outV : Url} (readU : IsRead u)
    (readV : IsRead v) (madeU : canonicalize rules u = .ok outU)
    (madeV : canonicalize rules v = .ok outV) :
    outU.toString = outV.toString ↔ SamePage rules u v := by
  have validU := readU.wellFormed (isWeb_of_canonicalize madeU)
  have validV := readV.wellFormed (isWeb_of_canonicalize madeV)
  obtain ⟨hostU, keptU, presentU, -, normalU, printedU, -, rfl⟩ := canonicalize_spec validU madeU
  obtain ⟨hostV, keptV, presentV, -, normalV, printedV, -, rfl⟩ := canonicalize_spec validV madeV
  -- Printing tells well-formed URLs apart, so the texts tell no less than the URLs.
  have text : (canonicalPage rules u keptU).toString = (canonicalPage rules v keptV).toString ↔
      canonicalPage rules u keptU = canonicalPage rules v keptV := by
    constructor
    · intro same
      have chars := String.ofList_injective same
      exact WellFormed.chars_injective (wellFormed_canonicalPage rules validU normalU)
        (wellFormed_canonicalPage rules validV normalV) chars
    · exact congrArg Url.toString
  have host : keptU.chars = keptV.chars ↔
      (u.host.map fun host => comparedHost rules host.chars)
        = v.host.map fun host => comparedHost rules host.chars := by
    rw [presentU, presentV, Option.map_some, Option.map_some, Option.some.injEq, printedU, printedV]
  have query : normalizeQuery rules u.query = normalizeQuery rules v.query ↔
      (rules.stripQuery = false →
        (countedPairs rules u.query).Perm (countedPairs rules v.query)) := by
    cases strip : rules.stripQuery with
    | true => simp [normalizeQuery_of_strip strip]
    | false => simp [normalizeQuery_inj strip]
  rw [text, canonicalPage_inj normalU normalV, host, query]
  constructor
  · rintro ⟨scheme, username, password, host, port, path, query⟩
    exact ⟨scheme, username, password, port, host, path, query⟩
  · rintro ⟨scheme, username, password, port, host, path, query⟩
    exact ⟨scheme, username, password, host, port, path, query⟩

/-- The URL of a page of the machine itself with the given path, query and fragment. -/
def loopbackPage (segments : List String) (query fragment : Option String) : Url where
  scheme := "http"
  username := ""
  password := ""
  host := some (.ipv6 ⟨[0, 0, 0, 0, 0, 0, 0, 1], rfl⟩)
  port := none
  path := .segments segments
  query := query
  fragment := fragment

/-- Two spellings of one page agree on what matters, and so they have one canonical URL. -/
theorem toString_canonicalize_eq_iff_spellings :
    ∃ u v outU outV : Url, parseFrom none "http://[::1]/a//b/?y=2&x=1#top".toList = .ok u ∧
      parseFrom none "http://[::1]:80/a/b?x=1&utm_source=feed&y=2".toList = .ok v ∧
      canonicalize {} u = .ok outU ∧ canonicalize {} v = .ok outV ∧
      outU.toString = outV.toString := by
  have readU : parseFrom none "http://[::1]/a//b/?y=2&x=1#top".toList
      = .ok (loopbackPage ["a", "", "b", ""] (some "y=2&x=1") (some "top")) := by
    decide +kernel
  have readV : parseFrom none "http://[::1]:80/a/b?x=1&utm_source=feed&y=2".toList
      = .ok (loopbackPage ["a", "b"] (some "x=1&utm_source=feed&y=2") none) := by
    decide +kernel
  have pairsU : Form.readPairs "y=2&x=1".toList = [("y", "2"), ("x", "1")] :=
    Form.readPairs_writePairs [("y", "2"), ("x", "1")]
  have pairsV : Form.readPairs "x=1&utm_source=feed&y=2".toList
      = [("x", "1"), ("utm_source", "feed"), ("y", "2")] :=
    Form.readPairs_writePairs [("x", "1"), ("utm_source", "feed"), ("y", "2")]
  have countedU : countedPairs {} (some "y=2&x=1") = [("y", "2"), ("x", "1")] := by
    rw [countedPairs, Option.getD_some, pairsU]
    decide
  have countedV : countedPairs {} (some "x=1&utm_source=feed&y=2") = [("x", "1"), ("y", "2")] := by
    rw [countedPairs, Option.getD_some, pairsV]
    decide
  have query : (countedPairs {} (some "y=2&x=1")).Perm
      (countedPairs {} (some "x=1&utm_source=feed&y=2")) := by
    rw [countedU, countedV]
    exact .swap ("x", "1") ("y", "2") []
  have same : SamePage {} (loopbackPage ["a", "", "b", ""] (some "y=2&x=1") (some "top"))
      (loopbackPage ["a", "b"] (some "x=1&utm_source=feed&y=2") none) :=
    ⟨rfl, rfl, rfl, rfl, rfl, rfl, fun _ => query⟩
  exact ⟨_, _, _, _, readU, readV, rfl, rfl,
    (toString_canonicalize_eq_iff (.parsed readU) (.parsed readV) rfl rfl).mpr same⟩

end CrawlFrontier.Canonical
