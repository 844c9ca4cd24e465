import CrawlFrontier.Proofs.Discovery.Destination
import CrawlFrontier.Proofs.Frontier.Crawl

/-!
# Kinds of spellings

A link is classified by the URL as it was found, and known by its canonical URL, which leaves out
empty segments. A slash at the end of a path is an empty last segment, so the document that such a
spelling promises may be another. Main statement: the kind that a spelling promises is known from
the canonical URL and from the empty segments, and where spellings agree on these, the one that is
met first records the kind of all. A link is printed and read again before it is recorded, so none is
recorded of which the host is too long to be read.
-/

namespace CrawlFrontier

open CrawlFrontier.Text

namespace Url

/-- Whether a name is that of a sitemap. -/
def namesSitemap (name : List Char) : Bool :=
  occursIn "sitemap".toList name &&
    (".xml".toList.isSuffixOf name || ".xml.gz".toList.isSuffixOf name)

/-- The names of a path without regard to case. -/
def loweredNames (list : List String) : List (List Char) := list.map fun name => lower name.toList

/-- The kind of document that the names of a path promise. -/
def promised (list : List String) : DocumentKind :=
  if loweredNames list = ["robots.txt".toList] then .robots
  else if namesSitemap ((loweredNames list).getLast?.getD []) then .sitemap
  else .content

/-- The names of the canonical path. -/
def tidyNames (list : List String) : List String := orEmpty (filledSegments list)

/-- A path in lower case is that of the names in lower case. -/
theorem lower_joinSegments (list : List String) :
    lower (joinSegments list) = ['/'].intercalate (loweredNames list) := by
  induction list with
  | nil => rfl
  | cons name list ih =>
    cases list with
    | nil => simp [joinSegments, loweredNames]
    | cons next list =>
      have lowered : lower (name.toList ++ '/' :: joinSegments (next :: list)) =
          lower name.toList ++ '/' :: lower (joinSegments (next :: list)) := by
        simp [lower]
      rw [joinSegments_cons_cons, lowered, ih]
      simp [loweredNames, List.intercalate_cons_cons]

/-- A path in lower case is cut into the names in lower case. -/
theorem AreSegments.splitOn_lower {list : List String} (kept : AreSegments list)
    (filled : list ≠ []) :
    (lower ('/' :: joinSegments list)).splitOn '/' = [] :: loweredNames list := by
  have slashless : ∀ name ∈ loweredNames list, '/' ∉ name := by
    intro name mem slash
    obtain ⟨segment, inside, rfl⟩ := List.mem_map.mp mem
    have plain := (kept segment inside).whole '/' ((mem_lower_iff (by decide)).mp slash)
    cases plain
  have names : (['/'].intercalate (loweredNames list)).splitOn '/' = loweredNames list :=
    List.splitOn_intercalate '/' slashless (by simpa [loweredNames] using filled)
  have root : lower ('/' :: joinSegments list) =
      [] ++ '/' :: ['/'].intercalate (loweredNames list) :=
    congrArg ('/' :: ·) (lower_joinSegments list)
  rw [root, List.splitOn_append_cons_self_of_not_mem List.not_mem_nil, names]

/-- The kind that a page promises is told by the names of its path. -/
theorem WellFormed.kind_eq {url : Url} (valid : url.WellFormed) :
    url.kind = promised url.segments := by
  obtain ⟨path, filled, kept⟩ := valid.path_eq
  have pieces := kept.splitOn_lower filled
  have robots : lower ('/' :: joinSegments url.segments) = "/robots.txt".toList ↔
      loweredNames url.segments = ["robots.txt".toList] := by
    constructor
    · intro same
      have cut : "/robots.txt".toList.splitOn '/' = [[], "robots.txt".toList] := by decide
      rw [same, cut] at pieces
      exact (List.cons.inj pieces).2.symm
    · intro same
      show '/' :: lower (joinSegments url.segments) = _
      rw [lower_joinSegments, same]
      rfl
  have last : ([] :: loweredNames url.segments).getLast?.getD [] =
      (loweredNames url.segments).getLast?.getD [] := by
    cases loweredNames url.segments with
    | nil => rfl
    | cons name names => rfl
  unfold Url.kind promised
  simp only [path, chars_segments filled, pieces, robots, last]
  rfl

/-- A path promises a sitemap exactly if its last name is that of a sitemap. -/
theorem promised_eq_sitemap {list : List String} :
    promised list = .sitemap ↔
      namesSitemap ((loweredNames list).getLast?.getD []) = true := by
  unfold promised
  split
  · next robots =>
    have other : namesSitemap "robots.txt".toList = false := by decide
    rw [robots, List.getLast?_singleton, Option.getD_some, other]
    simp
  · split
    · next sitemap => simp [sitemap]
    · next other => simp [other]

/-- A path promises rules for robots exactly if it has one name and that is the one of such files.
-/
theorem promised_eq_robots {list : List String} :
    promised list = .robots ↔ loweredNames list = ["robots.txt".toList] := by
  unfold promised
  split
  · next robots => simp only [robots]
  · next other =>
    have robots (kind : DocumentKind) (apart : kind ≠ .robots) :
        kind = .robots ↔ loweredNames list = ["robots.txt".toList] :=
      ⟨fun same => absurd same apart, fun same => absurd same other⟩
    split
    · exact robots .sitemap nofun
    · exact robots .content nofun

/-- A path promises rules for robots, a sitemap or content. -/
theorem promised_cases (list : List String) :
    promised list = .robots ∨ promised list = .sitemap ∨ promised list = .content := by
  unfold promised
  split
  · exact .inl rfl
  · split
    · exact .inr (.inl rfl)
    · exact .inr (.inr rfl)

/-- A path that promises rules for robots has one name, which is not empty. -/
theorem tidyNames_of_robots {list : List String} (robots : promised list = .robots) :
    tidyNames list = list := by
  obtain ⟨name, rfl, same⟩ := List.map_eq_singleton_iff.mp (promised_eq_robots.mp robots)
  have filled : name ≠ "" := by
    rintro rfl
    exact absurd same (by decide)
  simp [tidyNames, filledSegments, orEmpty, filled]

/-- The last name of a path stays if it is not empty. -/
theorem getLast?_tidyNames {list : List String} {name : String}
    (last : list.getLast? = some name) (filled : name ≠ "") :
    (tidyNames list).getLast? = some name := by
  obtain ⟨front, rfl⟩ := List.getLast?_eq_some_iff.mp last
  have kept : filledSegments (front ++ [name]) = filledSegments front ++ [name] := by
    simp [filledSegments, List.filter_append, filled]
  have some : filledSegments front ++ [name] ≠ [] := by simp
  rw [tidyNames, kept, orEmpty, if_neg some]
  exact List.getLast?_concat

/-- A path promises rules for robots exactly if the canonical path does and is the same. -/
theorem promised_eq_robots_iff {list : List String} :
    promised list = .robots ↔ promised (tidyNames list) = .robots ∧ list = tidyNames list := by
  constructor
  · intro robots
    have tidy := tidyNames_of_robots robots
    rw [tidy]
    exact ⟨robots, rfl⟩
  · rintro ⟨robots, same⟩
    rwa [← same] at robots

/-- A path promises a sitemap exactly if the canonical path does and the last name is not empty. -/
theorem promised_eq_sitemap_iff {list : List String} (filled : list ≠ []) :
    promised list = .sitemap ↔
      promised (tidyNames list) = .sitemap ∧ list.getLast? ≠ some "" := by
  obtain ⟨name, last⟩ := Option.ne_none_iff_exists'.mp (mt List.getLast?_eq_none_iff.mp filled)
  rw [promised_eq_sitemap, promised_eq_sitemap]
  simp only [loweredNames, List.getLast?_map]
  by_cases empty : name = ""
  · have nothing : namesSitemap (lower "".toList) = false := by decide
    rw [last, empty, Option.map_some, Option.getD_some, nothing]
    simp only [Bool.false_eq_true, ne_eq, not_true_eq_false, and_false]
  · rw [getLast?_tidyNames last empty, last]
    simp [empty]

end Url

namespace Canonical

open Url

/-- A page of which a URL is the canonical URL: one of the spellings of that URL. -/
structure IsSpelling (rules : Rules) (page out : Url) : Prop where
  read : IsRead page
  made : canonicalize rules page = .ok out

/-- Whether the path of a URL ends with a slash. -/
def EndsInSlash (url : Url) : Prop := url.segments.getLast? = some ""

/-- Whether the path of a URL has no empty segment that the canonical URL leaves out. -/
def IsTidy (url : Url) : Prop := url.segments = tidyNames url.segments

instance (url : Url) : Decidable (EndsInSlash url) := inferInstanceAs (Decidable (_ = _))

instance (url : Url) : Decidable (IsTidy url) := inferInstanceAs (Decidable (_ = _))

/-- Whether two spellings of a URL that promises a kind of document agree on the empty segments by
which that kind is told. Rules for robots are found only directly behind the host, and a sitemap is
told by the last segment. -/
def AgreeOnSlashes (u v : Url) : DocumentKind → Prop
  | .robots => IsTidy u ↔ IsTidy v
  | .sitemap => EndsInSlash u ↔ EndsInSlash v
  | .content | .unclassified => True

namespace IsSpelling

variable {rules : Rules} {u v out : Url}

/-- Spellings are well formed. -/
theorem wellFormed (spelling : IsSpelling rules u out) : u.WellFormed :=
  spelling.read.wellFormed (isWeb_of_canonicalize spelling.made)

/-- The canonical URL has the names of a spelling that are not empty. -/
theorem segments_eq (spelling : IsSpelling rules u out) :
    out.segments = tidyNames u.segments := by
  obtain ⟨host, kept, -, -, -, -, -, rfl⟩ := canonicalize_spec spelling.wellFormed spelling.made
  rfl

/-- The canonical URL is well formed. -/
theorem wellFormed_out (spelling : IsSpelling rules u out) : out.WellFormed := by
  obtain ⟨host, kept, -, -, normal, -, -, rfl⟩ := canonicalize_spec spelling.wellFormed spelling.made
  exact wellFormed_canonicalPage rules spelling.wellFormed normal

/-- A canonical URL is short enough to be read exactly if its spellings are. -/
theorem isShort_out (spelling : IsSpelling rules u out) : out.isShort = u.isShort := by
  obtain ⟨host, kept, present, normal, keptNormal, printed, -, rfl⟩ :=
    canonicalize_spec spelling.wellFormed spelling.made
  have short : (canonicalPage rules u kept).isShort = kept.isShort := rfl
  rw [short, isShort_of_chars normal keptNormal printed, Url.isShort, present, Option.all_some]

/-- The kind that the canonical URL promises is told by the names of a spelling that are not
empty. -/
theorem kind_out (spelling : IsSpelling rules u out) :
    out.kind = promised (tidyNames u.segments) := by
  rw [spelling.wellFormed_out.kind_eq, spelling.segments_eq]

/-- Canonical URLs with one text are one. -/
theorem eq_of_toString {other : Url} (first : IsSpelling rules u out)
    (second : IsSpelling rules v other) (same : out.toString = other.toString) : out = other :=
  WellFormed.chars_injective first.wellFormed_out second.wellFormed_out
    (String.ofList_injective same)

/-- A spelling promises rules for robots exactly if the canonical URL does and has its path. -/
theorem kind_eq_robots_iff (spelling : IsSpelling rules u out) :
    u.kind = .robots ↔ out.kind = .robots ∧ IsTidy u := by
  rw [spelling.wellFormed.kind_eq, spelling.kind_out, promised_eq_robots_iff, IsTidy]

/-- A spelling promises a sitemap exactly if the canonical URL does and no slash follows. -/
theorem kind_eq_sitemap_iff (spelling : IsSpelling rules u out) :
    u.kind = .sitemap ↔ out.kind = .sitemap ∧ ¬EndsInSlash u := by
  have filled : u.segments ≠ [] := spelling.wellFormed.path_eq.2.1
  rw [spelling.wellFormed.kind_eq, spelling.kind_out, promised_eq_sitemap_iff filled, EndsInSlash]

/-- Two spellings of one canonical URL promise one kind exactly if they agree on the empty segments
that matter. -/
theorem kind_eq_iff (first : IsSpelling rules u out) (second : IsSpelling rules v out) :
    v.kind = u.kind ↔ AgreeOnSlashes u v out.kind := by
  have robotsU := first.kind_eq_robots_iff
  have robotsV := second.kind_eq_robots_iff
  have sitemapU := first.kind_eq_sitemap_iff
  have sitemapV := second.kind_eq_sitemap_iff
  have casesU := promised_cases u.segments
  have casesV := promised_cases v.segments
  have casesOut := promised_cases (tidyNames u.segments)
  rw [← first.wellFormed.kind_eq] at casesU
  rw [← second.wellFormed.kind_eq] at casesV
  rw [← first.kind_out] at casesOut
  rcases casesOut with robots | sitemap | content
  · rw [robots, AgreeOnSlashes]
    grind
  · rw [sitemap, AgreeOnSlashes]
    grind
  · rw [content, AgreeOnSlashes]
    grind

end IsSpelling

/-- Whether a link was classified by the URL of a page that was read. The links of pages are, and so
are those of sitemaps that lead to no other sitemap. -/
def IsClassified (link : Link) : Prop :=
  ∃ page, IsRead page ∧ page.isWeb = true ∧ link = .classified page

/-- A destination that is found names a page by what is left of it without white space at its ends.
-/
theorem parseFrom_of_resolve? {base page : Url} {href : List Char}
    (found : Link.resolve? base href = some page) :
    parseFrom (some base) (trim href) = .ok page ∧ page.isWeb = true := by
  obtain ⟨-, -, named⟩ := Link.resolve?_eq_some_iff.mp found
  exact named

/-- A destination that is found on a page names a page that is read. -/
theorem isRead_of_resolve? {base page : Url} {href : List Char} (read : IsRead base)
    (found : Link.resolve? base href = some page) : IsRead page ∧ page.isWeb = true := by
  obtain ⟨parsed, web⟩ := parseFrom_of_resolve? found
  exact ⟨.joined read parsed, web⟩

/-- The links of a page are classified. -/
theorem isClassified_of_mem_page {base : Url} {body : String} {link : Link} (read : IsRead base)
    (mem : link ∈ Page.links base body) : IsClassified link := by
  obtain ⟨target, -, named⟩ := List.mem_filterMap.mp mem
  obtain ⟨page, found, rfl⟩ := Option.map_eq_some_iff.mp named
  obtain ⟨pageRead, web⟩ := isRead_of_resolve? read found
  exact ⟨page, pageRead, web, rfl⟩

/-- Every link that a scan completes is that of a location. -/
theorem exists_link?_of_mem_links {base : Url} {scan : Sitemap.Scan} {events : List Xml.Event}
    {link : Link} (mem : link ∈ scan.links base events) :
    ∃ parent location, Sitemap.link? base parent location = some link := by
  induction events generalizing scan with
  | nil => cases mem
  | cons event events ih =>
    rcases List.mem_append.mp mem with completed | later
    · have step := Option.mem_toList.mp completed
      cases event with
      | closed name =>
        simp only at step
        split at step
        · cases step
        · split at step
          · obtain ⟨location, -, named⟩ := Option.bind_eq_some_iff.mp step
            exact ⟨_, location, named⟩
          · cases step
      | opened name | selfClosed name | text content | reference name | ignored => cases step
    · exact ih later

/-- The links of a sitemap are classified or lead to sitemaps. -/
theorem isClassified_of_mem_sitemap {base : Url} {text : String} {link : Link} (read : IsRead base)
    (mem : link ∈ (Sitemap.links base text).1) :
    IsClassified link ∨ ∃ page, IsRead page ∧ page.isWeb = true ∧ link = .toSitemap page := by
  obtain ⟨parent, location, named⟩ := exists_link?_of_mem_links mem
  obtain ⟨page, found, told⟩ := Option.bind_eq_some_iff.mp named
  obtain ⟨pageRead, web⟩ := isRead_of_resolve? read found
  split at told
  · exact .inr ⟨page, pageRead, web, (Option.some.inj told).symm⟩
  · split at told
    · exact .inl ⟨page, pageRead, web, (Option.some.inj told).symm⟩
    · cases told

/-- The canonical URL of a classified link is that of the page, if the page is short enough to be
read again. -/
theorem canonical?_classified {rules : Rules} {page : Url} (read : IsRead page)
    (web : page.isWeb = true) (url : CanonicalUrl) :
    Replay.canonical? rules (.ofLink (.classified page)) = some url ↔
      IsSpelling rules page url.url ∧ page.isShort = true := by
  have parsed : CanonicalUrl.parse rules (Link.classified page).url =
      if page.isShort then CanonicalUrl.ofUrl rules page
      else .error (.ofParseError .invalidDomainName) :=
    parse_toString rules (read.wellFormed web)
  rw [Replay.canonical?, Candidate.ofLink, parsed, toOption_eq_some_iff]
  cases page.isShort with
  | false => simp
  | true =>
    rw [if_pos rfl, and_iff_left rfl]
    constructor
    · intro made
      obtain ⟨out, canonical, rfl⟩ := map_eq_ok made
      exact ⟨read, canonical⟩
    · intro spelling
      rw [CanonicalUrl.ofUrl, spelling.made]
      rfl

section Discovered

variable {frontier : Frontier} {links : List Link} {u out : Url}

/-- If one of the links is a spelling of a URL that is short enough to be read, that URL is recorded. -/
theorem isSome_kind?_offerDiscovered (spelling : IsSpelling frontier.rules u out)
    (unseen : ¬frontier.seen.contains out.toString = true) (short : out.isShort = true)
    (mem : Link.classified u ∈ links) :
    ((frontier.offerDiscovered links).frontier.seen.kind? out.toString).isSome = true := by
  obtain ⟨entered, account⟩ := frontier.exists_accounts_offerLinks links
  have named := (canonical?_classified spelling.read (isWeb_of_canonicalize spelling.made) ⟨out⟩).mpr
    ⟨spelling, spelling.isShort_out.symm.trans short⟩
  have offered : out.toString ∈ Replay.offeredKeys frontier.rules (links.map .ofLink) := by
    refine List.mem_filterMap.mpr ⟨_, List.mem_map_of_mem mem, ?_⟩
    rw [named]
    rfl
  obtain ⟨item, waits, key⟩ :=
    List.mem_map.mp ((account.fresh _).mpr ⟨offered, SeenStore.kind?_eq_none unseen⟩)
  have recorded := (account.recorded _ _).mpr (.inr ⟨item, waits, key, rfl⟩)
  exact Option.isSome_iff_exists.mpr ⟨item.kind, recorded⟩

/-- The kind that is recorded for a URL that was not seen is promised by a spelling of it that is
among the links, and that is short enough to be read. -/
theorem exists_of_kind?_offerDiscovered (spelling : IsSpelling frontier.rules u out)
    (unseen : ¬frontier.seen.contains out.toString = true)
    (classified : ∀ link ∈ links, IsClassified link) {kind : DocumentKind}
    (recorded : (frontier.offerDiscovered links).frontier.seen.kind? out.toString = some kind) :
    ∃ v, IsSpelling frontier.rules v out ∧ v.isShort = true ∧ Link.classified v ∈ links ∧
      kind = v.kind := by
  obtain ⟨entered, account⟩ := frontier.exists_accounts_offerLinks links
  rcases (account.recorded _ _).mp recorded with known | ⟨item, waits, key, rfl⟩
  · rw [SeenStore.kind?_eq_none unseen] at known
    cases known
  · obtain ⟨candidate, among, named, kind⟩ := account.named item waits
    obtain ⟨link, found, rfl⟩ := List.mem_map.mp among
    obtain ⟨v, read, web, rfl⟩ := classified link found
    obtain ⟨other, short⟩ := (canonical?_classified read web item.url).mp named
    rw [other.eq_of_toString spelling key] at other
    exact ⟨v, other, short, found, kind.symm⟩

end Discovered

/-- The first link is offered to the frontier as it is, and the others to what it leaves. -/
theorem offerDiscovered_cons_frontier (frontier : Frontier) (link : Link) (links : List Link) :
    (frontier.offerDiscovered (link :: links)).frontier =
      ((frontier.offer link.url link.kind).frontier.offerDiscovered links).frontier := by
  simp only [Frontier.offerDiscovered, Frontier.offerLinks]
  rw [Frontier.offerLinks_frontier, Frontier.offerLinks_frontier]

/-- The first link that is a spelling of a URL that was not seen records its own kind, whatever
follows. -/
theorem kind?_offerDiscovered_cons {frontier : Frontier} {u out : Url}
    (spelling : IsSpelling frontier.rules u out)
    (unseen : ¬frontier.seen.contains out.toString = true) (short : out.isShort = true)
    (links : List Link) :
    (frontier.offerDiscovered (.classified u :: links)).frontier.seen.kind? out.toString
      = some u.kind := by
  have key : CanonicalUrl.key ⟨out⟩ = out.toString := rfl
  have parsed : CanonicalUrl.parse frontier.rules (Link.classified u).url = .ok ⟨out⟩ := by
    have web := isWeb_of_canonicalize spelling.made
    have named := (canonical?_classified spelling.read web ⟨out⟩).mpr
      ⟨spelling, spelling.isShort_out.symm.trans short⟩
    exact toOption_eq_some_iff.mp named
  have entered : (frontier.offer (Link.classified u).url (Link.classified u).kind).frontier =
      (frontier.enter ⟨out⟩ u.kind).1.countOffer := by
    unfold Frontier.offer
    rw [parsed]
    rfl
  have recorded : (frontier.enter ⟨out⟩ u.kind).1.countOffer.seen.kind? out.toString
      = some u.kind := by
    show (frontier.enter ⟨out⟩ u.kind).1.seen.kind? out.toString = some u.kind
    rw [Frontier.seen_enter, SeenStore.kind?_mark, key, if_pos rfl, SeenStore.kind?_eq_none unseen,
      Option.getD_none]
  -- No record is lost by the offers that follow.
  obtain ⟨_, account⟩ :=
    (frontier.enter ⟨out⟩ u.kind).1.countOffer.exists_accounts_offerLinks links
  rw [offerDiscovered_cons_frontier, entered]
  exact (account.recorded _ _).mpr (.inl recorded)

/-- The frontier after the links of documents were offered, one document after the other. -/
def offerDocuments (frontier : Frontier) (documents : List (List Link)) : Frontier :=
  documents.foldl (fun frontier links => (frontier.offerDiscovered links).frontier) frontier

/-- The links of documents are offered as those of one document would be. -/
theorem offerDocuments_eq (frontier : Frontier) (documents : List (List Link)) :
    offerDocuments frontier documents = (frontier.offerDiscovered documents.flatten).frontier := by
  have append (links rest : List Link) (frontier : Frontier) :
      (frontier.offerDiscovered (links ++ rest)).frontier =
        ((frontier.offerDiscovered links).frontier.offerDiscovered rest).frontier := by
    induction links generalizing frontier with
    | nil => rfl
    | cons link links ih =>
      rw [List.cons_append, offerDiscovered_cons_frontier, offerDiscovered_cons_frontier, ih]
  induction documents generalizing frontier with
  | nil => rfl
  | cons links documents ih =>
    rw [List.flatten_cons, append, ← ih]
    rfl

/-- In a new frontier no URL was seen. -/
theorem not_contains_empty {rules : Rules} {key : String} :
    ¬(Frontier.withSeen .empty rules).seen.contains key = true := by
  simp [SeenStore.contains_eq_isSome_kind?, Frontier.withSeen]

/-- The kinds of spellings of one canonical URL. Two of them promise one kind exactly if they agree
on the empty segments by which the kind of the canonical URL is told, whatever else they differ in.
If the classified links of documents agree on these, the kind that is recorded for the URL is the
one that each of its spellings promises, whichever of them is met first; nothing is recorded if the
URL and with it its spellings are too long to be read again. -/
theorem kind_of_spellings {rules : Rules} {u out : Url} (spelling : IsSpelling rules u out) :
    (∀ v, IsSpelling rules v out → (v.kind = u.kind ↔ AgreeOnSlashes u v out.kind)) ∧
    ∀ (frontier : Frontier) (documents : List (List Link)), frontier.rules = rules →
      ¬frontier.seen.contains out.toString = true →
      (∀ links ∈ documents, ∀ link ∈ links, IsClassified link) →
      (∃ links ∈ documents, Link.classified u ∈ links) →
      (∀ v, IsSpelling rules v out → (∃ links ∈ documents, Link.classified v ∈ links) →
        AgreeOnSlashes u v out.kind) →
      (offerDocuments frontier documents).seen.kind? out.toString =
        if out.isShort then some u.kind else none := by
  constructor
  · intro v other
    exact spelling.kind_eq_iff other
  · rintro frontier documents rfl unseen classified met agree
    have all : ∀ link ∈ documents.flatten, IsClassified link := by
      intro link mem
      obtain ⟨links, listed, inside⟩ := List.mem_flatten.mp mem
      exact classified links listed link inside
    rw [offerDocuments_eq]
    cases recorded : (frontier.offerDiscovered documents.flatten).frontier.seen.kind? out.toString with
    | none =>
      rw [if_neg]
      intro short
      have known := isSome_kind?_offerDiscovered spelling unseen short (List.mem_flatten.mpr met)
      rw [recorded] at known
      cases known
    | some kind =>
      obtain ⟨v, other, short, found, rfl⟩ :=
        exists_of_kind?_offerDiscovered spelling unseen all recorded
      have same : v.kind = u.kind :=
        (spelling.kind_eq_iff other).mpr (agree v other (List.mem_flatten.mp found))
      rw [if_pos (other.isShort_out.trans short), same]

/-- Two spellings of a sitemap on the machine itself, neither with a slash behind it: both promise
a sitemap, and so the URL is recorded as one, whichever document comes first. -/
theorem kind_of_spellings_sitemap :
    ∃ u v out : Url, parseFrom none "http://[::1]//sitemap.xml#top".toList = .ok u ∧
      parseFrom none "http://[::1]/sitemap.xml?".toList = .ok v ∧
      canonicalize {} u = .ok out ∧ canonicalize {} v = .ok out ∧ v.kind = u.kind ∧
      ∀ documents ∈ [[[Link.classified u], [.classified v]], [[.classified v], [.classified u]]],
        (offerDocuments (.withSeen .empty {}) documents).seen.kind? out.toString
          = some .sitemap := by
  let u := loopbackPage ["", "sitemap.xml"] none (some "top")
  let v := loopbackPage ["sitemap.xml"] (some "") none
  let out := loopbackPage ["sitemap.xml"] none none
  have readU : parseFrom none "http://[::1]//sitemap.xml#top".toList
      = .ok (loopbackPage ["", "sitemap.xml"] none (some "top")) := by
    decide +kernel
  have readV : parseFrom none "http://[::1]/sitemap.xml?".toList
      = .ok (loopbackPage ["sitemap.xml"] (some "") none) := by
    decide +kernel
  have madeU : canonicalize {} u = .ok out := rfl
  have madeV : canonicalize {} v = .ok out := by decide +kernel
  have kindU : u.kind = .sitemap := by decide
  have kindOut : out.kind = .sitemap := by decide
  have openU : ¬EndsInSlash u := by decide
  have openV : ¬EndsInSlash v := by decide
  have agree : AgreeOnSlashes u v out.kind := by
    rw [kindOut]
    exact iff_of_false openU openV
  obtain ⟨kinds, recorded⟩ := kind_of_spellings ⟨.parsed readU, madeU⟩
  have same : v.kind = u.kind := (kinds v ⟨.parsed readV, madeV⟩).mpr agree
  have either {documents : List (List Link)}
      (mem_iff : ∀ links, links ∈ documents ↔ links = [.classified u] ∨ links = [.classified v]) :
      (offerDocuments (.withSeen .empty {}) documents).seen.kind? out.toString
        = some .sitemap := by
    rw [← kindU]
    refine (recorded _ documents rfl not_contains_empty ?_ ?_ ?_).trans (if_pos rfl)
    · intro links listed link mem
      rcases (mem_iff links).mp listed with rfl | rfl
      · exact ⟨u, .parsed readU, rfl, List.mem_singleton.mp mem⟩
      · exact ⟨v, .parsed readV, rfl, List.mem_singleton.mp mem⟩
    · exact ⟨_, (mem_iff _).mpr (.inl rfl), List.mem_cons_self⟩
    · rintro page spelling ⟨links, listed, mem⟩
      apply (kinds page spelling).mp
      rcases (mem_iff links).mp listed with rfl | rfl
      · exact congrArg Link.kind (List.mem_singleton.mp mem)
      · exact (congrArg Link.kind (List.mem_singleton.mp mem)).trans same
  refine ⟨u, v, out, readU, readV, madeU, madeV, same, fun documents mem => ?_⟩
  rcases List.mem_pair.mp mem with rfl | rfl
  · exact either fun links => List.mem_pair
  · exact either fun links => List.mem_pair.trans or_comm

/-- A slash behind a sitemap promises another document, although it is left out of the canonical
URL: the URL is recorded with the kind of the spelling that comes first. -/
theorem kind_ne_of_slash :
    ∃ u v out : Url, parseFrom none "http://[::1]/sitemap.xml".toList = .ok u ∧
      parseFrom none "http://[::1]/sitemap.xml/".toList = .ok v ∧
      canonicalize {} u = .ok out ∧ canonicalize {} v = .ok out ∧
      u.kind = .sitemap ∧ v.kind = .content ∧
      ((Frontier.withSeen .empty {}).offerDiscovered
        [.classified u, .classified v]).frontier.seen.kind? out.toString = some .sitemap ∧
      ((Frontier.withSeen .empty {}).offerDiscovered
        [.classified v, .classified u]).frontier.seen.kind? out.toString = some .content := by
  have readU : parseFrom none "http://[::1]/sitemap.xml".toList
      = .ok (loopbackPage ["sitemap.xml"] none none) := by
    decide +kernel
  have readV : parseFrom none "http://[::1]/sitemap.xml/".toList
      = .ok (loopbackPage ["sitemap.xml", ""] none none) := by
    decide +kernel
  have spellingU : IsSpelling {} (loopbackPage ["sitemap.xml"] none none)
      (loopbackPage ["sitemap.xml"] none none) := ⟨.parsed readU, rfl⟩
  have spellingV : IsSpelling {} (loopbackPage ["sitemap.xml", ""] none none)
      (loopbackPage ["sitemap.xml"] none none) := ⟨.parsed readV, rfl⟩
  have kindU : (loopbackPage ["sitemap.xml"] none none).kind = .sitemap := by decide
  have kindV : (loopbackPage ["sitemap.xml", ""] none none).kind = .content := by decide
  have firstU := kind?_offerDiscovered_cons spellingU not_contains_empty rfl
    [.classified (loopbackPage ["sitemap.xml", ""] none none)]
  have firstV := kind?_offerDiscovered_cons spellingV not_contains_empty rfl
    [.classified (loopbackPage ["sitemap.xml"] none none)]
  rw [kindU] at firstU
  rw [kindV] at firstV
  exact ⟨_, _, _, readU, readV, rfl, rfl, kindU, kindV, firstU, firstV⟩

end Canonical

end CrawlFrontier
