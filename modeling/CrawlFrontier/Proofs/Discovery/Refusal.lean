import CrawlFrontier.Proofs.Canonical.Made
import CrawlFrontier.Proofs.Discovery.Kind
import CrawlFrontier.Proofs.Discovery.Robots

/-!
# Texts without a canonical URL

A text has no canonical URL if it is not read as a URL, or not as that of a page, or if all of its
host is the label that the rules leave out. What is left of any other host is read again, which fails
if a label is too long to be read, and else gives the host that was left. Main statement: there is no
other cause. The links in a document are printed and read again, so just those are refused that are
too long to be read or lead to a host of that label.
-/

namespace CrawlFrontier

open CrawlFrontier.Text CrawlFrontier.Canonical CrawlFrontier.Url

/-- The host of a link, if its text is read as a URL with one. -/
def Link.host? (link : Link) : Option String := (Url.parse link.url).toOption.bind Url.hostText?

namespace Canonical

/-- The errors of a text that stands to a base: with what is read of it the text has no canonical
URL. -/
inductive Refusal (rules : Rules) (base : Option Url) (text : List Char) : UrlError → Prop where
  /-- It is not read as a URL. -/
  | unread {cause : ParseError} :
      parseFrom base text = .error cause → Refusal rules base text (.parse cause.message)
  /-- It is read as the URL of no page. -/
  | noPage {url : Url} : parseFrom base text = .ok url → url.scheme ≠ "http" →
      url.scheme ≠ "https" → Refusal rules base text (.invalidScheme url.scheme)
  /-- It is read as the URL of a page of whose host nothing is left. -/
  | noHost {url : Url} : parseFrom base text = .ok url →
      url.scheme = "http" ∨ url.scheme = "https" → rules.stripWww = true →
      url.hostText? = some "www." → Refusal rules base text .missingDomain
  /-- It is read as the URL of a page of whose host a part is left that is too long to be read. -/
  | longHost {url : Url} {rest : List Char} : parseFrom base text = .ok url →
      url.scheme = "http" ∨ url.scheme = "https" → rules.stripWww = true →
      url.hostText? = some (String.ofList (wwwLabel ++ rest)) → Idna.isShort rest = false →
      Refusal rules base text
        (.malformed "Failed to set host: invalid international domain name")

/-- Nothing is left of a host exactly if it is the label that is left out. -/
theorem comparedHost_eq_nil_iff {rules : Rules} {host : List Char} (filled : host ≠ []) :
    comparedHost rules host = [] ↔ rules.stripWww = true ∧ host = wwwLabel := by
  by_cases begins : rules.stripWww = true ∧ wwwLabel <+: host
  · obtain ⟨strip, rest, rfl⟩ := begins
    have left : comparedHost rules (wwwLabel ++ rest) = rest := by
      rw [comparedHost, strip, if_pos rfl]
      rfl
    rw [left]
    simp [strip]
  · rw [comparedHost_eq_self_iff.mpr begins]
    refine iff_of_false filled ?_
    rintro ⟨strip, rfl⟩
    exact begins ⟨strip, List.prefix_refl _⟩

/-- What is left of a host cannot be put in its place exactly if it is left behind the label and too
long to be read. -/
theorem not_stays_iff {rules : Rules} {host kept : Host} (normal : host.IsNormal)
    (keptNormal : kept.IsNormal) (printed : kept.chars = comparedHost rules host.chars) :
    ¬(kept = host ∨ kept.isShort = true) ↔
      rules.stripWww = true ∧ ∃ rest, host.chars = wwwLabel ++ rest ∧ Idna.isShort rest = false := by
  have own : kept = host ↔ comparedHost rules host.chars = host.chars := by
    rw [← printed]
    exact ⟨congrArg Host.chars, Host.chars_injective keptNormal normal⟩
  have short : kept.isShort = Idna.isShort (comparedHost rules host.chars) := by
    rw [Host.isShort_eq keptNormal, printed]
  rw [not_or, own, comparedHost_eq_self_iff, not_not, short, Bool.not_eq_true]
  constructor
  · rintro ⟨⟨strip, rest, shape⟩, long⟩
    rw [← shape, comparedHost, strip] at long
    exact ⟨strip, rest, shape.symm, long⟩
  · rintro ⟨strip, rest, shape, long⟩
    refine ⟨⟨strip, rest, shape.symm⟩, ?_⟩
    rw [shape, comparedHost, strip]
    exact long

/-- The causes for which a page has no canonical URL. -/
theorem canonicalize_eq_error_iff_of_host {rules : Rules} {url : Url} (valid : url.WellFormed)
    {host : Host} (present : url.host = some host) (normal : host.IsNormal) {error : UrlError} :
    canonicalize rules url = .error error ↔
      rules.stripWww = true ∧ (host.chars = wwwLabel ∧ error = .missingDomain ∨
        ∃ rest, host.chars = wwwLabel ++ rest ∧ Idna.isShort rest = false ∧
          error = overlongHost) := by
  have nothing : comparedHost rules host.chars = [] ↔
      rules.stripWww = true ∧ host.chars = wwwLabel :=
    comparedHost_eq_nil_iff (Host.chars_ne_nil normal)
  by_cases empty : comparedHost rules host.chars = []
  · rw [canonicalize_of_nil valid.web present normal empty, Except.error.injEq]
    obtain ⟨strip, shape⟩ := nothing.mp empty
    constructor
    · rintro rfl
      exact ⟨strip, .inl ⟨shape, rfl⟩⟩
    · rintro ⟨-, ⟨-, rfl⟩ | ⟨rest, same, long, rfl⟩⟩
      · rfl
      · -- The empty rest behind the label is short.
        obtain rfl := List.self_eq_append_right.mp (shape.symm.trans same)
        cases long
  · obtain ⟨kept, keptNormal, printed⟩ := exists_chars_eq_comparedHost normal empty
    have long := not_stays_iff normal keptNormal printed
    rw [canonicalize_of_chars valid present normal keptNormal printed]
    split
    · next stays =>
      refine iff_of_false (fun same => by cases same) ?_
      rintro ⟨strip, ⟨shape, -⟩ | ⟨rest, shape, tooLong, -⟩⟩
      · exact empty (nothing.mpr ⟨strip, shape⟩)
      · exact long.mpr ⟨strip, rest, shape, tooLong⟩ stays
    · next other =>
      obtain ⟨strip, rest, shape, tooLong⟩ := long.mp other
      rw [Except.error.injEq]
      constructor
      · rintro rfl
        exact ⟨strip, .inr ⟨rest, shape, tooLong, rfl⟩⟩
      · rintro ⟨-, ⟨label, -⟩ | ⟨_, -, -, rfl⟩⟩
        · exact absurd (nothing.mpr ⟨strip, label⟩) empty
        · rfl

/-- The causes for which a URL that was read has no canonical URL. -/
theorem canonicalize_eq_error_iff {rules : Rules} {url : Url} (read : IsRead url)
    {error : UrlError} :
    canonicalize rules url = .error error ↔
      url.isWeb = false ∧ error = .invalidScheme url.scheme ∨
        url.isWeb = true ∧ rules.stripWww = true ∧
          (url.hostText? = some "www." ∧ error = .missingDomain ∨
            ∃ rest, url.hostText? = some (String.ofList (wwwLabel ++ rest)) ∧
              Idna.isShort rest = false ∧ error = overlongHost) := by
  cases web : url.isWeb with
  | false =>
    have refused : canonicalize rules url = .error (.invalidScheme url.scheme) := by
      unfold canonicalize
      simp only [web]
      rfl
    rw [refused, Except.error.injEq]
    simp only [true_and, Bool.false_eq_true, false_and, or_false]
    exact eq_comm
  | true =>
    have valid := read.wellFormed web
    obtain ⟨host, present, normal⟩ := valid.host
    have label (rest : List Char) :
        url.hostText? = some (String.ofList rest) ↔ host.chars = rest := by
      rw [hostText?_of_isNormal present normal, Option.some.injEq, Host.text]
      exact ⟨fun same => String.ofList_injective same, congrArg String.ofList⟩
    have www : url.hostText? = some "www." ↔ host.chars = wwwLabel := label wwwLabel
    rw [canonicalize_eq_error_iff_of_host valid present normal]
    simp only [Bool.true_eq_false, false_and, false_or, true_and, www, label]

/-- A URL has no canonical form for the same causes. -/
theorem ofUrl_eq_error_iff {rules : Rules} {url : Url} {error : UrlError} :
    CanonicalUrl.ofUrl rules url = .error error ↔ canonicalize rules url = .error error := by
  unfold CanonicalUrl.ofUrl
  cases canonicalize rules url <;> simp [Except.map]

/-- The host of a page is known from its text. -/
theorem exists_host_of_hostText? {url : Url} (read : IsRead url) (web : url.isWeb = true)
    {text : List Char} (label : url.hostText? = some (String.ofList text)) :
    ∃ host, url.host = some host ∧ host.IsNormal ∧ host.chars = text := by
  obtain ⟨host, present, normal⟩ := (read.wellFormed web).host
  rw [hostText?_of_isNormal present normal] at label
  exact ⟨host, present, normal, String.ofList_injective (Option.some.inj label)⟩

/-- A page is short enough to be read if what stands in its host behind the label is. -/
theorem isShort_of_hostText? {url : Url} (read : IsRead url) (web : url.isWeb = true)
    {rest : List Char} (label : url.hostText? = some (String.ofList (wwwLabel ++ rest))) :
    url.isShort = Idna.isShort rest := by
  obtain ⟨host, present, normal, chars⟩ := exists_host_of_hostText? read web label
  have bare : comparedHost {} (wwwLabel ++ rest) = rest := rfl
  rw [Url.isShort, present, Option.all_some, Host.isShort_eq normal, chars,
    ← isShort_comparedHost {}, bare]

namespace Refusal

variable {rules : Rules} {base : Option Url} {text : List Char} {error : UrlError}

/-- A text that is not read is refused for the cause of that alone. -/
theorem iff_of_error {cause : ParseError} (found : parseFrom base text = .error cause) :
    Refusal rules base text error ↔ UrlError.ofParseError cause = error := by
  constructor
  · intro refused
    cases refused with
    | unread other => rw [UrlError.ofParseError, Except.error.inj (found.symm.trans other)]
    | noPage other | noHost other | longHost other => cases found.symm.trans other
  · rintro rfl
    exact .unread found

/-- A text that is read is refused for the causes for which its URL has no canonical form. -/
theorem iff_of_ok {url : Url} (found : parseFrom base text = .ok url) (read : IsRead url) :
    Refusal rules base text error ↔ CanonicalUrl.ofUrl rules url = .error error := by
  have web : url.isWeb = false ↔ url.scheme ≠ "http" ∧ url.scheme ≠ "https" := by
    rw [← Bool.not_eq_true, isWeb_iff, not_or]
  rw [ofUrl_eq_error_iff, canonicalize_eq_error_iff read]
  constructor
  · intro refused
    cases refused with
    | unread other => cases found.symm.trans other
    | noPage other notHttp notHttps =>
      obtain rfl := Except.ok.inj (found.symm.trans other)
      exact .inl ⟨web.mpr ⟨notHttp, notHttps⟩, rfl⟩
    | noHost other page strip label =>
      obtain rfl := Except.ok.inj (found.symm.trans other)
      exact .inr ⟨isWeb_iff.mpr page, strip, .inl ⟨label, rfl⟩⟩
    | longHost other page strip label long =>
      obtain rfl := Except.ok.inj (found.symm.trans other)
      exact .inr ⟨isWeb_iff.mpr page, strip, .inr ⟨_, label, long, rfl⟩⟩
  · rintro (⟨noPage, rfl⟩ | ⟨page, strip, ⟨label, rfl⟩ | ⟨rest, label, long, rfl⟩⟩)
    · obtain ⟨notHttp, notHttps⟩ := web.mp noPage
      exact .noPage found notHttp notHttps
    · exact .noHost found (isWeb_iff.mp page) strip label
    · exact .longHost found (isWeb_iff.mp page) strip label long

/-- A page that is short enough to be read has a host that can be put in its place. -/
theorem ne_malformed {url : Url} (found : parseFrom base text = .ok url) (read : IsRead url)
    (short : url.isShort = true) (refused : Refusal rules base text error) (cause : String) :
    error ≠ .malformed cause := by
  rintro rfl
  cases refused with
  | longHost other page strip label long =>
    obtain rfl := Except.ok.inj (found.symm.trans other)
    rw [isShort_of_hostText? read (isWeb_iff.mpr page) label, long] at short
    cases short

end Refusal

/-- What is left of a host behind the label is read as the host that it is, if it is short enough, and
else not at all. -/
theorem setHost_rest {url : Url} (read : IsRead url) (web : url.isWeb = true) {rest : List Char}
    (filled : rest ≠ []) (label : url.hostText? = some (String.ofList (wwwLabel ++ rest))) :
    (Idna.isShort rest = true →
        ∃ out, url.setHost rest = .ok out ∧ out.hostText? = some (String.ofList rest)) ∧
      (Idna.isShort rest = false → url.setHost rest = .error .invalidDomainName) := by
  obtain ⟨host, -, normal, chars⟩ := exists_host_of_hostText? read web label
  have bare : comparedHost {} host.chars = rest := by
    rw [chars]
    rfl
  have some : comparedHost {} host.chars ≠ [] := by rwa [bare]
  obtain ⟨kept, keptNormal, printed⟩ := exists_chars_eq_comparedHost normal some
  rw [bare] at printed
  have parsed : Host.parse rest = if Idna.isShort rest then .ok kept else .error .invalidDomainName := by
    rw [← printed, Host.parse_chars keptNormal, Host.reread, Host.isShort_eq keptNormal]
  constructor
  · intro short
    rw [short, if_pos rfl] at parsed
    refine ⟨{ url with host := .some kept }, ?_, ?_⟩
    · rw [setHost, parsed]
      rfl
    · rw [hostText?_of_isNormal rfl keptNormal, Host.text, printed]
  · intro long
    rw [long] at parsed
    rw [setHost, parsed]
    rfl

end Canonical

/-- The links of a document are the texts of pages that were read. -/
theorem DocumentKind.exists_isRead_of_mem_links {kind : DocumentKind} {base : Url} {body : String}
    {link : Link} (read : IsRead base) (mem : link ∈ (kind.links base body).1) :
    ∃ page, IsRead page ∧ page.isWeb = true ∧ link.url = page.toString := by
  have onPage (mem : link ∈ Page.links base body) :
      ∃ page, IsRead page ∧ page.isWeb = true ∧ link.url = page.toString := by
    obtain ⟨page, pageRead, web, rfl⟩ := isClassified_of_mem_page read mem
    exact ⟨page, pageRead, web, rfl⟩
  cases kind with
  | unclassified | content => exact onPage mem
  | sitemap =>
    have inside : link ∈ (Sitemap.links base body).1 := by
      unfold DocumentKind.links at mem
      simp only at mem
      split at mem <;> next same => rwa [same]
    rcases isClassified_of_mem_sitemap read inside with
      ⟨page, pageRead, web, rfl⟩ | ⟨page, pageRead, web, rfl⟩
    · exact ⟨page, pageRead, web, rfl⟩
    · exact ⟨page, pageRead, web, rfl⟩
  | robots =>
    obtain ⟨line, -, told⟩ := List.mem_filterMap.mp mem
    obtain ⟨value, -, named⟩ := Option.bind_eq_some_iff.mp told
    obtain ⟨page, found, rfl⟩ := Option.map_eq_some_iff.mp named
    obtain ⟨pageRead, web⟩ := isRead_of_resolve? read found
    exact ⟨page, pageRead, web, rfl⟩

/-- A link in a document is refused exactly if it is too long to be read or all of its host is the
label that is left out. -/
theorem canonical?_eq_none_iff {rules : Rules} {kind : DocumentKind} {base : Url} {body : String}
    {link : Link} (read : IsRead base) (mem : link ∈ (kind.links base body).1) :
    Replay.canonical? rules (.ofLink link) = none ↔
      Url.parse link.url = .error .invalidDomainName ∨
        rules.stripWww = true ∧ link.host? = some "www." := by
  obtain ⟨page, pageRead, web, text⟩ := kind.exists_isRead_of_mem_links read mem
  have valid := pageRead.wellFormed web
  have again : Url.parse link.url = page.reread := by
    rw [Url.parse, text, Url.toString, String.toList_ofList, valid.parseFrom_chars none]
  have parsed : CanonicalUrl.parse rules link.url =
      if page.isShort then CanonicalUrl.ofUrl rules page
      else .error (.ofParseError .invalidDomainName) := by
    rw [text]
    exact parse_toString rules valid
  rw [Replay.canonical?, Candidate.ofLink, parsed, Link.host?, again, Url.reread]
  cases short : page.isShort with
  | false => exact iff_of_true rfl (.inl rfl)
  | true =>
    simp only [if_true, Except.toOption, Option.bind_some, reduceCtorEq, false_or]
    cases made : CanonicalUrl.ofUrl rules page with
    | ok url =>
      refine iff_of_false (fun same => by cases same) ?_
      rintro ⟨strip, label⟩
      have refused : CanonicalUrl.ofUrl rules page = .error .missingDomain :=
        ofUrl_eq_error_iff.mpr
          ((canonicalize_eq_error_iff pageRead).mpr (.inr ⟨web, strip, .inl ⟨label, rfl⟩⟩))
      cases made.symm.trans refused
    | error error =>
      refine iff_of_true rfl ?_
      rcases (canonicalize_eq_error_iff pageRead).mp (ofUrl_eq_error_iff.mp made) with
        ⟨noPage, -⟩ | ⟨-, strip, ⟨label, -⟩ | ⟨rest, label, long, -⟩⟩
      · cases web.symm.trans noPage
      · exact ⟨strip, label⟩
      · rw [isShort_of_hostText? pageRead web label, long] at short
        cases short

/-- Of the links in a document just those are refused that are too long to be read or lead to a host
of the label that is left out. -/
theorem Frontier.rejected_offerDocument (frontier : Frontier) {source : QueuedUrl}
    (read : IsRead source.url.url) (body : String) :
    (frontier.offerDocument source body).answer.rejected =
      (source.kind.links source.url.url body).1.countP fun link =>
        Url.parse link.url = .error .invalidDomainName ∨
          frontier.rules.stripWww = true ∧ link.host? = some "www." := by
  obtain ⟨entered, account⟩ :=
    frontier.exists_accounts_offerLinks (source.kind.links source.url.url body).1
  refine account.rejected.trans ?_
  rw [List.countP_map]
  refine List.countP_congr fun link mem => ?_
  rw [Function.comp_apply, Option.isNone_iff_eq_none, canonical?_eq_none_iff read mem,
    decide_eq_true_iff]

namespace Canonical

/-- A text has no canonical URL exactly for the causes of a refusal, and a link none on the page
with a canonical URL. That the host cannot be set occurs only if it is too long to be read again, and
else what is left of the host is put in its place. A link in a document is the text of a page, and it
is refused just if that is too long to be read or leads to a host of the label. -/
theorem parse_eq_error_iff (rules : Rules) :
    (∀ raw error, CanonicalUrl.parse rules raw = .error error ↔
        Refusal rules none (trim raw.toList) error) ∧
      (∀ (base : CanonicalUrl) link error, base.IsMade →
        (CanonicalUrl.join rules base link = .error error ↔
          Refusal rules (some base.url) (trim link.toList) error)) ∧
      (∀ raw url cause, parseFrom none (trim raw.toList) = .ok url → url.isShort = true →
        CanonicalUrl.parse rules raw ≠ .error (.malformed cause)) ∧
      (∀ (base : CanonicalUrl) link url cause, base.IsMade →
        parseFrom (some base.url) (trim link.toList) = .ok url → url.isShort = true →
          CanonicalUrl.join rules base link ≠ .error (.malformed cause)) ∧
      (∀ url rest, IsRead url → url.isWeb = true → rest ≠ [] →
        url.hostText? = some (String.ofList (wwwLabel ++ rest)) →
          (Idna.isShort rest = true →
            ∃ out, url.setHost rest = .ok out ∧ out.hostText? = some (String.ofList rest)) ∧
          (Idna.isShort rest = false → url.setHost rest = .error .invalidDomainName)) ∧
      (∀ (kind : DocumentKind) base body link, IsRead base → link ∈ (kind.links base body).1 →
        ∃ page, page.isWeb = true ∧ link.url = page.toString ∧
          Url.parse link.url =
            if page.isShort then .ok page else .error .invalidDomainName) ∧
      ∀ (frontier : Frontier) (source : QueuedUrl) body, source.url.IsMade →
        frontier.rules = rules →
          (frontier.offerDocument source body).answer.rejected =
            (source.kind.links source.url.url body).1.countP fun link =>
              Url.parse link.url = .error .invalidDomainName ∨
                rules.stripWww = true ∧ link.host? = some "www." := by
  have parsed (raw : String) (error : UrlError) : CanonicalUrl.parse rules raw = .error error ↔
      Refusal rules none (trim raw.toList) error := by
    unfold CanonicalUrl.parse
    cases found : parseFrom none (trim raw.toList) with
    | error cause => rw [Refusal.iff_of_error found, Except.error.injEq]
    | ok url => exact (Refusal.iff_of_ok found (.parsed found)).symm
  have joined {base : CanonicalUrl} (made : base.IsMade) (link : String) (error : UrlError) :
      CanonicalUrl.join rules base link = .error error ↔
        Refusal rules (some base.url) (trim link.toList) error := by
    unfold CanonicalUrl.join
    cases found : parseFrom (some base.url) (trim link.toList) with
    | error cause => rw [Refusal.iff_of_error found, Except.error.injEq]
    | ok url => exact (Refusal.iff_of_ok found (.joined made.isRead.1 found)).symm
  refine ⟨parsed, fun _ link error made => joined made link error, ?_, ?_, ?_, ?_, ?_⟩
  · intro raw url cause found short failed
    exact ((parsed raw _).mp failed).ne_malformed found (.parsed found) short cause rfl
  · intro base link url cause made found short failed
    have read : IsRead url := .joined made.isRead.1 found
    exact ((joined made link _).mp failed).ne_malformed found read short cause rfl
  · exact fun url rest read web filled label => setHost_rest read web filled label
  · intro kind base body link read mem
    obtain ⟨page, pageRead, web, text⟩ := kind.exists_isRead_of_mem_links read mem
    refine ⟨page, web, text, ?_⟩
    rw [Url.parse, text, Url.toString, String.toList_ofList,
      (pageRead.wellFormed web).parseFrom_chars none, Url.reread]
  · rintro frontier source body made rfl
    exact frontier.rejected_offerDocument made.isRead.1 body

/-- A host that is nothing but the label has no page, and the link to it in a file for robots on the
machine itself is refused. Of a longer host the rest is left, if it can be read again. -/
theorem parse_eq_error_iff_label :
    ∃ home : CanonicalUrl, CanonicalUrl.parse {} "http://[::1]" = .ok home ∧
      CanonicalUrl.parse {} "https://www./" = .error .missingDomain ∧
      CanonicalUrl.join {} home "https://www./" = .error .missingDomain ∧
      (∀ cause, CanonicalUrl.parse {} "https://www./" ≠ .error (.malformed cause)) ∧
      (∀ cause, CanonicalUrl.join {} home "https://www./" ≠ .error (.malformed cause)) ∧
      (∃ out, (sitePage "www.example.com").setHost "example.com".toList = .ok out ∧
        out.hostText? = some "example.com") ∧
      (sitePage (siteName [['w', 'w', 'w'], Idna.longLabel])).setHost
          (Idna.written [Idna.longLabel]) = .error .invalidDomainName ∧
      (∃ page, page.isWeb = true ∧ (Link.toSitemap (sitePage "www.")).url = page.toString ∧
        Url.parse (Link.toSitemap (sitePage "www.")).url =
          if page.isShort then .ok page else .error .invalidDomainName) ∧
      ((Frontier.withSeen .empty {}).offerDocument ⟨home, .robots⟩
        "Sitemap: https://www./").answer.rejected = 1 := by
  obtain ⟨refused, joined, sound, soundJoin, remains, again, rejected⟩ := parse_eq_error_iff {}
  have read : CanonicalUrl.parse {} "http://[::1]" = .ok ⟨loopbackPage [""] none none⟩ := by
    decide +kernel
  have made : CanonicalUrl.IsMade ⟨loopbackPage [""] none none⟩ := .parsed read
  have bare : IsSite [['w', 'w', 'w'], []] := by decide
  have site : IsSite [['w', 'w', 'w'], "example".toList, "com".toList] := by decide
  have long : IsSite [['w', 'w', 'w'], Idna.longLabel] := isSite_longLabel.cons (by decide)
  have trimmed : trim "https://www./".toList = "https://www./".toList := by decide
  have parsed (base : Option Url) :
      parseFrom base (trim "https://www./".toList) = .ok (sitePage "www.") := by
    rw [trimmed]
    exact bare.parseFrom_siteText base
  have nothing (base : Option Url) :
      Refusal {} base (trim "https://www./".toList) .missingDomain :=
    .noHost (parsed base) (.inr rfl) rfl rfl
  have found : Robots.links (loopbackPage [""] none none) "Sitemap: https://www./" =
      [.toSitemap (sitePage "www.")] := by
    have value : "Sitemap: https://www./".toList =
        "Sitemap".toList ++ ':' :: " https://www./".toList := by
      decide
    have named : Link.resolve? (loopbackPage [""] none none) " https://www./".toList =
        some (sitePage "www.") := by
      have inner : trim " https://www./".toList = trim "https://www./".toList := by decide
      rw [Link.resolve?, inner]
      simp only [parsed]
      decide
    rw [Robots.links_sitemap _ value (by decide) (by decide), named]
    rfl
  have host : (Link.toSitemap (sitePage "www.")).host? = some "www." := by
    have text : (Link.toSitemap (sitePage "www.")).url = "https://www./" := by decide
    rw [Link.host?, text, Url.parse, ← trimmed, parsed]
    rfl
  refine ⟨_, read, (refused _ _).mpr (nothing none), (joined _ _ _ made).mpr (nothing _),
    fun cause => sound _ _ cause (parsed none) rfl,
    fun cause => soundJoin _ _ _ cause made (parsed _) rfl, ?_, ?_, ?_, ?_⟩
  · have label : (sitePage "www.example.com").hostText? =
        some (String.ofList (wwwLabel ++ "example.com".toList)) := rfl
    have name : siteName [['w', 'w', 'w'], "example".toList, "com".toList] = "www.example.com" := by
      decide
    have pageRead : IsRead (sitePage "www.example.com") :=
      name ▸ .parsed (site.parseFrom_siteText none)
    exact (remains _ _ pageRead rfl (by decide) label).1 (by decide)
  · refine (remains _ _ (.parsed (long.parseFrom_siteText none)) rfl
      (Idna.written_ne_nil isSite_longLabel.filled) ?_).2
      (Idna.isShort_of_longLabel isSite_longLabel.areLabels List.mem_cons_self)
    rw [hostText?_of_isNormal rfl long.isNormal, Host.text, Host.chars, siteName,
      String.toList_ofList, isSite_longLabel.written_www]
  · refine again .robots (loopbackPage [""] none none) "Sitemap: https://www./" _ made.isRead.1 ?_
    show _ ∈ Robots.links _ _
    rw [found]
    exact List.mem_cons_self
  · refine (rejected _ ⟨_, .robots⟩ _ made rfl).trans ?_
    show (Robots.links _ _).countP _ = 1
    rw [found, List.countP_cons_of_pos (by simp [host]), List.countP_nil]

/-- The site whose name has the label in front of one that can be written but not be read again has no
canonical URL, for its host cannot be set. A link to the site itself is refused where it is found on
a page. -/
theorem parse_eq_malformed :
    CanonicalUrl.parse {} (siteText [['w', 'w', 'w'], Idna.longLabel]) =
        .error (.malformed "Failed to set host: invalid international domain name") ∧
      Replay.canonical? {} (.ofLink (.classified (sitePage (siteName [Idna.longLabel])))) = none ∧
      (sitePage (siteName [Idna.longLabel])).hostText? ≠ some "www." := by
  have long : IsSite [['w', 'w', 'w'], Idna.longLabel] := isSite_longLabel.cons (by decide)
  refine ⟨?_, ?_, ?_⟩
  · rw [long.parse_siteText, CanonicalUrl.ofUrl, isSite_longLabel.canonicalize_www rfl,
      Idna.isShort_of_longLabel isSite_longLabel.areLabels List.mem_cons_self]
    rfl
  · have again := parse_toString {} (wellFormed_sitePage isSite_longLabel.isNormal)
    rw [isShort_longLabel] at again
    exact congrArg Except.toOption again
  · intro same
    have read : IsRead (sitePage (siteName [Idna.longLabel])) :=
      .parsed (isSite_longLabel.parseFrom_siteText none)
    have short : (sitePage (siteName [Idna.longLabel])).isShort = Idna.isShort [] :=
      isShort_of_hostText? read rfl same
    rw [isShort_longLabel] at short
    cases short

end Canonical

end CrawlFrontier
