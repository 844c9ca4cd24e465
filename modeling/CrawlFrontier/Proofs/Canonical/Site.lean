import CrawlFrontier.Proofs.Canonical.Page

/-!
# Sites

The first page of a site whose name has plain labels only is named by the name between the scheme and
a slash. Main statement: such a text is read as the URL of that page, with the name as it is written
in ASCII. Two sites have a name that can be written but not be read again.
-/

namespace CrawlFrontier.Canonical

open CrawlFrontier.Idna CrawlFrontier.Text CrawlFrontier.Url

/-- The URL of the first page of a site. -/
def sitePage (name : String) : Url where
  scheme := "https"
  username := ""
  password := ""
  host := some (.domain name)
  port := none
  path := .segments [""]
  query := none
  fragment := none

/-- The first page of a site is well formed, if the site has a name. -/
theorem wellFormed_sitePage {name : String} (normal : (Host.domain name).IsNormal) :
    (sitePage name).WellFormed where
  web := rfl
  username := fun c mem => nomatch mem
  password := fun c mem => nomatch mem
  host := ⟨.domain name, rfl, normal⟩
  port := nofun
  path := ⟨[""], rfl, List.cons_ne_nil "" [], fun segment mem => by
    rw [List.mem_singleton.mp mem]
    exact isSegment_nil⟩
  query := fun text mem => nomatch mem
  fragment := fun text mem => nomatch mem

/-- The characters of the text that names the first page of a site. -/
def pageChars (name : List Char) : List Char := "https://".toList ++ (name ++ ['/'])

/-- The characters of such a text are those around a name and those of the name. -/
theorem mem_pageChars {name : List Char} {c : Char} (mem : c ∈ pageChars name) :
    c ∈ "https://".toList ++ ['/'] ∨ c ∈ name := by
  unfold pageChars at mem
  simp only [List.mem_append] at mem ⊢
  rcases mem with front | inside | back
  · exact .inl (.inl front)
  · exact .inr inside
  · exact .inl (.inr back)

/-- Such a text has no white space at its ends. -/
theorem trim_pageChars (name : List Char) : trim (pageChars name) = pageChars name := by
  have solid : isBlank '/' = false := rfl
  have ends : pageChars name = ("https://".toList ++ name) ++ ['/'] :=
    (List.append_assoc _ _ _).symm
  rw [ends, trim, dropBothWhile_append_cons solid]
  rfl

section Text

variable {name : List Char} {ascii : String} (filled : name ≠ [])
  (allowed : ∀ c ∈ name, isForbidden c = false) (read : Host.parse name = .ok (.domain ascii))

include allowed in
/-- What is forbidden in a name is not among its characters. -/
theorem not_mem_of_allowed {c : Char} (forbidden : isForbidden c = true) : c ∉ name := by
  intro mem
  rw [allowed c mem] at forbidden
  cases forbidden

include filled allowed read in
/-- A name with nothing but a slash behind it is cut from the slash and read. -/
theorem parseAuthority_of_allowed (main : List Char) :
    parseAuthority "https" (name ++ ['/']) ⟨main, none, none⟩ = .ok (sitePage ascii) := by
  have absent {c : Char} (forbidden : isForbidden c = true) : c ∉ name :=
    not_mem_of_allowed allowed forbidden
  have cut : (name ++ ['/']).span (fun c => !SchemeClass.special.separates c) = (name, ['/']) := by
    refine span_append (fun c mem => ?_) (by simp [SchemeClass.separates])
    have slash : c ≠ '/' := ne_of_mem_of_not_mem mem (absent rfl)
    have backslash : c ≠ '\\' := ne_of_mem_of_not_mem mem (absent rfl)
    simp [SchemeClass.separates, slash, backslash]
  have whole : splitHost false name = (name, none) := by
    have plain : ':' ∉ name ∧ '[' ∉ name := ⟨absent rfl, absent rfl⟩
    simpa [splitHost] using splitHost_append plain []
  have noMark : '@' ∉ name := absent rfl
  have other : name ≠ ['@'] := fun same => noMark (same ▸ List.mem_cons_self)
  have special : SchemeClass.ofScheme "https" = .special := rfl
  have host : readHost "https" name = .ok (.domain ascii, none, []) := by
    unfold readHost
    simp only [whole, List.isEmpty_iff, filled, and_false, special, read]
    rfl
  unfold parseAuthority
  simp only [special, cut, splitLast?_of_not_mem noMark, splitFirst, host]
  rw [if_neg fun both => other both.1]
  have root : rootSegments .special ['/'] = [""] := by decide
  exact (if_neg (by simp)).trans (by simp [root]; rfl)

include filled allowed read in
/-- The text of a site is read as the URL of its first page, whatever base it stands to. -/
theorem parseFrom_of_allowed (base : Option Url) :
    parseFrom base (pageChars name) = .ok (sitePage ascii) := by
  have wide : ∀ c ∈ pageChars name, 0x20 < c.toNat := by
    have ends : ("https://".toList ++ ['/']).all (fun c => 0x20 < c.toNat) = true := by decide
    intro c mem
    rcases mem_pageChars mem with around | inside
    · exact of_decide_eq_true (List.all_eq_true.mp ends c around)
    · have bounds := allowed c inside
      simp only [isForbidden, Bool.or_eq_false_iff, decide_eq_false_iff_not, Nat.not_le] at bounds
      exact bounds.1.1
  have noFragment : '#' ∉ pageChars name := fun mem =>
    (mem_pageChars mem).elim (by decide) (not_mem_of_allowed allowed rfl)
  have noQuery : '?' ∉ pageChars name := fun mem =>
    (mem_pageChars mem).elim (by decide) (not_mem_of_allowed allowed rfl)
  have scheme : splitScheme? (pageChars name) = some ("https", '/' :: '/' :: (name ++ ['/'])) := by
    have colon : ':' ∉ "https".toList := by decide
    have cut : pageChars name = "https".toList ++ ':' :: '/' :: '/' :: (name ++ ['/']) := rfl
    rw [splitScheme?, cut, splitFirst_append colon]
    rfl
  have dropped : ('/' :: '/' :: (name ++ ['/'])).dropWhile isSlash = name ++ ['/'] := by
    obtain ⟨c, rest, rfl⟩ := List.exists_cons_of_ne_nil filled
    have slash : c ≠ '/' := ne_of_mem_of_not_mem List.mem_cons_self (not_mem_of_allowed allowed rfl)
    have backslash : c ≠ '\\' :=
      ne_of_mem_of_not_mem List.mem_cons_self (not_mem_of_allowed allowed rfl)
    rw [List.dropWhile_cons_of_pos rfl, List.dropWhile_cons_of_pos rfl, List.cons_append,
      List.dropWhile_cons_of_neg (by simp [isSlash, slash, backslash])]
  have special : SchemeClass.ofScheme "https" = .special := rfl
  have parts : Reference.ofText (pageChars name) = ⟨pageChars name, none, none⟩ := by
    rw [Reference.ofText, splitFirst_of_not_mem noFragment]
    simp only
    rw [splitFirst_of_not_mem noQuery]
  unfold parseFrom
  simp only [clean_of_forall wide, parts, scheme]
  unfold parseWithScheme
  simp only [special, dropped, parseAuthority_of_allowed filled allowed read]
  split
  · exact if_pos (by simp [isSlash])
  · rfl

end Text

/-- Whether plain labels are those of a site: something is written for them, and it is no address. -/
structure IsSite (labels : List (List Char)) : Prop where
  plain : ∀ label ∈ labels, IsPlainLabel label
  filled : ['.'].intercalate labels ≠ []
  named : Ipv4.endsInNumber (written labels) = false

instance (labels : List (List Char)) : Decidable (IsSite labels) :=
  decidable_of_iff ((∀ label ∈ labels, IsPlainLabel label) ∧ ['.'].intercalate labels ≠ [] ∧
      Ipv4.endsInNumber (written labels) = false)
    ⟨fun ⟨plain, filled, named⟩ => ⟨plain, filled, named⟩,
      fun ⟨plain, filled, named⟩ => ⟨plain, filled, named⟩⟩

/-- The name of a site in ASCII. -/
def siteName (labels : List (List Char)) : String := String.ofList (written labels)

/-- The text that names the first page of a site. -/
def siteText (labels : List (List Char)) : String :=
  String.ofList (pageChars (['.'].intercalate labels))

namespace IsSite

variable {labels : List (List Char)}

/-- A site has a label. -/
theorem nonempty (site : IsSite labels) : labels ≠ [] := by
  rintro rfl
  exact site.filled rfl

/-- The labels of a site are those of a name. -/
theorem areLabels (site : IsSite labels) : AreLabels labels :=
  areLabels_of_isPlainLabel site.nonempty site.plain

/-- The name of a site is a host in normal form. -/
theorem isNormal (site : IsSite labels) : (Host.domain (siteName labels)).IsNormal := by
  have text : (siteName labels).toList = written labels := String.toList_ofList
  simp only [Host.IsNormal, text]
  exact ⟨written_ne_nil site.filled, ⟨labels, site.areLabels, rfl⟩, site.named⟩

/-- The characters of a name are plain. -/
theorem isPlain_of_mem (site : IsSite labels) {c : Char} (mem : c ∈ ['.'].intercalate labels) :
    isPlain c = true := by
  rcases mem_intercalate mem with rfl | ⟨label, present, inside⟩
  · decide
  · exact ((site.plain label present).plain c inside).1

/-- No character of a name is forbidden. -/
theorem isForbidden_of_mem (site : IsSite labels) :
    ∀ c ∈ ['.'].intercalate labels, isForbidden c = false :=
  fun _ mem => isForbidden_of_isPlain (site.isPlain_of_mem mem)

/-- The name of a site is read as what is written for it. -/
theorem parse_host (site : IsSite labels) :
    Host.parse (['.'].intercalate labels) = .ok (.domain (siteName labels)) := by
  have bytes : percentDecode (['.'].intercalate labels) = utf8 (['.'].intercalate labels) :=
    percentDecode_of_not_mem (not_mem_of_allowed site.isForbidden_of_mem rfl)
  have read : (fromUtf8? (percentDecode (['.'].intercalate labels)) >>= toAscii?) =
      some (written labels) := by
    rw [bytes, fromUtf8?_utf8]
    exact toAscii?_of_isPlainLabel site.nonempty site.plain
  have ascii : Host.ofAscii (written labels) = .ok (.domain (siteName labels)) := by
    have some : (written labels).isEmpty = false := by simpa using written_ne_nil site.filled
    rw [Host.ofAscii, some, site.named]
    rfl
  unfold Host.parse
  split
  · next shape =>
    have absent : '[' ∉ ['.'].intercalate labels := not_mem_of_allowed site.isForbidden_of_mem rfl
    exact absurd (shape ▸ List.mem_cons_self) absent
  · rw [Host.parseDomain, read]
    exact ascii

/-- The text of a site is read as the URL of its first page, whatever base it stands to. -/
theorem parseFrom_siteText (site : IsSite labels) (base : Option Url) :
    parseFrom base (siteText labels).toList = .ok (sitePage (siteName labels)) := by
  rw [siteText, String.toList_ofList]
  exact parseFrom_of_allowed site.filled site.isForbidden_of_mem site.parse_host base

/-- The text of a site is put into canonical form as its first page is. -/
theorem parse_siteText (site : IsSite labels) (rules : Rules) :
    CanonicalUrl.parse rules (siteText labels) =
      CanonicalUrl.ofUrl rules (sitePage (siteName labels)) := by
  have trimmed : trim (siteText labels).toList = (siteText labels).toList := by
    rw [siteText, String.toList_ofList, trim_pageChars]
  unfold CanonicalUrl.parse
  rw [trimmed, site.parseFrom_siteText none]

/-- A site with a plain label in front of its name is a site. -/
theorem cons (site : IsSite labels) {label : List Char} (plain : IsPlainLabel label) :
    IsSite (label :: labels) where
  plain := List.forall_mem_cons.mpr ⟨plain, site.plain⟩
  filled := by
    obtain ⟨second, rest, rfl⟩ := List.exists_cons_of_ne_nil site.nonempty
    simp [List.intercalate_cons_cons]
  named := by
    have valid := areLabels_of_isPlainLabel (List.cons_ne_nil label labels)
      (List.forall_mem_cons.mpr ⟨plain, site.plain⟩)
    have dotless : '.' ∉ encodeLabel label := fun mem =>
      (mem_encodeLabel (valid.wellFormed label List.mem_cons_self)
        (valid.dotless label List.mem_cons_self) mem).2 rfl
    rw [written_cons label site.nonempty,
      Host.endsInNumber_append dotless (written_ne_nil site.filled), site.named]

/-- The name of a site is short exactly if what is written for it is. -/
theorem isShort_sitePage (labels : List (List Char)) :
    (sitePage (siteName labels)).isShort = Idna.isShort (written labels) :=
  congrArg Idna.isShort String.toList_ofList

/-- The first page of a site whose name keeps its first label is its own canonical URL. -/
theorem canonicalize_of_bare (site : IsSite labels) {rules : Rules}
    (bare : comparedHost rules (written labels) = written labels) :
    canonicalize rules (sitePage (siteName labels)) = .ok (sitePage (siteName labels)) := by
  have chars : (Host.domain (siteName labels)).chars = written labels := String.toList_ofList
  have printed : (Host.domain (siteName labels)).chars =
      comparedHost rules (Host.domain (siteName labels)).chars := by
    rw [chars, bare]
  rw [canonicalize_of_chars (wellFormed_sitePage site.isNormal) rfl site.isNormal site.isNormal
    printed, if_pos (.inl rfl)]
  rfl

/-- What is written for a name with a `www.` in front. -/
theorem written_www (site : IsSite labels) :
    written (['w', 'w', 'w'] :: labels) = wwwLabel ++ written labels := by
  rw [written_cons _ site.nonempty]
  rfl

/-- The site whose name has a `www.` in front has the first page of the site without, if the name is
short enough to be read again. -/
theorem canonicalize_www (site : IsSite labels) {rules : Rules} (strip : rules.stripWww = true) :
    canonicalize rules (sitePage (siteName (['w', 'w', 'w'] :: labels))) =
      if Idna.isShort (written labels) then .ok (sitePage (siteName labels))
      else .error overlongHost := by
  have www : IsSite (['w', 'w', 'w'] :: labels) := site.cons (by decide)
  have chars : (Host.domain (siteName labels)).chars = written labels := String.toList_ofList
  have wwwChars : (Host.domain (siteName (['w', 'w', 'w'] :: labels))).chars =
      wwwLabel ++ written labels :=
    String.toList_ofList.trans site.written_www
  have printed : (Host.domain (siteName labels)).chars =
      comparedHost rules (Host.domain (siteName (['w', 'w', 'w'] :: labels))).chars := by
    rw [wwwChars, comparedHost, strip, chars]
    rfl
  have other : Host.domain (siteName labels) ≠
      Host.domain (siteName (['w', 'w', 'w'] :: labels)) := by
    intro same
    have lengths := congrArg (fun host : Host => host.chars.length) same
    simp only [chars, wwwChars, List.length_append] at lengths
    exact absurd lengths (by simp [wwwLabel])
  have short : (Host.domain (siteName labels)).isShort = Idna.isShort (written labels) :=
    congrArg Idna.isShort String.toList_ofList
  rw [canonicalize_of_chars (wellFormed_sitePage www.isNormal) rfl www.isNormal site.isNormal
    printed, short]
  simp only [other, false_or]
  rfl

/-- The text of a site whose name has a `www.` in front names the first page of the site without. -/
theorem parse_www (site : IsSite labels) (rules : Rules) (strip : rules.stripWww = true)
    (short : Idna.isShort (written labels) = true) :
    CanonicalUrl.parse rules (siteText (['w', 'w', 'w'] :: labels)) =
      .ok ⟨sitePage (siteName labels)⟩ := by
  have www : IsSite (['w', 'w', 'w'] :: labels) := site.cons (by decide)
  rw [www.parse_siteText, CanonicalUrl.ofUrl, site.canonicalize_www strip, if_pos short]
  rfl

end IsSite

/-- A label that is written is no number. -/
theorem endsInNumber_of_mark {rest : List Char} (dotless : '.' ∉ asciiMark ++ rest) :
    Ipv4.endsInNumber (asciiMark ++ rest) = false := by
  have labels : Ipv4.labels (asciiMark ++ rest) = [asciiMark ++ rest] := by
    rw [Ipv4.labels, List.splitOn_eq_singleton dotless]
    rfl
  rw [Ipv4.endsInNumber, labels]
  rfl

/-- A plain label beyond ASCII is the name of a site. -/
theorem isSite_of_not_isAscii {label : List Char} (plain : IsPlainLabel label)
    (other : isAscii label = false) : IsSite [label] where
  plain := List.forall_mem_singleton.mpr plain
  filled := by
    rintro empty
    rw [List.intercalate_singleton] at empty
    rw [empty] at other
    cases other
  named := by
    have valid : AreLabels [label] := areLabels_of_isPlainLabel (List.cons_ne_nil label [])
      (List.forall_mem_singleton.mpr plain)
    have dotless : '.' ∉ encodeLabel label := fun mem =>
      (mem_encodeLabel (valid.wellFormed label List.mem_cons_self)
        (valid.dotless label List.mem_cons_self) mem).2 rfl
    rw [encodeLabel, other] at dotless
    rw [written_singleton other]
    exact endsInNumber_of_mark dotless

/-- The label that can be written but not be read again is the name of a site. -/
theorem isSite_longLabel : IsSite [longLabel] :=
  isSite_of_not_isAscii isPlainLabel_longLabel isAscii_longLabel

/-- The first page of that site is its own canonical URL. -/
theorem ofUrl_longLabel (rules : Rules) :
    CanonicalUrl.ofUrl rules (sitePage (siteName [longLabel])) =
      .ok ⟨sitePage (siteName [longLabel])⟩ := by
  have bare : comparedHost rules (written [longLabel]) = written [longLabel] := by
    rw [written_singleton isAscii_longLabel, comparedHost]
    exact ite_self _
  rw [CanonicalUrl.ofUrl, isSite_longLabel.canonicalize_of_bare bare]
  rfl

/-- The URL of that page is too long to be read again. -/
theorem isShort_longLabel : (sitePage (siteName [longLabel])).isShort = false :=
  (IsSite.isShort_sitePage _).trans
    (isShort_of_longLabel isSite_longLabel.areLabels List.mem_cons_self)

end CrawlFrontier.Canonical
