import CrawlFrontier.Discovery.Document
import CrawlFrontier.Proofs.Discovery.Sitemap
import CrawlFrontier.Proofs.Xml.Written

/-!
# Locations as they are written

The text of a location reaches a scan in pieces: runs of plain text, sections and references. Main
statement: however a text is written, the scan puts it together again, so a sitemap with one
location has the link that the text names, and nothing is reported of it.
-/

namespace CrawlFrontier.Xml

open CrawlFrontier.Text CrawlFrontier.Sitemap

/-- A character is found by its number. -/
theorem numberedChar?_of_isNumeral {base : Nat} {digits : List Char} {c : Char}
    (number : IsNumeral base digits c.toNat) (large : 1 < base) (bound : base ≤ 16)
    (known : c ≠ '\x00') : numberedChar? base digits = some c := by
  have filled : ¬digits.isEmpty = true := by simpa using number.ne_nil
  have named : ¬(c.toNat = 0 ∨ ¬c.toNat.isValidChar) := by
    rintro (zero | invalid)
    · exact known (Char.toNat_inj.mp zero)
    · exact invalid c.valid
  rw [numberedChar?, if_neg filled, number.numeral?_eq large bound]
  show (if c.toNat = 0 ∨ ¬c.toNat.isValidChar then none else some (Char.ofNat c.toNat)) = some c
  rw [if_neg named, Char.ofNat_toNat]

/-- Markup stands for its text. -/
theorem Markup.content_leaf (piece : Markup) : piece.leaf.content = piece.content := by
  cases piece with
  | verbatim text free | comment text free | instruction text free => rfl
  | decimal digits c known number =>
    have found := numberedChar?_of_isNumeral number (by decide) (by decide) known
    have noMark : ∀ digits', digits = 'x' :: digits' → False := by
      rintro rest rfl
      exact number.not_mem_of_toLower (by decide) (List.all_iff_forall_prop.mp (by decide))
        List.mem_cons_self (List.mem_singleton_self 'x')
    show resolveReference ('#' :: digits) = [c]
    rw [resolveReference, found]
    · rfl
    · exact noMark
  | hexadecimal digits c known number =>
    have found := numberedChar?_of_isNumeral number (by decide) (by decide) known
    show (numberedChar? 16 digits).toList = [c]
    rw [found]
    rfl
  | entity name c known =>
    have resolved : ∀ entity ∈ predefinedEntities, resolveReference entity.1 = [entity.2] := by
      decide
    exact resolved _ known

namespace Forest

/-- A run of plain text stands for itself. -/
theorem content_withText (pending : List Char) (rest : Forest) :
    (withText pending rest).content = pending ++ rest.content := by
  by_cases nothing : pending = []
  · rw [withText, if_pos nothing, nothing, List.nil_append]
  · rw [withText, if_neg nothing]
    rfl

/-- There is no element in a run of plain text. -/
theorem hasLocation_withText (pending : List Char) (rest : Forest) :
    (withText pending rest).hasLocation = rest.hasLocation := by
  rw [withText]
  split <;> rfl

/-- The leaves that are read stand for the text that is written. -/
theorem content_ofPieces (pending : List Char) (pieces : List Piece) :
    (ofPieces pending pieces).content = pending ++ pieces.flatMap Piece.content := by
  induction pieces generalizing pending with
  | nil => exact content_withText pending nil
  | cons piece pieces ih =>
    rw [List.flatMap_cons]
    cases piece with
    | plain text free => rw [ofPieces, ih, List.append_assoc, Piece.content]
    | markup piece =>
      rw [ofPieces, content_withText, content, ih, piece.content_leaf, List.nil_append,
        Piece.content]

/-- There is no element in the leaves of a text. -/
theorem hasLocation_ofPieces (pending : List Char) (pieces : List Piece) :
    (ofPieces pending pieces).hasLocation = false := by
  induction pieces generalizing pending with
  | nil => exact hasLocation_withText pending nil
  | cons piece pieces ih =>
    cases piece with
    | plain text free => exact ih (pending ++ text)
    | markup piece =>
      rw [ofPieces, hasLocation_withText]
      exact ih []

/-- The link of a document that is a list with one entry, which has one location. -/
theorem links_oneLocation (base : Url) {list entry : List Char} (notList : localName list ≠ locName)
    (notEntry : localName entry ≠ locName) {inside : Forest} (bare : inside.hasLocation = false) :
    (element list (element entry (element locName inside nil) nil) nil).links base =
      (Sitemap.link? base (some (localName entry)) inside.content).toList := by
  have none {name : List Char} (other : localName name ≠ locName) (parent : Option (List Char))
      (inside : Forest) (finish : Nat) :
      Placed.link? base ⟨parent, localName name, inside, finish⟩ = none :=
    if_neg fun both => other both.1
  have named : localName locName = locName := by decide
  have own (finish : Nat) :
      Placed.link? base ⟨some (localName entry), locName, inside, finish⟩ =
        Sitemap.link? base (some (localName entry)) inside.content := by
    rw [link?_of_name rfl]
    exact if_pos bare
  simp only [links, elements, List.append_nil, List.filterMap_cons, none notList, none notEntry,
    named, own, filterMap_link?_of_hasLocation bare]
  cases Sitemap.link? base (some (localName entry)) inside.content <;> rfl

end Forest

end CrawlFrontier.Xml

namespace CrawlFrontier.Sitemap

open CrawlFrontier.Text CrawlFrontier.Xml

/-- A list with one entry, which has one location, written in pieces. -/
def oneLocation (list entry : List Char) (pieces : List Piece) : String :=
  String.ofList (tagged list (tagged entry (tagged locName (pieces.flatMap Piece.written))))

/-- However its location is written, such a document has the link of the text of the location, and
nothing is reported of it. -/
theorem links_oneLocation (base : Url) {list entry : List Char} (listed : IsTagName list)
    (entered : IsTagName entry) (notList : localName list ≠ locName)
    (notEntry : localName entry ≠ locName) (pieces : List Piece) :
    DocumentKind.sitemap.links base (oneLocation list entry pieces) =
      ((link? base (some (localName entry)) (pieces.flatMap Piece.content)).toList, []) := by
  have location : IsTagName locName := by decide
  have leaves := Forest.isWritten_ofPieces (List.forall_mem_nil _) pieces
  have read := (((leaves.tagged location).tagged entered).tagged listed).read_eq rfl
  have found := Forest.links_oneLocation base notList notEntry
    (Forest.hasLocation_ofPieces [] pieces)
  rw [List.nil_append] at read
  rw [← Scan.links_events, Forest.content_ofPieces, List.nil_append] at found
  have whole : links base (oneLocation list entry pieces) =
      ((link? base (some (localName entry)) (pieces.flatMap Piece.content)).toList, true) := by
    rw [links, oneLocation, read]
    exact congrArg (·, true) found
  rw [DocumentKind.links, whole]

/-- A location names the same page however its text is written: one link in a list of pages, of the
kind that its URL promises, and one to a sitemap in a list of sitemaps, or none at all if the text
names no page. Nothing is reported of the document. -/
theorem links_of_location (base : Url) {text : List Char} {pieces : List Piece}
    (spelling : pieces.flatMap Piece.content = text) :
    DocumentKind.sitemap.links base (oneLocation "urlset".toList "url".toList pieces) =
        (((Link.resolve? base text).map Link.classified).toList, []) ∧
      DocumentKind.sitemap.links base
          (oneLocation "sitemapindex".toList "sitemap".toList pieces) =
        (((Link.resolve? base text).map Link.toSitemap).toList, []) ∧
      ∀ other : List Piece, other.flatMap Piece.content = text →
        DocumentKind.sitemap.links base (oneLocation "urlset".toList "url".toList other) =
            DocumentKind.sitemap.links base (oneLocation "urlset".toList "url".toList pieces) ∧
          DocumentKind.sitemap.links base
              (oneLocation "sitemapindex".toList "sitemap".toList other) =
            DocumentKind.sitemap.links base
              (oneLocation "sitemapindex".toList "sitemap".toList pieces) := by
  have pages (pieces : List Piece) (spelling : pieces.flatMap Piece.content = text) :
      DocumentKind.sitemap.links base (oneLocation "urlset".toList "url".toList pieces) =
        (((Link.resolve? base text).map Link.classified).toList, []) := by
    rw [links_oneLocation base (by decide) (by decide) (by decide) (by decide), spelling, link?]
    cases Link.resolve? base text with
    | none => rfl
    | some url => rfl
  have sitemaps (pieces : List Piece) (spelling : pieces.flatMap Piece.content = text) :
      DocumentKind.sitemap.links base (oneLocation "sitemapindex".toList "sitemap".toList pieces) =
        (((Link.resolve? base text).map Link.toSitemap).toList, []) := by
    rw [links_oneLocation base (by decide) (by decide) (by decide) (by decide), spelling, link?]
    cases Link.resolve? base text with
    | none => rfl
    | some url => rfl
  refine ⟨pages pieces spelling, sitemaps pieces spelling, fun other same => ⟨?_, ?_⟩⟩
  · rw [pages other same, pages pieces spelling]
  · rw [sitemaps other same, sitemaps pieces spelling]

/-- Two ways to write one text: with an entity between plain characters, and with a section, a
comment and a number. -/
theorem links_of_location_spellings :
    ∃ first second : List Piece,
      first.flatMap Piece.written = "/a&amp;b".toList ∧
      second.flatMap Piece.written = "<![CDATA[/a&]]><!-- name -->&#x0062;".toList ∧
      DocumentKind.sitemap.links (Canonical.loopbackPage [""] none none)
          (oneLocation "urlset".toList "url".toList first) =
        ([⟨"http://[::1]/a&b", .content⟩], []) ∧
      DocumentKind.sitemap.links (Canonical.loopbackPage [""] none none)
          (oneLocation "urlset".toList "url".toList second) =
        ([⟨"http://[::1]/a&b", .content⟩], []) := by
  let first : List Piece :=
    [.plain "/a".toList (by decide), .markup (.entity "amp".toList '&' (by decide)),
      .plain "b".toList (by decide)]
  let second : List Piece :=
    [.markup (.verbatim "/a&".toList (by decide)), .markup (.comment " name ".toList (by decide)),
      .markup (.hexadecimal "0062".toList 'b' (by decide) ⟨2, by decide⟩)]
  have spelled : first.flatMap Piece.content = "/a&b".toList := by decide
  have again : second.flatMap Piece.content = "/a&b".toList := by decide
  have named : Link.resolve? (Canonical.loopbackPage [""] none none) "/a&b".toList =
      some (Canonical.loopbackPage ["a&b"] none none) := by
    decide +kernel
  obtain ⟨pages, -, others⟩ := links_of_location (Canonical.loopbackPage [""] none none) spelled
  rw [named] at pages
  exact ⟨first, second, by decide, by decide, pages, (others second again).1.trans pages⟩

end CrawlFrontier.Sitemap
