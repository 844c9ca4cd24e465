import CrawlFrontier.Discovery.Sitemap
import CrawlFrontier.Proofs.Canonical.Page
import CrawlFrontier.Proofs.Xml.Forest

/-!
# Sitemaps as forests

A scan knows of a document only the names of the elements that are open and the text of the location
that it is in. Said of the whole document, a location is an element `loc` without another one in it,
and its text is all that is written inside it, however deep. Main statement: the scan finds the
links of exactly these elements, in the order of the document, and if the document breaks off, those
of the elements that end before.
-/

namespace CrawlFrontier.Xml

/-- The text that a leaf stands for. -/
def Leaf.content : Leaf → List Char
  | text content => content
  | reference name => Sitemap.resolveReference name
  | selfClosed _ | ignored => []

namespace Forest

open CrawlFrontier.Sitemap

/-- The text that is written in a forest, at any depth. -/
def content : Forest → List Char
  | nil => []
  | leaf piece rest => piece.content ++ rest.content
  | element _ inside rest => inside.content ++ rest.content

/-- Whether an element of a forest is named like one that holds a location, at any depth. -/
def hasLocation : Forest → Bool
  | nil => false
  | leaf _ rest => rest.hasLocation
  | element name inside rest =>
    localName name == locName || inside.hasLocation || rest.hasLocation

end Forest

/-- An element where it stands in a document. -/
structure Placed where
  /-- The local name of the element in which it stands directly, if there is one. -/
  parent : Option (List Char)
  /-- Its local name. -/
  name : List Char
  /-- What stands inside it. -/
  inside : Forest
  /-- How many pieces there are in the document up to its end. -/
  finish : Nat

/-- The link of an element that holds a location: one without another such element in it. Where it
stands says what kind of document is expected. -/
def Placed.link? (base : Url) (element : Placed) : Option Link :=
  if element.name = Sitemap.locName ∧ element.inside.hasLocation = false then
    (Link.resolve? base element.inside.content).bind fun url =>
      if element.parent = some "sitemap".toList then some ⟨url.toString, .sitemap⟩
      else if element.parent = some "url".toList then some ⟨url.toString, url.kind⟩
      else none
  else none

namespace Forest

open CrawlFrontier.Sitemap

/-- The elements of a forest in the order of the document, that is, in the order of their start
tags. The forest stands in the given parent, behind so many pieces. -/
def elements (parent : Option (List Char)) (before : Nat) : Forest → List Placed
  | nil => []
  | leaf _ rest => rest.elements parent (before + 1)
  | element name inside rest =>
    let finish := before + inside.events.length + 2
    ⟨parent, localName name, inside, finish⟩ ::
      (inside.elements (some (localName name)) (before + 1) ++ rest.elements parent finish)

/-- The links of a document. -/
def links (base : Url) (document : Forest) : List Link :=
  (document.elements none 0).filterMap (Placed.link? base)

/-- The links of the elements of a forest that end within a limit, counted in pieces of the
document. The forest stands in the given parent, behind so many pieces. -/
def linksWithin (base : Url) (parent : Option (List Char)) (before limit : Nat)
    (forest : Forest) : List Link :=
  ((forest.elements parent before).filter (·.finish ≤ limit)).filterMap (Placed.link? base)

/-- The elements of a forest end behind what stands in front of it, and with it at the latest. -/
theorem finish_bounds {forest : Forest} {parent : Option (List Char)} {before : Nat}
    {element : Placed} (member : element ∈ forest.elements parent before) :
    before < element.finish ∧ element.finish ≤ before + forest.events.length := by
  induction forest generalizing parent before with
  | nil => exact absurd member List.not_mem_nil
  | leaf piece rest ih =>
    have bounds := ih member
    rw [events, List.length_cons]
    omega
  | element name inside rest insideIh restIh =>
    have size : (Forest.element name inside rest).events.length =
        inside.events.length + rest.events.length + 2 := by
      rw [events, List.length_cons, List.length_append, List.length_cons]
      omega
    rw [size]
    rw [elements, List.mem_cons, List.mem_append] at member
    rcases member with rfl | member | member
    · show before < before + inside.events.length + 2 ∧
        before + inside.events.length + 2 ≤ before + (inside.events.length + rest.events.length + 2)
      omega
    · have bounds := insideIh member
      omega
    · have bounds := restIh member
      omega

/-- No element of a forest ends in front of it. -/
theorem linksWithin_of_le (base : Url) (parent : Option (List Char)) {before limit : Nat}
    (few : limit ≤ before) (forest : Forest) :
    forest.linksWithin base parent before limit = [] := by
  have none : (forest.elements parent before).filter (·.finish ≤ limit) = [] := by
    apply List.filter_eq_nil_iff.mpr
    intro element member
    have bounds := finish_bounds member
    simp only [decide_eq_true_eq, Nat.not_le]
    omega
  rw [linksWithin, none, List.filterMap_nil]

/-- All elements of a forest end with it at the latest. -/
theorem linksWithin_of_ge (base : Url) (parent : Option (List Char)) {before limit : Nat}
    {forest : Forest} (many : before + forest.events.length ≤ limit) :
    forest.linksWithin base parent before limit =
      (forest.elements parent before).filterMap (Placed.link? base) := by
  have all : (forest.elements parent before).filter (·.finish ≤ limit) =
      forest.elements parent before := by
    apply List.filter_eq_self.mpr
    intro element member
    have bounds := finish_bounds member
    exact decide_eq_true (by omega)
  rw [linksWithin, all]

/-- A forest without elements that hold locations has no links. -/
theorem filterMap_link?_of_hasLocation {forest : Forest} (bare : forest.hasLocation = false)
    (base : Url) (parent : Option (List Char)) (before : Nat) :
    (forest.elements parent before).filterMap (Placed.link? base) = [] := by
  induction forest generalizing parent before with
  | nil => rfl
  | leaf piece rest ih => exact ih bare _ _
  | element name inside rest insideIh restIh =>
    simp only [hasLocation, Bool.or_eq_false_iff, beq_eq_false_iff_ne] at bare
    obtain ⟨⟨other, insideBare⟩, restBare⟩ := bare
    have none : Placed.link? base
        ⟨parent, localName name, inside, before + inside.events.length + 2⟩ = none :=
      if_neg fun named => other named.1
    rw [elements, List.filterMap_cons_none none, List.filterMap_append, insideIh insideBare,
      restIh restBare, List.nil_append]

/-- The links of an element and of what follows it: those inside it come first, and the others only
if the element ends within the limit. -/
theorem linksWithin_element (base : Url) (parent : Option (List Char)) (name : List Char)
    (inside rest : Forest) (before limit : Nat) :
    (element name inside rest).linksWithin base parent before limit =
      inside.linksWithin base (some (localName name)) (before + 1) limit ++
        if before + inside.events.length + 2 ≤ limit then
          (Placed.link? base
              ⟨parent, localName name, inside, before + inside.events.length + 2⟩).toList ++
            rest.linksWithin base parent (before + inside.events.length + 2) limit
        else [] := by
  by_cases ends : before + inside.events.length + 2 ≤ limit
  · rw [linksWithin, elements, List.filter_cons, if_pos (decide_eq_true ends), if_pos ends,
      List.filter_append]
    cases own : Placed.link? base
        ⟨parent, localName name, inside, before + inside.events.length + 2⟩ with
    | none =>
      rw [List.filterMap_cons_none own, List.filterMap_append]
      rfl
    | some link =>
      -- A location has no other one in it, so nothing stands in front of its link.
      have bare : inside.hasLocation = false := by
        by_contra nested
        rw [Placed.link?, if_neg fun both => nested both.2] at own
        cases own
      have nothing : inside.linksWithin base (some (localName name)) (before + 1) limit = [] := by
        rw [linksWithin_of_ge base _ (by omega), filterMap_link?_of_hasLocation bare]
      rw [List.filterMap_cons_some own, List.filterMap_append, nothing]
      change link :: (inside.linksWithin base (some (localName name)) (before + 1) limit ++ _) = _
      rw [nothing]
      rfl
  · have others := rest.linksWithin_of_le base parent
      (show limit ≤ before + inside.events.length + 2 by omega)
    rw [linksWithin, elements, List.filter_cons, if_neg (by simpa using ends), if_neg ends,
      List.filter_append, List.filterMap_append]
    exact congrArg (inside.linksWithin base _ _ limit ++ ·) others

end Forest

end CrawlFrontier.Xml

namespace CrawlFrontier.Sitemap

open CrawlFrontier.Xml

/-- The beginning of a scan. -/
def Scan.start : Scan := ⟨[], none⟩

/-- The scan behind pieces. -/
def Scan.run (base : Url) (scan : Scan) (events : List Event) : Scan :=
  events.foldl (fun scan event => (scan.step base event).1) scan

/-- The scan behind a forest: the same elements are open, and the location goes on unless one ended
in the forest. -/
def Scan.past (scan : Scan) (forest : Forest) : Scan :=
  ⟨scan.elements,
    if forest.hasLocation then none else scan.location.map (· ++ forest.content)⟩

/-- Behind the start tag of an element. -/
def Scan.within (scan : Scan) (name : List Char) : Scan :=
  ⟨localName name :: scan.elements, if localName name = locName then some [] else scan.location⟩

/-- One piece is scanned, and then those behind it. -/
theorem Scan.links_cons (base : Url) (scan : Scan) (event : Event) (events : List Event) :
    Scan.links base scan (event :: events) =
      (scan.step base event).2.toList ++ Scan.links base (scan.step base event).1 events :=
  rfl

/-- The pieces that follow are scanned from where the others lead to. -/
theorem Scan.links_append (base : Url) (scan : Scan) (first second : List Event) :
    Scan.links base scan (first ++ second) =
      Scan.links base scan first ++ Scan.links base (scan.run base first) second := by
  induction first generalizing scan with
  | nil => rfl
  | cons event first ih =>
    rw [List.cons_append, links_cons, links_cons, ih, List.append_assoc]
    rfl

/-- A leaf adds its text to the location. -/
theorem Scan.step_leaf (base : Url) (scan : Scan) (piece : Leaf) :
    scan.step base piece.event =
      (⟨scan.elements, scan.location.map (· ++ piece.content)⟩, none) := by
  obtain ⟨elements, location⟩ := scan
  cases piece with
  | text content | reference name => rfl
  | selfClosed name | ignored =>
    show ((⟨elements, location⟩ : Scan), none) = (⟨elements, location.map (· ++ [])⟩, none)
    cases location with
    | none => rfl
    | some text => rw [Option.map_some, List.append_nil]

/-- The link of an element that is named like one that holds a location. -/
theorem link?_of_name {base : Url} {element : Placed} (named : element.name = locName) :
    Placed.link? base element =
      if element.inside.hasLocation = false then link? base element.parent element.inside.content
      else none := by
  rw [Placed.link?]
  simp only [named, true_and]
  rfl

/-- The end tag of an element completes its location, if no other one ended inside it. -/
theorem Scan.step_closed (base : Url) (scan : Scan) (name : List Char) (inside : Forest)
    (finish : Nat) :
    ((scan.within name).past inside).step base (.closed name) =
      (scan.past (.element name inside .nil),
        Placed.link? base ⟨scan.elements.head?, localName name, inside, finish⟩) := by
  have step (location : Option (List Char)) :
      Scan.step base ⟨localName name :: scan.elements, location⟩ (.closed name) =
        if localName name = locName then
          (⟨scan.elements, none⟩, location.bind (link? base scan.elements.head?))
        else (⟨scan.elements, location⟩, none) := rfl
  have alone : (Forest.element name inside .nil).hasLocation =
      (localName name == locName || inside.hasLocation) := Bool.or_false _
  show Scan.step base ⟨localName name :: scan.elements, _⟩ (.closed name) = _
  rw [step, Scan.past, alone]
  by_cases named : localName name = locName
  · rw [if_pos named, link?_of_name named, beq_iff_eq.mpr named]
    cases nested : inside.hasLocation with
    | true => rfl
    | false =>
      show ((⟨scan.elements, none⟩ : Scan),
        ((if localName name = locName then some [] else scan.location).map
          (· ++ inside.content)).bind (link? base scan.elements.head?)) = _
      rw [if_pos named]
      rfl
  · have other : Placed.link? base ⟨scan.elements.head?, localName name, inside, finish⟩ = none :=
      if_neg fun both => named both.1
    have text : (Forest.element name inside .nil).content = inside.content := List.append_nil _
    have kept : (scan.within name).location = scan.location := if_neg named
    rw [if_neg named, other, beq_eq_false_iff_ne.mpr named, Bool.false_or, text, kept]

/-- Getting past a leaf and past what follows it. -/
theorem Scan.past_leaf (scan : Scan) (piece : Leaf) (rest : Forest) :
    Scan.past ⟨scan.elements, scan.location.map (· ++ piece.content)⟩ rest =
      scan.past (.leaf piece rest) := by
  have nested : (Forest.leaf piece rest).hasLocation = rest.hasLocation := rfl
  rw [Scan.past, Scan.past, nested]
  congr 2
  rw [Option.map_map]
  congr 1
  funext text
  exact List.append_assoc text piece.content rest.content

/-- Getting past an element and past what follows it. -/
theorem Scan.past_element (scan : Scan) (name : List Char) (inside rest : Forest) :
    (scan.past (.element name inside .nil)).past rest = scan.past (.element name inside rest) := by
  have alone : (Forest.element name inside .nil).hasLocation =
      (localName name == locName || inside.hasLocation) := Bool.or_false _
  have both : (Forest.element name inside rest).hasLocation =
      ((localName name == locName || inside.hasLocation) || rest.hasLocation) := rfl
  rw [Scan.past, Scan.past, Scan.past, alone, both]
  congr 1
  cases localName name == locName || inside.hasLocation with
  | true => simp
  | false =>
    simp only [Bool.false_eq_true, if_false, Bool.false_or, Option.map_map]
    congr 2
    funext text
    simp [Forest.content]

/-- A scan gets past a forest. -/
theorem Scan.run_events (base : Url) (scan : Scan) (forest : Forest) :
    scan.run base forest.events = scan.past forest := by
  induction forest generalizing scan with
  | nil => simp [Scan.run, Scan.past, Forest.events, Forest.hasLocation, Forest.content]
  | leaf piece rest ih =>
    show Scan.run base (scan.step base piece.event).1 rest.events = _
    rw [step_leaf, ih, past_leaf]
  | element name inside rest insideIh restIh =>
    have shape : scan.run base (Forest.element name inside rest).events =
        Scan.run base ((Scan.run base (scan.within name) inside.events).step base
          (.closed name)).1 rest.events := by
      simp [Scan.run, Forest.events, Scan.within, Scan.step]
    rw [shape, insideIh, step_closed base scan name inside 0, restIh, past_element]

/-- The scan of an element goes on inside it. -/
theorem Scan.links_opened (base : Url) (scan : Scan) (name : List Char) (events : List Event) :
    Scan.links base scan (.opened name :: events) = Scan.links base (scan.within name) events :=
  rfl

/-- A scan of some of the pieces of a forest finds the links of the elements that end among them. -/
theorem Scan.links_take (base : Url) (scan : Scan) (forest : Forest) (before count : Nat) :
    Scan.links base scan (forest.events.take count) =
      forest.linksWithin base scan.elements.head? before (before + count) := by
  induction forest generalizing scan before count with
  | nil =>
    rw [Forest.events, List.take_nil]
    rfl
  | leaf piece rest ih =>
    cases count with
    | zero => exact (Forest.linksWithin_of_le base _ (Nat.le_refl before) _).symm
    | succ count =>
      rw [Forest.events, List.take_succ_cons, links_cons, step_leaf, ih _ (before + 1),
        Nat.add_assoc, Nat.add_comm 1 count]
      rfl
  | element name inside rest insideIh restIh =>
    cases count with
    | zero => exact (Forest.linksWithin_of_le base _ (Nat.le_refl before) _).symm
    | succ count =>
      have first := insideIh (scan.within name) (before + 1) count
      rw [Nat.add_assoc, Nat.add_comm 1 count] at first
      rw [Forest.linksWithin_element, Forest.events, List.take_succ_cons, links_opened,
        List.take_append]
      by_cases whole : inside.events.length < count
      · obtain ⟨more, rfl⟩ : ∃ more, count = inside.events.length + (more + 1) :=
          ⟨count - inside.events.length - 1, by omega⟩
        have others := restIh (scan.past (.element name inside .nil))
          (before + inside.events.length + 2) more
        have steps : before + inside.events.length + 2 + more =
            before + (inside.events.length + (more + 1) + 1) := by omega
        rw [steps] at others
        rw [List.take_of_length_le (by omega)] at first ⊢
        rw [Nat.add_sub_cancel_left, List.take_succ_cons, links_append, run_events, links_cons,
          step_closed base scan name inside (before + inside.events.length + 2), first, others,
          if_pos (by omega)]
        rfl
      · have none : count - inside.events.length = 0 := by omega
        rw [none, List.take_zero, List.append_nil, first, if_neg (by omega), List.append_nil]
        rfl

/-- A scan of all pieces of a document finds its links. -/
theorem Scan.links_events (base : Url) (document : Forest) :
    Scan.links base .start document.events = document.links base := by
  have all := Scan.links_take base .start document 0 document.events.length
  rw [List.take_length, Forest.linksWithin_of_ge base _ (Nat.le_refl _)] at all
  exact all

/-- More pieces take no link away. -/
theorem Scan.links_prefix (base : Url) (scan : Scan) (events more : List Event) :
    Scan.links base scan events <+: Scan.links base scan (events ++ more) := by
  rw [links_append]
  exact List.prefix_append _ _

/-- The links of a sitemap are those of its elements. A scan of the pieces of a forest finds the
link of each element that is named `loc`, has no other such element inside it and stands directly in
an element `url` or `sitemap`, if the text inside it, however deep, names a page: one link for each,
in the order of the document. So does reading a text that is cut into the pieces of a forest. Every
text is read as a beginning of the pieces of a forest, whether it has a fault or just ends there.
Then the links are those of the elements that end in this beginning, and they are the first links of
whatever the beginning is continued with. -/
theorem links_eq_forest (base : Url) :
    (∀ document : Forest, Scan.links base .start document.events = document.links base) ∧
    (∀ (text : String) (document : Forest),
      (Xml.cut (Text.dropByteOrderMark text.toList)).events = document.events →
        (Sitemap.links base text).1 = document.links base) ∧
    (∀ text : String, ∃ document : Forest, (Xml.read text).events <+: document.events) ∧
    (∀ (text : String) (document : Forest) (count : Nat),
      (Xml.read text).events = document.events.take count →
        (Sitemap.links base text).1 = document.linksWithin base none 0 count) ∧
    (∀ (text : String) (document : Forest),
      (Xml.read text).events <+: document.events →
        (Sitemap.links base text).1 <+: document.links base) ∧
    ∀ (text : String) (more : List Event),
      (Sitemap.links base text).1 <+: Scan.links base .start ((Xml.read text).events ++ more) := by
  refine ⟨Scan.links_events base, ?_, Xml.exists_read_prefix, ?_, ?_, ?_⟩
  · intro text document pieces
    have read : (Xml.read text).events = document.events := by
      rw [Xml.read, pieces, document.matchEnds_events]
    show Scan.links base .start (Xml.read text).events = document.links base
    rw [read, Scan.links_events]
  · intro text document count read
    show Scan.links base .start (Xml.read text).events = document.linksWithin base none 0 count
    rw [read, Scan.links_take base .start document 0 count, Nat.zero_add]
    rfl
  · rintro text document ⟨more, pieces⟩
    rw [← Scan.links_events, ← pieces]
    exact Scan.links_prefix base .start _ more
  · intro text more
    exact Scan.links_prefix base .start _ more

/-- A sitemap with a location in a location, a location of another vocabulary, one that stands
nowhere and an end tag that closes nothing. -/
def brokenSitemap : String :=
  "<urlset><url><loc>/a<loc>/b</loc></loc><m:Loc>/c&amp;</m:Loc></url><loc>/d</loc></url>"

/-- The same sitemap without its fault. -/
def wholeSitemap : Forest :=
  .element "urlset".toList
    (.element "url".toList
      (.element "loc".toList
        (.leaf (.text "/a".toList)
          (.element "loc".toList (.leaf (.text "/b".toList) .nil) .nil))
        (.element "m:Loc".toList
          (.leaf (.text "/c".toList) (.leaf (.reference "amp".toList) .nil)) .nil))
      (.element "loc".toList (.leaf (.text "/d".toList) .nil) .nil))
    .nil

/-- Of the four locations in front of the fault one names a page. -/
theorem links_eq_forest_broken :
    (Xml.read brokenSitemap).events = wholeSitemap.events.take 16 ∧
      (Sitemap.links (Canonical.loopbackPage [""] none none) brokenSitemap).1 =
        [⟨"http://[::1]/c&", .content⟩] := by
  have read : (Xml.read brokenSitemap).events = wholeSitemap.events.take 16 := by cbv
  obtain ⟨_, _, _, within, _, _⟩ := links_eq_forest (Canonical.loopbackPage [""] none none)
  refine ⟨read, (within brokenSitemap wholeSitemap 16 read).trans ?_⟩
  decide +kernel

end CrawlFrontier.Sitemap
