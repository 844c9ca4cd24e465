import CrawlFrontier.Proofs.Canonical.Page
import CrawlFrontier.Proofs.Text.Order
import Mathlib.Data.Prod.Lex

/-!
# Query and path of a canonical URL

Both parts of a canonical URL are known from the same parts of the page that it was made of, as they
are read: the pairs of the query and the names of the path. Main statements: the query of a
canonical URL is read as the pairs that tell pages apart, in the order of their bytes, and its path
is made of the names of the page's path, written as they were.
-/

namespace CrawlFrontier.Url

/-- The spellings of a full stop in a path. -/
def dotSpellings : List (List Char) := [".".toList, "%2e".toList, "%2E".toList]

/-- Whether a name stands for the place itself or for the place above, however its dots are
spelled. -/
def IsDots (name : List Char) : Prop :=
  name ∈ dotSpellings ∨ ∃ first ∈ dotSpellings, ∃ second ∈ dotSpellings, name = first ++ second

/-- What is read as a full stop first begins with a spelling of one. -/
theorem exists_of_unescapeDots_eq_cons {piece rest : List Char}
    (read : unescapeDots piece = '.' :: rest) :
    ∃ first ∈ dotSpellings, ∃ tail, piece = first ++ tail ∧ unescapeDots tail = rest := by
  unfold unescapeDots at read
  split at read
  · next tail => exact ⟨"%2e".toList, by decide, tail, rfl, (List.cons.inj read).2⟩
  · next tail => exact ⟨"%2E".toList, by decide, tail, rfl, (List.cons.inj read).2⟩
  · next tail _ _ =>
    obtain ⟨rfl, same⟩ := List.cons.inj read
    exact ⟨".".toList, by decide, tail, rfl, same⟩
  · cases read

/-- Nothing is read from nothing else. -/
theorem eq_nil_of_unescapeDots_eq_nil {piece : List Char} (read : unescapeDots piece = []) :
    piece = [] := by
  unfold unescapeDots at read
  split at read
  · cases read
  · cases read
  · cases read
  · rfl

/-- A name stands for the place itself exactly if it is a spelling of a full stop. -/
theorem isSingleDot_iff {piece : List Char} : isSingleDot piece = true ↔ piece ∈ dotSpellings := by
  rw [isSingleDot, beq_iff_eq]
  constructor
  · intro read
    obtain ⟨first, spelled, tail, rfl, none⟩ := exists_of_unescapeDots_eq_cons read
    rwa [eq_nil_of_unescapeDots_eq_nil none, List.append_nil]
  · have all : ∀ first ∈ dotSpellings, unescapeDots first = ['.'] := by decide
    exact all piece

/-- A name stands for the place above exactly if it is made of two spellings of a full stop. -/
theorem isDoubleDot_iff {piece : List Char} :
    isDoubleDot piece = true ↔
      ∃ first ∈ dotSpellings, ∃ second ∈ dotSpellings, piece = first ++ second := by
  rw [isDoubleDot, beq_iff_eq]
  constructor
  · intro read
    obtain ⟨first, spelled, tail, rfl, rest⟩ := exists_of_unescapeDots_eq_cons read
    obtain ⟨second, again, last, rfl, none⟩ := exists_of_unescapeDots_eq_cons rest
    refine ⟨first, spelled, second, again, ?_⟩
    rw [eq_nil_of_unescapeDots_eq_nil none, List.append_nil]
  · have all : ∀ first ∈ dotSpellings, ∀ second ∈ dotSpellings,
        unescapeDots (first ++ second) = ['.', '.'] := by decide
    rintro ⟨first, spelled, second, again, rfl⟩
    exact all first spelled second again

/-- A kept segment is none of dots. -/
theorem IsSegment.not_isDots {segment : List Char} (kept : IsSegment segment) :
    ¬IsDots segment := by
  rintro (single | double)
  · have dot := isSingleDot_iff.mpr single
    rw [kept.notSingle] at dot
    cases dot
  · have dots := isDoubleDot_iff.mpr double
    rw [kept.notDouble] at dots
    cases dots

/-- The names in a path: what stands between its slashes, if that is not empty. -/
def pathNames (path : List Char) : List (List Char) := (path.splitOn '/').filter (· ≠ [])

/-- The path of a page is cut at its slashes into nothing, in front of the first one, and the
segments. -/
theorem WellFormed.splitOn_path {url : Url} (valid : url.WellFormed) :
    url.path.chars.splitOn '/' = [] :: url.segments.map String.toList := by
  obtain ⟨path, filled, kept⟩ := valid.path_eq
  rw [path, chars_segments filled, kept.splitOn_slash filled]

/-- The names in the path of a page are the segments that are not empty. -/
theorem WellFormed.pathNames_eq {url : Url} (valid : url.WellFormed) :
    pathNames url.path.chars = (filledSegments url.segments).map String.toList := by
  have same : ((fun name => decide (name ≠ [])) ∘ String.toList : String → Bool) =
      fun segment => decide (segment ≠ "") := by
    funext segment
    simp
  rw [pathNames, valid.splitOn_path, List.filter_cons_of_neg (by simp), List.filter_map, same,
    filledSegments]

/-- None of what stands between the slashes of a page's path is made of dots. -/
theorem WellFormed.not_isDots_of_mem {url : Url} (valid : url.WellFormed) {name : List Char}
    (mem : name ∈ url.path.chars.splitOn '/') : ¬IsDots name := by
  rw [valid.splitOn_path] at mem
  rcases List.mem_cons.mp mem with rfl | mem
  · exact isSegment_nil.not_isDots
  · obtain ⟨segment, inside, rfl⟩ := List.mem_map.mp mem
    exact (valid.segments segment inside).not_isDots

/-- The normal form of a page's path is made of the names in it. -/
theorem WellFormed.normalizePath_eq {url : Url} (valid : url.WellFormed) :
    Canonical.normalizePath url.path.chars =
      '/' :: ['/'].intercalate (pathNames url.path.chars) := by
  obtain ⟨path, filled, kept⟩ := valid.path_eq
  rw [valid.pathNames_eq, path, chars_segments filled, kept.normalizePath filled]
  rfl

/-- A path of segments, or of an empty one if there is none, is a slash and the segments with
slashes between them. -/
theorem chars_segments_orEmpty (list : List String) :
    (Path.segments (orEmpty list)).chars = '/' :: ['/'].intercalate (list.map String.toList) := by
  unfold orEmpty
  split
  · next none =>
    rw [none]
    rfl
  · next some => exact chars_segments some

/-- A path that ends with a slash has nothing behind its last slash. -/
theorem mem_tail_splitOn_of_getLast? {path : List Char} (ends : path.getLast? = some '/') :
    [] ∈ (path.splitOn '/').tail := by
  obtain ⟨front, rfl⟩ := List.getLast?_eq_some_iff.mp ends
  obtain ⟨first, others, cut⟩ := List.exists_cons_of_ne_nil (List.splitOn_ne_nil '/' front)
  rw [List.splitOn_append_cons_self, cut]
  simp

end CrawlFrontier.Url

namespace CrawlFrontier.Canonical

open CrawlFrontier.Url CrawlFrontier.Text

/-- The pairs of a query by which pages are told apart: those whose key, as it is read, is none of
the keys that are always left out, does not begin like one and is none that the rules name. -/
def tellingPairs (rules : Rules) (query : Option String) : List (String × String) :=
  (Form.readPairs (query.getD "").toList).filter fun pair =>
    pair.1 ∉ trackingKeys ∧ ¬"utm_".toList <+: pair.1.toList ∧ pair.1 ∉ rules.trackingParams

/-- The pairs that count are those by which pages are told apart. -/
theorem countedPairs_eq_tellingPairs (rules : Rules) (query : Option String) :
    countedPairs rules query = tellingPairs rules query := by
  have begins (key : String) :
      trackingStart.isPrefixOf key.toList = decide ("utm_".toList <+: key.toList) := by
    rw [Bool.eq_iff_iff, List.isPrefixOf_iff_prefix, decide_eq_true_eq]
    rfl
  rw [countedPairs, tellingPairs]
  refine List.filter_congr fun pair _ => ?_
  rw [isTracking, begins]
  simp [Bool.and_assoc]

/-- The bytes of a pair, by which pairs are compared: first those of the key. -/
def pairBytes (pair : String × String) : List UInt8 ×ₗ List UInt8 :=
  toLex (utf8 pair.1.toList, utf8 pair.2.toList)

/-- Pairs are in the order of their bytes. -/
theorem pairLe_iff_pairBytes {a b : String × String} :
    pairLe a b = true ↔ pairBytes a ≤ pairBytes b := by
  have key : utf8 a.1.toList = utf8 b.1.toList ↔ a.1 = b.1 := by
    constructor
    · intro same
      have read := congrArg fromUtf8Lossy same
      rwa [fromUtf8Lossy_utf8, fromUtf8Lossy_utf8, String.toList_inj] at read
    · intro same
      rw [same]
  rw [pairLe_iff, pairBytes, pairBytes, Prod.Lex.toLex_le_toLex, utf8_lt_iff, utf8_le_iff, key]

/-- A page keeps its query when its host is read again. -/
theorem query_of_replaceHost {url out : Url} {old : String} {host : List Char}
    (replaced : replaceHost url old host = .ok out) : out.query = url.query := by
  unfold replaceHost at replaced
  split at replaced
  · rw [← Except.ok.inj replaced]
  · split at replaced
    · next set =>
      obtain ⟨found, -, same⟩ := bind_eq_ok.mp set
      rw [← Except.ok.inj replaced, ← Except.ok.inj same]
    · cases replaced

/-- The query of a canonical URL is the normal form of the page's query. -/
theorem query_of_canonicalize {rules : Rules} {url out : Url}
    (made : canonicalize rules url = .ok out) : out.query = normalizeQuery rules url.query := by
  unfold canonicalize at made
  simp only at made
  split at made
  · cases made
  · split at made
    · cases made
    · split at made
      · cases made
      · obtain ⟨replaced, host, made⟩ := bind_eq_ok.mp made
        rw [← Except.ok.inj made, ← query_of_replaceHost host]
        rfl

/-- The query of a canonical URL, if the rules do not leave queries out. There is none exactly if no
pair of the page's query tells it apart. Otherwise it is read as just these pairs, each as often as
it stands there, in the order of their bytes, first those of the key and then those of the value. -/
theorem query_canonicalize {rules : Rules} {url out : Url} (kept : rules.stripQuery = false)
    (made : canonicalize rules url = .ok out) :
    (out.query = none ↔ tellingPairs rules url.query = []) ∧
      ∀ query ∈ out.query,
        (Form.readPairs query.toList).Perm (tellingPairs rules url.query) ∧
          (Form.readPairs query.toList).Pairwise fun a b => pairBytes a ≤ pairBytes b := by
  rw [query_of_canonicalize made, normalizeQuery_eq kept, countedPairs_eq_tellingPairs]
  refine ⟨by simp, fun query present => ?_⟩
  split at present
  · cases present
  · obtain rfl := Option.mem_some_iff.mp present
    rw [String.toList_ofList, Form.readPairs_writePairs]
    refine ⟨List.mergeSort_perm _ _, ?_⟩
    have sorted := List.pairwise_mergeSort pairLe_trans pairLe_total (tellingPairs rules url.query)
    exact sorted.imp pairLe_iff_pairBytes.mp

/-- A page of the machine itself whose query has pairs with an empty key, without a value, with
escaped and broken bytes, twice the same and in another order than their bytes, and two that are
left out, of which one is escaped. -/
theorem query_canonicalize_loopback :
    ∃ out, canonicalize {} (loopbackPage [""]
        (some "b=2&&a+b=%FF&utm_%73ource=x&=&b=1&a=%C3%A9&ref&b=1&c") none) = .ok out ∧
      out.query ≠ none ∧ ∀ query ∈ out.query,
        (Form.readPairs query.toList).Perm [("b", "2"), ("a b", "\uFFFD"), ("", ""), ("b", "1"),
          ("a", "é"), ("b", "1"), ("c", "")] := by
  have pairs : tellingPairs {} (some "b=2&&a+b=%FF&utm_%73ource=x&=&b=1&a=%C3%A9&ref&b=1&c") =
      [("b", "2"), ("a b", "\uFFFD"), ("", ""), ("b", "1"), ("a", "é"), ("b", "1"), ("c", "")] := by
    decide +kernel
  obtain ⟨out, made⟩ : ∃ out, canonicalize {} (loopbackPage [""]
      (some "b=2&&a+b=%FF&utm_%73ource=x&=&b=1&a=%C3%A9&ref&b=1&c") none) = .ok out := ⟨_, rfl⟩
  obtain ⟨absent, read⟩ := query_canonicalize rfl made
  refine ⟨out, made, fun none => ?_, fun query present => ?_⟩
  · have nothing := absent.mp none
    rw [loopbackPage, pairs] at nothing
    cases nothing
  · have perm := (read query present).1
    rwa [loopbackPage, pairs] at perm

/-- No segment of a canonical page is empty or made of dots, unless its whole path is a slash. -/
theorem root_or_filled {rules : Rules} {url : Url} {kept : Host}
    (valid : (canonicalPage rules url kept).WellFormed) :
    (canonicalPage rules url kept).path.chars = ['/'] ∨
      ∀ segment ∈ (canonicalPage rules url kept).segments,
        segment ≠ "" ∧ ¬IsDots segment.toList := by
  have tidy : (canonicalPage rules url kept).segments = orEmpty (filledSegments url.segments) := rfl
  by_cases none : filledSegments url.segments = []
  · refine .inl ?_
    show (Path.segments (orEmpty (filledSegments url.segments))).chars = _
    rw [none]
    rfl
  · refine .inr fun segment mem => ⟨?_, (valid.segments segment mem).not_isDots⟩
    rw [tidy, orEmpty, if_neg none] at mem
    simpa using (List.mem_filter.mp mem).2

/-- The path of a canonical URL. Nothing between the slashes of a page's path is made of dots,
however they are spelled. So the normal form of the path, which leaves such names out, is a slash and
the names in the path with slashes between them. Written back, it becomes the path of the canonical
URL: no character changes, its segments are what stands between its slashes, and they are the names
in the path of the page. None of them is empty or made of dots, unless the whole path is a slash, and
only then it ends with one. -/
theorem path_canonicalize {rules : Rules} {url out : Url} (read : IsRead url)
    (made : canonicalize rules url = .ok out) :
    (∀ name ∈ url.path.chars.splitOn '/', ¬IsDots name) ∧
      normalizePath url.path.chars = '/' :: ['/'].intercalate (pathNames url.path.chars) ∧
      (url.setPath (normalizePath url.path.chars)).path = out.path ∧
      out.path.chars = normalizePath url.path.chars ∧
      out.segments.map String.toList = ((normalizePath url.path.chars).splitOn '/').tail ∧
      pathNames out.path.chars = pathNames url.path.chars ∧
      (out.path.chars = ['/'] ∨
        ∀ segment ∈ out.segments, segment ≠ "" ∧ ¬IsDots segment.toList) ∧
      (out.path.chars.getLast? = some '/' ↔ out.path.chars = ['/']) := by
  have valid := read.wellFormed (isWeb_of_canonicalize made)
  obtain ⟨host, kept, -, -, normal, -, -, rfl⟩ := canonicalize_spec valid made
  have validOut := wellFormed_canonicalPage rules valid normal
  have tidy : (canonicalPage rules url kept).segments = orEmpty (filledSegments url.segments) := rfl
  have written : (canonicalPage rules url kept).path.chars = normalizePath url.path.chars := by
    rw [valid.normalizePath_eq, valid.pathNames_eq]
    exact chars_segments_orEmpty _
  have cut : (canonicalPage rules url kept).segments.map String.toList =
      ((canonicalPage rules url kept).path.chars.splitOn '/').tail := by
    rw [validOut.splitOn_path]
    rfl
  have whole := root_or_filled validOut
  refine ⟨fun name => valid.not_isDots_of_mem, valid.normalizePath_eq, ?_, written, ?_, ?_, whole,
    ?_, ?_⟩
  · rw [setPath_normalizePath valid]
    rfl
  · rw [← written, cut]
  · rw [validOut.pathNames_eq, tidy, filledSegments_orEmpty, valid.pathNames_eq]
  -- A path that ends with a slash has an empty segment behind it.
  · intro ends
    refine whole.resolve_right fun filled => ?_
    have empty := mem_tail_splitOn_of_getLast? ends
    rw [← cut] at empty
    obtain ⟨segment, mem, nothing⟩ := List.mem_map.mp empty
    exact (filled segment mem).1 (String.toList_eq_nil_iff.mp nothing)
  · intro root
    rw [root]
    rfl

/-- A page of the machine itself whose path goes up by two spellings of dots, has an empty name and
names with escaped marks, and ends with a place. -/
theorem path_canonicalize_loopback :
    ∃ url out, parseFrom none "http://[::1]/a/%2E./%2Fb//%C3%A9/.%2e/c%2f../%2e".toList = .ok url ∧
      canonicalize {} url = .ok out ∧ out.path.chars = "/%2Fb/c%2f..".toList := by
  have read : parseFrom none "http://[::1]/a/%2E./%2Fb//%C3%A9/.%2e/c%2f../%2e".toList =
      .ok (loopbackPage ["%2Fb", "", "c%2f..", ""] none none) := by
    decide +kernel
  obtain ⟨out, made⟩ : ∃ out, canonicalize {} (loopbackPage ["%2Fb", "", "c%2f..", ""] none none) =
      .ok out := ⟨_, rfl⟩
  obtain ⟨-, names, -, path, -⟩ := path_canonicalize (.parsed read) made
  exact ⟨_, out, read, made, path.trans (names.trans (by decide))⟩

end CrawlFrontier.Canonical
