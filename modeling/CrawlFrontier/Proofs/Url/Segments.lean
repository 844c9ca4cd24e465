import CrawlFrontier.Proofs.Canonical.Path
import CrawlFrontier.Url.Segments

/-!
# Kept segments

What is kept of a path are segments without marks and none that names the place itself or the place
above, however its dots are written. Main statements: such segments are read back from a printed
path, and the normal form of the path leaves out the empty ones and nothing else.
-/

namespace CrawlFrontier.Text

/-- The bytes of a character are its code point, or lie beyond ASCII. -/
theorem mem_utf8EncodeChar {c : Char} {b : UInt8} (mem : b ∈ String.utf8EncodeChar c) :
    b.toNat = c.toNat ∨ 0x80 ≤ b.toNat := by
  have code : c.val.toNat = c.toNat := rfl
  unfold String.utf8EncodeChar at mem
  simp only [code] at mem
  split at mem
  · rw [List.mem_singleton.mp mem, UInt8.toNat_ofNat']
    omega
  · right
    split at mem
    · simp only [List.mem_cons, List.not_mem_nil, or_false] at mem
      rcases mem with rfl | rfl <;> rw [UInt8.toNat_ofNat'] <;> omega
    · split at mem
      · simp only [List.mem_cons, List.not_mem_nil, or_false] at mem
        rcases mem with rfl | rfl | rfl <;> rw [UInt8.toNat_ofNat'] <;> omega
      · simp only [List.mem_cons, List.not_mem_nil, or_false] at mem
        rcases mem with rfl | rfl | rfl | rfl <;> rw [UInt8.toNat_ofNat'] <;> omega

end CrawlFrontier.Text

namespace CrawlFrontier.Url

open CrawlFrontier.Text

/-- Where no escaped dot stands first, the first character stays. -/
theorem unescapeDots_cons {c : Char} {rest : List Char}
    (other : ∀ tail, c = '%' → rest ≠ '2' :: 'e' :: tail ∧ rest ≠ '2' :: 'E' :: tail) :
    unescapeDots (c :: rest) = c :: unescapeDots rest := by
  rw [unescapeDots]
  · rintro tail rfl rfl
    exact (other tail rfl).1 rfl
  · rintro tail rfl rfl
    exact (other tail rfl).2 rfl

/-- The byte of a full stop apart, a written byte is no escaped dot. -/
theorem unescapeDots_percentByte {b : UInt8} (other : b.toNat ≠ 0x2E) (rest : List Char) :
    unescapeDots (percentByte b ++ rest) = percentByte b ++ unescapeDots rest := by
  have noPercent : ∀ n ∈ List.range 16, upperHexDigit n ≠ '%' := by decide
  have two : ∀ n ∈ List.range 16, upperHexDigit n = '2' → n = 2 := by decide
  have fourteen : ∀ n ∈ List.range 16, upperHexDigit n = 'E' ∨ upperHexDigit n = 'e' → n = 14 := by
    decide
  have bound : b.toNat < 256 := b.toNat_lt
  have high : b.toNat / 16 ∈ List.range 16 := List.mem_range.mpr (by omega)
  have low : b.toNat % 16 ∈ List.range 16 := List.mem_range.mpr (by omega)
  have notDot (e : Char) (letter : e = 'E' ∨ e = 'e') (tail : List Char) :
      upperHexDigit (b.toNat / 16) :: upperHexDigit (b.toNat % 16) :: rest ≠ '2' :: e :: tail := by
    intro same
    obtain ⟨first, rest⟩ := List.cons.inj same
    obtain ⟨second, -⟩ := List.cons.inj rest
    have quotient := two _ high first
    have remainder := fourteen _ low (by rcases letter with rfl | rfl <;> simp [second])
    omega
  simp only [percentByte, List.cons_append, List.nil_append]
  rw [unescapeDots_cons fun tail _ => ⟨notDot 'e' (.inr rfl) tail, notDot 'E' (.inl rfl) tail⟩,
    unescapeDots_cons fun _ same => absurd same (noPercent _ high),
    unescapeDots_cons fun _ same => absurd same (noPercent _ low)]

/-- Written bytes hold no escaped dot, that of the full stop apart. -/
theorem unescapeDots_flatMap_percentByte {bytes : List UInt8}
    (other : ∀ b ∈ bytes, b.toNat ≠ 0x2E) (rest : List Char) :
    unescapeDots (bytes.flatMap percentByte ++ rest)
      = bytes.flatMap percentByte ++ unescapeDots rest := by
  induction bytes with
  | nil => rfl
  | cons b bytes ih =>
    have first := other b List.mem_cons_self
    have later := ih fun d mem => other d (List.mem_cons_of_mem b mem)
    rw [List.flatMap_cons, List.append_assoc, unescapeDots_percentByte first, later,
      List.append_assoc]

/-- An escaped text that begins with another character than a percent sign was written for a text
that begins with it. -/
theorem eq_cons_of_percentEncode {escaped : Char → Bool} {text rest : List Char} {c : Char}
    (other : c ≠ '%') (same : percentEncode escaped text = c :: rest) :
    ∃ tail, text = c :: tail ∧ percentEncode escaped tail = rest := by
  cases text with
  | nil => cases same
  | cons d text =>
    cases escape : escaped d with
    | true =>
      obtain ⟨b, bytes, first, -⟩ := readChar_utf8EncodeChar d []
      rw [percentEncode_cons_of_escaped escape, first, List.flatMap_cons, percentByte] at same
      exact absurd (List.cons.inj same).1.symm other
    | false =>
      rw [percentEncode_cons_of_free escape] at same
      obtain ⟨rfl, later⟩ := List.cons.inj same
      exact ⟨text, rfl, later⟩

/-- A text without percent signs was written for itself. -/
theorem eq_of_percentEncode {escaped : Char → Bool} {text out : List Char} (absent : '%' ∉ out)
    (same : percentEncode escaped text = out) : text = out := by
  induction out generalizing text with
  | nil =>
    cases text with
    | nil => rfl
    | cons c text =>
      cases escape : escaped c with
      | true =>
        obtain ⟨b, bytes, first, -⟩ := readChar_utf8EncodeChar c []
        rw [percentEncode_cons_of_escaped escape, first] at same
        cases same
      | false =>
        rw [percentEncode_cons_of_free escape] at same
        cases same
  | cons c out ih =>
    obtain ⟨other, later⟩ := not_or.mp (List.mem_cons.not.mp absent)
    obtain ⟨tail, rfl, rest⟩ := eq_cons_of_percentEncode (Ne.symm other) same
    rw [ih later rest]

/-- No byte of a character that a path escapes is that of a full stop. -/
theorem utf8EncodeChar_ne_dot {c : Char} (escape : escapedInPath c = true) {b : UInt8}
    (mem : b ∈ String.utf8EncodeChar c) : b.toNat ≠ 0x2E := by
  intro dot
  rcases mem_utf8EncodeChar mem with same | large
  · have code : c.toNat = '.'.toNat := by
      rw [← same, dot]
      rfl
    rw [Char.toNat_inj.mp code] at escape
    exact absurd escape (by decide)
  · omega

/-- Escaping a segment and writing out its dots may be done in any order. -/
theorem unescapeDots_percentEncode (text : List Char) :
    unescapeDots (percentEncode escapedInPath text)
      = percentEncode escapedInPath (unescapeDots text) := by
  fun_induction unescapeDots text with
  | case1 rest ih =>
    have front : percentEncode escapedInPath ('%' :: '2' :: 'e' :: rest)
        = '%' :: '2' :: 'e' :: percentEncode escapedInPath rest := rfl
    have dot : percentEncode escapedInPath ('.' :: unescapeDots rest)
        = '.' :: percentEncode escapedInPath (unescapeDots rest) := rfl
    rw [front, dot, unescapeDots, ih]
  | case2 rest ih =>
    have front : percentEncode escapedInPath ('%' :: '2' :: 'E' :: rest)
        = '%' :: '2' :: 'E' :: percentEncode escapedInPath rest := rfl
    have dot : percentEncode escapedInPath ('.' :: unescapeDots rest)
        = '.' :: percentEncode escapedInPath (unescapeDots rest) := rfl
    rw [front, dot, unescapeDots, ih]
  | case3 c rest notLower notUpper ih =>
    cases escape : escapedInPath c with
    | true =>
      have bytes : ∀ b ∈ String.utf8EncodeChar c, b.toNat ≠ 0x2E :=
        fun b mem => utf8EncodeChar_ne_dot escape mem
      rw [percentEncode_cons_of_escaped escape, percentEncode_cons_of_escaped escape,
        unescapeDots_flatMap_percentByte bytes, ih]
    | false =>
      -- An escaped dot in the escaped text was one before: its characters need no escape.
      have noDot {e : Char} (letter : e ≠ '%') (absent : ∀ last, rest ≠ '2' :: e :: last)
          (tail : List Char) : percentEncode escapedInPath rest ≠ '2' :: e :: tail := by
        intro same
        obtain ⟨text, rfl, later⟩ := eq_cons_of_percentEncode (by decide) same
        obtain ⟨last, rfl, -⟩ := eq_cons_of_percentEncode letter later
        exact absent last rfl
      have escapedDot (tail : List Char) (sign : c = '%') :
          percentEncode escapedInPath rest ≠ '2' :: 'e' :: tail ∧
            percentEncode escapedInPath rest ≠ '2' :: 'E' :: tail :=
        ⟨noDot (by decide) (fun last => notLower last sign) tail,
          noDot (by decide) (fun last => notUpper last sign) tail⟩
      rw [percentEncode_cons_of_free escape, percentEncode_cons_of_free escape,
        unescapeDots_cons escapedDot, ih]
  | case4 => rfl

/-- Escaping makes no dot segment. -/
theorem isSingleDot_of_percentEncode {piece : List Char}
    (dot : isSingleDot (percentEncode escapedInPath piece) = true) : isSingleDot piece = true := by
  rw [isSingleDot, unescapeDots_percentEncode, beq_iff_eq] at dot
  rw [isSingleDot, eq_of_percentEncode (by decide) dot]
  rfl

/-- Escaping makes no segment of two dots. -/
theorem isDoubleDot_of_percentEncode {piece : List Char}
    (dots : isDoubleDot (percentEncode escapedInPath piece) = true) : isDoubleDot piece = true := by
  rw [isDoubleDot, unescapeDots_percentEncode, beq_iff_eq] at dots
  rw [isDoubleDot, eq_of_percentEncode (by decide) dots]
  rfl

/-- A segment as it is kept in the URLs of special schemes. -/
structure IsSegment (segment : List Char) : Prop where
  /-- No character of it must be escaped. -/
  clean : ∀ c ∈ segment, escapedInPath c = false
  /-- No mark stands in it. -/
  whole : ∀ c ∈ segment, SchemeClass.special.separates c = false
  /-- It does not name the place itself. -/
  notSingle : isSingleDot segment = false
  /-- It does not name the place above. -/
  notDouble : isDoubleDot segment = false

/-- The empty segment is kept. -/
theorem isSegment_nil : IsSegment [] where
  clean := by simp
  whole := by simp
  notSingle := rfl
  notDouble := rfl

/-- What stands for a byte is neither escaped nor a mark. -/
theorem percentAlphabet_clean :
    ∀ c ∈ percentAlphabet, escapedInPath c = false ∧ SchemeClass.special.separates c = false :=
  List.all_iff_forall_prop.mp (by decide)

/-- What is kept of a piece without marks is a segment, if the piece is none of dots. -/
theorem isSegment_keepSegment (front : List String) {piece : List Char}
    (whole : ∀ c ∈ piece, SchemeClass.special.separates c = false)
    (notSingle : isSingleDot piece = false) (notDouble : isDoubleDot piece = false) :
    IsSegment (keepSegment .special front piece).toList := by
  have kept : (keepSegment .special front piece).toList = percentEncode escapedInPath piece := by
    rw [keepSegment, if_neg (by simp), String.toList_ofList]
  rw [kept]
  refine ⟨fun c mem => ?_, fun c mem => ?_, ?_, ?_⟩
  · exact percentEncode_clean (fun d written => (percentAlphabet_clean d written).1) mem
  · rcases mem_percentEncode mem with ⟨inside, -⟩ | written
    · exact whole c inside
    · exact (percentAlphabet_clean c written).2
  · exact Bool.eq_false_iff.mpr fun dot =>
      Bool.eq_false_iff.mp notSingle (isSingleDot_of_percentEncode dot)
  · exact Bool.eq_false_iff.mpr fun dots =>
      Bool.eq_false_iff.mp notDouble (isDoubleDot_of_percentEncode dots)

/-- A kept segment is kept as it is. -/
theorem IsSegment.keepSegment {segment : String} (kept : IsSegment segment.toList)
    (front : List String) : keepSegment .special front segment.toList = segment := by
  rw [Url.keepSegment, if_neg (by simp), percentEncode_of_clean kept.clean, String.ofList_toList]

/-- Whether all segments of a list are kept as they are. -/
def AreSegments (list : List String) : Prop := ∀ segment ∈ list, IsSegment segment.toList

/-- Leaving the last segment leaves segments. -/
theorem AreSegments.leave {front : List String} (kept : AreSegments front) :
    AreSegments (leave front) := by
  cases front with
  | nil => exact kept
  | cons last front =>
    rw [Url.leave]
    split
    · exact kept
    · exact fun segment mem => kept segment (List.mem_cons_of_mem last mem)

/-- A page without its own segment has segments. -/
theorem AreSegments.dropLast {front : List String} (kept : AreSegments front) :
    AreSegments (dropLast .special front) := by
  cases front with
  | nil => exact kept
  | cons last front =>
    rw [Url.dropLast, if_neg (by simp)]
    exact fun segment mem => kept segment (List.mem_cons_of_mem last mem)

/-- A list with one more segment. -/
theorem AreSegments.cons {segment : String} {list : List String}
    (first : IsSegment segment.toList) (kept : AreSegments list) :
    AreSegments (segment :: list) := by
  intro other mem
  rcases List.mem_cons.mp mem with rfl | mem
  · exact first
  · exact kept other mem

/-- The pieces of a path lead to segments. -/
theorem AreSegments.walk {front : List String} (kept : AreSegments front)
    {pieces : List (List Char)}
    (whole : ∀ piece ∈ pieces, ∀ c ∈ piece, SchemeClass.special.separates c = false) :
    AreSegments (walk .special front pieces) := by
  have close {list : List String} (kept : AreSegments list) (rest : List (List Char)) :
      AreSegments (walk.close list rest) := by
    unfold walk.close
    split
    · exact kept.cons isSegment_nil
    · exact kept
  induction pieces generalizing front with
  | nil =>
    intro segment mem
    exact kept segment (List.mem_reverse.mp mem)
  | cons piece rest ih =>
    have later : ∀ other ∈ rest, ∀ c ∈ other, SchemeClass.special.separates c = false :=
      fun other mem => whole other (List.mem_cons_of_mem piece mem)
    rw [Url.walk]
    split
    · exact ih (close kept.leave rest) later
    · next notDouble =>
      split
      · exact ih (close kept rest) later
      · next notSingle =>
        have segment := isSegment_keepSegment front (whole piece List.mem_cons_self)
          (Bool.eq_false_iff.mpr notSingle) (Bool.eq_false_iff.mpr notDouble)
        exact ih (kept.cons segment) later

/-- Pieces of a path lead to at least one segment. -/
theorem walk_ne_nil (kind : SchemeClass) (front : List String) {pieces : List (List Char)}
    (filled : pieces ≠ []) : walk kind front pieces ≠ [] := by
  have ends {list : List String} (some : list ≠ []) : walk kind list [] ≠ [] := by
    simpa [walk] using some
  induction pieces generalizing front with
  | nil => exact absurd rfl filled
  | cons piece rest ih =>
    cases rest with
    | nil =>
      have closed (list : List String) : walk.close list ([] : List (List Char)) ≠ [] := by
        simp [walk.close]
      rw [walk]
      split
      · exact ends (closed _)
      · split
        · exact ends (closed _)
        · exact ends (List.cons_ne_nil _ _)
    | cons next rest =>
      rw [walk]
      split
      · exact ih _ (List.cons_ne_nil next rest)
      · split
        · exact ih _ (List.cons_ne_nil next rest)
        · exact ih _ (List.cons_ne_nil next rest)

/-- Following a path from kept segments leads to kept segments, at least one. -/
theorem AreSegments.follow {front : List String} (kept : AreSegments front) (text : List Char) :
    AreSegments (follow .special front text) ∧ follow .special front text ≠ [] := by
  rw [Url.follow, if_neg (by simp)]
  refine ⟨kept.walk fun piece found c mem => (mem_of_mem_splitOnP found mem).2, ?_⟩
  exact walk_ne_nil .special front (List.splitOnP_ne_nil _ text)

/-- A path from the root leads to kept segments, at least one. -/
theorem areSegments_rootSegments (text : List Char) :
    AreSegments (rootSegments .special text) ∧ rootSegments .special text ≠ [] := by
  have none : AreSegments [] := fun segment mem => nomatch mem
  cases text with
  | nil =>
    have only : AreSegments [""] := none.cons isSegment_nil
    exact ⟨only, List.cons_ne_nil "" []⟩
  | cons c rest => exact none.follow _

/-- Kept segments are gone through one by one. -/
theorem AreSegments.walk_map {list : List String} (kept : AreSegments list) (front : List String) :
    Url.walk .special front (list.map String.toList) = front.reverse ++ list := by
  induction list generalizing front with
  | nil => simp [Url.walk]
  | cons segment list ih =>
    have first := kept segment List.mem_cons_self
    have later : AreSegments list := fun other mem => kept other (List.mem_cons_of_mem segment mem)
    rw [List.map_cons, Url.walk, first.notDouble, first.notSingle, first.keepSegment]
    simp only [Bool.false_eq_true, if_false]
    rw [ih later, List.reverse_cons, List.append_assoc]
    rfl

/-- Segments with slashes between them. -/
def joinSegments (list : List String) : List Char := ['/'].intercalate (list.map String.toList)

/-- Between two segments stands a slash. -/
theorem joinSegments_cons_cons (first next : String) (list : List String) :
    joinSegments (first :: next :: list) =
      first.toList ++ '/' :: joinSegments (next :: list) := by
  simp [joinSegments, List.intercalate_cons_cons]

/-- Kept segments that were put together are cut apart again. -/
theorem AreSegments.splitOnP_joinSegments {list : List String} (kept : AreSegments list)
    (filled : list ≠ []) :
    (joinSegments list).splitOnP SchemeClass.special.separates = list.map String.toList := by
  refine splitOnP_intercalate rfl ?_ (by simpa using filled)
  intro piece mem
  obtain ⟨segment, inside, rfl⟩ := List.mem_map.mp mem
  exact (kept segment inside).whole

/-- A path that is written from kept segments leads to them. -/
theorem AreSegments.rootSegments_joinSegments {list : List String} (kept : AreSegments list)
    (filled : list ≠ []) : rootSegments .special ('/' :: joinSegments list) = list := by
  have slash : SchemeClass.special.separates '/' = true := rfl
  rw [rootSegments, if_pos slash, Url.follow, if_neg (by simp),
    kept.splitOnP_joinSegments filled, kept.walk_map]
  rfl

/-- The segments that are not empty. -/
def filledSegments (list : List String) : List String := list.filter (· ≠ "")

/-- A segment that is not empty is a name. -/
theorem IsSegment.isName {segment : List Char} (kept : IsSegment segment) (filled : segment ≠ []) :
    Canonical.IsName segment := by
  refine ⟨filled, ?_, ?_⟩
  · rintro rfl
    exact absurd kept.notSingle (by decide)
  · rintro rfl
    exact absurd kept.notDouble (by decide)

/-- The names of a path of kept segments are those that are not empty. -/
theorem AreSegments.foldl_enter {list : List String} (kept : AreSegments list)
    (front : List (List Char)) :
    (list.map String.toList).foldl Canonical.enter front
      = ((filledSegments list).map String.toList).reverse ++ front := by
  induction list generalizing front with
  | nil => rfl
  | cons segment list ih =>
    have first := kept segment List.mem_cons_self
    have later : AreSegments list := fun other mem => kept other (List.mem_cons_of_mem segment mem)
    rw [List.map_cons, List.foldl_cons, ih later]
    by_cases empty : segment = ""
    · have dropped : filledSegments (segment :: list) = filledSegments list := by
        simp [filledSegments, empty]
      rw [dropped, empty, String.toList_empty, Canonical.enter_nil]
    · have named : Canonical.IsName segment.toList := first.isName (by simpa using empty)
      have stays : filledSegments (segment :: list) = segment :: filledSegments list := by
        simp [filledSegments, empty]
      rw [Canonical.enter_of_isName named, stays, List.map_cons, List.reverse_cons,
        List.append_assoc]
      rfl

/-- A path of kept segments is cut at its slashes into nothing, in front of the first one, and the
segments. -/
theorem AreSegments.splitOn_slash {list : List String} (kept : AreSegments list)
    (filled : list ≠ []) :
    ('/' :: joinSegments list).splitOn '/' = [] :: list.map String.toList := by
  have slashless : ∀ piece ∈ list.map String.toList, '/' ∉ piece := by
    intro piece mem slash
    obtain ⟨segment, inside, rfl⟩ := List.mem_map.mp mem
    have plain := (kept segment inside).whole '/' slash
    cases plain
  have pieces : (joinSegments list).splitOn '/' = list.map String.toList :=
    List.splitOn_intercalate '/' slashless (by simpa using filled)
  rw [← List.nil_append ('/' :: joinSegments list),
    List.splitOn_append_cons_self_of_not_mem List.not_mem_nil, pieces]

/-- The normal form of a path of kept segments leaves out the empty ones. -/
theorem AreSegments.normalizePath {list : List String} (kept : AreSegments list)
    (filled : list ≠ []) :
    Canonical.normalizePath ('/' :: joinSegments list)
      = '/' :: joinSegments (filledSegments list) := by
  have names : Canonical.names ('/' :: joinSegments list)
      = (filledSegments list).map String.toList := by
    rw [Canonical.names, kept.splitOn_slash filled, List.foldl_cons, Canonical.enter_nil,
      kept.foldl_enter, List.append_nil, List.reverse_reverse]
  rw [Canonical.normalizePath, names]
  rfl

/-- The segments of a path in normal form: those that are not empty, or one empty segment. -/
def orEmpty (list : List String) : List String := if list = [] then [""] else list

/-- The segments that are not empty are kept segments. -/
theorem AreSegments.filled {list : List String} (kept : AreSegments list) :
    AreSegments (filledSegments list) :=
  fun segment mem => kept segment (List.mem_filter.mp mem).1

/-- The path in normal form leads to the segments that are not empty. -/
theorem AreSegments.rootSegments_filled {list : List String} (kept : AreSegments list) :
    rootSegments .special ('/' :: joinSegments (filledSegments list))
      = orEmpty (filledSegments list) := by
  unfold orEmpty
  split
  · next none =>
    rw [none]
    rfl
  · next some => exact kept.filled.rootSegments_joinSegments some

/-- Segments that are not empty are known from the path in normal form. -/
theorem orEmpty_filled_inj {a b : List String} :
    orEmpty (filledSegments a) = orEmpty (filledSegments b)
      ↔ filledSegments a = filledSegments b := by
  have noEmpty (list : List String) : filledSegments list ≠ [""] := by
    intro same
    have mem : "" ∈ filledSegments list := by rw [same]; exact List.mem_cons_self
    simp [filledSegments] at mem
  constructor
  · intro same
    unfold orEmpty at same
    split at same
    · next none =>
      split at same
      · next other => rw [none, other]
      · exact absurd same.symm (noEmpty b)
    · split at same
      · exact absurd same (noEmpty a)
      · exact same
  · exact congrArg orEmpty

/-- The segments that are not empty are found again in the path that they lead to. -/
theorem filledSegments_orEmpty (list : List String) :
    filledSegments (orEmpty (filledSegments list)) = filledSegments list := by
  unfold orEmpty
  split
  · next none =>
    rw [none]
    rfl
  · simp [filledSegments]

/-- A printed path is made of slashes and segments. -/
theorem chars_segments {list : List String} (filled : list ≠ []) :
    (Path.segments list).chars = '/' :: joinSegments list := by
  unfold Path.chars
  simp only
  induction list with
  | nil => exact absurd rfl filled
  | cons segment list ih =>
    cases list with
    | nil => simp [joinSegments]
    | cons next list =>
      have rest := ih (List.cons_ne_nil next list)
      rw [List.flatMap_cons, rest, joinSegments_cons_cons]
      rfl

end CrawlFrontier.Url
