import CrawlFrontier.Proofs.Text.Parts
import CrawlFrontier.Url.Host
import CrawlFrontier.Url.Form

/-!
# Written queries are read back

Main statement: pairs that were written as a query are read as they were. What is written holds no
character that a query would escape, so it stands in a URL as it is.
-/

namespace CrawlFrontier.Url.Form

open CrawlFrontier.Text

/-- A plus sign is escaped, so none is written but for a space. -/
theorem not_mem_percentEncode (text : List Char) : '+' ∉ percentEncode isEscaped text := by
  intro mem
  rcases mem_percentEncode mem with ⟨-, free⟩ | written
  · cases free
  · revert written
    decide

/-- A key or a value that was written is read back. -/
theorem read_write (text : List Char) : read (write text) = text := by
  have spaces : (write text).map (fun c => if c = '+' then ' ' else c)
      = percentEncode isEscaped text := by
    rw [write, List.map_map]
    conv_rhs => rw [← List.map_id (percentEncode isEscaped text)]
    refine List.map_congr_left fun c mem => ?_
    have other : c ≠ '+' := ne_of_mem_of_not_mem mem (not_mem_percentEncode text)
    by_cases space : c = ' '
    · simp [space]
    · simp [space, other]
  have bytes : percentDecode (percentEncode isEscaped text ++ []) = utf8 text ++ percentDecode [] :=
    percentDecode_percentEncode rfl text []
  rw [List.append_nil, percentDecode, List.append_nil] at bytes
  rw [read, spaces, bytes, fromUtf8Lossy_utf8]

/-- Letters and digits are no controls. -/
theorem isControl_of_isAlphanum {c : Char} (letter : c.isAlphanum = true) :
    isControl c = false := by
  have code : c.val.toNat = c.toNat := rfl
  have bounds : '0'.val.toNat = 48 ∧ '9'.val.toNat = 57 ∧ 'A'.val.toNat = 65 ∧
      'Z'.val.toNat = 90 ∧ 'a'.val.toNat = 97 ∧ 'z'.val.toNat = 122 := by decide
  unfold Char.isAlphanum Char.isAlpha Char.isUpper Char.isLower Char.isDigit at letter
  simp only [Bool.or_eq_true, Bool.and_eq_true, decide_eq_true_eq, ge_iff_le,
    UInt32.le_iff_toNat_le, code] at letter
  simp only [isControl, Bool.or_eq_false_iff, decide_eq_false_iff_not]
  omega

/-- Whatever a query would escape is escaped here as well, spaces apart. -/
theorem isEscaped_of_query {c : Char} (escape : escapedInSpecialQuery c = true)
    (noSpace : c ≠ ' ') : isEscaped c = true := by
  have plain : ∀ d ∈ ['*', '-', '.', '_', ' '], escapedInSpecialQuery d = true → d = ' ' :=
    List.all_iff_forall_prop.mp (by decide)
  have noSign : [('*' : Char), '-', '.', '_', ' '].contains c = false := by
    refine Bool.eq_false_iff.mpr fun sign => ?_
    exact noSpace (plain c (by simpa using sign) escape)
  have noLetter : c.isAlphanum = false := by
    refine Bool.eq_false_iff.mpr fun letter => ?_
    have noQuote : ∀ d ∈ [' ', '"', '#', '<', '>', '\''], d.isAlphanum = false :=
      List.all_iff_forall_prop.mp (by decide)
    simp only [escapedInSpecialQuery, escapedInQuery, isControl_of_isAlphanum letter,
      Bool.false_or] at escape
    have member : c ∈ [' ', '"', '#', '<', '>', '\''] := by simpa [or_assoc] using escape
    rw [noQuote c member] at letter
    cases letter
  rw [isEscaped, noLetter, noSign]
  rfl

/-- What is written for a key or a value is not escaped in a query and holds no mark of pairs. -/
theorem mem_write {text : List Char} {c : Char} (mem : c ∈ write text) :
    escapedInSpecialQuery c = false ∧ c ∉ ['&', '='] := by
  have all : ∀ d ∈ '+' :: percentAlphabet, escapedInSpecialQuery d = false ∧ d ∉ ['&', '='] :=
    List.all_iff_forall_prop.mp (by decide)
  obtain ⟨d, inside, rfl⟩ := List.mem_map.mp mem
  by_cases space : d = ' '
  · rw [if_pos space]
    exact all '+' List.mem_cons_self
  · rw [if_neg space]
    rcases mem_percentEncode inside with ⟨-, free⟩ | written
    · refine ⟨Bool.eq_false_iff.mpr fun escape => ?_,
        not_mem_of_test (List.all_iff_forall_prop.mp (by decide)) free⟩
      rw [isEscaped_of_query escape space] at free
      cases free
    · exact all d (List.mem_cons_of_mem _ written)

/-- A pair that was written is read back. -/
theorem readPair_writePair (pair : String × String) : readPair (writePair pair) = pair := by
  have absent : '=' ∉ write pair.1.toList := fun mem => (mem_write mem).2 (by decide)
  rw [readPair, writePair, splitFirst_append absent]
  simp only [Option.getD_some, read_write, String.ofList_toList]

/-- What is written for a pair is not escaped in a query and holds no ampersand. -/
theorem mem_writePair {pair : String × String} {c : Char} (mem : c ∈ writePair pair) :
    escapedInSpecialQuery c = false ∧ c ≠ '&' := by
  have plain {text : List Char} (mem : c ∈ write text) :
      escapedInSpecialQuery c = false ∧ c ≠ '&' := by
    obtain ⟨free, other⟩ := mem_write mem
    exact ⟨free, fun mark => other (by rw [mark]; decide)⟩
  rcases List.mem_append.mp mem with key | mem
  · exact plain key
  · rcases List.mem_cons.mp mem with rfl | value
    · decide
    · exact plain value

/-- What is written for pairs is not escaped in a query. -/
theorem writePairs_clean (pairs : List (String × String)) :
    ∀ c ∈ writePairs pairs, escapedInSpecialQuery c = false := by
  intro c mem
  rcases mem_intercalate mem with rfl | ⟨piece, inside, mem⟩
  · rfl
  · obtain ⟨pair, -, rfl⟩ := List.mem_map.mp inside
    exact (mem_writePair mem).1

/-- Pairs that were written are read back. -/
theorem readPairs_writePairs (pairs : List (String × String)) :
    readPairs (writePairs pairs) = pairs := by
  by_cases none : pairs = []
  · rw [none]
    rfl
  have pieces : (writePairs pairs).splitOn '&' = pairs.map writePair := by
    refine List.splitOn_intercalate '&' ?_ (by simpa using none)
    intro piece inside mem
    obtain ⟨pair, -, rfl⟩ := List.mem_map.mp inside
    exact (mem_writePair mem).2 rfl
  have filled : (pairs.map writePair).filter (!·.isEmpty) = pairs.map writePair := by
    refine List.filter_eq_self.mpr fun piece inside => ?_
    obtain ⟨pair, -, rfl⟩ := List.mem_map.mp inside
    simp [writePair]
  have each : readPair ∘ writePair = id := funext readPair_writePair
  rw [readPairs, pieces, filled, List.map_map, each, List.map_id]

end CrawlFrontier.Url.Form
