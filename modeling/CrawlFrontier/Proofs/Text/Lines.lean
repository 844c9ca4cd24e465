import CrawlFrontier.Proofs.Text.Numeral
import CrawlFrontier.Proofs.Text.Parts

/-!
# Fields and lines

White space divides a text into fields wherever it stands, so a text cut at one blank character has
the fields of both sides. A return in front of a line feed is such a character: whether it is left
out or not, the line has the same fields and the same text between its ends.
-/

namespace CrawlFrontier.Text

/-- A letter is no white space in either case. -/
theorem isBlank_toLower (c : Char) : isBlank c.toLower = isBlank c := apply_toLower (by decide) c

/-- A text is cut into one more piece than there are marks. -/
theorem length_splitOn (mark : Char) (text : List Char) :
    (text.splitOn mark).length = text.count mark + 1 := by
  induction text with
  | nil => rfl
  | cons c text ih =>
    rw [List.splitOn_cons_eq_if_modifyHead, List.count_cons]
    by_cases same : c = mark
    · simp [same, ih]
    · simp [same, ih]

/-- Pieces with a mark behind each of them are pieces with marks between them and one at the end, if
there are any. -/
theorem flatMap_append_mark (mark : Char) (pieces : List (List Char)) :
    (pieces.flatMap fun piece => piece ++ [mark]) =
      [mark].intercalate pieces ++ if pieces.isEmpty then [] else [mark] := by
  induction pieces with
  | nil => rfl
  | cons piece pieces ih =>
    rw [List.flatMap_cons, ih]
    cases pieces with
    | nil => simp
    | cons next pieces => simp [List.intercalate_cons_cons]

/-- White space divides fields. -/
theorem fields_append_cons {c : Char} (blank : isBlank c = true) (front back : List Char) :
    fields (front ++ c :: back) = fields front ++ fields back := by
  rw [fields, List.splitOnP_append_cons front back blank, List.filter_append]
  rfl

/-- White space in front of a text is in no field. -/
theorem fields_append_of_blank {front : List Char} (blank : ∀ c ∈ front, isBlank c = true)
    (back : List Char) : fields (front ++ back) = fields back := by
  induction front with
  | nil => rfl
  | cons c front ih =>
    obtain ⟨first, rest⟩ := List.forall_mem_cons.mp blank
    have cut := fields_append_cons first [] (front ++ back)
    rw [List.nil_append] at cut
    rw [List.cons_append, cut, ih rest]
    rfl

/-- A text without white space is one field. -/
theorem fields_of_word {word : List Char} (filled : word ≠ [])
    (plain : ∀ c ∈ word, isBlank c = false) : fields word = [word] := by
  rw [fields, List.splitOnP_eq_singleton plain]
  simp [filled]

/-- Two words with white space between them are two fields. -/
theorem fields_of_words {first gap second : List Char} (filled : first ≠ [] ∧ second ≠ [])
    (plain : ∀ c ∈ first ++ second, isBlank c = false) (apart : gap ≠ [])
    (blank : ∀ c ∈ gap, isBlank c = true) : fields (first ++ gap ++ second) = [first, second] := by
  obtain ⟨front, back⟩ := List.forall_mem_append.mp plain
  cases gap with
  | nil => exact absurd rfl apart
  | cons c gap =>
    obtain ⟨head, rest⟩ := List.forall_mem_cons.mp blank
    rw [List.append_assoc, List.cons_append, fields_append_cons head,
      fields_append_of_blank rest, fields_of_word filled.1 front, fields_of_word filled.2 back]
    rfl

/-- White space in front of a text is not between its ends. -/
theorem trim_blank_append {space : List Char} (blank : ∀ c ∈ space, isBlank c = true)
    (text : List Char) : trim (space ++ text) = trim text := by
  have dropped := dropBothWhile_append blank (List.forall_mem_nil _) text
  rwa [List.append_nil] at dropped

/-- White space behind a text is not between its ends. -/
theorem trim_append_blank {space : List Char} (blank : ∀ c ∈ space, isBlank c = true)
    (text : List Char) : trim (text ++ space) = trim text :=
  dropBothWhile_append (List.forall_mem_nil _) blank text

/-- Blank texts have nothing between their ends. -/
theorem trim_of_blank {text : List Char} (blank : ∀ c ∈ text, isBlank c = true) :
    trim text = [] := trim_append_blank blank []

/-- What stands between the ends of a text in lower case is in lower case what stands between its
ends. -/
theorem trim_lower (text : List Char) : trim (lower text) = lower (trim text) := by
  have same : isBlank ∘ Char.toLower = isBlank := funext isBlank_toLower
  simp only [trim, dropBothWhile, dropEndWhile, lower, List.dropWhile_map, ← List.map_reverse, same]

/-- A character that is not blank stands in a field. -/
theorem fields_ne_nil_of_mem {text : List Char} {c : Char} (mem : c ∈ text)
    (solid : isBlank c = false) : fields text ≠ [] := by
  induction text with
  | nil => exact absurd mem List.not_mem_nil
  | cons d text ih =>
    cases blank : isBlank d with
    | true =>
      have other : c ≠ d := by
        rintro rfl
        exact absurd (solid.symm.trans blank) Bool.false_ne_true
      have cut := fields_append_cons blank [] text
      rw [List.nil_append] at cut
      rw [cut]
      exact ih ((List.mem_cons.mp mem).resolve_left other)
    | false =>
      cases pieces : text.splitOnP isBlank with
      | nil => exact absurd pieces (List.splitOnP_ne_nil _ _)
      | cons piece rest => simp [fields, List.splitOnP_cons_eq_if_modifyHead, blank, pieces]

/-- A text that is not blank has a field. -/
theorem fields_ne_nil {text : List Char} (filled : trim text ≠ []) : fields text ≠ [] := by
  have solid : ∃ c ∈ text, isBlank c = false := by
    by_contra none
    exact filled (trim_of_blank fun c mem => by simpa using fun plain => none ⟨c, mem, plain⟩)
  obtain ⟨c, mem, plain⟩ := solid
  exact fields_ne_nil_of_mem mem plain

/-- Of a line at most one return is left out. -/
theorem dropReturn_cases (line : List Char) :
    dropReturn line = line ∨ line = dropReturn line ++ ['\r'] := by
  unfold dropReturn
  split
  · next front turned =>
    refine .inr ?_
    rw [← List.reverse_cons, ← turned, List.reverse_reverse]
  · exact .inl rfl

/-- A line has the same fields without its return. -/
theorem fields_dropReturn (line : List Char) : fields (dropReturn line) = fields line := by
  rcases dropReturn_cases line with same | ends
  · rw [same]
  · have cut := fields_append_cons (c := '\r') rfl (dropReturn line) []
    rw [ends.symm] at cut
    exact (cut.trans (List.append_nil _)).symm

/-- A line has the same text between its ends without its return. -/
theorem trim_dropReturn (line : List Char) : trim (dropReturn line) = trim line := by
  rcases dropReturn_cases line with same | ends
  · rw [same]
  · conv_rhs => rw [ends]
    exact (trim_append_blank (List.forall_mem_singleton.mpr rfl) _).symm

/-- A text is cut into a last piece and those in front of it. -/
theorem exists_splitOn_eq_concat (mark : Char) (text : List Char) :
    ∃ front last, text.splitOn mark = front ++ [last] :=
  ⟨_, _, (List.dropLast_concat_getLast (List.splitOn_ne_nil mark text)).symm⟩

/-- Two texts with a line feed between them are cut into the pieces of both. -/
theorem splitOn_append_line (first second : String) :
    (first ++ "\n" ++ second).toList.splitOn '\n' =
      first.toList.splitOn '\n' ++ second.toList.splitOn '\n' := by
  rw [String.toList_append, String.toList_append, List.append_assoc]
  exact List.splitOn_append_cons_self _ _

/-- The lines of a text are its pieces without returns, and the last of them counts if it is not
empty. -/
theorem lines_eq {text last : List Char} {front : List (List Char)}
    (cut : text.splitOn '\n' = front ++ [last]) :
    lines text = front.map dropReturn ++ if last = [] then [] else [last] := by
  unfold lines
  cases last with
  | nil => simp [cut]
  | cons c last => simp [cut]

end CrawlFrontier.Text
