import CrawlFrontier.Proofs.Steps
import CrawlFrontier.Proofs.Text.Lines
import CrawlFrontier.Replay.Candidate
import Mathlib.Data.List.Basic

/-!
# Lists of candidates line by line

What a list of candidates says is the sum of what its lines say, each on its own. Main statement: a
list is read exactly if every line that says something has at most two fields, and then it gives one
candidate for each such line; what there is to report of the lines in front of a malformed one is
reported; two lists with a line feed between them give the candidates of both; and candidates that
are written one a line are read back.
-/

namespace CrawlFrontier

open CrawlFrontier.Text

namespace DocumentKind

/-- A tag names the kind that it was made of. -/
theorem ofTag?_tag (kind : DocumentKind) : ofTag? kind.tag = some kind := by
  cases kind <;> decide +kernel

/-- A tag is one word. -/
theorem isBlank_of_mem_tag {kind : DocumentKind} {c : Char} (mem : c ∈ kind.tag.toList) :
    isBlank c = false := by
  have all : (kind.tag.toList.all fun c => !isBlank c) = true := by
    cases kind <;> decide
  simpa using List.all_eq_true.mp all c mem

/-- A tag is not empty. -/
theorem tag_ne_empty (kind : DocumentKind) : kind.tag ≠ "" := by
  cases kind <;> decide

/-- A tag in letters of either case is one word. -/
theorem isBlank_of_lower_eq_tag {kind : DocumentKind} {tag : List Char}
    (named : lower tag = kind.tag.toList) : ∀ c ∈ tag, isBlank c = false := by
  intro c mem
  have lowered : c.toLower ∈ kind.tag.toList := named ▸ List.mem_map_of_mem mem
  rw [← isBlank_toLower]
  exact isBlank_of_mem_tag lowered

/-- A tag in letters of either case names the kind. -/
theorem ofTag?_of_lower_eq_tag {kind : DocumentKind} {tag : List Char}
    (named : lower tag = kind.tag.toList) : ofTag? (String.ofList tag) = some kind := by
  have trimmed : trim tag = tag := dropBothWhile_of_forall (isBlank_of_lower_eq_tag named)
  have own : trim kind.tag.toList = kind.tag.toList :=
    dropBothWhile_of_forall fun c mem => isBlank_of_mem_tag mem
  have fixed : lower kind.tag.toList = kind.tag.toList := by
    cases kind <;> decide
  have same : ofTag? (String.ofList tag) = ofTag? kind.tag := by
    rw [ofTag?, ofTag?, String.toList_ofList, trimmed, named, own, fixed]
  rw [same, ofTag?_tag]

end DocumentKind

/-- The notice with later numbers of lines. -/
def Notice.moved (lines : Nat) : Notice → Notice
  | unknownTag line tag => unknownTag (line + lines) tag
  | other => other

namespace Candidate

/-- The candidate in a later line. -/
def moved (lines : Nat) (candidate : Candidate) : Candidate :=
  { candidate with line := candidate.line + lines }

/-- Whether a line of a list says nothing, or names a URL and perhaps a tag. -/
def IsEntry (text : List Char) : Prop :=
  isSilent (trim text) = true ∨ (fields text).length = 1 ∨ (fields text).length = 2

instance (text : List Char) : Decidable (IsEntry text) := inferInstanceAs (Decidable (_ ∨ _))

/-- What is reported of a line that is no entry. -/
def lineError (line : Nat) (text : List Char) : CandidateError :=
  .invalidLine line ("expected '<url> [tag]', got " ++ toString (fields text).length ++ " fields")

/-- Whether a line says something: between its ends it is not blank and no comment. -/
def Speaks (text : List Char) : Prop := trim text ≠ [] ∧ (trim text).head? ≠ some '#'

instance (text : List Char) : Decidable (Speaks text) := inferInstanceAs (Decidable (_ ∧ _))

/-- The lines that say something, each with its number; the first of all has the given one. -/
def spoken (line : Nat) (texts : List (List Char)) : List (List Char × Nat) :=
  (texts.zipIdx line).filter fun text => Speaks text.1

/-- The candidate that a line names: its first field is the URL, and its second, if there is one, is
the tag of the kind. -/
def stated (text : List Char × Nat) : Candidate where
  url := String.ofList ((fields text.1).headD [])
  kind := ((fields text.1)[1]?.bind fun tag => DocumentKind.ofTag? (String.ofList tag)).getD
    .unclassified
  line := text.2

/-- What there is to report of a line: its tag, if no kind has it. -/
def unknownTag? (text : List Char × Nat) : Option Notice :=
  ((fields text.1)[1]?.filter fun tag => (DocumentKind.ofTag? (String.ofList tag)).isNone).map
    fun tag => .unknownTag text.2 (String.ofList tag)

/-- What a line says. -/
def entry (text : List Char × Nat) : Entry := ⟨stated text, (unknownTag? text).toList⟩

/-- A line is silent exactly if it says nothing. -/
theorem isSilent_eq_true_iff {text : List Char} : isSilent (trim text) = true ↔ ¬Speaks text := by
  rw [isSilent, Speaks, Bool.or_eq_true, List.isEmpty_iff, beq_iff_eq, not_and_or, not_not, not_not]

/-- A line is an entry exactly if it does not say more than two fields. -/
theorem isEntry_iff {text : List Char} :
    IsEntry text ↔ (Speaks text → (fields text).length ≤ 2) := by
  rw [IsEntry, isSilent_eq_true_iff]
  by_cases speaks : Speaks text
  · have some := List.length_pos_iff.mpr (fields_ne_nil speaks.1)
    simp only [speaks, not_true_eq_false, false_or, forall_const]
    omega
  · simp [speaks]

/-- An entry is read as what it says. -/
theorem readLine_of_isEntry {text : List Char} (isEntry : IsEntry text) (line : Nat) :
    readLine line text = .ok (if Speaks text then some (entry (text, line)) else none) := by
  unfold readLine
  split
  · next silent => rw [if_neg (isSilent_eq_true_iff.mp silent)]
  · next loud =>
    have speaks : Speaks text := by
      by_contra silent
      exact loud (isSilent_eq_true_iff.mpr silent)
    rw [if_pos speaks]
    rcases isEntry.resolve_left loud with one | two
    · obtain ⟨url, shape⟩ := List.length_eq_one_iff.mp one
      simp [shape, entry, stated, unknownTag?]
    · obtain ⟨url, tag, shape⟩ := List.length_eq_two.mp two
      rw [shape]
      cases known : DocumentKind.ofTag? (String.ofList tag) with
      | some kind => simp [shape, known, entry, stated, unknownTag?, Entry.ofTag]
      | none => simp [shape, known, entry, stated, unknownTag?, Entry.ofTag, Option.filter_some]

/-- A line that is no entry is reported. -/
theorem readLine_of_not_isEntry {text : List Char} (other : ¬IsEntry text) (line : Nat) :
    readLine line text = .error (lineError line text) := by
  have loud : ¬isSilent (trim text) = true := fun silent => other (.inl silent)
  unfold readLine
  rw [if_neg loud]
  split
  · next url shape => exact absurd (.inr (.inl (by rw [shape]; rfl))) other
  · next url tag shape => exact absurd (.inr (.inr (by rw [shape]; rfl))) other
  · rfl

/-- Lines behind others say what they say, with later numbers. -/
theorem spoken_append (line : Nat) (front back : List (List Char)) :
    spoken line (front ++ back) = spoken line front ++ spoken (line + front.length) back := by
  rw [spoken, List.zipIdx_append, List.filter_append]
  rfl

/-- What a line says comes in front of what was read. -/
theorem add_entry (line : Nat) (text : List Char) (reading : Reading) :
    reading.add (if Speaks text then some (entry (text, line)) else none) =
      ⟨reading.result.map ((spoken line [text]).map stated ++ ·),
        (spoken line [text]).filterMap unknownTag? ++ reading.notices⟩ := by
  by_cases speaks : Speaks text
  · cases told : unknownTag? (text, line) <;> simp [Reading.add, spoken, speaks, entry, told]
  · simp [Reading.add, spoken, speaks]

/-- Entries are read one by one. -/
theorem readLines_append {good : List (List Char)} (all : ∀ text ∈ good, IsEntry text) (line : Nat)
    (rest : List (List Char)) :
    readLines line (good ++ rest) =
      ⟨(readLines (line + good.length) rest).result.map ((spoken line good).map stated ++ ·),
        (spoken line good).filterMap unknownTag? ++
          (readLines (line + good.length) rest).notices⟩ := by
  induction good generalizing line with
  | nil =>
    have same (result : Except CandidateError (List Candidate)) :
        result = result.map (([] : List Candidate) ++ ·) := by
      cases result <;> rfl
    exact congrArg (Reading.mk · _) (same _)
  | cons text good ih =>
    obtain ⟨first, others⟩ := List.forall_mem_cons.mp all
    have parts := spoken_append line [text] good
    have number : line + (text :: good).length = line + 1 + good.length := by
      rw [List.length_cons]
      omega
    rw [List.cons_append, readLines, readLine_of_isEntry first, number, ← List.singleton_append,
      parts]
    dsimp only
    rw [ih others, add_entry, List.map_append, List.filterMap_append, List.append_assoc]
    cases (readLines (line + 1 + good.length) rest).result with
    | error error => rfl
    | ok candidates => simp [Except.map]

/-- A list of which all lines are entries is read as what they say. -/
theorem readLines_of_forall {texts : List (List Char)} (all : ∀ text ∈ texts, IsEntry text)
    (line : Nat) :
    readLines line texts =
      ⟨.ok ((spoken line texts).map stated), (spoken line texts).filterMap unknownTag?⟩ := by
  have read := readLines_append all line []
  rw [List.append_nil] at read
  simpa [readLines, Except.map] using read

/-- The first line that is no entry is reported, whatever follows it. -/
theorem readLines_of_not_isEntry {good : List (List Char)} {bad : List Char}
    (before : ∀ text ∈ good, IsEntry text) (other : ¬IsEntry bad) (line : Nat)
    (rest : List (List Char)) :
    readLines line (good ++ bad :: rest) =
      ⟨.error (lineError (line + good.length) bad), (spoken line good).filterMap unknownTag?⟩ := by
  rw [readLines_append before, readLines, readLine_of_not_isEntry other]
  simp [Except.map]

/-- Either all lines are entries, or there is a first that is none. -/
theorem forall_isEntry_or_exists (texts : List (List Char)) :
    (∀ text ∈ texts, IsEntry text) ∨
      ∃ good bad rest, texts = good ++ bad :: rest ∧ (∀ text ∈ good, IsEntry text) ∧
        ¬IsEntry bad := by
  cases search : texts.find? fun text => ¬IsEntry text with
  | none =>
    have all : ∀ text ∈ texts, IsEntry text := by
      simpa using search
    exact .inl all
  | some bad =>
    obtain ⟨other, good, rest, rfl, before⟩ := List.find?_eq_some_iff_append.mp search
    have entries : ∀ text ∈ good, IsEntry text := by
      simpa using before
    exact .inr ⟨good, bad, rest, rfl, entries, of_decide_eq_true other⟩

/-- The numbers of the lines that say something increase. -/
theorem pairwise_spoken (line : Nat) (texts : List (List Char)) :
    ((spoken line texts).map (·.2)).Pairwise (· < ·) := by
  have all : ((texts.zipIdx line).map (·.2)).Pairwise (· < ·) := by
    rw [List.zipIdx_map_snd]
    exact List.pairwise_lt_range'
  exact all.sublist (List.filter_sublist.map _)

/-- Lines say the same with other numbers. -/
theorem spoken_add (line more : Nat) (texts : List (List Char)) :
    spoken (line + more) texts = (spoken line texts).map fun text => (text.1, text.2 + more) := by
  induction texts generalizing line with
  | nil => rfl
  | cons text texts ih =>
    have next := ih (line + 1)
    rw [Nat.add_right_comm] at next
    unfold spoken at next ⊢
    by_cases speaks : Speaks text
    · simp [speaks, next]
    · simp [speaks, next]

/-- A line is as much of an entry without its return. -/
theorem isEntry_dropReturn {text : List Char} : IsEntry (dropReturn text) ↔ IsEntry text := by
  rw [IsEntry, IsEntry, trim_dropReturn, fields_dropReturn]

/-- Lines say the same without their returns. -/
theorem map_entry_spoken_dropReturn (line : Nat) (texts : List (List Char)) :
    (spoken line (texts.map dropReturn)).map entry = (spoken line texts).map entry := by
  have speaks (text : List Char) : Speaks (dropReturn text) ↔ Speaks text := by
    rw [Speaks, Speaks, trim_dropReturn]
  have same (text : List Char) (number : Nat) :
      entry (dropReturn text, number) = entry (text, number) := by
    simp only [entry, stated, unknownTag?, fields_dropReturn]
  rw [spoken, List.zipIdx_map, List.filter_map, List.map_map]
  simp [spoken, Function.comp_def, speaks, same]

/-- A list is the sum of what its lines say. -/
def told (texts : List (List Char)) : List Candidate × List Notice :=
  ((spoken 1 texts).map stated, (spoken 1 texts).filterMap unknownTag?)

/-- What is read if no line is malformed. -/
def Reading.whole (told : List Candidate × List Notice) : Reading := ⟨.ok told.1, told.2⟩

/-- What is read if a line is malformed: why it is, and the notices on the lines in front. -/
def Reading.broken (error : CandidateError) (notices : List Notice) : Reading :=
  ⟨.error error, notices⟩

instance : DecidableEq Reading := fun first second =>
  decidable_of_iff (first.result = second.result ∧ first.notices = second.notices)
    Reading.ext_iff.symm

/-- Readings without a malformed line are told apart by what they say. -/
theorem Reading.whole_inj {first second : List Candidate × List Notice} :
    whole first = whole second ↔ first = second := by
  simp [whole, Prod.ext_iff]

/-- Lines that say the same as entries say the same. -/
theorem told_congr {first second : List (List Char)}
    (same : (spoken 1 first).map entry = (spoken 1 second).map entry) :
    told first = told second := by
  have parts (texts : List (List Char)) :
      told texts = (((spoken 1 texts).map entry).map (·.candidate),
        ((spoken 1 texts).map entry).flatMap (·.notices)) := by
    rw [told, List.map_map, List.flatMap_map, List.filterMap_eq_flatMap_toList]
    rfl
  rw [parts, parts, same]

/-- A list is read exactly if all of its lines are entries, and as what they say. -/
theorem parse_eq_whole_iff {text : String} {found : List Candidate × List Notice} :
    parse text = .whole found ↔
      (∀ line ∈ lines text.toList, IsEntry line) ∧ found = told (lines text.toList) := by
  rw [parse]
  rcases forall_isEntry_or_exists (lines text.toList) with all | ⟨good, bad, rest, cut, before, other⟩
  · have read : readLines 1 (lines text.toList) = .whole (told (lines text.toList)) :=
      readLines_of_forall all 1
    rw [read, Reading.whole_inj, eq_comm]
    exact ⟨fun same => ⟨all, same⟩, (·.2)⟩
  · have none : ¬∀ line ∈ lines text.toList, IsEntry line := by
      rw [cut]
      exact fun all => other (all bad List.mem_append_cons_self)
    rw [cut, readLines_of_not_isEntry before other, ← cut]
    exact iff_of_false nofun fun both => none both.1

/-- What is reported of a list is its first line that is no entry, behind what there is to report of
those in front. -/
theorem parse_eq_broken_iff {text : String} {error : CandidateError} {notices : List Notice} :
    parse text = .broken error notices ↔
      ∃ good bad rest, lines text.toList = good ++ bad :: rest ∧
        (∀ line ∈ good, Speaks line → (fields line).length ≤ 2) ∧
        Speaks bad ∧ 2 < (fields bad).length ∧ error = lineError (good.length + 1) bad ∧
        notices = (spoken 1 good).filterMap unknownTag? := by
  have other {bad : List Char} : ¬IsEntry bad ↔ Speaks bad ∧ 2 < (fields bad).length := by
    rw [isEntry_iff, Classical.not_imp, Nat.not_le]
  rw [parse]
  constructor
  · intro failed
    rcases forall_isEntry_or_exists (lines text.toList) with
      all | ⟨good, bad, rest, cut, before, none⟩
    · rw [readLines_of_forall all] at failed
      cases failed
    · obtain ⟨speaks, more⟩ := other.mp none
      have entries := fun line mem => isEntry_iff.mp (before line mem)
      rw [cut, readLines_of_not_isEntry before none, Nat.add_comm] at failed
      obtain ⟨error, notices⟩ := Reading.mk.inj failed
      exact ⟨good, bad, rest, cut, entries, speaks, more, (Except.error.inj error).symm,
        notices.symm⟩
  · rintro ⟨good, bad, rest, cut, before, speaks, more, rfl, rfl⟩
    have entries : ∀ line ∈ good, IsEntry line := fun line mem => isEntry_iff.mpr (before line mem)
    rw [cut, readLines_of_not_isEntry entries (other.mpr ⟨speaks, more⟩), Nat.add_comm]
    rfl

/-- An empty line is an entry. -/
theorem isEntry_nil : IsEntry [] := .inl rfl

/-- Where the lines of a list end does not matter: its pieces say the same. -/
theorem parse_eq_whole_iff_pieces {text : String} {found : List Candidate × List Notice} :
    parse text = .whole found ↔
      (∀ piece ∈ text.toList.splitOn '\n', IsEntry piece) ∧
        found = told (text.toList.splitOn '\n') := by
  obtain ⟨front, last, cut⟩ := exists_splitOn_eq_concat '\n' text.toList
  have entries : (∀ line ∈ lines text.toList, IsEntry line) ↔
      ∀ piece ∈ text.toList.splitOn '\n', IsEntry piece := by
    rw [lines_eq cut, cut, List.forall_mem_append, List.forall_mem_append, List.forall_mem_map]
    simp only [isEntry_dropReturn]
    by_cases empty : last = []
    · simp [empty, isEntry_nil]
    · simp [empty]
  have same : (spoken 1 (lines text.toList)).map entry =
      (spoken 1 (text.toList.splitOn '\n')).map entry := by
    rw [lines_eq cut, cut, spoken_append, spoken_append, List.map_append, List.map_append,
      map_entry_spoken_dropReturn, List.length_map]
    by_cases empty : last = []
    · rw [if_pos empty, empty]
      rfl
    · rw [if_neg empty]
  rw [parse_eq_whole_iff, entries, told_congr same]

/-- Lines behind others say what they say alone, in later lines. -/
theorem told_append (front back : List (List Char)) :
    told (front ++ back) =
      ((told front).1 ++ (told back).1.map (moved front.length),
        (told front).2 ++ (told back).2.map (Notice.moved front.length)) := by
  have candidates (text : List Char × Nat) :
      stated (text.1, text.2 + front.length) = moved front.length (stated text) := rfl
  have notices (text : List Char × Nat) :
      unknownTag? (text.1, text.2 + front.length) =
        (unknownTag? text).map (Notice.moved front.length) := by
    rw [unknownTag?, unknownTag?, Option.map_map]
    rfl
  simp only [told, spoken_append, spoken_add, List.map_append, List.filterMap_append,
    List.filterMap_map, List.map_map, List.map_filterMap, Function.comp_def, candidates, notices]

/-- Two lists with a line feed between them say what both say, the second in later lines. -/
theorem parse_append_eq_whole_iff (first second : String)
    {found : List Candidate × List Notice} :
    parse (first ++ "\n" ++ second) = .whole found ↔
      ∃ front back, parse first = .whole front ∧ parse second = .whole back ∧
        found = (front.1 ++ back.1.map (moved (first.toList.count '\n' + 1)),
          front.2 ++ back.2.map (Notice.moved (first.toList.count '\n' + 1))) := by
  simp only [parse_eq_whole_iff_pieces, splitOn_append_line, List.forall_mem_append, told_append,
    length_splitOn]
  constructor
  · rintro ⟨⟨front, back⟩, rfl⟩
    exact ⟨_, _, ⟨front, rfl⟩, ⟨back, rfl⟩, rfl⟩
  · rintro ⟨_, _, ⟨front, rfl⟩, ⟨back, rfl⟩, rfl⟩
    exact ⟨⟨front, back⟩, rfl⟩

/-- A candidate as it may be written: the URL, spaces or tabulators, the tag in letters of either
case, and perhaps a return in front of the line feed. -/
structure Row where
  url : String
  kind : DocumentKind
  gap : List Char
  tag : List Char
  returns : Bool
  /-- The URL is one word. -/
  word : url ≠ "" ∧ ∀ c ∈ url.toList, isBlank c = false
  /-- The URL does not begin like a comment. -/
  noComment : url.toList.head? ≠ some '#'
  /-- There is something between the URL and the tag. -/
  apart : gap ≠ [] ∧ ∀ c ∈ gap, c = ' ' ∨ c = '\t'
  /-- The tag is that of the kind. -/
  named : lower tag = kind.tag.toList

namespace Row

/-- The characters of a row. -/
def chars (row : Row) : List Char :=
  row.url.toList ++ row.gap ++ row.tag ++ if row.returns then ['\r'] else []

/-- A list of rows, one a line; the last line may have no end. -/
def text (rows : List Row) (ended : Bool) : String :=
  String.ofList (['\n'].intercalate (rows.map chars) ++ if ended then ['\n'] else [])

/-- A row has two fields. -/
theorem fields_chars (row : Row) : fields row.chars = [row.url.toList, row.tag] := by
  have filled : row.url.toList ≠ [] ∧ row.tag ≠ [] := by
    refine ⟨by simpa using row.word.1, fun empty => ?_⟩
    have named := row.named
    rw [empty] at named
    exact row.kind.tag_ne_empty (String.toList_eq_nil_iff.mp named.symm)
  have plain : ∀ c ∈ row.url.toList ++ row.tag, isBlank c = false :=
    List.forall_mem_append.mpr ⟨row.word.2, DocumentKind.isBlank_of_lower_eq_tag row.named⟩
  have blank : ∀ c ∈ row.gap, isBlank c = true := by
    intro c mem
    rcases row.apart.2 c mem with rfl | rfl <;> rfl
  have words := fields_of_words filled plain row.apart.1 blank
  unfold chars
  split
  · rw [fields_append_cons rfl, words]
    rfl
  · rw [List.append_nil, words]

/-- A row says something. -/
theorem speaks_chars (row : Row) : Speaks row.chars := by
  cases shape : row.url.toList with
  | nil => exact absurd (String.toList_eq_nil_iff.mp shape) row.word.1
  | cons c rest =>
    have solid : isBlank c = false := row.word.2 c (shape ▸ List.mem_cons_self)
    have other := row.noComment
    rw [shape] at other
    obtain ⟨front, trimmed⟩ := exists_dropBothWhile_cons solid
      (rest ++ row.gap ++ row.tag ++ if row.returns then ['\r'] else [])
    have kept : trim row.chars = c :: front := by
      rw [chars, shape]
      exact trimmed
    rw [Speaks, kept]
    exact ⟨List.cons_ne_nil c front, other⟩

/-- A row is an entry. -/
theorem isEntry_chars (row : Row) : IsEntry row.chars :=
  .inr (.inr (by rw [fields_chars]; rfl))

/-- A row says its candidate. -/
theorem stated_chars (row : Row) (line : Nat) :
    stated (row.chars, line) = ⟨row.url, row.kind, line⟩ := by
  simp [stated, fields_chars, DocumentKind.ofTag?_of_lower_eq_tag row.named]

/-- There is nothing to report of a row. -/
theorem unknownTag?_chars (row : Row) (line : Nat) : unknownTag? (row.chars, line) = none := by
  simp [unknownTag?, fields_chars, DocumentKind.ofTag?_of_lower_eq_tag row.named,
    Option.filter_some]

/-- A row is one line. -/
theorem not_mem_chars (row : Row) : '\n' ∉ row.chars := by
  have blank : isBlank '\n' = true := rfl
  rw [chars, List.mem_append, List.mem_append, List.mem_append]
  rintro (((url | gap) | tag) | last)
  · rw [row.word.2 _ url] at blank
    cases blank
  · exact absurd (row.apart.2 _ gap) (by decide)
  · rw [DocumentKind.isBlank_of_lower_eq_tag row.named _ tag] at blank
    cases blank
  · split at last
    · exact absurd last (by decide)
    · exact absurd last List.not_mem_nil

/-- A list of rows is cut into them, and nothing but empty pieces is left. -/
theorem exists_splitOn_text (rows : List Row) (ended : Bool) :
    ∃ rest, (text rows ended).toList.splitOn '\n' = rows.map chars ++ rest ∧
      ∀ piece ∈ rest, piece = [] := by
  rw [text, String.toList_ofList]
  have none : ∀ piece ∈ rows.map chars, '\n' ∉ piece :=
    List.forall_mem_map.mpr fun row _ => row.not_mem_chars
  by_cases empty : rows = []
  · subst empty
    cases ended with
    | false => exact ⟨[[]], rfl, by simp⟩
    | true => exact ⟨[[], []], rfl, by simp⟩
  · have cut := List.splitOn_intercalate '\n' none (mt List.map_eq_nil_iff.mp empty)
    cases ended with
    | false => exact ⟨[], by simpa using cut, by simp⟩
    | true =>
      refine ⟨[[]], ?_, by simp⟩
      rw [if_pos rfl, List.splitOn_append_cons_self, cut]
      rfl

/-- Rows say their candidates. -/
theorem told_map_chars (rows : List Row) :
    told (rows.map chars) =
      ((rows.zipIdx 1).map fun (row, line) => ⟨row.url, row.kind, line⟩, []) := by
  have all : spoken 1 (rows.map chars) =
      (rows.zipIdx 1).map fun (row, line) => (row.chars, line) := by
    rw [spoken, List.zipIdx_map]
    refine List.filter_eq_self.mpr fun line mem => ?_
    obtain ⟨row, -, rfl⟩ := List.mem_map.mp mem
    exact decide_eq_true row.1.speaks_chars
  rw [told, all, List.map_map, List.filterMap_map]
  simp only [Function.comp_def, stated_chars, unknownTag?_chars, List.filterMap_none]

/-- Candidates that are written one a line are read back. -/
theorem parse_text (rows : List Row) (ended : Bool) :
    parse (text rows ended) =
      .whole ((rows.zipIdx 1).map fun (row, line) => ⟨row.url, row.kind, line⟩, []) := by
  obtain ⟨rest, cut, empty⟩ := exists_splitOn_text rows ended
  rw [parse_eq_whole_iff_pieces, cut]
  constructor
  · refine List.forall_mem_append.mpr ⟨?_, fun piece mem => ?_⟩
    · exact List.forall_mem_map.mpr fun row _ => row.isEntry_chars
    · rw [empty piece mem]
      exact isEntry_nil
  · have nothing : spoken 1 rest = [] := by
      refine List.filter_eq_nil_iff.mpr fun line mem => ?_
      have silent := empty line.1 (List.fst_mem_of_mem_zipIdx mem)
      simp [silent, Speaks, trim, dropBothWhile, dropEndWhile]
    rw [told_append, told_map_chars, told, nothing]
    simp

end Row

/-- A list is read exactly if every line that says something has at most two fields; else the first
line with more is reported, with its number and how many fields it has, behind what there is to report
of the lines in front of it. What is read is one candidate for each line that says something, in order
and with the number of its line, so that the numbers increase, and a notice for each tag that no kind
has, in the order of the lines. Two lists with a line feed between them are read exactly if both are,
as the candidates and notices of the first and those of the second, whose lines come behind those of
the first. A list of candidates that is written one a line, in whatever of these ways, is read back.
-/
theorem parse_line_by_line :
    (∀ text : String, (∃ found, parse text = .whole found) ↔
      ∀ line ∈ lines text.toList, Speaks line → (fields line).length ≤ 2) ∧
    (∀ (text : String) (error : CandidateError) (notices : List Notice),
      parse text = .broken error notices ↔
        ∃ good bad rest, lines text.toList = good ++ bad :: rest ∧
          (∀ line ∈ good, Speaks line → (fields line).length ≤ 2) ∧
          Speaks bad ∧ 2 < (fields bad).length ∧
          error = .invalidLine (good.length + 1)
            ("expected '<url> [tag]', got " ++ toString (fields bad).length ++ " fields") ∧
          notices = (spoken 1 good).filterMap unknownTag?) ∧
    (∀ (text : String) (candidates : List Candidate) (notices : List Notice),
      parse text = .whole (candidates, notices) →
        candidates = (spoken 1 (lines text.toList)).map stated ∧
        (candidates.map (·.line)).Pairwise (· < ·) ∧
        notices = (spoken 1 (lines text.toList)).filterMap unknownTag?) ∧
    (∀ (first second : String) (found : List Candidate × List Notice),
      parse (first ++ "\n" ++ second) = .whole found ↔
        ∃ front back, parse first = .whole front ∧ parse second = .whole back ∧
          found = (front.1 ++ back.1.map (moved (first.toList.count '\n' + 1)),
            front.2 ++ back.2.map (Notice.moved (first.toList.count '\n' + 1)))) ∧
    ∀ (rows : List Row) (ended : Bool), parse (Row.text rows ended) =
      .whole ((rows.zipIdx 1).map fun (row, line) => ⟨row.url, row.kind, line⟩, []) := by
  refine ⟨fun text => ?_, ?_, ?_, ?_, Row.parse_text⟩
  · simp only [parse_eq_whole_iff, exists_and_left, exists_eq, and_true, isEntry_iff]
  · exact fun text error notices => parse_eq_broken_iff
  · intro text candidates notices read
    obtain ⟨-, found⟩ := parse_eq_whole_iff.mp read
    obtain ⟨rfl, rfl⟩ := Prod.mk.inj found
    refine ⟨rfl, ?_, rfl⟩
    rw [List.map_map]
    exact pairwise_spoken 1 (lines text.toList)
  · exact fun first second found => parse_append_eq_whole_iff first second

/-- A list with comments, blank lines, both line ends and a tag that no kind has, and a list with such
a tag in front of a line of three fields. -/
theorem parse_line_by_line_mixed :
    parse "# seeds\r\n\nhttp://[::1]/ SiteMap\r\nhttp://[::1]/a\tfeed" =
        .whole ([⟨"http://[::1]/", .sitemap, 3⟩, ⟨"http://[::1]/a", .unclassified, 4⟩],
          [.unknownTag 4 "feed"]) ∧
      [3, 4].Pairwise (· < ·) ∧
      parse "a feed\n\nb none c\nd e f g" =
        .broken (.invalidLine 3 "expected '<url> [tag]', got 3 fields")
          [.unknownTag 1 "feed"] := by
  obtain ⟨-, reports, gives, -, -⟩ := parse_line_by_line
  have read : parse "# seeds\r\n\nhttp://[::1]/ SiteMap\r\nhttp://[::1]/a\tfeed" =
      .whole ([⟨"http://[::1]/", .sitemap, 3⟩, ⟨"http://[::1]/a", .unclassified, 4⟩],
        [.unknownTag 4 "feed"]) := by
    decide +kernel
  obtain ⟨-, increase, -⟩ := gives _ _ _ read
  refine ⟨read, increase, (reports _ _ _).mpr ?_⟩
  exact ⟨["a feed".toList, []], "b none c".toList, ["d e f g".toList], by decide, by decide,
    by decide, by decide, by decide, by decide +kernel⟩

end Candidate

end CrawlFrontier
