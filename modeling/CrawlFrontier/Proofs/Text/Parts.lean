import CrawlFrontier.Text.Blank
import CrawlFrontier.Text.Percent
import Mathlib.Data.Bool.AllAny
import Mathlib.Data.List.TakeDrop
import Mathlib.Data.List.TakeWhile

/-!
# Taking texts apart

Cutting a text at a mark undoes putting the mark between two texts, if the mark stands in the right
one of them alone. Escaping leaves no character that must be escaped and does nothing to a text
without one.
-/

namespace CrawlFrontier.Text

/-- A character is none of those that a test tells from it. -/
theorem not_mem_of_test {p : Char → Bool} {told : Bool} {marks : List Char}
    (all : ∀ d ∈ marks, p d = !told) {c : Char} (passed : p c = told) : c ∉ marks := by
  intro mem
  have other := all c mem
  rw [passed] at other
  cases told <;> cases other

/-- Characters that pass a test end in front of the first that does not. -/
theorem span_append {p : Char → Bool} {front : List Char} (passing : ∀ c ∈ front, p c = true)
    {rest : List Char} (stop : ∀ c ∈ rest.head?, p c = false) :
    (front ++ rest).span p = (front, rest) := by
  rw [List.span_eq_takeWhile_dropWhile, List.takeWhile_append_of_pos passing,
    List.dropWhile_append_of_pos passing]
  cases rest with
  | nil => simp
  | cons c rest =>
    have stopped : p c = false := stop c rfl
    simp [stopped]

/-- Characters that all pass a test end with the text. -/
theorem span_of_forall {p : Char → Bool} {text : List Char} (passing : ∀ c ∈ text, p c = true) :
    text.span p = (text, []) := by
  conv_lhs => rw [← List.append_nil text]
  exact span_append passing (by simp)

/-- A text stays as it is if none of its characters may be dropped at its beginning. -/
theorem dropWhile_of_forall {p : Char → Bool} {text : List Char}
    (kept : ∀ c ∈ text, p c = false) : text.dropWhile p = text := by
  cases text with
  | nil => rfl
  | cons c text =>
    have first := kept c List.mem_cons_self
    rw [List.dropWhile_cons_of_neg (by simp [first])]

/-- A text stays as it is if none of its characters may be dropped at its end. -/
theorem dropEndWhile_of_forall {p : Char → Bool} {text : List Char}
    (kept : ∀ c ∈ text, p c = false) : dropEndWhile p text = text := by
  have turned : ∀ c ∈ text.reverse, p c = false := fun c mem => kept c (List.mem_reverse.mp mem)
  rw [dropEndWhile, dropWhile_of_forall turned, List.reverse_reverse]

/-- A text stays as it is if none of its characters may be dropped at its ends. -/
theorem dropBothWhile_of_forall {p : Char → Bool} {text : List Char}
    (kept : ∀ c ∈ text, p c = false) : dropBothWhile p text = text := by
  rw [dropBothWhile, dropWhile_of_forall kept, dropEndWhile_of_forall kept]

/-- Characters that may be dropped at the ends are dropped, whatever stands between them. -/
theorem dropBothWhile_append {p : Char → Bool} {front back : List Char}
    (first : ∀ c ∈ front, p c = true) (last : ∀ c ∈ back, p c = true) (text : List Char) :
    dropBothWhile p (front ++ text ++ back) = dropBothWhile p text := by
  have turned : ∀ c ∈ back.reverse, p c = true := fun c mem => last c (List.mem_reverse.mp mem)
  have nothing : back.dropWhile p = [] := List.dropWhile_eq_nil_iff.mpr last
  rw [dropBothWhile, dropBothWhile, List.append_assoc, List.dropWhile_append_of_pos first,
    List.dropWhile_append, dropEndWhile, dropEndWhile]
  split
  · next none =>
    rw [nothing, List.isEmpty_iff.mp none]
  · rw [List.reverse_append, List.dropWhile_append_of_pos turned]

/-- Behind a character that may not be dropped the end of a text is dropped as if it stood alone. -/
theorem dropEndWhile_append_cons {p : Char → Bool} {c : Char} (kept : p c = false)
    (front back : List Char) :
    dropEndWhile p (front ++ c :: back) = front ++ c :: dropEndWhile p back := by
  have stays (rest : List Char) : (c :: rest).dropWhile p = c :: rest :=
    List.dropWhile_cons_of_neg (by simp [kept])
  have turned : (front ++ c :: back).reverse = back.reverse ++ c :: front.reverse := by simp
  rw [dropEndWhile, dropEndWhile, turned, List.dropWhile_append, stays]
  split
  · next none =>
    rw [List.isEmpty_iff.mp none]
    simp
  · simp

/-- On both sides of a character that may not be dropped the ends of a text are dropped as if the
sides stood alone. -/
theorem dropBothWhile_append_cons {p : Char → Bool} {c : Char} (kept : p c = false)
    (front back : List Char) :
    dropBothWhile p (front ++ c :: back) = front.dropWhile p ++ c :: dropEndWhile p back := by
  have stays : (c :: back).dropWhile p = c :: back := List.dropWhile_cons_of_neg (by simp [kept])
  have begun : (front ++ c :: back).dropWhile p = front.dropWhile p ++ c :: back := by
    rw [List.dropWhile_append, stays]
    split
    · next none =>
      rw [List.isEmpty_iff.mp none]
      rfl
    · rfl
  rw [dropBothWhile, begun, dropEndWhile_append_cons kept]

/-- A text keeps its first character if that may not be dropped. -/
theorem exists_dropBothWhile_cons {p : Char → Bool} {c : Char} (kept : p c = false)
    (rest : List Char) : ∃ front, dropBothWhile p (c :: rest) = c :: front :=
  ⟨_, dropBothWhile_append_cons kept [] rest⟩

/-- What is dropped at the ends of a text may be dropped. -/
theorem exists_eq_append_dropBothWhile (p : Char → Bool) (text : List Char) :
    ∃ front back, text = front ++ dropBothWhile p text ++ back ∧
      (∀ c ∈ front, p c = true) ∧ ∀ c ∈ back, p c = true := by
  refine ⟨text.takeWhile p, ((text.dropWhile p).reverse.takeWhile p).reverse, ?_, ?_, ?_⟩
  · have last : text.dropWhile p = dropEndWhile p (text.dropWhile p) ++
        ((text.dropWhile p).reverse.takeWhile p).reverse := by
      rw [dropEndWhile, ← List.reverse_append, List.takeWhile_append_dropWhile,
        List.reverse_reverse]
    conv_lhs => rw [← List.takeWhile_append_dropWhile (p := p) (l := text), last]
    rw [dropBothWhile, List.append_assoc]
  · exact fun c mem => List.mem_takeWhile_imp mem
  · exact fun c mem => List.mem_takeWhile_imp (List.mem_reverse.mp mem)

/-- The ends of a text are dropped once. -/
theorem dropBothWhile_idempotent (p : Char → Bool) (text : List Char) :
    dropBothWhile p (dropBothWhile p text) = dropBothWhile p text := by
  obtain ⟨front, back, parts, first, last⟩ := exists_eq_append_dropBothWhile p text
  conv_rhs => rw [parts, dropBothWhile_append first last]

/-- A text without the mark is not cut. -/
theorem splitFirst_of_not_mem {mark : Char} {text : List Char} (absent : mark ∉ text) :
    splitFirst mark text = (text, none) := by
  have whole : text.span (· ≠ mark) = (text, []) :=
    span_of_forall fun c mem => by simpa using ne_of_mem_of_not_mem mem absent
  rw [splitFirst, whole]

/-- A text is cut at the first mark. -/
theorem splitFirst_append {mark : Char} {front : List Char} (absent : mark ∉ front)
    (rest : List Char) : splitFirst mark (front ++ mark :: rest) = (front, some rest) := by
  have cut : (front ++ mark :: rest).span (· ≠ mark) = (front, mark :: rest) :=
    span_append (fun c mem => by simpa using ne_of_mem_of_not_mem mem absent) (by simp)
  rw [splitFirst, cut]

/-- Characters other than the mark stay in front when what follows them is cut. -/
theorem splitFirst_append_left {mark : Char} {front : List Char} (absent : mark ∉ front)
    (rest : List Char) :
    splitFirst mark (front ++ rest) =
      (front ++ (splitFirst mark rest).1, (splitFirst mark rest).2) := by
  by_cases present : mark ∈ rest
  · obtain ⟨first, last, rfl, none⟩ := List.eq_append_cons_of_mem present
    have absentBoth : mark ∉ front ++ first := by simp [absent, none]
    rw [← List.append_assoc, splitFirst_append absentBoth, splitFirst_append none]
  · have absentBoth : mark ∉ front ++ rest := by simp [absent, present]
    rw [splitFirst_of_not_mem absentBoth, splitFirst_of_not_mem present]

/-- A text without the mark is not cut from behind. -/
theorem splitLast?_of_not_mem {mark : Char} {text : List Char} (absent : mark ∉ text) :
    splitLast? mark text = none := by
  have whole : text.reverse.span (· ≠ mark) = (text.reverse, []) :=
    span_of_forall fun c mem => by
      simpa using ne_of_mem_of_not_mem (List.mem_reverse.mp mem) absent
  rw [splitLast?, whole]

/-- A text is cut from behind at the last mark. -/
theorem splitLast?_append {mark : Char} {back : List Char} (absent : mark ∉ back)
    (front : List Char) : splitLast? mark (front ++ mark :: back) = some (front, back) := by
  have turned : (front ++ mark :: back).reverse = back.reverse ++ mark :: front.reverse := by simp
  have cut : (back.reverse ++ mark :: front.reverse).span (· ≠ mark)
      = (back.reverse, mark :: front.reverse) :=
    span_append (fun c mem => by simpa using ne_of_mem_of_not_mem (List.mem_reverse.mp mem) absent)
      (by simp)
  rw [splitLast?, turned, cut]
  simp

/-- What is read on both sides of the last mark stands in the text. -/
theorem eq_of_splitLast?_eq_some {mark : Char} {text front back : List Char}
    (found : splitLast? mark text = some (front, back)) : text = front ++ mark :: back := by
  by_cases present : mark ∈ text.reverse
  · obtain ⟨last, first, turned, absent⟩ := List.eq_append_cons_of_mem present
    have shape : text = first.reverse ++ mark :: last.reverse := by
      have same := congrArg List.reverse turned
      simpa using same
    rw [shape, splitLast?_append (by simpa using absent)] at found
    obtain ⟨rfl, rfl⟩ := found
    exact shape
  · rw [splitLast?_of_not_mem (by simpa using present)] at found
    cases found

/-- The pieces of a text hold its characters, the marks between them left out. -/
theorem mem_of_mem_splitOnP {p : Char → Bool} {text piece : List Char}
    (found : piece ∈ text.splitOnP p) {c : Char} (mem : c ∈ piece) : c ∈ text ∧ p c = false := by
  induction text generalizing piece with
  | nil =>
    rw [List.splitOnP_nil, List.mem_singleton] at found
    rw [found] at mem
    cases mem
  | cons d text ih =>
    rw [List.splitOnP_cons_eq_if_modifyHead] at found
    split at found
    · rcases List.mem_cons.mp found with rfl | found
      · cases mem
      · have inside := ih found mem
        exact ⟨List.mem_cons_of_mem d inside.1, inside.2⟩
    · next other =>
      cases pieces : text.splitOnP p with
      | nil => exact absurd pieces (List.splitOnP_ne_nil p text)
      | cons first rest =>
        rw [pieces, List.modifyHead_cons] at found
        rw [pieces] at ih
        rcases List.mem_cons.mp found with rfl | found
        · rcases List.mem_cons.mp mem with rfl | mem
          · exact ⟨List.mem_cons_self, by simpa using other⟩
          · have inside := ih List.mem_cons_self mem
            exact ⟨List.mem_cons_of_mem d inside.1, inside.2⟩
        · have inside := ih (List.mem_cons_of_mem first found) mem
          exact ⟨List.mem_cons_of_mem d inside.1, inside.2⟩

/-- No piece of a text holds the mark that it was cut at. -/
theorem not_mem_of_mem_splitOn {mark : Char} {text piece : List Char}
    (found : piece ∈ text.splitOn mark) : mark ∉ piece := by
  intro mem
  rw [List.splitOn_eq_splitOnP] at found
  have other := (mem_of_mem_splitOnP found mem).2
  simp at other

/-- What stands in pieces put together is a mark between them or stands in a piece. -/
theorem mem_intercalate {mark c : Char} {pieces : List (List Char)}
    (mem : c ∈ [mark].intercalate pieces) : c = mark ∨ ∃ piece ∈ pieces, c ∈ piece := by
  induction pieces with
  | nil => cases mem
  | cons piece pieces ih =>
    cases pieces with
    | nil =>
      rw [List.intercalate_singleton] at mem
      exact .inr ⟨piece, List.mem_cons_self, mem⟩
    | cons next pieces =>
      rw [List.intercalate_cons_cons, List.mem_append, List.mem_append, List.mem_singleton] at mem
      rcases mem with (mem | rfl) | mem
      · exact .inr ⟨piece, List.mem_cons_self, mem⟩
      · exact .inl rfl
      · refine (ih mem).imp_right fun ⟨other, inside, present⟩ => ?_
        exact ⟨other, List.mem_cons_of_mem piece inside, present⟩

/-- Pieces that were put together with a mark are cut apart again, if no character of theirs passes
the test that the mark passes. -/
theorem splitOnP_intercalate {p : Char → Bool} {mark : Char} (passes : p mark = true)
    {pieces : List (List Char)} (plain : ∀ piece ∈ pieces, ∀ c ∈ piece, p c = false)
    (nonempty : pieces ≠ []) : ([mark].intercalate pieces).splitOnP p = pieces := by
  induction pieces with
  | nil => exact absurd rfl nonempty
  | cons piece pieces ih =>
    have first := plain piece List.mem_cons_self
    cases pieces with
    | nil => rw [List.intercalate_singleton, List.splitOnP_eq_singleton first]
    | cons next pieces =>
      have rest := ih (fun other mem => plain other (List.mem_cons_of_mem piece mem))
        (List.cons_ne_nil next pieces)
      rw [List.intercalate_cons_cons, List.append_assoc, List.singleton_append,
        List.splitOnP_append_cons_of_forall_mem first mark passes, rest]

/-- Reading a list item by item succeeds if every item is read. -/
theorem mapM_eq_some_iff {α β : Type} {f : α → Option β} {items : List α} {out : List β} :
    items.mapM f = some out ↔ items.map f = out.map some := by
  induction items generalizing out with
  | nil => cases out <;> simp
  | cons item items ih =>
    cases out with
    | nil => simp [List.mapM_cons, Option.bind_eq_some_iff]
    | cons first rest => simp [List.mapM_cons, Option.bind_eq_some_iff, ih]

/-- The characters by which bytes are written. -/
def percentAlphabet : List Char :=
  ['%', '0', '1', '2', '3', '4', '5', '6', '7', '8', '9', 'A', 'B', 'C', 'D', 'E', 'F']

/-- A byte is written by characters of the alphabet. -/
theorem percentByte_subset (b : UInt8) : percentByte b ⊆ percentAlphabet := by
  have digit : ∀ n ∈ List.range 16, upperHexDigit n ∈ percentAlphabet := by decide
  have bound : b.toNat < 256 := b.toNat_lt
  have high : upperHexDigit (b.toNat / 16) ∈ percentAlphabet :=
    digit _ (List.mem_range.mpr (by omega))
  have low : upperHexDigit (b.toNat % 16) ∈ percentAlphabet :=
    digit _ (List.mem_range.mpr (by omega))
  intro c mem
  simp only [percentByte, List.mem_cons, List.not_mem_nil, or_false] at mem
  rcases mem with rfl | rfl | rfl
  · decide
  · exact high
  · exact low

/-- An escaped text holds nothing but characters that need no escape and written bytes. -/
theorem mem_percentEncode {escaped : Char → Bool} {text : List Char} {c : Char}
    (mem : c ∈ percentEncode escaped text) :
    (c ∈ text ∧ escaped c = false) ∨ c ∈ percentAlphabet := by
  obtain ⟨d, present, inside⟩ := List.mem_flatMap.mp mem
  unfold percentChar at inside
  split at inside
  · obtain ⟨b, -, written⟩ := List.mem_flatMap.mp inside
    exact .inr (percentByte_subset b written)
  · next free =>
    rw [List.mem_singleton.mp inside]
    exact .inl ⟨present, by simpa using free⟩

/-- In an escaped text nothing must be escaped, if what stands for a byte needs no escape. -/
theorem percentEncode_clean {escaped : Char → Bool}
    (free : ∀ d ∈ percentAlphabet, escaped d = false) {text : List Char} {c : Char}
    (mem : c ∈ percentEncode escaped text) : escaped c = false := by
  rcases mem_percentEncode mem with ⟨-, clean⟩ | written
  · exact clean
  · exact free c written

/-- A character that must be escaped is written as its bytes. -/
theorem percentEncode_cons_of_escaped {escaped : Char → Bool} {c : Char}
    (escape : escaped c = true) (text : List Char) :
    percentEncode escaped (c :: text)
      = (String.utf8EncodeChar c).flatMap percentByte ++ percentEncode escaped text := by
  rw [percentEncode, List.flatMap_cons, percentChar, if_pos escape]
  rfl

/-- A character that needs no escape is written as it is. -/
theorem percentEncode_cons_of_free {escaped : Char → Bool} {c : Char} (free : escaped c = false)
    (text : List Char) : percentEncode escaped (c :: text) = c :: percentEncode escaped text := by
  rw [percentEncode, List.flatMap_cons, percentChar, if_neg (by simp [free])]
  rfl

/-- A text without characters to escape stays as it is. -/
theorem percentEncode_of_clean {escaped : Char → Bool} {text : List Char}
    (clean : ∀ c ∈ text, escaped c = false) : percentEncode escaped text = text := by
  induction text with
  | nil => rfl
  | cons c text ih =>
    have rest := ih fun d mem => clean d (List.mem_cons_of_mem c mem)
    rw [percentEncode_cons_of_free (clean c List.mem_cons_self), rest]

/-- A text without percent signs stands for its own bytes. -/
theorem percentDecode_of_not_mem {text : List Char} (absent : '%' ∉ text) :
    percentDecode text = utf8 text := by
  induction text with
  | nil => rfl
  | cons c text ih =>
    obtain ⟨other, rest⟩ := not_or.mp (List.mem_cons.not.mp absent)
    rw [percentDecode_cons_of_ne (Ne.symm other), ih rest]
    rfl

end CrawlFrontier.Text
