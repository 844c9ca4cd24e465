import CrawlFrontier.Idna.Punycode
import CrawlFrontier.Proofs.Text.Parts
import Mathlib.Data.List.InsertIdx

/-!
# Labels in ASCII are read back

Main statement: a label that was written in ASCII letters is read as it was. The numbers are read
back one by one; putting the characters in again in ascending order goes through the texts that hold
all characters up to a certain one, of which the last is the label.
-/

namespace CrawlFrontier.Idna.Punycode

open CrawlFrontier.Text

/-- The digits of numbers. -/
def digits : List Char := (List.range base).map digit

/-- A value below thirty-six has a digit. -/
theorem digit_mem_digits {n : Nat} (bound : n < base) : digit n ∈ digits :=
  List.mem_map_of_mem (List.mem_range.mpr bound)

/-- The digit that is written in front of a larger number does not end it. -/
theorem continued_bounds {t n : Nat} (low : 1 ≤ t) (high : t ≤ 26) :
    t ≤ t + (n - t) % (base - t) ∧ t + (n - t) % (base - t) < base := by
  have small : (n - t) % (base - t) < base - t := Nat.mod_lt _ (by unfold base; omega)
  unfold base at *
  omega

/-- A number is written by digits alone. -/
theorem mem_writeNumber {place bias n : Nat} {c : Char} (mem : c ∈ writeNumber place bias n) :
    c ∈ digits := by
  obtain ⟨low, high⟩ := threshold_bounds place bias
  fun_induction writeNumber place bias n with
  | case1 place n t small =>
    rw [List.mem_singleton.mp mem]
    exact digit_mem_digits (by unfold base; omega)
  | case2 place n t large ih =>
    rcases List.mem_cons.mp mem with rfl | mem
    · exact digit_mem_digits (continued_bounds low high).2
    · obtain ⟨low, high⟩ := threshold_bounds (place + base) bias
      exact ih mem low high

/-- A number that was written is read back, whatever follows it. -/
theorem readNumber_writeNumber (place bias n : Nat) (rest : List Char) :
    readNumber place bias (writeNumber place bias n ++ rest) = some (n, rest) := by
  obtain ⟨low, high⟩ := threshold_bounds place bias
  fun_induction writeNumber place bias n with
  | case1 place n t small =>
    have value : digitValue? (digit n) = some n := digitValue?_digit (by omega)
    simp only [List.singleton_append, readNumber, value, Option.bind_eq_bind, Option.bind_some]
    exact if_pos small
  | case2 place n t large ih =>
    obtain ⟨least, bound⟩ : t ≤ t + (n - t) % (base - t) ∧ t + (n - t) % (base - t) < base :=
      continued_bounds low high
    have value : digitValue? (digit (t + (n - t) % (base - t))) = some (t + (n - t) % (base - t)) :=
      digitValue?_digit bound
    obtain ⟨low', high'⟩ := threshold_bounds (place + base) bias
    have higher := ih low' high'
    have whole : (n - t) % (base - t) + (base - t) * ((n - t) / (base - t)) = n - t :=
      Nat.mod_add_div _ _
    have going : ¬ t + (n - t) % (base - t) < t := by omega
    simp only [List.cons_append, readNumber, value, Option.bind_eq_bind, Option.bind_some, higher]
    refine (if_neg going).trans ?_
    simp only [Option.some.injEq, Prod.mk.injEq, and_true]
    change t + (n - t) % (base - t) + (base - t) * ((n - t) / (base - t)) = n
    omega

/-- Numbers are written by digits alone. -/
theorem mem_writeNumbers {bias count : Nat} {first : Bool} {numbers : List Nat} {c : Char}
    (mem : c ∈ writeNumbers bias count first numbers) : c ∈ digits := by
  induction numbers generalizing bias count first with
  | nil => cases mem
  | cons n numbers ih =>
    rcases List.mem_append.mp mem with mem | mem
    · exact mem_writeNumber mem
    · exact ih mem

/-- No number is written by nothing. -/
theorem writeNumber_ne_nil (place bias n : Nat) : writeNumber place bias n ≠ [] := by
  rw [writeNumber]
  split <;> simp

/-- Numbers that were written are read back. -/
theorem readNumbers_writeNumbers (bias count : Nat) (first : Bool) (numbers : List Nat) :
    readNumbers bias count first (writeNumbers bias count first numbers) = some numbers := by
  induction numbers generalizing bias count first with
  | nil => simp [writeNumbers, readNumbers]
  | cons n numbers ih =>
    have filled : (writeNumber base bias n ++
        writeNumbers (adapt n (count + 1) first) (count + 1) false numbers).isEmpty = false := by
      simp [writeNumber_ne_nil]
    have next := readNumber_writeNumber base bias n
      (writeNumbers (adapt n (count + 1) first) (count + 1) false numbers)
    rw [writeNumbers, readNumbers, filled]
    simp only [Bool.false_eq_true, if_false]
    split
    · next missing => rw [next] at missing; cases missing
    · next m rest found =>
      rw [next] at found
      cases found
      rw [ih]
      rfl

/-- The order in which characters are put in: by the character, then by its place in the label. -/
def Before (a b : Char × Nat) : Prop :=
  a.1.toNat < b.1.toNat ∨ (a.1 = b.1 ∧ a.2 < b.2)

/-- The order of characters is that of their code points. -/
theorem char_le_iff {a b : Char} : a ≤ b ↔ a.toNat ≤ b.toNat := Iff.rfl

/-- Of characters in order the one with the earlier place is put in first. -/
theorem Before.of_le {a b : Char × Nat} (small : a.1 ≤ b.1) (earlier : a.2 < b.2) : Before a b := by
  by_cases same : a.1 = b.1
  · exact .inr ⟨same, earlier⟩
  · have different : a.1.toNat ≠ b.1.toNat := mt Char.toNat_inj.mp same
    exact .inl (Nat.lt_of_le_of_ne (char_le_iff.mp small) different)

/-- Of two characters the one that is put in first is not the greater one. -/
theorem Before.le {a b : Char × Nat} (before : Before a b) : a.1 ≤ b.1 := by
  rcases before with less | ⟨same, -⟩
  · exact char_le_iff.mpr (Nat.le_of_lt less)
  · exact char_le_iff.mpr (Nat.le_of_eq (congrArg Char.toNat same))

/-- Sorting by the character keeps the order of places among equal characters. -/
theorem pairwise_before_mergeSort {entries : List (Char × Nat)}
    (ordered : entries.Pairwise (·.2 < ·.2)) :
    (entries.mergeSort fun a b => a.1 ≤ b.1).Pairwise Before := by
  have trans (a b c : Char × Nat) :
      decide (a.1 ≤ b.1) → decide (b.1 ≤ c.1) → decide (a.1 ≤ c.1) := by
    simp only [decide_eq_true_eq, char_le_iff]
    omega
  have total (a b : Char × Nat) : decide (a.1 ≤ b.1) || decide (b.1 ≤ a.1) := by
    simp only [Bool.or_eq_true, decide_eq_true_eq, char_le_iff]
    omega
  induction entries with
  | nil => simp
  | cons entry entries ih =>
    obtain ⟨first, later⟩ := List.pairwise_cons.mp ordered
    obtain ⟨front, back, whole, parts, less⟩ := List.mergeSort_cons trans total entry entries
    have sorted := List.pairwise_mergeSort trans total (entry :: entries)
    have rest := ih later
    rw [whole] at sorted ⊢
    rw [parts] at rest
    obtain ⟨frontRest, backRest, crossRest⟩ := List.pairwise_append.mp rest
    obtain ⟨-, afterEntry, -⟩ := List.pairwise_append.mp sorted
    have inFront (other : Char × Nat) (mem : other ∈ front) : Before other entry := by
      have smaller := less other mem
      simp only [Bool.not_eq_true', decide_eq_false_iff_not, char_le_iff] at smaller
      exact .inl (by omega)
    have inBack (other : Char × Nat) (mem : other ∈ back) : Before entry other := by
      have sortedMember : other ∈ entries.mergeSort fun a b => decide (a.1 ≤ b.1) := by
        rw [parts]
        exact List.mem_append_right front mem
      have member : other ∈ entries := List.mem_mergeSort.mp sortedMember
      have least := (List.pairwise_cons.mp afterEntry).1 other mem
      exact .of_le (of_decide_eq_true least) (first other member)
    refine List.pairwise_append.mpr ⟨frontRest, List.pairwise_cons.mpr ⟨inBack, backRest⟩, ?_⟩
    intro a inside b mem
    rcases List.mem_cons.mp mem with rfl | mem
    · exact inFront a inside
    · exact crossRest a inside b mem

/-- A character with its place among those that are there when it is put in. -/
def insertion (text : List Char) (entry : Char × Nat) : Insertion :=
  ⟨entry.1, (text.take entry.2).countP (· ≤ entry.1)⟩

/-- The character of an insertion. -/
theorem insertion_char (text : List Char) (entry : Char × Nat) :
    (insertion text entry).char = entry.1 := rfl

/-- The text without the characters that are still to be put in. -/
def without (text : List Char) (entries : List (Char × Nat)) : List Char :=
  (text.zipIdx.filter fun entry => entry ∉ entries).map (·.1)

/-- The characters that are still to be put in, in order: each comes after all that are there. -/
structure Pending (text : List Char) (entries : List (Char × Nat)) : Prop where
  /-- Each of them stands in the text. -/
  member : ∀ entry ∈ entries, entry ∈ text.zipIdx
  /-- They are in order. -/
  ordered : entries.Pairwise Before
  /-- All others come before them. -/
  after : ∀ entry ∈ text.zipIdx, entry ∉ entries → ∀ other ∈ entries, Before entry other

/-- No character comes before itself. -/
theorem not_before_self (entry : Char × Nat) : ¬ Before entry entry := by
  rintro (less | ⟨-, less⟩) <;> omega

/-- Of two characters at most one comes before the other. -/
theorem Before.asymm {a b : Char × Nat} (before : Before a b) : ¬ Before b a := by
  rcases before with less | ⟨same, less⟩ <;> rintro (other | ⟨equal, other⟩)
  · omega
  · rw [equal] at less
    omega
  · rw [same] at other
    omega
  · omega

/-- If the first of the characters is put in, the others are still in order. -/
theorem Pending.tail {text : List Char} {entry : Char × Nat} {entries : List (Char × Nat)}
    (pending : Pending text (entry :: entries)) : Pending text entries where
  member other mem := pending.member other (List.mem_cons_of_mem entry mem)
  ordered := (List.pairwise_cons.mp pending.ordered).2
  after other mem absent later inside := by
    by_cases same : other = entry
    · rw [same]
      exact (List.pairwise_cons.mp pending.ordered).1 later inside
    · have out : other ∉ entry :: entries := by simp [same, absent]
      exact pending.after other mem out later (List.mem_cons_of_mem entry inside)

/-- The characters of a text with their places are those in front of one of them, it and those
behind it. -/
theorem zipIdx_split {text : List Char} {c : Char} {i : Nat} (mem : (c, i) ∈ text.zipIdx) :
    text.zipIdx = (text.take i).zipIdx ++ (c, i) :: (text.drop (i + 1)).zipIdx (i + 1) := by
  obtain ⟨bound, here⟩ := List.mem_zipIdx' mem
  have parts : text = text.take i ++ c :: text.drop (i + 1) := by
    rw [here, List.getElem_cons_drop, List.take_append_drop]
  have length : (text.take i).length = i := List.length_take_of_le (Nat.le_of_lt bound)
  conv_lhs => rw [parts, List.zipIdx_append, length]
  simp

/-- A character that is put in is none of those at other places. -/
theorem filter_not_mem_cons {list entries : List (Char × Nat)} {entry : Char × Nat}
    (apart : ∀ other ∈ list, other.2 ≠ entry.2) :
    list.filter (· ∉ entry :: entries) = list.filter (· ∉ entries) := by
  refine List.filter_congr fun other inside => ?_
  have different : other ≠ entry := fun same => apart other inside (congrArg Prod.snd same)
  simp [different]

/-- Of the characters in front of the first that is put in, those are there that are not greater. -/
theorem Pending.not_mem_iff {text : List Char} {entry : Char × Nat} {entries : List (Char × Nat)}
    (pending : Pending text (entry :: entries)) {other : Char × Nat} (member : other ∈ text.zipIdx)
    (less : other.2 < entry.2) : other ∉ entries ↔ other.1 ≤ entry.1 := by
  constructor
  · intro absent
    have different : other ≠ entry := by
      rintro rfl
      exact Nat.lt_irrefl _ less
    have out : other ∉ entry :: entries := by simp [different, absent]
    exact (pending.after other member out entry List.mem_cons_self).le
  · intro small later
    have least := (List.pairwise_cons.mp pending.ordered).1 other later
    exact (Before.of_le small less).asymm least

/-- The first of the characters goes where its insertion says. -/
theorem Pending.insert {text : List Char} {c : Char} {i : Nat} {entries : List (Char × Nat)}
    (pending : Pending text ((c, i) :: entries)) :
    ∃ front back, without text ((c, i) :: entries) = front ++ back ∧
      without text entries = front ++ c :: back ∧
      front.length = (insertion text (c, i)).place := by
  have split := zipIdx_split (pending.member (c, i) List.mem_cons_self)
  have entryOut : (c, i) ∉ entries := fun inside =>
    not_before_self _ ((List.pairwise_cons.mp pending.ordered).1 _ inside)
  have inFront : ∀ other ∈ (text.take i).zipIdx, other.2 < i := by
    intro other inside
    have less := List.snd_lt_of_mem_zipIdx inside
    simp only [List.length_take] at less
    omega
  have inBack : ∀ other ∈ (text.drop (i + 1)).zipIdx (i + 1), i < other.2 := by
    intro other inside
    have le := List.le_snd_of_mem_zipIdx inside
    omega
  refine ⟨((text.take i).zipIdx.filter (· ∉ entries)).map (·.1),
    (((text.drop (i + 1)).zipIdx (i + 1)).filter (· ∉ entries)).map (·.1), ?_, ?_, ?_⟩
  · rw [without, split, List.filter_append, List.filter_cons_of_neg (by simp),
      filter_not_mem_cons fun other inside => Nat.ne_of_lt (inFront other inside),
      filter_not_mem_cons fun other inside => Nat.ne_of_gt (inBack other inside), List.map_append]
  · rw [without, split, List.filter_append, List.filter_cons_of_pos (by simpa using entryOut),
      List.map_append, List.map_cons]
  · have count : (insertion text (c, i)).place = (text.take i).zipIdx.countP (·.1 ≤ c) := by
      conv_lhs => rw [insertion, ← List.zipIdx_map_fst 0 (text.take i), List.countP_map]
      rfl
    rw [count, List.length_map, ← List.countP_eq_length_filter]
    refine List.countP_congr fun other inside => ?_
    have member : other ∈ text.zipIdx := by
      rw [split]
      exact List.mem_append_left _ inside
    simpa only [decide_eq_true_eq] using pending.not_mem_iff member (inFront other inside)

/-- Of equal characters the later goes behind the earlier. -/
theorem place_lt_of_before {text : List Char} {c : Char} {i j : Nat} (here : text[i]? = some c)
    (less : i < j) : (insertion text (c, i)).place < (insertion text (c, j)).place := by
  obtain ⟨bound, at_⟩ := List.getElem?_eq_some_iff.mp here
  have front : (text.take j).take (i + 1) = text.take i ++ [c] := by
    rw [List.take_take, Nat.min_eq_left less, ← at_, List.take_append_getElem]
  have le : (text.take i ++ [c]).countP (· ≤ c) ≤ (text.take j).countP (· ≤ c) := by
    rw [← front]
    exact (List.take_sublist _ _).countP_le
  rw [List.countP_append, List.countP_singleton, if_pos (by simp)] at le
  exact le

/-- A character that is put in behind a text stands between it and what follows. -/
theorem insertIdx_length_append (front back : List Char) (c : Char) :
    (front ++ back).insertIdx front.length c = front ++ c :: back := by
  induction front with
  | nil => rfl
  | cons d front ih => simp [ih]

/-- A difference that was written puts its character in where it was. -/
theorem applyDifferences_cons {text : List Char} {point place : Nat} {next : Insertion}
    (least : point ≤ next.char.toNat) (small : next.place ≤ text.length)
    (behind : next.char.toNat = point → place ≤ next.place) (bound : place ≤ text.length)
    (more : List Nat) :
    applyDifferences text point place
      (((next.char.toNat - point) * (text.length + 1) + next.place - place) :: more)
      = applyDifferences (text.insertIdx next.place next.char) next.char.toNat (next.place + 1)
        more := by
  have inside : next.place < text.length + 1 := Nat.lt_succ_of_le small
  have enough : place ≤ (next.char.toNat - point) * (text.length + 1) + next.place := by
    by_cases same : next.char.toNat = point
    · exact Nat.le_add_left_of_le (behind same)
    · have positive : 0 < next.char.toNat - point := by omega
      have scaled := Nat.le_mul_of_pos_left (text.length + 1) positive
      omega
  have steps : place + ((next.char.toNat - point) * (text.length + 1) + next.place - place)
      = next.place + (next.char.toNat - point) * (text.length + 1) := by
    omega
  have quotient : point + (next.place + (next.char.toNat - point) * (text.length + 1))
      / (text.length + 1) = next.char.toNat := by
    rw [Nat.add_mul_div_right _ _ (Nat.succ_pos _), Nat.div_eq_of_lt inside]
    omega
  have remainder : (next.place + (next.char.toNat - point) * (text.length + 1))
      % (text.length + 1) = next.place := by
    rw [Nat.add_mul_mod_self_right, Nat.mod_eq_of_lt inside]
  have valid : next.char.toNat.isValidChar := next.char.valid
  rw [applyDifferences]
  simp only [steps, quotient, remainder, Char.ofNat_toNat]
  rw [if_pos valid]

/-- Characters that are put in as the differences say make up the text. -/
theorem applyDifferences_differences {text : List Char} {entries : List (Char × Nat)}
    (pending : Pending text entries) {point place : Nat}
    (points : ∀ entry ∈ entries, point ≤ entry.1.toNat)
    (bound : place ≤ (without text entries).length)
    (places : ∀ entry ∈ entries, entry.1.toNat = point → place ≤ (insertion text entry).place) :
    applyDifferences (without text entries) point place
      (differences (without text entries).length point place (entries.map (insertion text)))
      = some text := by
  -- What is there already is the text without the entries that are left, and each step puts in the
  -- first of them; the state of the decoder stays behind the insertions that are to come.
  induction entries generalizing point place with
  | nil =>
    have whole : without text [] = text := by
      rw [without, List.filter_eq_self.mpr (by simp), List.zipIdx_map_fst]
    rw [whole]
    rfl
  | cons entry entries ih =>
    obtain ⟨c, i⟩ := entry
    obtain ⟨front, back, now, next, length⟩ := pending.insert
    have least : point ≤ c.toNat := points (c, i) List.mem_cons_self
    have small : (insertion text (c, i)).place ≤ (without text ((c, i) :: entries)).length := by
      rw [now, ← length, List.length_append]
      exact Nat.le_add_right _ _
    have longer : (without text entries).length
        = (without text ((c, i) :: entries)).length + 1 := by
      rw [now, next]
      simp only [List.length_append, List.length_cons]
      omega
    have put : (without text ((c, i) :: entries)).insertIdx (insertion text (c, i)).place c
        = without text entries := by
      rw [now, next, ← length]
      exact insertIdx_length_append front back c
    rw [List.map_cons, differences,
      applyDifferences_cons least small (places (c, i) List.mem_cons_self) bound, insertion_char,
      put, ← longer]
    have later := (List.pairwise_cons.mp pending.ordered).1
    refine ih pending.tail ?_ ?_ ?_
    · exact fun other mem => char_le_iff.mp (later other mem).le
    · omega
    · rintro ⟨d, j⟩ mem same
      obtain rfl : d = c := Char.toNat_inj.mp same
      rcases later (d, j) mem with less | ⟨-, less⟩
      · exact absurd less (Nat.lt_irrefl _)
      · have here := List.mk_mem_zipIdx_iff_getElem?.mp (pending.member (d, i) List.mem_cons_self)
        exact place_lt_of_before here less

/-- The characters beyond ASCII of a text with their places, in the order in which they are put
in. -/
def extended (text : List Char) : List (Char × Nat) :=
  (text.zipIdx.filter fun entry => firstExtended ≤ entry.1.toNat).mergeSort fun a b => a.1 ≤ b.1

/-- Which characters are put in. -/
theorem mem_extended {text : List Char} {entry : Char × Nat} :
    entry ∈ extended text ↔ entry ∈ text.zipIdx ∧ firstExtended ≤ entry.1.toNat := by
  simp [extended]

/-- The insertions are those of the characters beyond ASCII. -/
theorem insertions_eq (text : List Char) :
    insertions text = (extended text).map (insertion text) := by
  have moved := List.map_mergeSort (r := fun a b : Char × Nat => decide (a.1 ≤ b.1))
    (s := fun a b : Insertion => decide (a.char ≤ b.char)) (f := insertion text)
    (l := text.zipIdx.filter fun entry => firstExtended ≤ entry.1.toNat) (fun _ _ _ _ => rfl)
  exact moved.symm

/-- Characters beyond ASCII in ascending order are put in one behind the other. -/
theorem insertions_of_ascending {text : List Char} (ascending : text.Pairwise (· < ·))
    (beyond : ∀ c ∈ text, firstExtended ≤ c.toNat) :
    insertions text = text.zipIdx.map fun (c, i) => ⟨c, i⟩ := by
  have all : (text.zipIdx.filter fun (c, _) => firstExtended ≤ c.toNat) = text.zipIdx :=
    List.filter_eq_self.mpr fun entry mem =>
      decide_eq_true (beyond entry.1 (List.fst_mem_of_mem_zipIdx mem))
  have places : (text.zipIdx.map fun (c, i) => (⟨c, (text.take i).countP (· ≤ c)⟩ : Insertion)) =
      text.zipIdx.map fun (c, i) => ⟨c, i⟩ := by
    refine List.map_congr_left fun (c, i) mem => ?_
    obtain ⟨bound, here⟩ := List.mem_zipIdx' mem
    have smaller : ∀ d ∈ text.take i, decide (d ≤ c) = true := by
      rw [here]
      intro d inside
      obtain ⟨j, before, rfl⟩ := List.mem_take_iff_getElem.mp inside
      have less := List.pairwise_iff_getElem.mp ascending j i (by omega) bound (by omega)
      exact decide_eq_true (Nat.le_of_lt less)
    simp only [List.countP_eq_length.mpr smaller, List.length_take_of_le (Nat.le_of_lt bound)]
  have sorted : text.zipIdx.Pairwise fun a b => a.1 ≤ b.1 := by
    rw [← List.zipIdx_map_fst 0 text] at ascending
    exact (List.pairwise_map.mp ascending).imp fun less => Nat.le_of_lt less
  rw [insertions, all, places]
  refine List.mergeSort_of_pairwise (List.pairwise_map.mpr (sorted.imp fun less => ?_))
  exact decide_eq_true less

/-- Before anything is put in, the characters beyond ASCII are still to be put in. -/
theorem pending_extended (text : List Char) : Pending text (extended text) where
  member entry mem := (mem_extended.mp mem).1
  ordered := by
    refine pairwise_before_mergeSort (List.Pairwise.filter _ ?_)
    have places : text.zipIdx.map (·.2) = List.range' 0 text.length := List.zipIdx_map_snd 0 text
    have ordered : (text.zipIdx.map (·.2)).Pairwise (· < ·) := by
      rw [places]
      exact List.pairwise_lt_range'
    exact List.pairwise_map.mp ordered
  after entry mem absent other inside := by
    have basic : ¬ firstExtended ≤ entry.1.toNat :=
      fun large => absent (mem_extended.mpr ⟨mem, large⟩)
    have large := (mem_extended.mp inside).2
    exact .inl (by omega)

/-- Without the characters beyond ASCII the others are left. -/
theorem without_extended (text : List Char) :
    without text (extended text) = text.filter (·.toNat < firstExtended) := by
  have same : text.zipIdx.filter (· ∉ extended text)
      = text.zipIdx.filter fun entry => entry.1.toNat < firstExtended := by
    refine List.filter_congr fun entry mem => ?_
    simp [mem_extended, mem]
  rw [without, same]
  conv_rhs => rw [← List.zipIdx_map_fst 0 text, List.filter_map]
  rfl

/-- The numbers of a text say how it is made from its ASCII characters. -/
theorem applyDifferences_insertions (text : List Char) :
    applyDifferences (text.filter (·.toNat < firstExtended)) firstExtended 0
      (differences (text.filter (·.toNat < firstExtended)).length firstExtended 0
        (insertions text)) = some text := by
  rw [insertions_eq, ← without_extended]
  exact applyDifferences_differences (pending_extended text)
    (fun entry mem => (mem_extended.mp mem).2) (Nat.zero_le _) (fun _ _ _ => Nat.zero_le _)

/-- No digit is a hyphen. -/
theorem hyphen_not_mem_digits : '-' ∉ digits := by decide

/-- A text without a hyphen is read as numbers alone. -/
theorem decode_of_not_mem {tail : List Char} (absent : '-' ∉ tail) :
    decode tail = (readNumbers initialBias 0 true tail).bind
      (applyDifferences [] firstExtended 0) := by
  simp only [decode, splitLast?_of_not_mem absent]
  rfl

/-- What stands in front of the last hyphen is the text that characters are put into. -/
theorem decode_append {basic tail : List Char} (filled : basic ≠ []) (absent : '-' ∉ tail) :
    decode (basic ++ '-' :: tail) = (readNumbers initialBias basic.length true tail).bind
      (applyDifferences basic firstExtended 0) := by
  cases basic with
  | nil => exact absurd rfl filled
  | cons c basic =>
    simp only [decode, splitLast?_append absent]
    rfl

/-- A label that was written in ASCII is read as it was. -/
theorem decode_encode (text : List Char) : decode (encode text) = some text := by
  have absent (bias count : Nat) (numbers : List Nat) :
      '-' ∉ writeNumbers bias count true numbers :=
    fun mem => hyphen_not_mem_digits (mem_writeNumbers mem)
  have put := applyDifferences_insertions text
  unfold encode
  simp only
  by_cases empty : text.filter (·.toNat < firstExtended) = []
  · rw [empty] at put ⊢
    rw [if_pos List.isEmpty_nil, decode_of_not_mem (absent _ _ _), List.length_nil,
      readNumbers_writeNumbers]
    exact put
  · rw [if_neg (by simpa using empty), decode_append empty (absent _ _ _), readNumbers_writeNumbers]
    exact put

/-- A written label holds ASCII characters of the label, hyphens and digits. -/
theorem mem_encode {text : List Char} {c : Char} (mem : c ∈ encode text) :
    (c ∈ text ∧ c.toNat < firstExtended) ∨ c = '-' ∨ c ∈ digits := by
  unfold encode at mem
  simp only at mem
  split at mem
  · exact .inr (.inr (mem_writeNumbers mem))
  · rcases List.mem_append.mp mem with basic | mem
    · exact .inl (by simpa using List.mem_filter.mp basic)
    · rcases List.mem_cons.mp mem with rfl | mem
      · exact .inr (.inl rfl)
      · exact .inr (.inr (mem_writeNumbers mem))

/-- A code point is that of its character. -/
theorem toNat_ofNat {n : Nat} (valid : n.isValidChar) : (Char.ofNat n).toNat = n := by
  rw [Char.ofNat, dif_pos valid]
  rfl

/-- Characters that are put in lie beyond ASCII. -/
theorem mem_applyDifferences {text : List Char} {point place : Nat} {numbers : List Nat}
    {out : List Char} (beyond : firstExtended ≤ point)
    (read : applyDifferences text point place numbers = some out) {c : Char} (mem : c ∈ out) :
    c ∈ text ∨ firstExtended ≤ c.toNat := by
  induction numbers generalizing text point place with
  | nil =>
    obtain rfl := Option.some.inj read
    exact .inl mem
  | cons delta numbers ih =>
    simp only [applyDifferences] at read
    split at read
    · next valid =>
      have further : firstExtended ≤ point + (place + delta) / (text.length + 1) :=
        Nat.le_add_right_of_le beyond
      rcases ih further read with inside | large
      · rcases List.eq_or_mem_of_mem_insertIdx inside with rfl | inside
        · exact .inr (by rw [toNat_ofNat valid]; exact further)
        · exact .inl inside
      · exact .inr large
    · cases read

/-- A label that is read holds characters of its written form and such beyond ASCII. -/
theorem mem_decode {text out : List Char} (read : decode text = some out) {c : Char}
    (mem : c ∈ out) : c ∈ text ∨ firstExtended ≤ c.toNat := by
  have putIn {basic tail : List Char} (part : basic ⊆ text)
      (put : ((readNumbers initialBias basic.length true tail).bind
        (applyDifferences basic firstExtended 0)) = some out) :
      c ∈ text ∨ firstExtended ≤ c.toNat := by
    obtain ⟨numbers, -, put⟩ := Option.bind_eq_some_iff.mp put
    exact (mem_applyDifferences (Nat.le_refl _) put mem).imp_left (part ·)
  cases cut : splitLast? '-' text with
  | none =>
    simp only [decode, cut] at read
    exact putIn (List.nil_subset text) read
  | some parts =>
    obtain ⟨basic, tail⟩ := parts
    cases basic with
    | nil =>
      simp only [decode, cut] at read
      exact putIn (List.nil_subset text) read
    | cons d basic =>
      simp only [decode, cut] at read
      have whole := eq_of_splitLast?_eq_some cut
      exact putIn (by rw [whole]; exact List.subset_append_left _ _) read

end CrawlFrontier.Idna.Punycode
