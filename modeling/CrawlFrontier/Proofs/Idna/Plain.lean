import CrawlFrontier.Proofs.Idna.Domain
import Mathlib.Data.List.Basic

/-!
# Names of plain characters

Most names hold no character that is mapped to another one, taken apart, put together with one in
front of it, or written from right to left. Here this is known of ASCII and of the common Han
characters. Main statements: a name of such characters becomes its labels in their written forms;
and there is a label that is short enough to be written, but not to be read again.
-/

namespace CrawlFrontier.Idna

open CrawlFrontier.Text CrawlFrontier.Unicode

/-- Whether a character is one of the common Han characters. -/
def isHan (c : Char) : Bool := 0x4E00 ≤ c.toNat && c.toNat ≤ 0x9FFF

/-- Whether a character may stand in an ASCII name or is a common Han character. -/
def isPlain (c : Char) : Bool := isNameChar c || isHan c

/-- Plain characters lie in two ranges. -/
theorem toNat_of_isPlain {c : Char} (plain : isPlain c = true) :
    c.toNat < 0x80 ∨ 0x4E00 ≤ c.toNat ∧ c.toNat ≤ 0x9FFF := by
  rcases Bool.or_eq_true_iff.mp plain with name | han
  · exact .inl (isNameChar_iff.mp name).1
  · exact .inr (by simpa [isHan] using han)

/-- Whether a table says nothing of plain characters. -/
def leavesPlain {α : Type} (table : Table α) : Bool :=
  table.avoids 0 0x7F && table.avoids 0x4E00 0x9FFF

/-- Nothing is found for a plain character in such a table. -/
theorem find?_of_isPlain {α : Type} {table : Table α} (apart : leavesPlain table = true) {c : Char}
    (plain : isPlain c = true) : table.find? c.toNat = none := by
  obtain ⟨ascii, han⟩ := Bool.and_eq_true_iff.mp apart
  rcases toNat_of_isPlain plain with small | ⟨least, most⟩
  · exact Table.find?_of_avoids ascii (Nat.zero_le _) (Nat.le_of_lt_succ small)
  · exact Table.find?_of_avoids han least most

/-- The mapping leaves plain characters as they are. -/
theorem mapChar?_of_isPlain {c : Char} (plain : isPlain c = true) : mapChar? c = some [c] := by
  rcases Bool.or_eq_true_iff.mp plain with name | han
  · exact mapChar?_of_isNameChar name
  · have range : 0x4E00 ≤ c.toNat ∧ c.toNat ≤ 0x9FFF := by simpa [isHan] using han
    have covered : kept.covers 0x4E00 0x9FFF = true := by decide +kernel
    rw [mapChar?, if_neg (by omega), isKept, Table.contains_of_covers covered range.1 range.2]
    rfl

/-- A plain character is not forbidden. -/
theorem isForbidden_of_isPlain {c : Char} (plain : isPlain c = true) : isForbidden c = false := by
  rcases Bool.or_eq_true_iff.mp plain with name | han
  · exact (isNameChar_iff.mp name).2.2
  · have range : 0x4E00 ≤ c.toNat ∧ c.toNat ≤ 0x9FFF := by simpa [isHan] using han
    have others : ['%', '#', '/', ':', '<', '>', '?', '@', '[', '\\', ']', '^', '|'].all
        (fun d => d.toNat < 0x80) = true := by
      decide
    have apart : ¬['%', '#', '/', ':', '<', '>', '?', '@', '[', '\\', ']', '^', '|'].contains c :=
      fun mem => by
        have small := List.all_eq_true.mp others c (List.contains_iff_mem.mp mem)
        have bound : c.toNat < 0x80 := of_decide_eq_true small
        omega
    rw [isForbidden, Bool.eq_false_iff.mpr apart]
    simp
    omega

/-- A plain character is not taken apart. -/
theorem decompose_of_isPlain {c : Char} (plain : isPlain c = true) : decompose c = [c] := by
  have range := toNat_of_isPlain plain
  have apart : leavesPlain decompositions = true := by decide +kernel
  rw [decompose, if_neg (by omega), Table.value?, find?_of_isPlain apart plain]
  rfl

/-- A plain character is no mark that is put in order. -/
theorem combiningClass_of_isPlain {c : Char} (plain : isPlain c = true) : combiningClass c = 0 := by
  have apart : leavesPlain combiningClasses = true := by decide +kernel
  rw [combiningClass, Table.value?, find?_of_isPlain apart plain]
  rfl

/-- No pair with a plain character behind has a character in its place. -/
theorem composePair?_of_isPlain (a : Char) {c : Char} (plain : isPlain c = true) :
    composePair? a c = none := by
  have range := toNat_of_isPlain plain
  have apart : ∀ span ∈ compositions.spans.toList, ∀ pair ∈ span.value,
      0x80 ≤ pair.1 ∧ (pair.1 < 0x4E00 ∨ 0x9FFF < pair.1) := by
    decide +kernel
  have none (followers : List (Nat × Nat)) (present : compositions.value? a.toNat = some followers) :
      followers.lookup c.toNat = none := by
    obtain ⟨span, found, rfl⟩ := Option.map_eq_some_iff.mp present
    refine List.lookup_eq_none_iff.mpr fun pair mem => ?_
    have outside := apart span (Table.find?_eq_some_iff.mp found).1 pair mem
    have other : c.toNat ≠ pair.1 := by omega
    simpa using other
  rw [composePair?, if_neg (by omega), if_neg (by omega)]
  cases present : compositions.value? a.toNat with
  | none => rfl
  | some followers =>
    rw [Option.bind_eq_bind, Option.bind_some, none followers present]
    rfl

/-- Plain characters are put in the order in which they stand. -/
theorem orderMarks_of_isPlain {text : List Char} (plain : ∀ c ∈ text, isPlain c = true) :
    orderMarks text = text.map (·, 0) := by
  have front (before : List (Char × Nat)) :
      text.foldl
          (fun front c =>
            let rank := combiningClass c
            if rank = 0 then (c, 0) :: front else insertMark c rank front) before =
        (text.map (·, 0)).reverse ++ before := by
    induction text generalizing before with
    | nil => rfl
    | cons c text ih =>
      obtain ⟨first, others⟩ := List.forall_mem_cons.mp plain
      simp only [List.foldl_cons, combiningClass_of_isPlain first, if_true, ih others]
      simp
  rw [orderMarks, front, List.append_nil, List.reverse_reverse]

/-- Nothing is put together with plain characters. -/
theorem composeFrom_of_isPlain {text : List Char} (plain : ∀ c ∈ text, isPlain c = true)
    (starter : Char) : composeFrom starter [] 0 (text.map (·, 0)) = starter :: text := by
  induction text generalizing starter with
  | nil => rfl
  | cons c text ih =>
    obtain ⟨first, others⟩ := List.forall_mem_cons.mp plain
    rw [List.map_cons, composeFrom, composePair?_of_isPlain starter first]
    simp [ih others]

/-- A text of plain characters is in composed normal form. -/
theorem composed_of_isPlain {text : List Char} (plain : ∀ c ∈ text, isPlain c = true) :
    composed text = text := by
  have whole : text.flatMap decompose = text := by
    rw [List.flatMap_congr fun c mem => decompose_of_isPlain (plain c mem),
      List.flatMap_singleton']
  have all : composeAll (text.map (·, 0)) = text := by
    cases text with
    | nil => rfl
    | cons c text => exact composeFrom_of_isPlain (List.forall_mem_cons.mp plain).2 c
  rw [composed, whole, orderMarks_of_isPlain plain, all, ite_self]

/-- No ASCII character is written from right to left. -/
theorem asciiDirection_ne (c : Char) :
    asciiDirection c ≠ .rightToLeft ∧ asciiDirection c ≠ .arabicLetter ∧
      asciiDirection c ≠ .arabicNumber := by
  unfold asciiDirection
  repeat' apply And.intro
  all_goals repeat' split
  all_goals decide

/-- No plain character makes a name run from right to left. -/
theorem runsLeft_of_isPlain {c : Char} (plain : isPlain c = true) : runsLeft c = false := by
  have other : direction c ≠ .rightToLeft ∧ direction c ≠ .arabicLetter ∧
      direction c ≠ .arabicNumber := by
    rw [direction]
    rcases toNat_of_isPlain plain with small | ⟨least, most⟩
    · rw [if_pos small]
      exact asciiDirection_ne c
    · have apart : directions.avoids 0x4E00 0x9FFF = true := by decide +kernel
      rw [if_neg (by omega), Table.value?, Table.find?_of_avoids apart least most]
      decide
  rw [runsLeft]
  split
  · next right => exact absurd right other.1
  · next arabic => exact absurd arabic other.2.1
  · next number => exact absurd number other.2.2
  · rfl

/-- A text of plain characters holds no joiner control. -/
theorem joinersAllowed_of_isPlain {text : List Char} (plain : ∀ c ∈ text, isPlain c = true)
    (front : List Char) : joinersAllowed front text = true := by
  induction text generalizing front with
  | nil => rfl
  | cons c text ih =>
    obtain ⟨first, others⟩ := List.forall_mem_cons.mp plain
    have range := toNat_of_isPlain first
    have noJoiner : (c == '\u200C' || c == '\u200D') = false := by
      simp only [Bool.or_eq_false_iff, beq_eq_false_iff_ne]
      constructor <;> rintro rfl <;> revert range <;> decide
    rw [joinersAllowed, noJoiner, ih others]
    rfl

/-- A label of plain characters is well formed if it is in ASCII or short enough to be written. -/
theorem isWellFormed_of_isPlain {label : List Char} (plain : ∀ c ∈ label, isPlain c = true)
    (limit : isAscii label = true ∨ label.length ≤ writtenLimit) : isWellFormed label = true := by
  have fixed : label.all (fun c => isFixed c && !isForbidden c) = true := by
    refine List.all_eq_true.mpr fun c mem => ?_
    rw [isFixed, mapChar?_of_isPlain (plain c mem), isForbidden_of_isPlain (plain c mem)]
    simp
  have noMark : label.head?.any isMark = false := by
    have apart : leavesPlain marks = true := by decide +kernel
    cases label with
    | nil => rfl
    | cons c label =>
      rw [List.head?_cons, Option.any_some, isMark, Table.contains,
        find?_of_isPlain apart (plain c List.mem_cons_self)]
      rfl
  have short : (isAscii label || decide (label.length ≤ writtenLimit)) = true := by
    simpa using limit
  rw [isWellFormed, fixed, composed_of_isPlain plain, noMark, joinersAllowed_of_isPlain plain, short]
  simp

/-- Whether a label consists of plain characters, has not the form of a written one, and is in ASCII
or short enough to be written. -/
structure IsPlainLabel (label : List Char) : Prop where
  plain : ∀ c ∈ label, isPlain c = true ∧ c ≠ '.'
  unmarked : asciiMark.isPrefixOf label = false
  limit : isAscii label = true ∨ label.length ≤ writtenLimit

instance (label : List Char) : Decidable (IsPlainLabel label) :=
  decidable_of_iff ((label.all fun c => isPlain c && c != '.') = true ∧
      asciiMark.isPrefixOf label = false ∧ (isAscii label = true ∨ label.length ≤ writtenLimit))
    ⟨fun ⟨plain, unmarked, limit⟩ => ⟨by simpa using plain, unmarked, limit⟩,
      fun ⟨plain, unmarked, limit⟩ => ⟨by simpa using plain, unmarked, limit⟩⟩

/-- Plain labels are those of a name. -/
theorem areLabels_of_isPlainLabel {labels : List (List Char)} (nonempty : labels ≠ [])
    (plain : ∀ label ∈ labels, IsPlainLabel label) : AreLabels labels where
  nonempty := nonempty
  dotless label mem dot := ((plain label mem).plain '.' dot).2 rfl
  readable label mem _ := (plain label mem).unmarked
  wellFormed label mem :=
    isWellFormed_of_isPlain (fun c inside => ((plain label mem).plain c inside).1)
      (plain label mem).limit
  direction := .inl fun label mem c inside =>
    runsLeft_of_isPlain ((plain label mem).plain c inside).1

/-- A name of plain labels becomes these in their written forms. -/
theorem toAscii?_of_isPlainLabel {labels : List (List Char)} (nonempty : labels ≠ [])
    (plain : ∀ label ∈ labels, IsPlainLabel label) :
    toAscii? (['.'].intercalate labels) = some (written labels) := by
  have valid := areLabels_of_isPlainLabel nonempty plain
  have chars : ∀ c ∈ ['.'].intercalate labels, isPlain c = true := by
    intro c mem
    rcases mem_intercalate mem with rfl | ⟨label, present, inside⟩
    · decide
    · exact ((plain label present).plain c inside).1
  have fixed := mapText?_of_forall fun c mem => mapChar?_of_isPlain (chars c mem)
  have pieces : (['.'].intercalate labels).splitOn '.' = labels :=
    List.splitOn_intercalate '.' valid.dotless nonempty
  have decoded : labels.mapM decodeLabel? = some labels := by
    refine mapM_eq_some_iff.mpr (List.map_congr_left fun label mem => ?_)
    rw [decodeLabel?, (plain label mem).unmarked]
    rfl
  simp only [toAscii?, fixed, composed_of_isPlain chars, pieces, decoded, Option.bind_eq_bind,
    Option.bind_some]
  exact if_pos valid.checks

/-- A name of labels is written as something. -/
theorem written_ne_nil {labels : List (List Char)} (filled : ['.'].intercalate labels ≠ []) :
    written labels ≠ [] := by
  cases labels with
  | nil => exact absurd rfl filled
  | cons first rest =>
    cases rest with
    | nil =>
      rw [List.intercalate_singleton] at filled
      rw [written, List.map_singleton, List.intercalate_singleton, encodeLabel]
      split
      · exact filled
      · simp [asciiMark]
    | cons second rest => simp [written, List.intercalate_cons_cons]

/-- A label in front of a name is written in front of it. -/
theorem written_cons (label : List Char) {labels : List (List Char)} (nonempty : labels ≠ []) :
    written (label :: labels) = encodeLabel label ++ '.' :: written labels := by
  obtain ⟨second, rest, rfl⟩ := List.exists_cons_of_ne_nil nonempty
  simp [written, List.intercalate_cons_cons]

/-- A label beyond ASCII is written behind its mark. -/
theorem written_singleton {label : List Char} (other : isAscii label = false) :
    written [label] = asciiMark ++ Punycode.encode label := by
  rw [written, List.map_singleton, List.intercalate_singleton, encodeLabel, other]
  rfl

/-- Labels in ASCII are written as they are. -/
theorem written_of_isAscii {labels : List (List Char)}
    (ascii : ∀ label ∈ labels, isAscii label = true) : written labels = ['.'].intercalate labels := by
  have plain : labels.map encodeLabel = labels := by
    conv_rhs => rw [← List.map_id labels]
    exact List.map_congr_left fun label mem => if_pos (ascii label mem)
  rw [written, plain]

/-- Plain labels in ASCII between full stops are a name in ASCII, and none of them is too long to be
read. -/
theorem isAsciiName_of_isNameChar {labels : List (List Char)} (nonempty : labels ≠ [])
    (name : ∀ label ∈ labels, ∀ c ∈ label, isNameChar c = true ∧ c ≠ '.')
    (unmarked : ∀ label ∈ labels, asciiMark.isPrefixOf label = false) :
    IsAsciiName (['.'].intercalate labels) ∧ isShort (['.'].intercalate labels) = true := by
  have ascii (label : List Char) (mem : label ∈ labels) : isAscii label = true := by
    refine List.all_eq_true.mpr fun c inside => ?_
    simpa using (isNameChar_iff.mp (name label mem c inside).1).1
  have plain : ∀ label ∈ labels, IsPlainLabel label := by
    refine fun label mem => ⟨fun c inside => ?_, unmarked label mem, .inl (ascii label mem)⟩
    obtain ⟨char, other⟩ := name label mem c inside
    exact ⟨Bool.or_eq_true_iff.mpr (.inl char), other⟩
  have valid := areLabels_of_isPlainLabel nonempty plain
  have pieces := valid.splitOn_written
  rw [written_of_isAscii ascii] at pieces
  refine ⟨⟨labels, valid, (written_of_isAscii ascii).symm⟩, ?_⟩
  rw [isShort, pieces]
  refine List.all_eq_true.mpr fun label mem => ?_
  obtain ⟨label, inside, rfl⟩ := List.mem_map.mp mem
  rw [encodeLabel, if_pos (ascii label inside), isOverlong, unmarked label inside]
  rfl

/-- How much is written for a label of characters beyond ASCII in ascending order. -/
theorem isOverlong_of_ascending {label : List Char} (filled : label ≠ [])
    (ascending : label.Pairwise (· < ·)) (beyond : ∀ c ∈ label, Punycode.firstExtended ≤ c.toNat)
    (long : readLimit < (Punycode.writeNumbers Punycode.initialBias 0 true
      (Punycode.differences 0 Punycode.firstExtended 0
        (label.zipIdx.map fun (c, i) => ⟨c, i⟩))).length) :
    isOverlong (encodeLabel label) = true := by
  obtain ⟨first, rest, rfl⟩ := List.exists_cons_of_ne_nil filled
  have large := beyond first List.mem_cons_self
  have other : isAscii (first :: rest) = false :=
    List.all_eq_false.mpr ⟨first, List.mem_cons_self, by simpa [Punycode.firstExtended] using large⟩
  have basic : (first :: rest).filter (·.toNat < Punycode.firstExtended) = [] := by
    refine List.filter_eq_nil_iff.mpr fun c mem => ?_
    simpa using beyond c mem
  rw [isOverlong, encodeLabel, other, Punycode.encode, basic,
    Punycode.insertions_of_ascending ascending beyond]
  simpa using long

/-- Seven hundred Han characters, far apart and in ascending order. -/
def longLabel : List Char := (List.range 700).map fun i => Char.ofNat (0x4E00 + 29 * i)

/-- The code points of the label. -/
theorem exists_of_mem_longLabel {c : Char} (mem : c ∈ longLabel) :
    ∃ i < 700, c.toNat = 0x4E00 + 29 * i := by
  obtain ⟨i, inside, rfl⟩ := List.mem_map.mp mem
  have bound := List.mem_range.mp inside
  exact ⟨i, bound, Punycode.toNat_ofNat (.inl (by omega))⟩

/-- The label is not in ASCII. -/
theorem isAscii_longLabel : isAscii longLabel = false := by decide +kernel

/-- The label is plain, and short enough to be written. -/
theorem isPlainLabel_longLabel : IsPlainLabel longLabel where
  plain c mem := by
    obtain ⟨i, bound, code⟩ := exists_of_mem_longLabel mem
    have han : isHan c = true := by
      simp only [isHan, Bool.and_eq_true, decide_eq_true_eq]
      omega
    refine ⟨Bool.or_eq_true_iff.mpr (.inr han), ?_⟩
    rintro rfl
    cases han
  unmarked := by decide +kernel
  limit := .inr (by decide +kernel)

/-- What is written for the label is too long to be read. -/
theorem isOverlong_longLabel : isOverlong (encodeLabel longLabel) = true := by
  have filled : longLabel ≠ [] := by decide +kernel
  have ascending : longLabel.Pairwise (· < ·) := by
    refine List.pairwise_map.mpr (List.pairwise_lt_range.imp_of_mem ?_)
    intro i j memI memJ less
    have boundI := List.mem_range.mp memI
    have boundJ := List.mem_range.mp memJ
    change (Char.ofNat (0x4E00 + 29 * i)).toNat < (Char.ofNat (0x4E00 + 29 * j)).toNat
    rw [Punycode.toNat_ofNat (.inl (by omega)), Punycode.toNat_ofNat (.inl (by omega))]
    omega
  have beyond : ∀ c ∈ longLabel, Punycode.firstExtended ≤ c.toNat := by
    intro c mem
    obtain ⟨i, -, code⟩ := exists_of_mem_longLabel mem
    rw [code, Punycode.firstExtended]
    omega
  exact isOverlong_of_ascending filled ascending beyond (by decide +kernel)

/-- A name with the label in it is too long to be read again, once it is written. -/
theorem isShort_of_longLabel {labels : List (List Char)} (valid : AreLabels labels)
    (mem : longLabel ∈ labels) : isShort (written labels) = false := by
  rw [isShort, valid.splitOn_written]
  refine List.all_eq_false.mpr ⟨_, List.mem_map_of_mem mem, ?_⟩
  rw [isOverlong_longLabel]
  decide

end CrawlFrontier.Idna
