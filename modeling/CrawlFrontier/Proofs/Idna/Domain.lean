import CrawlFrontier.Idna.Label
import CrawlFrontier.Proofs.Idna.Punycode
import CrawlFrontier.Proofs.Unicode.Table

/-!
# Domain names in ASCII are well formed

Main statement: the ASCII form of a domain name is its own ASCII form, and so is what is left of it
without the label in front, unless a label of it is too long to be read. Both follow from the labels:
those of a well-formed name are read back from their written forms, if these are not too long, and
what makes them well formed does not depend on how they are written.
-/

namespace CrawlFrontier.Idna

open CrawlFrontier.Text CrawlFrontier.Unicode

/-- Whether a character may stand in the ASCII form of a domain name. -/
def isNameChar (c : Char) : Bool := c.toNat < 0x80 && c.toLower == c && !isForbidden c

/-- What is known of a character that may stand in a name. -/
theorem isNameChar_iff {c : Char} :
    isNameChar c = true ↔ c.toNat < 0x80 ∧ c.toLower = c ∧ isForbidden c = false := by
  simp [isNameChar, and_assoc]

/-- Digits of numbers may stand in a name and are no full stops. -/
theorem digits_subset {c : Char} (mem : c ∈ Punycode.digits) : isNameChar c = true ∧ c ≠ '.' := by
  have all : ∀ d ∈ Punycode.digits, isNameChar d = true ∧ d ≠ '.' :=
    List.all_iff_forall_prop.mp (by decide)
  exact all c mem

/-- The mapping leaves characters of names as they are. -/
theorem mapChar?_of_isNameChar {c : Char} (name : isNameChar c = true) :
    mapChar? c = some [c] := by
  obtain ⟨ascii, lower, -⟩ := isNameChar_iff.mp name
  rw [mapChar?, if_pos ascii, lower]

/-- The mapping leaves a text as it is if it does so with its characters. -/
theorem mapText?_of_forall {text : List Char} (fixed : ∀ c ∈ text, mapChar? c = some [c]) :
    mapText? text = some text := by
  have each : text.mapM mapChar? = some (text.map fun c => [c]) := by
    induction text with
    | nil => rfl
    | cons c text ih =>
      obtain ⟨first, others⟩ := List.forall_mem_cons.mp fixed
      rw [List.mapM_cons, first, ih others]
      rfl
  have joined : (text.map fun c => [c]).flatten = text := by
    rw [← List.flatMap_def, List.flatMap_singleton']
  rw [mapText?, each, Option.map_some, joined]

/-- The ASCII characters of a well-formed label may stand in a name. -/
theorem isNameChar_of_isWellFormed {label : List Char} (valid : isWellFormed label = true)
    {c : Char} (mem : c ∈ label) (ascii : c.toNat < 0x80) : isNameChar c = true := by
  simp only [isWellFormed, Bool.and_eq_true] at valid
  have char := List.all_eq_true.mp valid.1.1.1.1 c mem
  simp only [Bool.and_eq_true, Bool.not_eq_true', isFixed, mapChar?, if_pos ascii] at char
  have lower : c.toLower = c := by simpa using char.1
  exact isNameChar_iff.mpr ⟨ascii, lower, char.2⟩

/-- What is written for a well-formed label may stand in a name. -/
theorem mem_encodeLabel {label : List Char} (valid : isWellFormed label = true)
    (dotless : '.' ∉ label) {c : Char} (mem : c ∈ encodeLabel label) :
    isNameChar c = true ∧ c ≠ '.' := by
  unfold encodeLabel at mem
  split at mem
  · next ascii =>
    have small : c.toNat < 0x80 := by simpa using List.all_eq_true.mp ascii c mem
    exact ⟨isNameChar_of_isWellFormed valid mem small, ne_of_mem_of_not_mem mem dotless⟩
  · rcases List.mem_append.mp mem with marked | mem
    · have all : ∀ d ∈ asciiMark, isNameChar d = true ∧ d ≠ '.' :=
        List.all_iff_forall_prop.mp (by decide)
      exact all c marked
    · rcases Punycode.mem_encode mem with ⟨inside, small⟩ | rfl | digit
      · exact ⟨isNameChar_of_isWellFormed valid inside small, ne_of_mem_of_not_mem inside dotless⟩
      · decide
      · exact digits_subset digit

/-- A label that is read back from its written form: one in ASCII does not begin like the written
form of another. -/
def IsReadable (label : List Char) : Prop :=
  isAscii label = true → asciiMark.isPrefixOf label = false

/-- What a label stands for: itself, if it has not the mark of a written label, and else what it is
decoded to. -/
theorem decodeLabel?_cases {label decoded : List Char} (read : decodeLabel? label = some decoded) :
    asciiMark.isPrefixOf label = false ∧ decoded = label ∨
      isOverlong label = false ∧ isAscii decoded = false ∧
        Punycode.decode (label.drop asciiMark.length) = some decoded := by
  unfold decodeLabel? at read
  split at read
  · split at read
    · next allowed =>
      obtain ⟨inner, decode, kept⟩ := Option.bind_eq_some_iff.mp read
      split at kept
      · cases kept
      · next other =>
        obtain rfl := Option.some.inj kept
        have short : isOverlong label = false := by simpa using (Bool.and_eq_true_iff.mp allowed).2
        exact .inr ⟨short, Bool.eq_false_iff.mpr other, decode⟩
    · cases read
  · next plain => exact .inl ⟨Bool.eq_false_iff.mpr plain, (Option.some.inj read).symm⟩

/-- Labels that were decoded are readable. -/
theorem isReadable_of_decodeLabel? {label decoded : List Char}
    (read : decodeLabel? label = some decoded) : IsReadable decoded := by
  intro ascii
  rcases decodeLabel?_cases read with ⟨plain, rfl⟩ | ⟨-, other, -⟩
  · exact plain
  · rw [ascii] at other
    cases other

/-- Decoding puts no full stop into a label. -/
theorem dotless_of_decodeLabel? {label decoded : List Char} (dotless : '.' ∉ label)
    (read : decodeLabel? label = some decoded) : '.' ∉ decoded := by
  rcases decodeLabel?_cases read with ⟨-, rfl⟩ | ⟨-, -, decode⟩
  · exact dotless
  · intro mem
    rcases Punycode.mem_decode decode mem with inside | large
    · exact dotless (List.mem_of_mem_drop inside)
    · exact absurd large (by decide)

/-- A label that is too long is not read. -/
theorem decodeLabel?_of_isOverlong {label : List Char} (long : isOverlong label = true) :
    decodeLabel? label = none := by
  have marked : asciiMark.isPrefixOf label = true := (Bool.and_eq_true_iff.mp long).1
  rw [decodeLabel?, if_pos marked, long]
  simp

/-- A readable label is read back from its written form, if what is written is ASCII and not too
long. -/
theorem decodeLabel?_encodeLabel {label : List Char} (readable : IsReadable label)
    (ascii : isAscii (encodeLabel label) = true) (short : isOverlong (encodeLabel label) = false) :
    decodeLabel? (encodeLabel label) = some label := by
  unfold encodeLabel at ascii short ⊢
  by_cases plain : isAscii label = true
  · have unmarked := readable plain
    rw [if_pos plain, decodeLabel?, if_neg (by simp [unmarked])]
  · rw [if_neg plain] at ascii short ⊢
    have marked : asciiMark.isPrefixOf (asciiMark ++ Punycode.encode label) = true := by simp
    have inner : (asciiMark ++ Punycode.encode label).drop asciiMark.length
        = Punycode.encode label := List.drop_left
    rw [decodeLabel?, if_pos marked, if_pos (by rw [ascii, short]; rfl), inner,
      Punycode.decode_encode]
    simp [plain]

/-- The decoded labels of a well-formed domain name. -/
structure AreLabels (labels : List (List Char)) : Prop where
  /-- There is a label, if only an empty one. -/
  nonempty : labels ≠ []
  /-- Full stops stand between labels only. -/
  dotless : ∀ label ∈ labels, '.' ∉ label
  /-- Each label is read back from its written form. -/
  readable : ∀ label ∈ labels, IsReadable label
  /-- Each label is well formed. -/
  wellFormed : ∀ label ∈ labels, isWellFormed label = true
  /-- If one label runs from right to left, all keep the rule for such names. -/
  direction : (∀ label ∈ labels, ∀ c ∈ label, runsLeft c = false) ∨
    ∀ label ∈ labels, hasDirection label = true

/-- The name with the given decoded labels, in ASCII. -/
def written (labels : List (List Char)) : List Char :=
  ['.'].intercalate (labels.map encodeLabel)

/-- The ASCII form of a domain name is written from decoded labels. -/
theorem AreLabels.of_toAscii? {name out : List Char} (read : toAscii? name = some out) :
    ∃ labels, AreLabels labels ∧ out = written labels := by
  obtain ⟨mapped, -, read⟩ := Option.bind_eq_some_iff.mp read
  obtain ⟨labels, decoded, read⟩ := Option.bind_eq_some_iff.mp read
  have each := mapM_eq_some_iff.mp decoded
  have source (label : List Char) (mem : label ∈ labels) :
      ∃ piece ∈ (composed mapped).splitOn '.', decodeLabel? piece = some label := by
    have present : some label ∈ labels.map some := List.mem_map_of_mem mem
    rw [← each] at present
    exact List.mem_map.mp present
  split at read
  · next checks =>
    simp only [Bool.and_eq_true, List.all_eq_true, Bool.or_eq_true, Bool.not_eq_true',
      List.any_eq_false, Bool.not_eq_true] at checks
    refine ⟨labels, ⟨?_, ?_, ?_, checks.1, checks.2⟩, (Option.some.inj read).symm⟩
    · intro none
      rw [none, List.map_nil, List.map_eq_nil_iff] at each
      exact List.splitOn_ne_nil '.' _ each
    · intro label mem
      obtain ⟨piece, inside, decode⟩ := source label mem
      exact dotless_of_decodeLabel? (not_mem_of_mem_splitOn inside) decode
    · intro label mem
      obtain ⟨piece, -, decode⟩ := source label mem
      exact isReadable_of_decodeLabel? decode
  · cases read

/-- The labels of a name stand the checks. -/
theorem AreLabels.checks {labels : List (List Char)} (valid : AreLabels labels) :
    (labels.all isWellFormed &&
      (!labels.any (·.any runsLeft) || labels.all hasDirection)) = true := by
  simp only [Bool.and_eq_true, List.all_eq_true, Bool.or_eq_true, Bool.not_eq_true',
    List.any_eq_false, Bool.not_eq_true]
  exact ⟨valid.wellFormed, valid.direction⟩

/-- The labels behind the first are those of a name, if there are any. -/
theorem AreLabels.tail {label : List Char} {labels : List (List Char)}
    (valid : AreLabels (label :: labels)) (nonempty : labels ≠ []) : AreLabels labels where
  nonempty := nonempty
  dotless other mem := valid.dotless other (List.mem_cons_of_mem label mem)
  readable other mem := valid.readable other (List.mem_cons_of_mem label mem)
  wellFormed other mem := valid.wellFormed other (List.mem_cons_of_mem label mem)
  direction := valid.direction.imp
    (fun none other mem => none other (List.mem_cons_of_mem label mem))
    (fun all other mem => all other (List.mem_cons_of_mem label mem))

/-- The written labels are cut apart again. -/
theorem AreLabels.splitOn_written {labels : List (List Char)} (valid : AreLabels labels) :
    (written labels).splitOn '.' = labels.map encodeLabel := by
  refine List.splitOn_intercalate '.' ?_ (by simpa using valid.nonempty)
  intro piece mem dot
  obtain ⟨label, inside, rfl⟩ := List.mem_map.mp mem
  exact (mem_encodeLabel (valid.wellFormed label inside) (valid.dotless label inside) dot).2 rfl

/-- A written name holds nothing but characters that may stand in a name. -/
theorem AreLabels.isNameChar_of_mem_written {labels : List (List Char)} (valid : AreLabels labels)
    {c : Char} (mem : c ∈ written labels) : isNameChar c = true := by
  rcases mem_intercalate mem with rfl | ⟨piece, inside, mem⟩
  · decide
  · obtain ⟨label, present, rfl⟩ := List.mem_map.mp inside
    exact (mem_encodeLabel (valid.wellFormed label present) (valid.dotless label present) mem).1

/-- Whether every label of a name in ASCII is short enough to be read. -/
def isShort (name : List Char) : Bool := (name.splitOn '.').all fun label => !isOverlong label

/-- A name is short if its first label and what follows that are. -/
theorem isShort_append {front : List Char} (dotless : '.' ∉ front) (rest : List Char) :
    isShort (front ++ '.' :: rest) = (!isOverlong front && isShort rest) := by
  rw [isShort, List.splitOn_append_cons_self_of_not_mem dotless, List.all_cons]
  rfl

/-- A written name is its own ASCII form, if it is short enough to be read, and else it has none. -/
theorem AreLabels.toAscii?_written {labels : List (List Char)} (valid : AreLabels labels) :
    toAscii? (written labels) =
      if isShort (written labels) then some (written labels) else none := by
  have chars {c : Char} (mem : c ∈ written labels) := valid.isNameChar_of_mem_written mem
  have ascii : (written labels).all (·.toNat < 0x80) = true :=
    List.all_eq_true.mpr fun c mem => by simpa using (isNameChar_iff.mp (chars mem)).1
  have short : isShort (written labels) = true ↔
      ∀ label ∈ labels, isOverlong (encodeLabel label) = false := by
    simp [isShort, valid.splitOn_written]
  have fixed := mapText?_of_forall fun c mem => mapChar?_of_isNameChar (chars mem)
  simp only [toAscii?, fixed, composed_of_ascii ascii, valid.splitOn_written, Option.bind_eq_bind,
    Option.bind_some]
  split
  · next shortNames =>
    have decoded : (labels.map encodeLabel).mapM decodeLabel? = some labels := by
      refine mapM_eq_some_iff.mpr ?_
      rw [List.map_map]
      refine List.map_congr_left fun label mem => ?_
      refine decodeLabel?_encodeLabel (valid.readable label mem) (List.all_eq_true.mpr ?_)
        (short.mp shortNames label mem)
      intro c inside
      have char := mem_encodeLabel (valid.wellFormed label mem) (valid.dotless label mem) inside
      simpa using (isNameChar_iff.mp char.1).1
    rw [decoded, Option.bind_some]
    exact if_pos valid.checks
  · next long =>
    -- The label that is too long is not read, so the names are none.
    obtain ⟨label, mem, overlong⟩ : ∃ label ∈ labels, isOverlong (encodeLabel label) = true := by
      simpa [short] using long
    have unread : (labels.map encodeLabel).mapM decodeLabel? = none := by
      refine Option.eq_none_iff_forall_ne_some.mpr fun decoded read => ?_
      have each := mapM_eq_some_iff.mp read
      have present : decodeLabel? (encodeLabel label) ∈ decoded.map some := by
        rw [← each]
        exact List.mem_map_of_mem (List.mem_map_of_mem mem)
      rw [decodeLabel?_of_isOverlong overlong] at present
      simp at present
    rw [unread]
    rfl

/-- Whether a text is the ASCII form of a domain name, be it short enough to be read or not. -/
def IsAsciiName (name : List Char) : Prop := ∃ labels, AreLabels labels ∧ name = written labels

namespace IsAsciiName

/-- What a domain name becomes is a name in ASCII. -/
theorem of_toAscii? {name out : List Char} (read : toAscii? name = some out) : IsAsciiName out :=
  AreLabels.of_toAscii? read

/-- A name in ASCII is its own ASCII form, if it is short enough to be read, and else it has none. -/
theorem toAscii?_eq {name : List Char} (named : IsAsciiName name) :
    toAscii? name = if isShort name then some name else none := by
  obtain ⟨labels, valid, rfl⟩ := named
  exact valid.toAscii?_written

/-- A name in ASCII holds nothing but characters that may stand in a name. -/
theorem isNameChar {name : List Char} (named : IsAsciiName name) {c : Char} (mem : c ∈ name) :
    isNameChar c = true := by
  obtain ⟨labels, valid, rfl⟩ := named
  exact valid.isNameChar_of_mem_written mem

/-- What follows the first label is a name as well. -/
theorem of_append {front rest : List Char} (dotless : '.' ∉ front)
    (named : IsAsciiName (front ++ '.' :: rest)) : IsAsciiName rest := by
  obtain ⟨labels, valid, whole⟩ := named
  have pieces := valid.splitOn_written
  rw [← whole, List.splitOn_append_cons_self_of_not_mem dotless] at pieces
  cases labels with
  | nil => exact absurd rfl valid.nonempty
  | cons first labels =>
    obtain ⟨-, later⟩ := List.cons.inj pieces
    have nonempty : labels ≠ [] := by
      rintro rfl
      exact List.splitOn_ne_nil '.' rest later
    refine ⟨labels, valid.tail nonempty, ?_⟩
    rw [written, ← later, List.intercalate_splitOn]

end IsAsciiName

end CrawlFrontier.Idna
