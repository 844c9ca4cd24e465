import CrawlFrontier.Proofs.Text.Numeral
import CrawlFrontier.Proofs.Text.Parts
import CrawlFrontier.Proofs.Xml.Forest

/-!
# Written text

A text can be written into a document in many ways: as it is, in sections, by references to its
characters, and with comments and instructions anywhere between. Main statements: the reader
delivers what was written in this way as leaves, each run of plain text as one, and elements written
around it as the elements that they are.
-/

namespace CrawlFrontier.Xml

open CrawlFrontier.Text

/-- Whether the last character of a mark is nowhere else in it. -/
def EndsOnce (mark : List Char) : Prop := ∃ front last, mark = front ++ [last] ∧ last ∉ front

/-- Such a mark does not begin in a text that stands in front of it and does not begin with it. -/
theorem EndsOnce.not_prefix_append {mark text : List Char} (once : EndsOnce mark)
    (filled : text ≠ []) (free : ¬mark <+: text) (rest : List Char) :
    ¬mark <+: text ++ (mark ++ rest) := by
  obtain ⟨front, last, rfl, other⟩ := once
  rintro ⟨more, same⟩
  rcases List.append_eq_append_iff.mp same with ⟨back, inside, -⟩ | ⟨back, across, again⟩
  · exact free ⟨back, inside.symm⟩
  · -- The mark would end in its own front, where its last character is not.
    have size := congrArg List.length across
    have long : 0 < text.length := List.length_pos_iff.mpr filled
    simp only [List.length_append, List.length_singleton] at size
    have begins : back <+: front :=
      List.prefix_of_prefix_length_le ⟨more, again.symm⟩ ⟨[last] ++ rest, by simp⟩ (by omega)
    have ends : last ∈ back := by
      have tail := congrArg List.getLast? across
      rw [List.getLast?_append, List.getLast?_append] at tail
      cases back with
      | nil => exact absurd ⟨[], by simpa using across⟩ free
      | cons c back => exact List.mem_of_getLast? (by simpa using tail.symm)
    exact other (begins.subset ends)

/-- A text that is free of such a mark is cut at the mark behind it. -/
theorem EndsOnce.splitMark?_append {mark text : List Char} (once : EndsOnce mark)
    (free : ¬mark <:+: text) (rest : List Char) :
    splitMark? mark (text ++ (mark ++ rest)) = some (text, rest) := by
  induction text with
  | nil =>
    have begins : mark.isPrefixOf (mark ++ rest) = true :=
      List.isPrefixOf_iff_prefix.mpr (List.prefix_append mark rest)
    have size : (mark ++ rest).drop mark.length = rest := List.drop_left
    rw [List.nil_append]
    cases whole : mark ++ rest with
    | nil => exact absurd ⟨[], [], by simp [(List.append_eq_nil_iff.mp whole).1]⟩ free
    | cons c tail =>
      rw [whole] at begins size
      rw [splitMark?, if_pos begins, size]
  | cons c text ih =>
    have later : ¬mark.isPrefixOf (c :: (text ++ (mark ++ rest))) = true := by
      rw [List.isPrefixOf_iff_prefix]
      exact once.not_prefix_append (List.cons_ne_nil c text) (fun begins => free begins.isInfix) rest
    rw [List.cons_append, splitMark?, if_neg later,
      ih fun inside => free (List.infix_cons_iff.mpr (.inr inside))]
    rfl

/-- A tag is read to its end if no quotation mark stands in it. -/
theorem splitTag?_append {content : List Char}
    (plain : ∀ c ∈ content, c ≠ '>' ∧ c ≠ '"' ∧ c ≠ '\'') (rest : List Char) :
    splitTag? none (content ++ '>' :: rest) = some (content, rest) := by
  induction content with
  | nil => rfl
  | cons c content ih =>
    obtain ⟨inside, double, single⟩ := plain c List.mem_cons_self
    have later := ih fun c mem => plain c (List.mem_cons_of_mem _ mem)
    rw [List.cons_append, splitTag?]
    simp only [if_neg inside, if_neg (not_or.mpr ⟨double, single⟩), later, Option.map_some]

/-- A document behind events. -/
def Document.after (events : List Event) (document : Document) : Document :=
  ⟨events ++ document.events, document.wellFormed⟩

/-- Events behind events are behind both. -/
theorem Document.after_after (first second : List Event) (document : Document) :
    (document.after second).after first = document.after (first ++ second) := by
  simp [after]

/-- A text that begins with an event is cut into the event and what follows it. -/
theorem cut_of_readEvent {c : Char} {text rest : List Char} {event : Event}
    (found : readEvent c text = some (event, rest)) :
    cut (c :: text) = (cut rest).after [event] := by
  rw [cut]
  split
  · next none => cases found.symm.trans none
  · next some =>
    obtain ⟨rfl, rfl⟩ := Prod.mk.inj (Option.some.inj (found.symm.trans some))
    rfl

/-- Plain text is ended by the characters with which markup begins. -/
theorem endsText_of_not_mem {text : List Char} (free : '<' ∉ text ∧ '&' ∉ text) {c : Char}
    (mem : c ∈ text) : endsText c = false := by
  have noTag : c ≠ '<' := fun same => free.1 (same ▸ mem)
  have noReference : c ≠ '&' := fun same => free.2 (same ▸ mem)
  simp [endsText, noTag, noReference]

/-- A run of plain text goes to the first character that ends it. -/
theorem cut_text {text rest : List Char} (filled : text ≠ [])
    (free : ∀ c ∈ text, endsText c = false) (stop : ∀ c ∈ rest.head?, endsText c = true) :
    cut (text ++ rest) = (cut rest).after [.text text] := by
  cases text with
  | nil => exact absurd rfl filled
  | cons c text =>
    have other : ¬c = '<' ∧ ¬c = '&' := by
      simpa [endsText] using free c List.mem_cons_self
    have parts : (text ++ rest).span (!endsText ·) = (text, rest) :=
      span_append (fun c mem => by simp [free c (List.mem_cons_of_mem _ mem)])
        (fun c mem => by simp [stop c mem])
    rw [List.span_eq_takeWhile_dropWhile, Prod.mk.injEq] at parts
    rw [List.cons_append]
    apply cut_of_readEvent
    rw [readEvent, if_neg other.1, if_neg other.2, parts.1, parts.2]

/-- A reference goes to its semicolon. -/
theorem cut_reference {name : List Char} (free : ∀ c ∈ name, c ∉ ['<', '&', ';'])
    (rest : List Char) :
    cut ('&' :: (name ++ ';' :: rest)) = (cut rest).after [.reference name] := by
  have inside : ∀ c ∈ name, (!(endsText c || c == ';')) = true := fun c mem => by
    have other := free c mem
    simp only [List.mem_cons, not_or] at other
    simp [endsText, other]
  have parts : (name ++ ';' :: rest).span (fun c => !(endsText c || c == ';')) =
      (name, ';' :: rest) :=
    span_append inside (fun c mem => by cases mem; rfl)
  rw [List.span_eq_takeWhile_dropWhile, Prod.mk.injEq] at parts
  have found : readReference (name ++ ';' :: rest) = some (.reference name, rest) := by
    unfold readReference
    simp only [parts.1, parts.2]
  exact cut_of_readEvent found

/-- Whether a name can stand in a tag as it is. -/
def IsTagName (name : List Char) : Prop := name ≠ [] ∧ name.all Char.isAlpha = true

instance : DecidablePred IsTagName := fun _ => inferInstanceAs (Decidable (_ ∧ _))

/-- A character that is no letter is not in the name of a tag. -/
theorem IsTagName.ne {name : List Char} (named : IsTagName name) {c : Char} (mem : c ∈ name)
    {mark : Char} (other : mark.isAlpha = false) : c ≠ mark := by
  rintro rfl
  rw [List.all_eq_true.mp named.2 c mem] at other
  cases other

/-- The name of a tag ends where the tag does. -/
theorem IsTagName.splitTag?_append {name : List Char} (named : IsTagName name)
    (rest : List Char) : splitTag? none (name ++ '>' :: rest) = some (name, rest) :=
  Xml.splitTag?_append (fun c mem =>
    ⟨named.ne mem (by decide), named.ne mem (by decide), named.ne mem (by decide)⟩) rest

/-- The name of a tag has no space in it. -/
theorem IsTagName.isSpace_eq_false {name : List Char} (named : IsTagName name) {c : Char}
    (mem : c ∈ name) : isSpace c = false := by
  have blank : c ≠ ' ' := named.ne mem (by decide)
  have tab : c ≠ '\t' := named.ne mem (by decide)
  have back : c ≠ '\r' := named.ne mem (by decide)
  have feed : c ≠ '\n' := named.ne mem (by decide)
  simp [isSpace, blank, tab, back, feed]

/-- A start tag. -/
theorem cut_opened {name : List Char} (named : IsTagName name) (rest : List Char) :
    cut ('<' :: (name ++ '>' :: rest)) = (cut rest).after [.opened name] := by
  have whole : name.takeWhile (fun c => !isSpace c) = name :=
    List.takeWhile_eq_self_iff.mpr fun c mem => by simp [named.isSpace_eq_false mem]
  have found : readMarkup (name ++ '>' :: rest) = some (.opened name, rest) := by
    have ends := named.splitTag?_append rest
    cases name with
    | nil => exact absurd rfl named.1
    | cons c name =>
      have first {mark : Char} (other : mark.isAlpha = false) : c ≠ mark :=
        named.ne List.mem_cons_self other
      rw [List.cons_append] at ends ⊢
      unfold readMarkup
      -- A letter begins neither a declaration nor an instruction nor an end tag.
      split
      · next same => exact absurd (List.cons.inj same).1 (first (by decide))
      · next same => exact absurd (List.cons.inj same).1 (first (by decide))
      · next same => exact absurd (List.cons.inj same).1 (first (by decide))
      · next same => exact absurd (List.cons.inj same).1 (first (by decide))
      · simp only [ends, Option.map_some, whole]
        split
        · next same =>
          have slash : '/' ∈ c :: name := List.mem_reverse.mp (same ▸ List.mem_cons_self)
          exact absurd rfl (named.ne slash (by decide))
        · rfl
  exact cut_of_readEvent found

/-- An end tag. -/
theorem cut_closed {name : List Char} (named : IsTagName name) (rest : List Char) :
    cut ('<' :: '/' :: (name ++ '>' :: rest)) = (cut rest).after [.closed name] := by
  have found : readMarkup ('/' :: (name ++ '>' :: rest)) = some (.closed name, rest) := by
    have solid : dropEndWhile isSpace name = name :=
      dropEndWhile_of_forall fun c mem => named.isSpace_eq_false mem
    have whole : endName name = name := by
      rw [endName, solid, ite_self]
    simp only [readMarkup, named.splitTag?_append, Option.map_some, whole]
  exact cut_of_readEvent found

/-- A section goes to the first mark that ends it. -/
theorem cut_section {text : List Char} (free : ¬[']', ']', '>'] <:+: text) (rest : List Char) :
    cut ('<' :: '!' :: ("[CDATA[".toList ++ (text ++ ([']', ']', '>'] ++ rest)))) =
      (cut rest).after [.text text] := by
  have once : EndsOnce [']', ']', '>'] := ⟨[']', ']'], '>', rfl, by decide⟩
  have found : readDeclaration ("[CDATA[".toList ++ (text ++ ([']', ']', '>'] ++ rest))) =
      some (.text text, rest) := by
    rw [readDeclaration, if_neg (by simp), if_pos (by simp), List.drop_left' (by decide),
      once.splitMark?_append free]
    rfl
  exact cut_of_readEvent found

/-- A comment goes to the first mark that ends it. -/
theorem cut_comment {text : List Char} (free : ¬['-', '-', '>'] <:+: text) (rest : List Char) :
    cut ('<' :: '!' :: '-' :: '-' :: (text ++ (['-', '-', '>'] ++ rest))) =
      (cut rest).after [.ignored] := by
  have once : EndsOnce ['-', '-', '>'] := ⟨['-', '-'], '>', rfl, by decide⟩
  have found : readDeclaration ('-' :: '-' :: (text ++ (['-', '-', '>'] ++ rest))) =
      some (.ignored, rest) := by
    rw [readDeclaration, if_pos (by simp), List.drop_succ_cons, List.drop_succ_cons,
      List.drop_zero, once.splitMark?_append free]
    rfl
  exact cut_of_readEvent found

/-- An instruction goes to the first mark that ends it, if that is not the one that begins it. -/
theorem cut_instruction {text : List Char} (free : ¬['?', '>'] <:+: '?' :: text)
    (rest : List Char) :
    cut ('<' :: '?' :: (text ++ (['?', '>'] ++ rest))) = (cut rest).after [.ignored] := by
  have once : EndsOnce ['?', '>'] := ⟨['?'], '>', rfl, by decide⟩
  have inner : ¬['?', '>'] <:+: text := fun inside => free (List.infix_cons_iff.mpr (.inr inside))
  have found : readMarkup ('?' :: (text ++ (['?', '>'] ++ rest))) = some (.ignored, rest) := by
    rw [readMarkup, once.splitMark?_append inner]
    · rfl
    · intro tail same
      cases text with
      | nil => cases same
      | cons c text =>
        obtain ⟨rfl, -⟩ := List.cons.inj same
        exact free ⟨[], text, rfl⟩
  exact cut_of_readEvent found

/-- The entities that are known in every document, by their names. -/
def predefinedEntities : List (List Char × Char) :=
  [("lt".toList, '<'), ("gt".toList, '>'), ("amp".toList, '&'), ("apos".toList, '\''),
    ("quot".toList, '"')]

/-- What can stand in text beside plain characters. The text of a section, a comment or an
instruction goes to the first mark that ends it, and there is no reference to the character of
number zero. -/
inductive Markup where
  | verbatim (text : List Char) (free : ¬[']', ']', '>'] <:+: text)
  | decimal (digits : List Char) (c : Char) (known : c ≠ '\x00')
      (number : IsNumeral 10 digits c.toNat)
  | hexadecimal (digits : List Char) (c : Char) (known : c ≠ '\x00')
      (number : IsNumeral 16 digits c.toNat)
  | entity (name : List Char) (c : Char) (known : (name, c) ∈ predefinedEntities)
  | comment (text : List Char) (free : ¬['-', '-', '>'] <:+: text)
  | instruction (text : List Char) (free : ¬['?', '>'] <:+: '?' :: text)

namespace Markup

/-- How markup is written. -/
def written : Markup → List Char
  | verbatim text _ => '<' :: '!' :: ("[CDATA[".toList ++ text ++ [']', ']', '>'])
  | decimal digits _ _ _ => '&' :: '#' :: (digits ++ [';'])
  | hexadecimal digits _ _ _ => '&' :: '#' :: 'x' :: (digits ++ [';'])
  | entity name _ _ => '&' :: (name ++ [';'])
  | comment text _ => '<' :: '!' :: '-' :: '-' :: (text ++ ['-', '-', '>'])
  | instruction text _ => '<' :: '?' :: (text ++ ['?', '>'])

/-- The text that markup stands for. -/
def content : Markup → List Char
  | verbatim text _ => text
  | decimal _ c _ _ | hexadecimal _ c _ _ | entity _ c _ => [c]
  | comment _ _ | instruction _ _ => []

/-- Markup as a leaf of the document. -/
def leaf : Markup → Leaf
  | verbatim text _ => .text text
  | decimal digits _ _ _ => .reference ('#' :: digits)
  | hexadecimal digits _ _ _ => .reference ('#' :: 'x' :: digits)
  | entity name _ _ => .reference name
  | comment _ _ | instruction _ _ => .ignored

/-- Markup is one event. -/
theorem cut_written (piece : Markup) (rest : List Char) :
    cut (piece.written ++ rest) = (cut rest).after [piece.leaf.event] := by
  cases piece with
  | verbatim text free =>
    have shape : written (.verbatim text free) ++ rest =
        '<' :: '!' :: ("[CDATA[".toList ++ (text ++ ([']', ']', '>'] ++ rest))) := by
      simp [written]
    rw [shape]
    exact cut_section free rest
  | decimal digits c known number =>
    have free : ∀ c ∈ digits, c ∉ ['<', '&', ';'] := fun c mem =>
      number.not_mem_of_toLower (by decide) (List.all_iff_forall_prop.mp (by decide)) mem
    have shape : written (.decimal digits c known number) ++ rest =
        '&' :: ('#' :: digits ++ ';' :: rest) := by
      simp [written]
    rw [shape]
    exact cut_reference (List.forall_mem_cons.mpr ⟨by decide, free⟩) rest
  | hexadecimal digits c known number =>
    have free : ∀ c ∈ digits, c ∉ ['<', '&', ';'] := fun c mem =>
      number.not_mem_of_toLower (by decide) (List.all_iff_forall_prop.mp (by decide)) mem
    have marked : ∀ c ∈ 'x' :: digits, c ∉ ['<', '&', ';'] :=
      List.forall_mem_cons.mpr ⟨by decide, free⟩
    have shape : written (.hexadecimal digits c known number) ++ rest =
        '&' :: ('#' :: 'x' :: digits ++ ';' :: rest) := by
      simp [written]
    rw [shape]
    exact cut_reference (List.forall_mem_cons.mpr ⟨by decide, marked⟩) rest
  | entity name c known =>
    have free : ∀ entity ∈ predefinedEntities,
        entity.1.all (fun c => c ∉ ['<', '&', ';']) = true := by
      decide
    have shape : written (.entity name c known) ++ rest = '&' :: (name ++ ';' :: rest) := by
      simp [written]
    rw [shape]
    exact cut_reference (List.all_iff_forall_prop.mp (free _ known)) rest
  | comment text free =>
    have shape : written (.comment text free) ++ rest =
        '<' :: '!' :: '-' :: '-' :: (text ++ (['-', '-', '>'] ++ rest)) := by
      simp [written]
    rw [shape]
    exact cut_comment free rest
  | instruction text free =>
    have shape : written (.instruction text free) ++ rest =
        '<' :: '?' :: (text ++ (['?', '>'] ++ rest)) := by
      simp [written]
    rw [shape]
    exact cut_instruction free rest

/-- Markup ends a run of plain text. -/
theorem endsText_of_mem_head? (piece : Markup) (rest : List Char) :
    ∀ c ∈ (piece.written ++ rest).head?, endsText c = true := by
  intro c mem
  cases piece with
  | verbatim | decimal | hexadecimal | entity | comment | instruction => cases mem; rfl

end Markup

/-- A piece of a text as it is written: characters that begin no markup, or markup. -/
inductive Piece where
  | plain (text : List Char) (free : '<' ∉ text ∧ '&' ∉ text)
  | markup (piece : Markup)

/-- How a piece is written. -/
def Piece.written : Piece → List Char
  | plain text _ => text
  | markup piece => piece.written

/-- The text that a piece stands for. -/
def Piece.content : Piece → List Char
  | plain text _ => text
  | markup piece => piece.content

/-- A text between the tags of an element. -/
def tagged (name text : List Char) : List Char :=
  '<' :: (name ++ '>' :: (text ++ '<' :: '/' :: (name ++ ['>'])))

namespace Forest

/-- A run of plain text in front of a forest, if there is any. -/
def withText (pending : List Char) (rest : Forest) : Forest :=
  if pending = [] then rest else .leaf (.text pending) rest

/-- The leaves as which pieces are read behind a run of plain text, which goes on in them. -/
def ofPieces (pending : List Char) : List Piece → Forest
  | [] => withText pending .nil
  | .plain text _ :: pieces => ofPieces (pending ++ text) pieces
  | .markup piece :: pieces => withText pending (.leaf piece.leaf (ofPieces [] pieces))

/-- Whether a text is read as a forest, in front of markup and at the end of a document. -/
def IsWritten (forest : Forest) (text : List Char) : Prop :=
  ∀ rest, (∀ c ∈ rest.head?, endsText c = true) →
    cut (text ++ rest) = (cut rest).after forest.events

/-- A run of plain text ends where no such text follows. -/
theorem cut_withText {pending text : List Char} (free : ∀ c ∈ pending, endsText c = false)
    (stop : ∀ c ∈ text.head?, endsText c = true) {rest : Forest} {behind : Document}
    (others : cut text = behind.after rest.events) :
    cut (pending ++ text) = behind.after (withText pending rest).events := by
  by_cases nothing : pending = []
  · rw [withText, if_pos nothing, nothing]
    exact others
  · rw [withText, if_neg nothing, cut_text nothing free stop, others, Document.after_after]
    rfl

/-- Pieces are read as their leaves. The plain text that stands in front of them is read with the
pieces of plain text that continue it. -/
theorem isWritten_ofPieces {pending : List Char} (free : ∀ c ∈ pending, endsText c = false)
    (pieces : List Piece) :
    (ofPieces pending pieces).IsWritten (pending ++ pieces.flatMap Piece.written) := by
  intro rest stop
  induction pieces generalizing pending with
  | nil =>
    rw [List.flatMap_nil, List.append_nil]
    exact cut_withText free stop rfl
  | cons piece pieces ih =>
    rw [List.flatMap_cons]
    cases piece with
    | plain text plain =>
      have both : ∀ c ∈ pending ++ text, endsText c = false := fun c mem =>
        (List.mem_append.mp mem).elim (free c) (endsText_of_not_mem plain)
      rw [← List.append_assoc]
      exact ih both
    | markup piece =>
      have others := piece.cut_written (pieces.flatMap Piece.written ++ rest)
      rw [← List.nil_append (pieces.flatMap _), ih (List.forall_mem_nil _), Document.after_after,
        List.nil_append] at others
      rw [List.append_assoc, List.append_assoc]
      exact cut_withText free (piece.endsText_of_mem_head? _) others

/-- An element is written between its tags. -/
theorem IsWritten.tagged {forest : Forest} {text : List Char} (inside : forest.IsWritten text)
    {name : List Char} (named : IsTagName name) :
    (element name forest nil).IsWritten (tagged name text) := by
  intro rest _
  have shape : Xml.tagged name text ++ rest =
      '<' :: (name ++ '>' :: (text ++ '<' :: '/' :: (name ++ '>' :: rest))) := by
    simp [Xml.tagged]
  rw [shape, cut_opened named, inside _ (fun c mem => by cases mem; rfl), cut_closed named,
    Document.after_after, Document.after_after]
  rfl

/-- A document is read as the forest that is written in it. -/
theorem IsWritten.read_eq {forest : Forest} {text : List Char} (written : forest.IsWritten text)
    (plain : dropByteOrderMark text = text) :
    read (String.ofList text) = ⟨forest.events, true⟩ := by
  have pieces : cut text = ⟨forest.events, true⟩ := by
    have whole := written [] nofun
    rw [List.append_nil, cut] at whole
    rw [whole, Document.after, List.append_nil]
  simp only [read, String.toList_ofList, plain, pieces, matchEnds_events, Bool.true_and]

end Forest

end CrawlFrontier.Xml
