import CrawlFrontier.Text.Ascii
import CrawlFrontier.Text.Blank
import CrawlFrontier.Text.Utf8

/-!
# Reading XML

A document is cut into its pieces from the front, and then every end tag is compared with the
element that is open there. Elements that are open at the end of the document are no fault. Main
statement: each piece is shorter than the text that it is cut from, so reading ends.
-/

namespace CrawlFrontier.Xml

open CrawlFrontier.Text

/-- A piece of a document. An element that closes itself is one piece, and a reference stands by
what is between its ampersand and its semicolon. -/
inductive Event where
  | opened (name : List Char)
  | closed (name : List Char)
  | selfClosed (name : List Char)
  | text (content : List Char)
  | reference (name : List Char)
  | ignored
  deriving DecidableEq, Repr

/-- The pieces of a document in front of its first fault, and whether it has none. -/
structure Document where
  events : List Event
  wellFormed : Bool
  deriving DecidableEq, Repr

/-- Whether a character separates a name from what follows it. -/
def isSpace (c : Char) : Bool := c == ' ' || c == '\t' || c == '\r' || c == '\n'

/-- The texts in front of the first place where a mark stands and behind the mark. -/
def splitMark? (mark : List Char) : List Char → Option (List Char × List Char)
  | [] => none
  | c :: rest =>
    if mark.isPrefixOf (c :: rest) then some ([], (c :: rest).drop mark.length)
    else (splitMark? mark rest).map fun (front, back) => (c :: front, back)

/-- What stands behind a mark is no longer than the text. -/
theorem length_splitMark? {mark text front back : List Char}
    (h : splitMark? mark text = some (front, back)) : back.length ≤ text.length := by
  induction text generalizing front with
  | nil => simp [splitMark?] at h
  | cons c rest ih =>
    unfold splitMark? at h
    split at h
    · simp only [Option.some.injEq, Prod.mk.injEq] at h
      rw [← h.2]
      simp
    · simp only [Option.map_eq_some_iff, Prod.mk.injEq] at h
      obtain ⟨⟨_, _⟩, hr, _, rfl⟩ := h
      exact Nat.le_succ_of_le (ih hr)

/-- The content of a tag and what follows it, given the quotation mark that is open. -/
def splitTag? (quote : Option Char) : List Char → Option (List Char × List Char)
  | [] => none
  | c :: rest =>
    match quote with
    | none =>
      if c = '>' then some ([], rest)
      else
        (splitTag? (if c = '"' ∨ c = '\'' then some c else none) rest).map
          fun (front, back) => (c :: front, back)
    | some q =>
      (splitTag? (if c = q then none else some q) rest).map fun (front, back) => (c :: front, back)

/-- What follows a tag is no longer than the text. -/
theorem length_splitTag? {quote : Option Char} {text front back : List Char}
    (h : splitTag? quote text = some (front, back)) : back.length ≤ text.length := by
  induction text generalizing quote front with
  | nil => simp [splitTag?] at h
  | cons c rest ih =>
    unfold splitTag? at h
    split at h
    · split at h
      · simp only [Option.some.injEq, Prod.mk.injEq] at h
        simp [← h.2]
      · simp only [Option.map_eq_some_iff, Prod.mk.injEq] at h
        obtain ⟨⟨_, _⟩, hr, _, rfl⟩ := h
        exact Nat.le_succ_of_le (ih hr)
    · simp only [Option.map_eq_some_iff, Prod.mk.injEq] at h
      obtain ⟨⟨_, _⟩, hr, _, rfl⟩ := h
      exact Nat.le_succ_of_le (ih hr)

/-- Where a declaration of the document type may be: outside its inner part, in it, or in a
declaration, comment or instruction there. -/
inductive DoctypeState where
  | outer (quote : Option Char)
  | inner
  | declaration (quote : Option Char)
  | comment
  | instruction
  | after

/-- What follows a declaration of the document type. -/
def skipDoctype (state : DoctypeState) : List Char → Option (List Char)
  | [] => none
  | c :: rest =>
    match state with
    | .outer (some q) => skipDoctype (.outer (if c = q then none else some q)) rest
    | .outer none =>
      if c = '>' then some rest
      else if c = '[' then skipDoctype .inner rest
      else skipDoctype (.outer (if c = '"' ∨ c = '\'' then some c else none)) rest
    | .inner =>
      if c = ']' then skipDoctype .after rest
      else if ['<', '!', '-', '-'].isPrefixOf (c :: rest) then skipDoctype .comment rest
      else if ['<', '?'].isPrefixOf (c :: rest) then skipDoctype .instruction rest
      else skipDoctype (if c = '<' then .declaration none else .inner) rest
    | .declaration (some q) => skipDoctype (.declaration (if c = q then none else some q)) rest
    | .declaration none =>
      if c = '>' then skipDoctype .inner rest
      else skipDoctype (.declaration (if c = '"' ∨ c = '\'' then some c else none)) rest
    | .comment =>
      skipDoctype (if ['-', '>'].isPrefixOf rest ∧ c = '-' then .inner else .comment) rest
    | .instruction =>
      skipDoctype (if ['>'].isPrefixOf rest ∧ c = '?' then .inner else .instruction) rest
    | .after => if c = '>' then some rest else skipDoctype .after rest

/-- What follows a declaration is no longer than the text. -/
theorem length_skipDoctype {state : DoctypeState} {text back : List Char}
    (h : skipDoctype state text = some back) : back.length ≤ text.length := by
  induction text generalizing state with
  | nil => simp [skipDoctype] at h
  | cons c rest ih =>
    unfold skipDoctype at h
    split at h <;> (try split at h) <;> (try split at h) <;> (try split at h) <;>
      first
      | exact Nat.le_succ_of_le (ih h)
      | (simp only [Option.some.injEq] at h; simp [← h])

/-- Reads what follows `<!`: a comment, a section of plain text, or a document type, which must have
a name. -/
def readDeclaration (text : List Char) : Option (Event × List Char) :=
  if ['-', '-'].isPrefixOf text then
    (splitMark? ['-', '-', '>'] (text.drop 2)).map fun (_, rest) => (.ignored, rest)
  else if "[CDATA[".toList.isPrefixOf text then
    (splitMark? [']', ']', '>'] (text.drop 7)).map fun (content, rest) => (.text content, rest)
  else if startsWithLower "doctype".toList text then
    let rest := (text.drop 7).dropWhile isSpace
    if rest.head? = some '>' then none
    else (skipDoctype (.outer none) rest).map fun rest => (.ignored, rest)
  else none

/-- The name of an end tag: its content without white space at the end. Content that is nothing but
white space is kept, so it is no empty name. -/
def endName (content : List Char) : List Char :=
  if content.all isSpace then content else dropEndWhile isSpace content

/-- Reads what follows the first character of markup. The mark that begins an instruction does not
end it too. -/
def readMarkup : List Char → Option (Event × List Char)
  | '!' :: text => readDeclaration text
  | '?' :: '>' :: _ => none
  | '?' :: text => (splitMark? ['?', '>'] text).map fun (_, rest) => (.ignored, rest)
  | '/' :: text =>
    (splitTag? none text).map fun (content, rest) => (.closed (endName content), rest)
  | text =>
    (splitTag? none text).map fun (content, rest) =>
      let name := content.takeWhile fun c => !isSpace c
      match content.reverse with
      | '/' :: front => (.selfClosed (front.reverse.takeWhile fun c => !isSpace c), rest)
      | _ => (.opened name, rest)

/-- Whether a character ends a run of plain text. -/
def endsText (c : Char) : Bool := c == '<' || c == '&'

/-- Reads what follows an ampersand. -/
def readReference (text : List Char) : Option (Event × List Char) :=
  let inside := fun c => !(endsText c || c == ';')
  match text.dropWhile inside with
  | ';' :: rest => some (.reference (text.takeWhile inside), rest)
  | _ => none

/-- Reads the first piece of a text that begins with the given character. -/
def readEvent (c : Char) (text : List Char) : Option (Event × List Char) :=
  if c = '<' then readMarkup text
  else if c = '&' then readReference text
  else some (.text (c :: text.takeWhile (!endsText ·)), text.dropWhile (!endsText ·))

/-- Removing characters from the front makes no text longer. -/
theorem length_dropWhile_le (p : Char → Bool) (text : List Char) :
    (text.dropWhile p).length ≤ text.length :=
  (List.dropWhile_sublist p).length_le

/-- What follows a declaration is no longer than the text from its mark on. -/
theorem length_readDeclaration {text rest : List Char} {event : Event}
    (h : readDeclaration text = some (event, rest)) : rest.length ≤ text.length := by
  unfold readDeclaration at h
  have dropped (n : Nat) : (text.drop n).length ≤ text.length := by simp
  split at h
  · simp only [Option.map_eq_some_iff, Prod.mk.injEq] at h
    obtain ⟨⟨_, _⟩, hr, _, rfl⟩ := h
    exact Nat.le_trans (length_splitMark? hr) (dropped 2)
  · split at h
    · simp only [Option.map_eq_some_iff, Prod.mk.injEq] at h
      obtain ⟨⟨_, _⟩, hr, _, rfl⟩ := h
      exact Nat.le_trans (length_splitMark? hr) (dropped 7)
    · split at h
      · dsimp only at h
        split at h
        · simp at h
        · simp only [Option.map_eq_some_iff, Prod.mk.injEq] at h
          obtain ⟨_, hr, _, rfl⟩ := h
          exact Nat.le_trans (length_skipDoctype hr)
            (Nat.le_trans (length_dropWhile_le _ _) (dropped 7))
      · simp at h

/-- What follows a piece of markup is no longer than the text from its mark on. -/
theorem length_readMarkup {text rest : List Char} {event : Event}
    (h : readMarkup text = some (event, rest)) : rest.length ≤ text.length := by
  unfold readMarkup at h
  split at h
  · exact Nat.le_succ_of_le (length_readDeclaration h)
  · cases h
  · simp only [Option.map_eq_some_iff, Prod.mk.injEq] at h
    obtain ⟨⟨_, _⟩, hr, _, rfl⟩ := h
    exact Nat.le_succ_of_le (length_splitMark? hr)
  · simp only [Option.map_eq_some_iff, Prod.mk.injEq] at h
    obtain ⟨⟨_, _⟩, hr, _, rfl⟩ := h
    exact Nat.le_succ_of_le (length_splitTag? hr)
  · simp only [Option.map_eq_some_iff] at h
    obtain ⟨⟨_, back⟩, hr, he⟩ := h
    have same : rest = back := by split at he <;> simp_all
    exact same ▸ length_splitTag? hr

/-- What follows the first piece is no longer than the text behind its first character. -/
theorem length_readEvent {c : Char} {text rest : List Char} {event : Event}
    (h : readEvent c text = some (event, rest)) : rest.length ≤ text.length := by
  unfold readEvent at h
  split at h
  · exact length_readMarkup h
  · split at h
    · unfold readReference at h
      dsimp only at h
      split at h
      · rename_i found
        simp only [Option.some.injEq, Prod.mk.injEq] at h
        have shorter := length_dropWhile_le (fun c => !(endsText c || c == ';')) text
        rw [found, h.2] at shorter
        exact Nat.le_of_succ_le shorter
      · simp at h
    · simp only [Option.some.injEq, Prod.mk.injEq] at h
      rw [← h.2]
      exact length_dropWhile_le _ _

/-- Cuts a text into pieces up to the first that is malformed. -/
def cut : List Char → Document
  | [] => ⟨[], true⟩
  | c :: text =>
    match _h : readEvent c text with
    | none => ⟨[], false⟩
    | some (event, rest) =>
      let document := cut rest
      ⟨event :: document.events, document.wellFormed⟩
termination_by text => text.length
decreasing_by exact Nat.lt_succ_of_le (length_readEvent _h)

/-- The pieces up to the first end tag that does not close the innermost of the open elements, and
whether there is none. -/
def matchEnds (elements : List (List Char)) : List Event → Document
  | [] => ⟨[], true⟩
  | event :: events =>
    let go (elements : List (List Char)) : Document :=
      let document := matchEnds elements events
      ⟨event :: document.events, document.wellFormed⟩
    match event with
    | .opened name => go (name :: elements)
    | .closed name =>
      match elements with
      | innermost :: outer => if name = innermost then go outer else ⟨[], false⟩
      | [] => ⟨[], false⟩
    | _ => go elements

/-- Reads a document up to its first fault. -/
def read (text : String) : Document :=
  let document := cut (dropByteOrderMark text.toList)
  let nested := matchEnds [] document.events
  ⟨nested.events, nested.wellFormed && document.wellFormed⟩

end CrawlFrontier.Xml
