import CrawlFrontier.Html.Reference

/-!
# Tags

The name of a tag and its attributes. A tag is read one character at a time, because any character
may stand anywhere in it; of attributes with one name the first counts, and a tag that the document
does not end is no tag. Main statement: what follows a tag is no longer than the text.
-/

namespace CrawlFrontier.Html

open CrawlFrontier.Text

/-- An attribute of an element. -/
structure Attribute where
  name : String
  value : List Char
  deriving DecidableEq, Repr

/-- A tag that opens an element. -/
structure Tag where
  name : String
  attributes : List Attribute
  selfClosing : Bool
  deriving DecidableEq, Repr

/-- The value of the attribute of a name, if the attribute is there. -/
def valueOf? (name : String) (attributes : List Attribute) : Option (List Char) :=
  (attributes.find? (·.name = name)).map (·.value)

/-- Whether a character is white space in markup; carriage returns have become line feeds. -/
def isSpace (c : Char) : Bool := c == ' ' || c == '\t' || c == '\n' || c == '\x0C'

/-- Whether a character ends the name of a tag. -/
def endsName (c : Char) : Bool := isSpace c || c == '/' || c == '>'

/-- A text in which the replacement stands for the character that cannot be. -/
def replaceNull (text : List Char) : List Char :=
  text.map fun c => if c = '\x00' then replacement else c

/-- The name of a tag or of an attribute, given how it is written. -/
def plainName (text : List Char) : String := String.ofList (lower (replaceNull text))

/-- What is being read in a tag behind its name. -/
inductive TagPlace where
  | between
  | name
  | behindName
  | beforeValue
  | quoted (mark : Char)
  | unquoted
  | behindSlash
  deriving DecidableEq

/-- What was read of a tag behind its name: the attributes, the last in front, and the characters of
the name and of the value that are being read, the last in front. -/
structure TagDraft where
  place : TagPlace
  attributes : List Attribute
  name : List Char
  value : List Char

namespace TagDraft

/-- Nothing was read yet. -/
def empty : TagDraft := ⟨.between, [], [], []⟩

/-- Ends the attribute that is being read. -/
def finishAttribute (draft : TagDraft) (place : TagPlace) : TagDraft :=
  let read : Attribute :=
    ⟨plainName draft.name.reverse, resolveValue (replaceNull draft.value.reverse)⟩
  if draft.attributes.any (·.name = read.name) then ⟨place, draft.attributes, [], []⟩
  else ⟨place, read :: draft.attributes, [], []⟩

/-- Takes notice of a character between attributes; nothing is returned if it ends the tag. -/
def addBetween (draft : TagDraft) (c : Char) : Option TagDraft :=
  if isSpace c then some { draft with place := .between }
  else if c = '/' then some { draft with place := .behindSlash }
  else if c = '>' then none
  else some { draft with place := .name, name := [c] }

/-- Takes notice of a character; nothing is returned if it ends the tag. -/
def add (draft : TagDraft) (c : Char) : Option TagDraft :=
  match draft.place with
  | .between | .behindSlash => draft.addBetween c
  | .name =>
    if isSpace c then some { draft with place := .behindName }
    else if c = '/' then some (draft.finishAttribute .behindSlash)
    else if c = '>' then none
    else if c = '=' then some { draft with place := .beforeValue }
    else some { draft with name := c :: draft.name }
  | .behindName =>
    if isSpace c then some draft
    else if c = '=' then some { draft with place := .beforeValue }
    else (draft.finishAttribute .between).addBetween c
  | .beforeValue =>
    if isSpace c then some draft
    else if c = '"' ∨ c = '\'' then some { draft with place := .quoted c }
    else if c = '>' then none
    else some { draft with place := .unquoted, value := [c] }
  | .quoted mark =>
    if c = mark then some (draft.finishAttribute .between)
    else some { draft with value := c :: draft.value }
  | .unquoted =>
    if isSpace c then some (draft.finishAttribute .between)
    else if c = '>' then none
    else some { draft with value := c :: draft.value }

/-- What was read of a tag once it ends: its attributes, and whether it closes itself. -/
def finish (draft : TagDraft) : List Attribute × Bool :=
  match draft.place with
  | .between | .quoted _ => (draft.attributes.reverse, false)
  | .behindSlash => (draft.attributes.reverse, true)
  | .name | .behindName | .beforeValue | .unquoted =>
    ((draft.finishAttribute .between).attributes.reverse, false)

/-- Reads a tag behind its name up to its end, and returns what follows too. -/
def read (draft : TagDraft) : List Char → Option ((List Attribute × Bool) × List Char)
  | [] => none
  | c :: text =>
    match draft.add c with
    | some draft => draft.read text
    | none => some (draft.finish, text)

/-- What follows a tag is no longer than the text. -/
theorem length_read {draft : TagDraft} {text rest : List Char} {content : List Attribute × Bool}
    (h : draft.read text = some (content, rest)) : rest.length ≤ text.length := by
  induction text generalizing draft with
  | nil => simp [read] at h
  | cons c text ih =>
    unfold read at h
    split at h
    · exact Nat.le_succ_of_le (ih h)
    · simp only [Option.some.injEq, Prod.mk.injEq] at h
      simp [← h.2]

end TagDraft

/-- Reads a tag from its name on. -/
def readTag? (text : List Char) : Option (Tag × List Char) :=
  let name := text.takeWhile (!endsName ·)
  (TagDraft.empty.read (text.dropWhile (!endsName ·))).map
    fun ((attributes, selfClosing), rest) => (⟨plainName name, attributes, selfClosing⟩, rest)

/-- What follows a tag is no longer than the text from its name on. -/
theorem length_readTag? {text rest : List Char} {tag : Tag}
    (h : readTag? text = some (tag, rest)) : rest.length ≤ text.length := by
  simp only [readTag?, Option.map_eq_some_iff, Prod.mk.injEq] at h
  obtain ⟨⟨_, _⟩, hr, _, rfl⟩ := h
  exact Nat.le_trans (TagDraft.length_read hr) (List.dropWhile_sublist _).length_le

end CrawlFrontier.Html
