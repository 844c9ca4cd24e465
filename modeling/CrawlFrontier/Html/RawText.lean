import CrawlFrontier.Html.Tag

/-!
# Raw text

The content of some elements is text up to their end tag, and nothing in it is markup. In a script a
comment may hide the end tag of a script that opens inside the comment. Main statement: what follows
raw text is no longer than the text.
-/

namespace CrawlFrontier.Html

open CrawlFrontier.Text

/-- How the text behind a tag is read: as markup, as text up to the end tag of an element, as a
script, or as text up to the end of the document. -/
inductive Reading where
  | markup
  | raw (name : String)
  | script
  | plain
  deriving DecidableEq, Repr

/-- Whether a text begins with a name of lower-case letters, in any case, and then ends it. -/
def namesHere (name text : List Char) : Bool :=
  startsWithLower name text &&
    match text.drop name.length with
    | c :: _ => endsName c
    | [] => false

/-- Whether the end tag of an element stands here. -/
def endsHere (name : List Char) (text : List Char) : Bool :=
  ['<', '/'].isPrefixOf text && namesHere name (text.drop 2)

/-- What follows an end tag, given the text from the tag on. -/
def behindEndTag (text : List Char) : List Char :=
  match readTag? (text.drop 2) with
  | some (_, rest) => rest
  | none => []

/-- What follows raw text and the end tag of its element. -/
def behindRaw (name : List Char) : List Char → List Char
  | [] => []
  | c :: text =>
    if endsHere name (c :: text) then behindEndTag (c :: text) else behindRaw name text

/-- Where a script is read: outside comments, in a comment, or in a script in a comment, behind so
many hyphens. -/
inductive ScriptPlace where
  | outside
  | comment (hyphens : Nat)
  | nested (hyphens : Nat)
  deriving DecidableEq

/-- The number of hyphens behind a character that is no opening bracket. -/
def countHyphens (hyphens : Nat) (c : Char) : Nat := if c = '-' then hyphens + 1 else 0

/-- The place behind a character that is no opening bracket: two hyphens and a closing bracket end a
comment. -/
def ScriptPlace.after (place : ScriptPlace) (c : Char) : ScriptPlace :=
  match place with
  | .outside => .outside
  | .comment hyphens =>
    if c = '>' ∧ 2 ≤ hyphens then .outside else .comment (countHyphens hyphens c)
  | .nested hyphens =>
    if c = '>' ∧ 2 ≤ hyphens then .outside else .nested (countHyphens hyphens c)

/-- The place behind an opening bracket that begins no end tag of the script. -/
def ScriptPlace.afterBracket (place : ScriptPlace) (text : List Char) : ScriptPlace :=
  match place with
  | .outside => if "!--".toList.isPrefixOf text then .comment 0 else .outside
  | .comment _ => if namesHere "script".toList text then .nested 0 else .comment 0
  | .nested _ =>
    if ['/'].isPrefixOf text && namesHere "script".toList (text.drop 1) then .comment 0
    else .nested 0

/-- Whether the place is in a script in a comment. -/
def ScriptPlace.isNested : ScriptPlace → Bool
  | .nested _ => true
  | .outside | .comment _ => false

/-- What follows a script and its end tag. -/
def behindScript (place : ScriptPlace) : List Char → List Char
  | [] => []
  | c :: text =>
    if c = '<' then
      if !place.isNested && endsHere "script".toList (c :: text) then behindEndTag (c :: text)
      else behindScript (place.afterBracket text) text
    else behindScript (place.after c) text

/-- The text that is left to be read as markup. -/
def Reading.skip (reading : Reading) (text : List Char) : List Char :=
  match reading with
  | .markup => text
  | .raw name => behindRaw name.toList text
  | .script => behindScript .outside text
  | .plain => []

/-- What follows an end tag is no longer than the text. -/
theorem length_behindEndTag (text : List Char) : (behindEndTag text).length ≤ text.length := by
  unfold behindEndTag
  split
  · rename_i h
    exact Nat.le_trans (length_readTag? h) (by simp)
  · simp

/-- What follows raw text is no longer than the text. -/
theorem length_behindRaw (name text : List Char) :
    (behindRaw name text).length ≤ text.length := by
  induction text with
  | nil => simp [behindRaw]
  | cons c text ih =>
    unfold behindRaw
    split
    · exact length_behindEndTag _
    · exact Nat.le_succ_of_le ih

/-- What follows a script is no longer than the text. -/
theorem length_behindScript (place : ScriptPlace) (text : List Char) :
    (behindScript place text).length ≤ text.length := by
  induction text generalizing place with
  | nil => simp [behindScript]
  | cons c text ih =>
    unfold behindScript
    split
    · split
      · exact length_behindEndTag _
      · exact Nat.le_succ_of_le (ih _)
    · exact Nat.le_succ_of_le (ih _)

/-- What is left to be read is no longer than the text. -/
theorem length_skip (reading : Reading) (text : List Char) :
    (reading.skip text).length ≤ text.length := by
  cases reading with
  | markup => exact Nat.le_refl _
  | raw name => exact length_behindRaw _ _
  | script => exact length_behindScript _ _
  | plain => simp [Reading.skip]

end CrawlFrontier.Html
