import CrawlFrontier.Html.Doctype

/-!
# Tokens

Markup is read as tags, comments, declarations and the text between them. Text comes in runs, each
of white space only or without white space. Nothing is malformed: what is no markup is text, and a
tag that the document does not end is left out. Main statement: what follows the tokens that begin
with a character is no longer than the text behind that character.
-/

namespace CrawlFrontier.Html

open CrawlFrontier.Text

/-- A piece of a document. The character that cannot be stands for itself, and markup that says
nothing is a piece too. -/
inductive Token where
  | opening (tag : Tag)
  | closing (name : String)
  | text (content : List Char)
  | null
  | comment
  | doctype (doctype : Doctype)
  | nothing
  deriving DecidableEq, Repr

/-- Whether a character is white space in text. -/
def isBlankChar (c : Char) : Bool := isSpace c || c == '\r'

/-- Whether a run of text is white space. -/
def isBlankText (text : List Char) : Bool := text.all isBlankChar

/-- Whether two characters stand in one run of text. -/
def joins (a b : Char) : Bool := a ≠ '\x00' && b ≠ '\x00' && isBlankChar a == isBlankChar b

/-- The token of a run of text. -/
def Token.ofRun (run : List Char) : Token := if run = ['\x00'] then .null else .text run

/-- The tokens of a text without markup. -/
def Token.ofText (text : List Char) : List Token := (text.splitBy joins).map Token.ofRun

/-- What follows a comment, given the text behind its first four characters. -/
def behindComment : List Char → List Char
  | [] => []
  | c :: text =>
    if ['-', '-', '>'].isPrefixOf (c :: text) then text.drop 2
    else if ['-', '-', '!', '>'].isPrefixOf (c :: text) then text.drop 3
    else behindComment text

/-- What follows a comment that may end at once. -/
def behindOpenComment : List Char → List Char
  | '>' :: text => text
  | '-' :: '>' :: text => text
  | text => behindComment text

/-- What follows the next closing bracket. -/
def behindBracket (text : List Char) : List Char := (text.dropWhile (· ≠ '>')).drop 1

/-- The text in front of the end of a section of plain text, and what follows the section. -/
def readSection : List Char → List Char × List Char
  | [] => ([], [])
  | c :: text =>
    if [']', ']', '>'].isPrefixOf (c :: text) then ([], text.drop 2)
    else
      let (content, rest) := readSection text
      (c :: content, rest)

/-- Reads what follows `<!`. Sections of plain text stand in foreign elements only. -/
def readDeclaration (foreign : Bool) (text : List Char) : List Token × List Char :=
  if ['-', '-'].isPrefixOf text then ([.comment], behindOpenComment (text.drop 2))
  else if startsWithLower "doctype".toList text then
    ([.doctype (Doctype.read ((text.drop 7).takeWhile (· ≠ '>')))], behindBracket (text.drop 7))
  else if foreign && "[CDATA[".toList.isPrefixOf text then
    let (content, rest) := readSection (text.drop 7)
    (Token.ofText content, rest)
  else ([.comment], behindBracket text)

/-- Reads a tag from its name on. -/
def readTag (token : Tag → Token) (text : List Char) : List Token × List Char :=
  match readTag? text with
  | some (tag, rest) => ([token tag], rest)
  | none => ([], [])

/-- Reads what follows `</`. -/
def readClosing : List Char → List Token × List Char
  | [] => ([.text ['<', '/']], [])
  | c :: text =>
    if c = '>' then ([.nothing], text)
    else if c.isAlpha then readTag (fun tag => .closing tag.name) (c :: text)
    else ([.comment], behindBracket (c :: text))

/-- Reads what follows an opening bracket. -/
def readMarkup (foreign : Bool) : List Char → List Token × List Char
  | [] => ([.text ['<']], [])
  | c :: text =>
    if c = '!' then readDeclaration foreign text
    else if c = '?' then ([.comment], behindBracket text)
    else if c = '/' then readClosing text
    else if c.isAlpha then readTag .opening (c :: text)
    else ([.text ['<']], c :: text)

/-- Reads what follows an ampersand. -/
def readReference (text : List Char) : List Token × List Char :=
  match reference? false text with
  | some reference => (Token.ofText reference.meaning, text.drop reference.length)
  | none => ([.text ['&']], text)

/-- Whether a character stands in plain text. -/
def isPlain (c : Char) : Bool := c ≠ '<' && c ≠ '&' && c ≠ '\x00'

/-- Reads the tokens that begin with a character. -/
def readTokens (foreign : Bool) (c : Char) (text : List Char) : List Token × List Char :=
  if c = '<' then readMarkup foreign text
  else if c = '&' then readReference text
  else if c = '\x00' then ([.null], text)
  else (Token.ofText (c :: text.takeWhile isPlain), text.dropWhile isPlain)

/-- What follows a comment is no longer than the text. -/
theorem length_behindComment (text : List Char) :
    (behindComment text).length ≤ text.length := by
  induction text with
  | nil => simp [behindComment]
  | cons c text ih =>
    unfold behindComment
    split
    · simp; omega
    · split
      · simp; omega
      · exact Nat.le_succ_of_le ih

/-- What follows a comment that may end at once is no longer than the text. -/
theorem length_behindOpenComment (text : List Char) :
    (behindOpenComment text).length ≤ text.length := by
  unfold behindOpenComment
  split
  · simp
  · simp; omega
  · exact length_behindComment _

/-- What follows the next closing bracket is no longer than the text. -/
theorem length_behindBracket (text : List Char) : (behindBracket text).length ≤ text.length := by
  have shorter := (List.dropWhile_sublist (p := (· ≠ '>')) (l := text)).length_le
  simp only [behindBracket, List.length_drop]
  omega

/-- What follows a section is no longer than the text. -/
theorem length_readSection (text : List Char) : (readSection text).2.length ≤ text.length := by
  induction text with
  | nil => simp [readSection]
  | cons c text ih =>
    unfold readSection
    split
    · simp; omega
    · exact Nat.le_succ_of_le ih

/-- What follows a declaration is no longer than the text. -/
theorem length_readDeclaration (foreign : Bool) (text : List Char) :
    (readDeclaration foreign text).2.length ≤ text.length := by
  have dropped (n : Nat) : (text.drop n).length ≤ text.length := by simp
  unfold readDeclaration
  split
  · exact Nat.le_trans (length_behindOpenComment _) (dropped 2)
  · split
    · exact Nat.le_trans (length_behindBracket _) (dropped 7)
    · split
      · exact Nat.le_trans (length_readSection _) (dropped 7)
      · exact length_behindBracket _

/-- What follows a tag is no longer than the text from its name on. -/
theorem length_readTag (token : Tag → Token) (text : List Char) :
    (readTag token text).2.length ≤ text.length := by
  unfold readTag
  split
  · rename_i h
    exact length_readTag? h
  · simp

/-- What follows a closing tag is no longer than the text behind its mark. -/
theorem length_readClosing (text : List Char) : (readClosing text).2.length ≤ text.length := by
  unfold readClosing
  split
  · simp
  · split
    · simp
    · split
      · exact length_readTag _ _
      · exact length_behindBracket _

/-- What follows markup is no longer than the text behind its opening bracket. -/
theorem length_readMarkup (foreign : Bool) (text : List Char) :
    (readMarkup foreign text).2.length ≤ text.length := by
  unfold readMarkup
  split
  · simp
  · split
    · exact Nat.le_succ_of_le (length_readDeclaration _ _)
    · split
      · exact Nat.le_succ_of_le (length_behindBracket _)
      · split
        · exact Nat.le_succ_of_le (length_readClosing _)
        · split
          · exact length_readTag _ _
          · simp

/-- What follows the tokens that begin with a character is no longer than the text behind it. -/
theorem length_readTokens (foreign : Bool) (c : Char) (text : List Char) :
    (readTokens foreign c text).2.length ≤ text.length := by
  unfold readTokens
  split
  · exact length_readMarkup _ _
  · split
    · unfold readReference
      split
      · simp
      · simp
    · split
      · simp
      · exact (List.dropWhile_sublist _).length_le

end CrawlFrontier.Html
