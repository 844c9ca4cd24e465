import CrawlFrontier.Html.Tag

/-!
# Document types

A document may declare its type in front. Declarations that are old, unknown or malformed ask for
the manners of old browsers, in which a table may stand inside a paragraph.
-/

namespace CrawlFrontier.Html

open CrawlFrontier.Text

/-- What a declaration says: a name, two identifiers, and whether it is malformed. -/
structure Doctype where
  name : List Char
  publicId : Option (List Char) := none
  systemId : Option (List Char) := none
  malformed : Bool := false
  deriving DecidableEq, Repr

namespace Doctype

/-- Reads a quoted identifier, and returns what follows too. -/
def readQuoted? : List Char → Option (List Char × List Char)
  | [] => none
  | mark :: text =>
    if mark = '"' ∨ mark = '\'' then
      match splitFirst mark text with
      | (content, some rest) => some (lower content, rest)
      | (_, none) => none
    else none

/-- Reads the identifiers of a declaration behind its name. -/
def readIds (name text : List Char) : Doctype :=
  let text := text.dropWhile isSpace
  let behind := (text.drop 6).dropWhile isSpace
  if text.isEmpty then { name }
  else if startsWithLower "public".toList text then
    match readQuoted? behind with
    | none => { name, malformed := true }
    | some (publicId, rest) =>
      let rest := rest.dropWhile isSpace
      if rest.isEmpty then { name, publicId := some publicId }
      else
        match readQuoted? rest with
        | none => { name, publicId := some publicId, malformed := true }
        | some (systemId, _) => { name, publicId := some publicId, systemId := some systemId }
  else if startsWithLower "system".toList text then
    match readQuoted? behind with
    | none => { name, malformed := true }
    | some (systemId, _) => { name, systemId := some systemId }
  else { name, malformed := true }

/-- Reads what stands between the keyword and the end of a declaration. -/
def read (text : List Char) : Doctype :=
  let text := text.dropWhile isSpace
  readIds (lower (text.takeWhile (!isSpace ·))) (text.dropWhile (!isSpace ·))

/-- The public identifiers of old document types. -/
def oldIds : List String :=
  ["-//w3o//dtd w3 html strict 3.0//en//", "-/w3c/dtd html 4.0 transitional/en", "html"]

/-- How the public identifiers of further old document types begin. -/
def oldIdFronts : List String :=
  ["-//ietf//dtd html 2.0 level 1//", "-//ietf//dtd html 2.0 level 2//",
    "-//ietf//dtd html 2.0 strict level 1//", "-//ietf//dtd html 2.0 strict level 2//",
    "-//ietf//dtd html 2.0 strict//", "-//ietf//dtd html 2.0//", "-//ietf//dtd html 2.1e//",
    "-//ietf//dtd html 3.0//", "-//ietf//dtd html 3.2 final//", "-//ietf//dtd html 3.2//",
    "-//ietf//dtd html 3//", "-//ietf//dtd html level 0//", "-//ietf//dtd html level 1//",
    "-//ietf//dtd html level 2//", "-//ietf//dtd html level 3//",
    "-//ietf//dtd html strict level 0//", "-//ietf//dtd html strict level 1//",
    "-//ietf//dtd html strict level 2//", "-//ietf//dtd html strict level 3//",
    "-//ietf//dtd html strict//", "-//ietf//dtd html//", "-//w3c//dtd html 3 1995-03-24//",
    "-//w3c//dtd html 3.2 draft//", "-//w3c//dtd html 3.2 final//", "-//w3c//dtd html 3.2//",
    "-//w3c//dtd html 3.2s draft//", "-//w3c//dtd html 4.0 frameset//",
    "-//w3c//dtd html 4.0 transitional//", "-//w3c//dtd html experimental 19960712//",
    "-//w3c//dtd html experimental 970421//", "-//w3c//dtd w3 html//",
    "-//w3o//dtd w3 html 3.0//"]

/-- How the public identifiers begin that are old without a system identifier. -/
def halfOldIdFronts : List String :=
  ["-//w3c//dtd html 4.01 frameset//", "-//w3c//dtd html 4.01 transitional//"]

/-- Whether a text begins with one of some texts. -/
def beginsWithAny (fronts : List String) (text : List Char) : Bool :=
  fronts.any fun front => front.toList.isPrefixOf text

/-- Whether a public identifier asks for the manners of old browsers. -/
def isOldId (systemId : Option (List Char)) (publicId : List Char) : Bool :=
  oldIds.any (·.toList = publicId) || beginsWithAny oldIdFronts publicId ||
    (systemId.isNone && beginsWithAny halfOldIdFronts publicId)

/-- Whether a declaration asks for the manners of old browsers. -/
def isOld (doctype : Doctype) : Bool :=
  doctype.malformed || doctype.name ≠ "html".toList ||
    doctype.publicId.any (isOldId doctype.systemId)

end Doctype

end CrawlFrontier.Html
