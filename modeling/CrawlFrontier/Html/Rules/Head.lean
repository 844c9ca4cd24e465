import CrawlFrontier.Html.Builder

/-!
# Rules up to the body

The tags of the document, its head and its body may all be left out; what cannot stand in front of
the body begins them.
-/

namespace CrawlFrontier.Html.Builder

/-- The names of the elements of the head that may also stand elsewhere. -/
def headNames : List String :=
  ["base", "basefont", "bgsound", "link", "meta", "noframes", "script", "style", "template",
    "title"]

/-- The names of end tags that begin what stands in front of them. -/
def outerNames : List String := ["body", "html", "br"]

/-- Begins a template. -/
def beginTemplate (tag : Tag) (builder : Builder) : Step :=
  let builder := ((builder.insert tag).onFormatting Formatting.mark).forbidFrames
  { builder with templateModes := .inTemplate :: builder.templateModes }.goTo .inTemplate

/-- Ends the innermost template, if one is open. -/
def endTemplate (builder : Builder) : Step :=
  if builder.inTemplate then
    let builder := builder.onElements fun elements =>
      OpenElements.closeThrough (·.isNamed "template")
        (elements.dropWhile Element.isImpliedInTemplate)
    let builder := builder.onFormatting Formatting.clear
    let builder := { builder with templateModes := builder.templateModes.drop 1 }
    builder.goTo builder.resetMode
  else builder.done

/-- Begins an element whose content is text up to its end tag. -/
def insertRaw (tag : Tag) (builder : Builder) : Step :=
  (builder.insertClosed tag).thenRead (if tag.name = "script" then .script else .raw tag.name)

/-- Begins an element of the head. -/
def headElement (tag : Tag) (builder : Builder) : Step :=
  if tag.name = "template" then builder.beginTemplate tag
  else if ["title", "noframes", "style", "noscript", "script"].contains tag.name then
    builder.insertRaw tag
  else (builder.insertClosed tag).done

/-- In front of the document. -/
def initial (builder : Builder) (token : Token) : Step :=
  match token with
  | .comment => builder.done
  | .text content =>
    if isBlankText content then builder.done else builder.retryIn .beforeHtml
  | _ => builder.retryIn .beforeHtml

/-- In front of the tag of the document. -/
def beforeHtml (builder : Builder) (token : Token) : Step :=
  let begun := (builder.insertNamed "html").retryIn .beforeHead
  match token with
  | .comment => builder.done
  | .text content => if isBlankText content then builder.done else begun
  | .opening tag => if tag.name = "html" then (builder.insert tag).goTo .beforeHead else begun
  | .closing name => if name = "head" ∨ outerNames.contains name then begun else builder.done
  | _ => begun

/-- In front of the head. -/
def beforeHead (builder : Builder) (token : Token) : Step :=
  let begun := { builder.insertNamed "head" with hasHead := true }.retryIn .inHead
  match token with
  | .comment => builder.done
  | .text content => if isBlankText content then builder.done else begun
  | .opening tag =>
    if tag.name = "html" then builder.done
    else if tag.name = "head" then { builder.insert tag with hasHead := true }.goTo .inHead
    else begun
  | .closing name => if name = "head" ∨ outerNames.contains name then begun else builder.done
  | _ => begun

/-- In the head. -/
def inHead (builder : Builder) (token : Token) : Step :=
  let ended := builder.closeInnermost.retryIn .afterHead
  match token with
  | .comment => builder.done
  | .text content => if isBlankText content then builder.done else ended
  | .opening tag =>
    if tag.name = "html" ∨ tag.name = "head" then builder.done
    else if tag.name = "noscript" ∨ headNames.contains tag.name then builder.headElement tag
    else ended
  | .closing name =>
    if name = "head" then builder.closeInnermost.goTo .afterHead
    else if name = "template" then builder.endTemplate
    else if outerNames.contains name then ended
    else builder.done
  | _ => ended

/-- Between the head and the body. -/
def afterHead (builder : Builder) (token : Token) : Step :=
  let begun := (builder.insertNamed "body").retryIn .inBody
  match token with
  | .comment => builder.done
  | .text content => if isBlankText content then builder.done else begun
  | .opening tag =>
    if tag.name = "html" ∨ tag.name = "head" then builder.done
    else if tag.name = "body" then (builder.insert tag).forbidFrames.goTo .inBody
    else if tag.name = "frameset" then (builder.insert tag).goTo .inFrameset
    else if headNames.contains tag.name then builder.headElement tag
    else begun
  | .closing name =>
    if name = "template" then builder.endTemplate
    else if outerNames.contains name then begun
    else builder.done
  | _ => begun

end CrawlFrontier.Html.Builder
