import CrawlFrontier.Html.Rules.Table

/-!
# Rules of selections, templates and frames

Places where little may stand. A selection holds options only. What a template holds is told by the
first tag in it. A set of frames takes the place of a body.
-/

namespace CrawlFrontier.Html.Builder

/-- In a selection. -/
def inSelect (builder : Builder) (token : Token) : Step :=
  match token with
  | .opening tag =>
    let name := tag.name
    if name = "option" then ((builder.closeInnermostNamed "option").insert tag).done
    else if name = "optgroup" then
      (((builder.closeInnermostNamed "option").closeInnermostNamed "optgroup").insert tag).done
    else if name = "select" then
      (if builder.inSelectScope then builder.endSelect else builder).done
    else if ["input", "keygen", "textarea"].contains name then
      if builder.inSelectScope then
        let ended := builder.endSelect
        ended.retryIn ended.mode
      else builder.done
    else if name = "script" ∨ name = "template" then builder.headElement tag
    else builder.done
  | .closing name =>
    if name = "optgroup" then
      match builder.elements with
      | option :: group :: _ =>
        let builder :=
          if option.isNamed "option" && group.isNamed "optgroup" then builder.closeInnermost
          else builder
        (builder.closeInnermostNamed "optgroup").done
      | _ => (builder.closeInnermostNamed "optgroup").done
    else if name = "option" then (builder.closeInnermostNamed "option").done
    else if name = "select" then
      (if builder.inSelectScope then builder.endSelect else builder).done
    else if name = "template" then builder.endTemplate
    else builder.done
  | _ => builder.done

/-- The names of parts of tables that end a selection in a table. -/
def selectEndNames : List String :=
  ["caption", "table", "tbody", "tfoot", "thead", "tr", "td", "th"]

/-- In a selection in a table. -/
def inSelectInTable (builder : Builder) (token : Token) : Step :=
  let ended := builder.endSelect
  match token with
  | .opening tag =>
    if selectEndNames.contains tag.name then ended.retryIn ended.mode
    else builder.inSelect token
  | .closing name =>
    if selectEndNames.contains name then
      if builder.inTableScope name then ended.retryIn ended.mode else builder.done
    else builder.inSelect token
  | _ => builder.inSelect token

/-- Looks at a token again in the part that a template turns out to hold. -/
def retryInTemplate (mode : Mode) (builder : Builder) : Step :=
  { builder with templateModes := mode :: builder.templateModes.drop 1 }.retryIn mode

/-- In a template. -/
def inTemplateContent (builder : Builder) (token : Token) : Step :=
  match token with
  | .text _ => builder.inBody token
  | .opening tag =>
    let name := tag.name
    if headNames.contains name then builder.headElement tag
    else if ["caption", "colgroup", "tbody", "tfoot", "thead"].contains name then
      builder.retryInTemplate .inTable
    else if name = "col" then builder.retryInTemplate .inColumnGroup
    else if name = "tr" then builder.retryInTemplate .inTableBody
    else if name = "td" ∨ name = "th" then builder.retryInTemplate .inRow
    else builder.retryInTemplate .inBody
  | .closing name => if name = "template" then builder.endTemplate else builder.done
  | _ => builder.done

/-- Behind the body, and behind the document. -/
def afterBody (builder : Builder) (token : Token) : Step :=
  match token with
  | .comment => builder.done
  | .text content =>
    if isBlankText content then builder.inBody token else builder.retryIn .inBody
  | .opening tag => if tag.name = "html" then builder.done else builder.retryIn .inBody
  | .closing name =>
    if name = "html" ∧ builder.mode = .afterBody then builder.goTo .afterAfterBody
    else builder.retryIn .inBody
  | _ => builder.retryIn .inBody

/-- In a set of frames. -/
def inFrameset (builder : Builder) (token : Token) : Step :=
  match token with
  | .opening tag =>
    if tag.name = "frameset" then (builder.insert tag).done
    else if tag.name = "frame" then (builder.insertClosed tag).done
    else if tag.name = "noframes" then builder.headElement tag
    else builder.done
  | .closing name =>
    if name = "frameset" ∧ 2 ≤ builder.elements.length then
      let builder := builder.closeInnermost
      if builder.innermost (·.isNamed "frameset") then builder.done
      else builder.goTo .afterFrameset
    else builder.done
  | _ => builder.done

/-- Behind a set of frames, and behind its document. -/
def afterFrameset (builder : Builder) (token : Token) : Step :=
  match token with
  | .text content =>
    if builder.mode = .afterAfterFrameset ∧ isBlankText content then builder.inBody token
    else builder.done
  | .opening tag =>
    if tag.name = "noframes" then builder.headElement tag else builder.done
  | .closing name =>
    if name = "html" ∧ builder.mode = .afterFrameset then builder.goTo .afterAfterFrameset
    else builder.done
  | _ => builder.done

end CrawlFrontier.Html.Builder
