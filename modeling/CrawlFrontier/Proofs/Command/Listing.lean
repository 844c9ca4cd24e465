import CrawlFrontier.Proofs.Command.Report
import CrawlFrontier.Proofs.Frontier.Made
import CrawlFrontier.Proofs.Replay.Candidate

/-!
# Listings of queued URLs

A run lists the URLs that wait, one a line with the tag of its kind behind it, and such a list is
what a run reads. Keys are single words, so nothing in them ends a line or a field or turns a line
into a comment. Main statement: the list of what waits in a frontier is read back as what waits.
-/

namespace CrawlFrontier

open CrawlFrontier.Text CrawlFrontier.Canonical

namespace Command

/-- The text of lines that are printed. -/
def outputText (output : List String) : String :=
  String.ofList (output.flatMap fun line => line.toList ++ ['\n'])

/-- The candidate that a queued URL becomes in the line of the given number. -/
def candidateOf (item : QueuedUrl) (line : Nat) : Candidate := ⟨item.url.key, item.kind, line⟩

/-- A queued URL as it is listed: the key and the tag with a tabulator between them. -/
def listedRow (item : QueuedUrl) (made : item.url.IsMade) : Candidate.Row where
  url := item.url.key
  kind := item.kind
  gap := ['\t']
  tag := item.kind.tag.toList
  returns := false
  word := by
    obtain ⟨rest, begins⟩ := made.exists_key_eq
    exact ⟨fun empty => by simp [empty] at begins, fun c mem => made.isBlank_of_mem_key mem⟩
  noComment := by
    obtain ⟨rest, begins⟩ := made.exists_key_eq
    simp [begins]
  apart := by simp
  named := by
    cases item.kind <;> decide

/-- The line of a queued URL is its row. -/
theorem chars_listedRow (item : QueuedUrl) (made : item.url.IsMade) :
    (listedRow item made).chars = (queuedLine item).toList := by
  simp [Candidate.Row.chars, listedRow, queuedLine]

/-- A list of queued URLs is read back as these URLs and their kinds. -/
theorem parse_outputText {items : List QueuedUrl} (made : ∀ item ∈ items, item.url.IsMade) :
    Candidate.parse (outputText (items.map queuedLine)) =
      .whole ((items.zipIdx 1).map fun (item, line) => candidateOf item line, []) := by
  have rows : (items.pmap listedRow made).map Candidate.Row.chars =
      items.map fun item => (queuedLine item).toList := by
    simp only [List.map_pmap, chars_listedRow, List.pmap_eq_map]
  have text : outputText (items.map queuedLine) =
      Candidate.Row.text (items.pmap listedRow made) (!items.isEmpty) := by
    have ended := flatMap_append_mark '\n' (items.map fun item => (queuedLine item).toList)
    rw [List.flatMap_map] at ended
    rw [outputText, List.flatMap_map, ended, Candidate.Row.text, rows]
    cases items <;> rfl
  have parts : (items.pmap listedRow made).map (fun row => (row.url, row.kind)) =
      items.map fun item => (item.url.key, item.kind) := by
    simp only [List.map_pmap, listedRow, List.pmap_eq_map]
  have numbered := congrArg (fun named : List (String × DocumentKind) =>
    (named.zipIdx 1).map fun entry => (⟨entry.1.1, entry.1.2, entry.2⟩ : Candidate)) parts
  simp only [List.zipIdx_map, List.map_map] at numbered
  rw [text, Candidate.Row.parse_text]
  exact congrArg (fun candidates => Candidate.Reading.whole (candidates, [])) numbered

/-- A run that prints nothing but its list prints a list of candidates. -/
theorem parse_of_mayPrint {files : String → Option (List UInt8)} {time : String}
    {arguments : Arguments} {output : List String} (lists : arguments.printNew = true) (quiet : arguments.quiet = true)
    (prints : MayPrint files time arguments output) :
    ∃ items : List QueuedUrl, output = items.map queuedLine ∧
      Candidate.parse (outputText output) =
        .whole ((items.zipIdx 1).map fun (item, line) => candidateOf item line, []) := by
  cases prints with
  | @replayed config candidates notices stage configured loaded reached done =>
    have account := accountsFor_of_done time reached done
    have made : ∀ item ∈ stage.frontier.queued, item.url.IsMade := by
      intro item waits
      obtain ⟨candidate, -, parsed, -⟩ := account.named item waits
      exact .parsed (toOption_eq_some_iff.mp parsed)
    have listed : printed time arguments stage.frontier stage.merged =
        stage.frontier.queued.map queuedLine := by
      rw [printed, lists, quiet]
      exact List.append_nil _
    rw [listed]
    exact ⟨_, rfl, parse_outputText made⟩

/-- In every state of a frontier, the list of what waits is read back as what waits, in its order,
without any notice. -/
theorem parse_listing {system : System} (reached : system.ReachableMade) :
    Candidate.parse (outputText (system.frontier.queued.map queuedLine)) =
      .whole ((system.frontier.queued.zipIdx 1).map fun (item, line) =>
        ⟨item.url.key, item.kind, line⟩, []) :=
  parse_outputText reached.holdsMade.waiting

/-- Two URLs that wait with different kinds are listed as they are known. -/
theorem parse_listing_loopback :
    ∃ system : System, system.ReachableMade ∧
      Candidate.parse (outputText (system.frontier.queued.map queuedLine)) =
        .whole ([⟨"http://[::1]/a/b", .unclassified, 1⟩, ⟨"http://[::1]/", .sitemap, 2⟩], []) := by
  have pageRead : CanonicalUrl.parse {} " http://[::1]:80/a//b/#top" =
      .ok ⟨loopbackPage ["a", "b"] none none⟩ := by
    decide +kernel
  have frontRead : CanonicalUrl.parse {} "http://[::1]" = .ok ⟨loopbackPage [""] none none⟩ := by
    decide +kernel
  have different : (⟨loopbackPage [""] none none⟩ : CanonicalUrl).key ≠
      (⟨loopbackPage ["a", "b"] none none⟩ : CanonicalUrl).key := by
    decide
  have keys : (⟨loopbackPage ["a", "b"] none none⟩ : CanonicalUrl).key = "http://[::1]/a/b" ∧
      (⟨loopbackPage [""] none none⟩ : CanonicalUrl).key = "http://[::1]/" := by
    decide
  generalize (⟨loopbackPage ["a", "b"] none none⟩ : CanonicalUrl) = page at *
  generalize (⟨loopbackPage [""] none none⟩ : CanonicalUrl) = front at *
  have new : System.ReachableMade ⟨.withSeen .empty {}, fun _ => []⟩ := .new (.withSeen .empty {})
  have entered := (new.begin 0 (.offerUrl page .unclassified)
    (fun url kind same => by cases same; exact .parsed pageRead) rfl).act 0
    (.enter page .unclassified) [.count] rfl
  have both := (entered.begin 1 (.offerUrl front .sitemap)
    (fun url kind same => by cases same; exact .parsed frontRead) rfl).act 1
    (.enter front .sitemap) [.count] rfl
  refine ⟨_, both, (parse_listing both).trans ?_⟩
  have fresh : ¬(Frontier.withSeen .empty {}).seen.contains page.key = true := by
    simp [SeenStore.contains_eq_isSome_kind?, Frontier.withSeen]
  have stillFresh : ¬((Frontier.withSeen .empty {}).enter page .unclassified).1.seen.contains
      front.key = true := by
    rw [SeenStore.contains_eq_isSome_kind?, Frontier.seen_enter, SeenStore.kind?_mark,
      if_neg different]
    simp [Frontier.withSeen]
  have waiting : (((Frontier.withSeen .empty {}).enter page .unclassified).1.enter front
      .sitemap).1.queued = [⟨page, .unclassified⟩, ⟨front, .sitemap⟩] := by
    rw [Frontier.queued_enter, if_neg stillFresh, Frontier.queued_enter, if_neg fresh]
    rfl
  change Candidate.Reading.whole ((((((Frontier.withSeen .empty {}).enter page .unclassified).1.enter front
    .sitemap).1.queued.zipIdx 1).map _), []) = _
  rw [waiting, ← keys.1, ← keys.2]
  rfl

end Command

end CrawlFrontier
