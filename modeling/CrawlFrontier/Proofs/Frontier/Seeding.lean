import CrawlFrontier.Proofs.Canonical.Made
import CrawlFrontier.Proofs.Frontier.Safety
import CrawlFrontier.Proofs.Url.Relative
import Mathlib.Data.List.Nodup

/-!
# Seeds

A seed is two offers: of the file with the rules for robots, and of the page. Both URLs are read
before anything is offered, so a seed that fails changes nothing. The file is named by a reference
that begins at the root, so its URL has the parts of the page in front of the path. Main statement:
after any sequence of seeds every page that waits has the file of its host in front of it, and each
URL waits once.
-/

namespace CrawlFrontier

open CrawlFrontier.Text CrawlFrontier.Canonical

namespace Url

/-- The file with the rules for robots on the host of a page. -/
def robotsFile (page : Url) : Url :=
  { page with path := .segments ["robots.txt"], query := none, fragment := none }

/-- The reference to the file with the rules for robots names no host. -/
theorem placed?_robots (scheme : String) :
    placed? scheme "/robots.txt".toList = some ⟨"/robots.txt".toList, none, none⟩ := by
  have text : Reference.ofText (clean "/robots.txt".toList) = ⟨"/robots.txt".toList, none, none⟩ :=
    rfl
  have noScheme : splitScheme? "/robots.txt".toList = none := by
    decide
  simp only [placed?, text, noScheme]
  rfl

variable {page : Url}

/-- The file with the rules for robots stands at the root, whatever page names it. -/
theorem WellFormed.robots?_eq (valid : page.WellFormed) : page.robots? = some page.robotsFile := by
  have named := valid.parseFrom_of_placed? (placed?_robots page.scheme)
  have path : follow .special [] "robots.txt".toList = ["robots.txt"] := by
    decide
  have place : page.place ⟨"/robots.txt".toList, none, none⟩ = page.robotsFile := by
    rw [robotsFile, ← path, ← ofScheme_of_isWeb valid.web]
    rfl
  rw [robots?, join, named, place]
  rfl

/-- The URL of the file with the rules for robots is well formed. -/
theorem WellFormed.robotsFile (valid : page.WellFormed) : page.robotsFile.WellFormed := by
  have named := toOption_eq_some_iff.mp valid.robots?_eq
  refine .of_parseFrom (fun base mem _ => ?_) named valid.web
  rwa [← Option.mem_some_iff.mp mem]

end Url

namespace CanonicalUrl

/-- The canonical URL of the file with the rules for robots on the host of a page, whose URL is
printed and read again. -/
def robots? (rules : Rules) (page : CanonicalUrl) : Option CanonicalUrl :=
  page.url.robots?.bind fun file => (parse rules file.toString).toOption

variable {rules : Rules} {page robots : CanonicalUrl}

/-- The file with the rules for robots stands at the root of the host of the page. -/
theorem IsMade.robots?_eq (made : page.IsMade) :
    page.robots? rules = (parse rules page.url.robotsFile.toString).toOption := by
  rw [robots?, made.wellFormed.robots?_eq, Option.bind_some]

/-- The canonical URL of the file with the rules for robots was made. -/
theorem IsMade.of_robots? (made : page.IsMade) (found : page.robots? rules = some robots) :
    robots.IsMade := by
  rw [made.robots?_eq] at found
  exact .parsed (toOption_eq_some_iff.mp found)

/-- The canonical URL of the file with the rules for robots has the parts of the page in front of
the path; of the host it may lose a `www.` that the page has kept. -/
theorem IsMade.robots_spec (made : page.IsMade) (found : page.robots? rules = some robots) :
    ∃ host kept : Url.Host, page.url.host = some host ∧ kept.chars = comparedHost rules host.chars ∧
      robots.url = { page.url.robotsFile with host := some kept } := by
  rw [made.robots?_eq] at found
  have read := toOption_eq_some_iff.mp found
  rw [parse_toString rules made.wellFormed.robotsFile] at read
  split at read
  · obtain ⟨out, canonical, rfl⟩ := map_eq_ok read
    obtain ⟨host, kept, present, -, -, printed, -, rfl⟩ :=
      canonicalize_spec made.wellFormed.robotsFile canonical
    exact ⟨host, kept, present, printed, rfl⟩
  · cases read

end CanonicalUrl

/-- The offers of a seed, which is refused before anything else if one of its URLs is. -/
def Operation.seedOffers (rules : Rules) (text : String) : List QueuedUrl :=
  match CanonicalUrl.parse rules text with
  | .error _ => []
  | .ok page =>
    match page.robots? rules with
    | none => []
    | some robots => [⟨robots, .robots⟩, ⟨page, .content⟩]

/-- A seed whose two URLs are read offers both. -/
theorem Operation.seedOffers_of_robots? {rules : Rules} {text : String}
    {page robots : CanonicalUrl} (parsed : CanonicalUrl.parse rules text = .ok page)
    (found : page.robots? rules = some robots) :
    seedOffers rules text = [⟨robots, .robots⟩, ⟨page, .content⟩] := by
  unfold seedOffers
  simp only [parsed, found]

/-- A seed offers the URL of the page and that of the file, if both are read. -/
theorem Operation.mem_seedOffers_iff {rules : Rules} {text : String} {url : CanonicalUrl} :
    url ∈ (seedOffers rules text).map (·.url) ↔
      ∃ page robots, CanonicalUrl.parse rules text = .ok page ∧
        page.robots? rules = some robots ∧ (url = page ∨ url = robots) := by
  unfold seedOffers
  cases CanonicalUrl.parse rules text with
  | error error => simp
  | ok page =>
    cases found : page.robots? rules with
    | none => simp [found]
    | some robots => simp [found, or_comm]

namespace Frontier

/-- Whether nothing was done with a frontier yet: nothing waits, and nothing was seen. -/
structure IsFresh (frontier : Frontier) : Prop where
  waiting : frontier.queued = []
  seen : ∀ key, frontier.seen.contains key = false

/-- Nothing was done with a frontier for a new crawl. -/
theorem isFresh_ofConfig (config : Config) : (ofConfig config).IsFresh where
  waiting := rfl
  seen key := by
    rw [SeenStore.contains_eq_isSome_kind?]
    simp [ofConfig, withSeen]

/-- The frontier after seeds, one after the other. -/
def seeded (frontier : Frontier) (texts : List String) : Frontier :=
  texts.foldl (fun frontier text => (frontier.seed text).frontier) frontier

variable {frontier : Frontier} {page robots : CanonicalUrl} {text : String}

/-- A seed whose two URLs are read offers both, and is answered with what became of the page. -/
theorem seed_of_robots? (parsed : CanonicalUrl.parse frontier.rules text = .ok page)
    (found : page.robots? frontier.rules = some robots) :
    frontier.seed text =
      (let first := frontier.offerUrl robots .robots
        let second := first.frontier.offerUrl page .content
        ⟨second.frontier, .ok second.answer, first.notices ++ second.notices⟩) := by
  have made : page.IsMade := .parsed parsed
  rw [made.robots?_eq] at found
  have file := toOption_eq_some_iff.mp found
  unfold seed
  simp only [parsed, made.wellFormed.robots?_eq, file]

/-- Either both URLs of a seed are read, or it is refused and changes nothing. -/
theorem seed_cases (frontier : Frontier) (text : String) :
    (∃ page robots, CanonicalUrl.parse frontier.rules text = .ok page ∧
      page.robots? frontier.rules = some robots) ∨
    (Operation.seedOffers frontier.rules text = [] ∧
      ∃ error, frontier.seed text = ⟨frontier, .error error, []⟩) := by
  unfold seed Operation.seedOffers
  cases parsed : CanonicalUrl.parse frontier.rules text with
  | error error => exact .inr ⟨rfl, error, rfl⟩
  | ok page =>
    have made : page.IsMade := .parsed parsed
    have file : page.robots? frontier.rules = _ := made.robots?_eq
    simp only [made.wellFormed.robots?_eq]
    cases read : CanonicalUrl.parse frontier.rules page.url.robotsFile.toString with
    | error error =>
      rw [read] at file
      exact .inr ⟨by rw [file]; rfl, error, rfl⟩
    | ok robots =>
      rw [read] at file
      exact .inl ⟨page, robots, rfl, file⟩

/-- What is known of a frontier to which URLs that were made were offered, and nothing else was done
with it: they were seen and wait, and nothing else was or does. -/
structure Holds (frontier : Frontier) (urls : List CanonicalUrl) : Prop where
  made : ∀ url ∈ urls, url.IsMade
  waiting : ∀ url, url ∈ frontier.queued.map (·.url) ↔ url ∈ urls
  seen : ∀ key, frontier.seen.contains key = true ↔ ∃ url ∈ urls, url.key = key

/-- One more offer adds its URL. A URL that was seen waits already, because no other that was made
has its key. -/
theorem Holds.offerUrl {urls : List CanonicalUrl} (holds : frontier.Holds urls)
    {url : CanonicalUrl} (made : url.IsMade) (kind : DocumentKind) :
    (frontier.offerUrl url kind).frontier.Holds (urls ++ [url]) where
  made := List.forall_mem_append.mpr ⟨holds.made, List.forall_mem_singleton.mpr made⟩
  waiting other := by
    rw [queued_offerUrl, List.mem_append, List.mem_singleton, ← holds.waiting]
    split
    · next seen =>
      obtain ⟨known, mem, same⟩ := (holds.seen url.key).mp seen
      obtain rfl := ((holds.made known mem).key_inj made).mp same
      rw [← holds.waiting] at mem
      exact ⟨.inl, fun waits => waits.elim id fun same => same ▸ mem⟩
    · rw [List.map_append, List.mem_append, List.map_singleton, List.mem_singleton]
  seen key := by
    rw [contains_offerUrl, holds.seen]
    simp only [List.mem_append, List.mem_singleton, or_and_right, exists_or, exists_eq_left]

/-- Whether every page that waits has the file for its host in front of it. -/
def Led (rules : Rules) (queue : List QueuedUrl) : Prop :=
  ∀ front page, front ++ [⟨page, .content⟩] <+: queue →
    ∃ robots ∈ front.map (·.url), page.robots? rules = some robots

/-- A URL is put behind a queue, and if it is a page, the file for its host waits already. -/
theorem Led.concat {rules : Rules} {queue : List QueuedUrl} (led : Led rules queue)
    {item : QueuedUrl}
    (follows : item.kind = .content →
      ∃ robots ∈ queue.map (·.url), item.url.robots? rules = some robots) :
    Led rules (queue ++ [item]) := by
  intro front page begins
  rcases List.prefix_concat_iff.mp begins with whole | within
  · obtain ⟨rfl, last⟩ := List.append_inj' whole rfl
    obtain rfl := List.singleton_inj.mp last
    exact follows rfl
  · exact led front page within

/-- An offer of a page keeps the files in front, if the file for its host waits. -/
theorem Led.offerUrl {rules : Rules} (led : Led rules frontier.queued) {url : CanonicalUrl}
    {kind : DocumentKind}
    (follows : kind = .content →
      ∃ robots ∈ frontier.queued.map (·.url), url.robots? rules = some robots) :
    Led rules (frontier.offerUrl url kind).frontier.queued := by
  rw [queued_offerUrl]
  split
  · exact led
  · exact led.concat follows

/-- A seed adds its two URLs, and the page comes behind the file. -/
theorem Holds.seed {urls : List CanonicalUrl} (holds : frontier.Holds urls)
    (led : Led frontier.rules frontier.queued) (text : String) :
    (frontier.seed text).frontier.Holds
        (urls ++ (Operation.seedOffers frontier.rules text).map (·.url)) ∧
      Led frontier.rules (frontier.seed text).frontier.queued := by
  rcases frontier.seed_cases text with ⟨page, robots, parsed, found⟩ | ⟨nothing, error, refused⟩
  · have made : page.IsMade := .parsed parsed
    have first := holds.offerUrl (made.of_robots? found) .robots
    have second := first.offerUrl made .content
    have offers : (Operation.seedOffers frontier.rules text).map (·.url) = [robots, page] := by
      rw [Operation.seedOffers_of_robots? parsed found]
      rfl
    have ledFirst : Led frontier.rules (frontier.offerUrl robots .robots).frontier.queued :=
      led.offerUrl nofun
    have waits : robots ∈ (frontier.offerUrl robots .robots).frontier.queued.map (·.url) :=
      (first.waiting robots).mpr (List.mem_append_right urls List.mem_cons_self)
    rw [List.append_assoc] at second
    rw [seed_of_robots? parsed found, offers]
    exact ⟨second, ledFirst.offerUrl fun _ => ⟨robots, waits, found⟩⟩
  · rw [refused, nothing, List.map_nil, List.append_nil]
    exact ⟨holds, led⟩

/-- No seed changes the rules. -/
theorem seed_rules (frontier : Frontier) (text : String) :
    (frontier.seed text).frontier.rules = frontier.rules := by
  rw [seed_frontier, foldl_act_rules]

/-- One more seed is made on what the others left. -/
theorem seeded_append_singleton (frontier : Frontier) (texts : List String) (text : String) :
    frontier.seeded (texts ++ [text]) = ((frontier.seeded texts).seed text).frontier := by
  simp [seeded]

/-- No seeds change the rules. -/
theorem seeded_rules (frontier : Frontier) (texts : List String) :
    (frontier.seeded texts).rules = frontier.rules := by
  induction texts using List.reverseRecOn with
  | nil => rfl
  | append_singleton texts text ih => rw [seeded_append_singleton, seed_rules, ih]

/-- Seeds keep a frontier safe. -/
theorem Safe.seeded (safe : frontier.Safe) (texts : List String) :
    (frontier.seeded texts).Safe := by
  induction texts using List.reverseRecOn with
  | nil => exact safe
  | append_singleton texts text ih =>
    rw [seeded_append_singleton, seed_frontier]
    exact ih.foldl_act _

/-- After seeds, what waits are their URLs, and every page has the file for its host in front. -/
theorem IsFresh.holds_seeded (fresh : frontier.IsFresh) (texts : List String) :
    (frontier.seeded texts).Holds
        (texts.flatMap fun text => (Operation.seedOffers frontier.rules text).map (·.url)) ∧
      Led frontier.rules (frontier.seeded texts).queued := by
  induction texts using List.reverseRecOn with
  | nil =>
    change frontier.Holds [] ∧ Led frontier.rules frontier.queued
    refine ⟨⟨by simp, by simp [fresh.waiting], by simp [fresh.seen]⟩, ?_⟩
    rw [fresh.waiting]
    intro front page begins
    exact absurd (List.prefix_nil.mp begins) (by simp)
  | append_singleton texts text ih =>
    have rules := frontier.seeded_rules texts
    have next := ih.1.seed (rules.symm ▸ ih.2) text
    rw [rules] at next
    rwa [seeded_append_singleton, List.flatMap_append, List.flatMap_singleton]

/-- A seed that is refused changes nothing. It is answered exactly if the page is read and so is the
file with the rules for robots, whose URL has the scheme, the credentials and the port of the page,
no other path than its own, no query and no fragment. Then the file is offered and behind it the
page, and the answer is whether the page was seen before or is itself the file. After any sequence
of seeds of a frontier with which nothing was done, the refused ones among them, each URL waits
once, what waits are the pages and files of the seeds that were answered, and every page that waits
as such comes behind its file. -/
theorem seed_page_behind_robots :
    (∀ (frontier : Frontier) (text : String),
      (∀ error, (frontier.seed text).answer = .error error →
        (frontier.seed text).frontier = frontier) ∧
      ((∃ offer, (frontier.seed text).answer = .ok offer) ↔
        ∃ page robots, CanonicalUrl.parse frontier.rules text = .ok page ∧
          page.robots? frontier.rules = some robots) ∧
      ∀ page robots, CanonicalUrl.parse frontier.rules text = .ok page →
        page.robots? frontier.rules = some robots →
          (∃ host kept : Url.Host, page.url.host = some host ∧
            kept.chars = comparedHost frontier.rules host.chars ∧
            robots.url = { page.url with
              host := some kept, path := .segments ["robots.txt"], query := none
              fragment := none }) ∧
          (frontier.seed text).frontier =
            ((frontier.offerUrl robots .robots).frontier.offerUrl page .content).frontier ∧
          (frontier.seed text).answer =
            .ok (if frontier.seen.contains page.key ∨ page = robots then .duplicate
              else .enqueued)) ∧
    ∀ (frontier : Frontier) (texts : List String), frontier.IsFresh →
      ((frontier.seeded texts).queued.map (·.url)).Nodup ∧
      (∀ url, url ∈ (frontier.seeded texts).queued.map (·.url) ↔
        ∃ text ∈ texts, ∃ page robots, CanonicalUrl.parse frontier.rules text = .ok page ∧
          page.robots? frontier.rules = some robots ∧ (url = page ∨ url = robots)) ∧
      ∀ front page, front ++ [⟨page, .content⟩] <+: (frontier.seeded texts).queued →
        ∃ robots ∈ front.map (·.url), page.robots? frontier.rules = some robots := by
  refine ⟨fun frontier text => ⟨?_, ?_, ?_⟩, fun frontier texts fresh => ?_⟩
  · intro error failed
    rcases frontier.seed_cases text with ⟨page, robots, parsed, found⟩ | ⟨-, other, refused⟩
    · rw [seed_of_robots? parsed found] at failed
      cases failed
    · rw [refused]
  · constructor
    · rintro ⟨offer, answered⟩
      refine (frontier.seed_cases text).resolve_right ?_
      rintro ⟨-, other, refused⟩
      rw [refused] at answered
      cases answered
    · rintro ⟨page, robots, parsed, found⟩
      rw [seed_of_robots? parsed found]
      exact ⟨_, rfl⟩
  · intro page robots parsed found
    have made : page.IsMade := .parsed parsed
    have key : robots.key = page.key ↔ page = robots :=
      ((made.of_robots? found).key_inj made).trans eq_comm
    refine ⟨made.robots_spec found, ?_, ?_⟩
    · rw [seed_of_robots? parsed found]
    · rw [seed_of_robots? parsed found]
      simp only [offerUrl_answer, contains_offerUrl, key]
  · obtain ⟨holds, led⟩ := fresh.holds_seeded texts
    have distinct := ((safe_of_queued_eq_nil fresh.waiting).seeded texts).distinct
    refine ⟨?_, fun url => ?_, led⟩
    · rw [← Function.comp_def CanonicalUrl.key, ← List.map_map] at distinct
      exact List.Nodup.of_map CanonicalUrl.key distinct
    · rw [holds.waiting]
      simp only [List.mem_flatMap, Operation.mem_seedOffers_iff]

/-- A page, a text that is no page, and the file of the page itself: the page and the file wait, the
file in front. -/
theorem seed_page_behind_robots_loopback :
    let page : CanonicalUrl := ⟨loopbackPage ["a"] none none⟩
    let file : CanonicalUrl := ⟨loopbackPage ["robots.txt"] none none⟩
    let texts := ["http://[::1]/a?utm_source=x#top", "mailto:x", "http://[::1]:80//robots.txt"]
    ((ofConfig {}).seed "mailto:x").frontier = ofConfig {} ∧
      ((ofConfig {}).seed "http://[::1]/a?utm_source=x#top").answer = .ok .enqueued ∧
      ((ofConfig {}).seed "http://[::1]:80//robots.txt").answer = .ok .duplicate ∧
      (((ofConfig {}).seeded texts).queued.map (·.url)).Nodup ∧
      (∀ url, url ∈ ((ofConfig {}).seeded texts).queued.map (·.url) ↔
        url = page ∨ url = file) ∧
      ∀ front, front ++ [⟨page, .content⟩] <+: ((ofConfig {}).seeded texts).queued →
        file ∈ front.map (·.url) := by
  intro page file texts
  have readPage : CanonicalUrl.parse (ofConfig {}).rules "http://[::1]/a?utm_source=x#top" =
      .ok page := by
    decide +kernel
  have readFile : CanonicalUrl.parse (ofConfig {}).rules "http://[::1]:80//robots.txt" =
      .ok file := by
    decide +kernel
  have refused : CanonicalUrl.parse (ofConfig {}).rules "mailto:x" =
      .error (.invalidScheme "mailto") := by
    decide +kernel
  have ofPage : page.robots? (ofConfig {}).rules = some file := by
    decide +kernel
  have ofFile : file.robots? (ofConfig {}).rules = some file := by
    decide +kernel
  obtain ⟨each, every⟩ := seed_page_behind_robots
  have fresh := isFresh_ofConfig {}
  obtain ⟨-, -, answered⟩ := each (ofConfig {}) "http://[::1]/a?utm_source=x#top"
  obtain ⟨-, -, known⟩ := each (ofConfig {}) "http://[::1]:80//robots.txt"
  obtain ⟨unchanged, -, -⟩ := each (ofConfig {}) "mailto:x"
  obtain ⟨distinct, members, behind⟩ := every (ofConfig {}) texts fresh
  refine ⟨?_, ?_, ?_, distinct, fun url => (members url).trans ?_, fun front begins => ?_⟩
  · refine unchanged (.invalidScheme "mailto") ?_
    unfold seed
    rw [refused]
  · rw [(answered page file readPage ofPage).2.2, fresh.seen, if_neg (by decide)]
  · rw [(known file file readFile ofFile).2.2, if_pos (.inr rfl)]
  · simp [texts, readPage, readFile, refused, ofPage, ofFile]
  · obtain ⟨robots, mem, found⟩ := behind front page begins
    rwa [Option.some.inj (ofPage.symm.trans found)]

end Frontier

end CrawlFrontier
