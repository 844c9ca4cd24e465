import CrawlFrontier.Discovery.Document
import CrawlFrontier.Proofs.Discovery.Destination
import CrawlFrontier.Proofs.Text.Lines
import Mathlib.Logic.Relation

/-!
# Files for robots line by line

What a file for robots says is the sum of what its lines say, and a line says nothing but its key,
in letters of either case, and its value, both without white space at their ends. Main statement:
the links of a file are those of its lines, and no change of the layout changes them.
-/

namespace CrawlFrontier.Robots

open CrawlFrontier.Text

/-- What stands in front of the comment of a line. -/
def said (line : List Char) : List Char := (splitFirst '#' line).1

/-- A key in lower case and a value, both without white space at their ends. -/
def pair? (text : List Char) : Option (List Char × List Char) :=
  match splitFirst ':' text with
  | (key, some value) => some (lower (trim key), trim value)
  | (_, none) => none

/-- The link that a line names. -/
def link? (base : Url) (line : List Char) : Option Link :=
  (pair? (said line)).bind fun (key, value) =>
    if key = "sitemap".toList then (Link.resolve? base value).map Link.toSitemap else none

/-- Whether a text may be a key, white space at its ends included. -/
def IsKey (text : List Char) : Prop := ':' ∉ text ∧ '#' ∉ text

/-- Whether a text may stand behind what a line says: it is empty or a comment. -/
def IsNote (text : List Char) : Prop := text = [] ∨ text.head? = some '#'

/-- A change of the layout of a line. -/
inductive Relaid : List Char → List Char → Prop where
  /-- The line ends with a return and a line feed. -/
  | returned (line : List Char) : Relaid line (line ++ ['\r'])
  /-- A comment is written behind the line. -/
  | noted (line note : List Char) : Relaid line (line ++ '#' :: note)
  /-- White space is written in front of the key. -/
  | beforeKey {space : List Char} (blank : ∀ c ∈ space, isBlank c = true) (line : List Char) :
      Relaid line (space ++ line)
  /-- White space is written behind the key. -/
  | behindKey {key space : List Char} (bare : IsKey key) (blank : ∀ c ∈ space, isBlank c = true)
      (rest : List Char) : Relaid (key ++ ':' :: rest) (key ++ space ++ ':' :: rest)
  /-- White space is written in front of the value. -/
  | beforeValue {key space : List Char} (bare : IsKey key)
      (blank : ∀ c ∈ space, isBlank c = true) (rest : List Char) :
      Relaid (key ++ ':' :: rest) (key ++ ':' :: (space ++ rest))
  /-- White space is written behind the value. -/
  | behindValue {text space note : List Char} (plain : '#' ∉ text)
      (blank : ∀ c ∈ space, isBlank c = true) (ends : IsNote note) :
      Relaid (text ++ note) (text ++ space ++ note)
  /-- The key is written in letters of another case, which letters beyond ASCII do not have. -/
  | cased {key other : List Char} (bare : IsKey key) (same : lower key = lower other)
      (rest : List Char) : Relaid (key ++ ':' :: rest) (other ++ ':' :: rest)

/-- Whether a line says nothing about sitemaps. -/
inductive IsSilent : List Char → Prop where
  /-- There is no colon in front of the comment, as in blank lines and those that are comments. -/
  | keyless {text note : List Char} (bare : IsKey text) (ends : IsNote note) :
      IsSilent (text ++ note)
  /-- The line has another key. -/
  | otherKey {key : List Char} (bare : IsKey key)
      (other : lower (trim key) ≠ "sitemap".toList) (rest : List Char) :
      IsSilent (key ++ ':' :: rest)

/-- A change of the lines of a file: one of them is laid out anew, or one that says nothing about
sitemaps is inserted anywhere. -/
inductive Edit : List (List Char) → List (List Char) → Prop where
  | relaid {line other : List Char} (front back : List (List Char)) :
      Relaid line other → Edit (front ++ line :: back) (front ++ other :: back)
  | inserted {line : List Char} (front back : List (List Char)) :
      IsSilent line → Edit (front ++ back) (front ++ line :: back)

/-- The text with a return in front of every line feed. -/
def withReturns (text : List Char) : List Char :=
  text.flatMap fun c => if c = '\n' then ['\r', '\n'] else [c]

section Said

variable {text : List Char}

/-- A text without number signs is said. -/
theorem said_append (plain : '#' ∉ text) (rest : List Char) :
    said (text ++ rest) = text ++ said rest := by
  rw [said, splitFirst_append_left plain]
  rfl

/-- A comment is not said. -/
theorem said_of_isNote {note : List Char} (ends : IsNote note) : said note = [] := by
  rcases ends with rfl | comment
  · rfl
  · obtain ⟨rest, rfl⟩ := List.head?_eq_some_iff.mp comment
    exact congrArg Prod.fst (splitFirst_append List.not_mem_nil rest)

/-- What is written behind a line is said, unless it stands in the comment. -/
theorem said_append_cases (line rest : List Char) :
    said (line ++ rest) = said line ∨
      said line = line ∧ said (line ++ rest) = line ++ said rest := by
  by_cases comment : '#' ∈ line
  · obtain ⟨front, note, rfl, absent⟩ := List.eq_append_cons_of_mem comment
    refine .inl ?_
    rw [List.append_assoc, said_append absent, said_append absent,
      said_of_isNote (.inr rfl), said_of_isNote (.inr rfl)]
  · refine .inr ⟨?_, said_append comment rest⟩
    rw [said, splitFirst_of_not_mem comment]

end Said

/-- White space holds no mark. -/
theorem not_mem_of_blank {space : List Char} (blank : ∀ c ∈ space, isBlank c = true) {mark : Char}
    (solid : isBlank mark = false) : mark ∉ space := by
  intro mem
  rw [blank mark mem] at solid
  cases solid

/-- A key and a value are cut apart at the first colon. -/
theorem pair?_append {key : List Char} (bare : ':' ∉ key) (value : List Char) :
    pair? (key ++ ':' :: value) = some (lower (trim key), trim value) := by
  rw [pair?, splitFirst_append bare]

/-- There is no pair without a colon. -/
theorem pair?_of_not_mem {text : List Char} (absent : ':' ∉ text) : pair? text = none := by
  rw [pair?, splitFirst_of_not_mem absent]

/-- White space in front of a text does not change its pair. -/
theorem pair?_blank_append {space : List Char} (blank : ∀ c ∈ space, isBlank c = true)
    (text : List Char) : pair? (space ++ text) = pair? text := by
  have noColon : ':' ∉ space := not_mem_of_blank blank rfl
  by_cases colon : ':' ∈ text
  · obtain ⟨key, value, rfl, absent⟩ := List.eq_append_cons_of_mem colon
    have wide : ':' ∉ space ++ key := by simp [noColon, absent]
    rw [← List.append_assoc, pair?_append wide, pair?_append absent, trim_blank_append blank]
  · rw [pair?_of_not_mem colon, pair?_of_not_mem (by simp [noColon, colon])]

/-- White space behind a text does not change its pair. -/
theorem pair?_append_blank {space : List Char} (blank : ∀ c ∈ space, isBlank c = true)
    (text : List Char) : pair? (text ++ space) = pair? text := by
  have noColon : ':' ∉ space := not_mem_of_blank blank rfl
  by_cases colon : ':' ∈ text
  · obtain ⟨key, value, rfl, absent⟩ := List.eq_append_cons_of_mem colon
    rw [List.append_assoc, List.cons_append, pair?_append absent, pair?_append absent,
      trim_append_blank blank]
  · rw [pair?_of_not_mem colon, pair?_of_not_mem (by simp [noColon, colon])]

/-- A text has the pair of what stands between its ends. -/
theorem pair?_trim (text : List Char) : pair? (trim text) = pair? text := by
  obtain ⟨front, back, parts, first, last⟩ := exists_eq_append_dropBothWhile isBlank text
  conv_rhs => rw [parts, pair?_append_blank last, pair?_blank_append first]
  rfl

/-- What a line with a key says. -/
theorem pair?_said {key : List Char} (bare : IsKey key) (rest : List Char) :
    pair? (said (key ++ ':' :: rest)) = some (lower (trim key), trim (said rest)) := by
  have plain : '#' ∉ key ++ [':'] := by simp [bare.2]
  have shape : key ++ ':' :: rest = key ++ [':'] ++ rest := by simp
  rw [shape, said_append plain, List.append_assoc]
  exact pair?_append bare.1 (said rest)

/-- A key is one in letters of another case. -/
theorem IsKey.of_lower_eq {key other : List Char} (bare : IsKey key)
    (same : lower key = lower other) : IsKey other := by
  obtain ⟨colon, sign⟩ := bare
  rw [← mem_lower_iff (by decide), same, mem_lower_iff (by decide)] at colon sign
  exact ⟨colon, sign⟩

/-- No change of the layout changes what a line says. -/
theorem Relaid.pair?_eq {line other : List Char} (relaid : Relaid line other) :
    pair? (said line) = pair? (said other) := by
  cases relaid with
  | returned =>
    rcases said_append_cases line ['\r'] with same | ⟨same, longer⟩
    · rw [same]
    · rw [same, longer]
      exact (pair?_append_blank (List.forall_mem_singleton.mpr rfl) line).symm
  | noted _ note =>
    rcases said_append_cases line ('#' :: note) with same | ⟨same, longer⟩
    · rw [same]
    · rw [same, longer, said_of_isNote (.inr rfl), List.append_nil]
  | @beforeKey space blank _ =>
    rw [said_append (not_mem_of_blank blank rfl), pair?_blank_append blank]
  | @behindKey key space bare blank rest =>
    have noColon : ':' ∉ space := not_mem_of_blank blank rfl
    have noSign : '#' ∉ space := not_mem_of_blank blank rfl
    have wide : IsKey (key ++ space) := by
      refine ⟨?_, ?_⟩
      · simp [bare.1, noColon]
      · simp [bare.2, noSign]
    rw [pair?_said bare, pair?_said wide, trim_append_blank blank]
  | @beforeValue key space bare blank rest =>
    rw [pair?_said bare, pair?_said bare, said_append (not_mem_of_blank blank rfl),
      trim_blank_append blank]
  | @behindValue text space note plain blank ends =>
    have noSign : '#' ∉ space := not_mem_of_blank blank rfl
    have wide : '#' ∉ text ++ space := by simp [plain, noSign]
    rw [said_append plain, said_append wide, said_of_isNote ends, List.append_nil, List.append_nil,
      pair?_append_blank blank]
  | @cased key other bare same rest =>
    rw [pair?_said bare, pair?_said (bare.of_lower_eq same), ← trim_lower, ← trim_lower, same]

/-- A line that says nothing about sitemaps names no link. -/
theorem IsSilent.link?_eq_none {base : Url} {line : List Char} (silent : IsSilent line) :
    link? base line = none := by
  cases silent with
  | @keyless text note bare ends =>
    rw [link?, said_append bare.2, said_of_isNote ends, List.append_nil, pair?_of_not_mem bare.1]
    rfl
  | @otherKey key bare other rest =>
    rw [link?, pair?_said bare]
    exact if_neg other

/-- The link of a line is that of the value it gives for sitemaps. -/
theorem link?_eq (base : Url) (line : List Char) :
    link? base line =
      (sitemapValue? line).bind fun value => (Link.resolve? base value).map Link.toSitemap := by
  unfold link? sitemapValue?
  rw [← said, ← pair?_trim, pair?]
  rcases splitFirst ':' (trim (said line)) with ⟨key, none | value⟩
  · rfl
  · simp only [Option.bind_some, Link.resolve?_trim]
    split
    · rfl
    · rfl

/-- The links of a file are those of its lines, wherever these end. -/
theorem links_eq (base : Url) (body : String) :
    links base body = (body.toList.splitOn '\n').filterMap (link? base) := by
  obtain ⟨front, last, cut⟩ := exists_splitOn_eq_concat '\n' body.toList
  have same (line : List Char) : link? base (dropReturn line) = link? base line := by
    rcases dropReturn_cases line with same | ends
    · rw [same]
    · conv_rhs => rw [ends]
      rw [link?, link?, (Relaid.returned (dropReturn line)).pair?_eq]
  have told : links base body = (lines body.toList).filterMap (link? base) := by
    unfold links
    simp only [← link?_eq]
  rw [told, lines_eq cut, cut, List.filterMap_append, List.filterMap_append, List.filterMap_map]
  simp only [Function.comp_def, same]
  by_cases empty : last = []
  · rw [if_pos empty, empty]
    rfl
  · rw [if_neg empty]

/-- An edit changes no link. -/
theorem Edit.filterMap_eq (base : Url) {body other : List (List Char)} (edit : Edit body other) :
    body.filterMap (link? base) = other.filterMap (link? base) := by
  cases edit with
  | @relaid line other front back relaid =>
    have same : link? base line = link? base other := by rw [link?, link?, relaid.pair?_eq]
    rw [List.filterMap_append, List.filterMap_append, List.filterMap_cons, List.filterMap_cons,
      same]
  | inserted front back silent =>
    rw [List.filterMap_append, List.filterMap_append,
      List.filterMap_cons_none silent.link?_eq_none]

/-- Lines that come from each other by edits name the same links. -/
theorem filterMap_eq_of_edits (base : Url) {body other : List (List Char)}
    (edits : Relation.EqvGen Edit body other) :
    body.filterMap (link? base) = other.filterMap (link? base) := by
  induction edits with
  | rel _ _ edit => exact edit.filterMap_eq base
  | refl _ => rfl
  | symm _ _ _ same => exact same.symm
  | trans _ _ _ _ _ first second => exact first.trans second

/-- Returns in front of the line feeds do not change the links. -/
theorem links_withReturns (base : Url) (body : String) :
    links base (String.ofList (withReturns body.toList)) = links base body := by
  rw [links_eq, links_eq, String.toList_ofList]
  -- What was read of a line is carried in front, so that the line is ended as a whole.
  suffices carried : ∀ text line, '\n' ∉ line →
      ((line ++ withReturns text).splitOn '\n').filterMap (link? base) =
        ((line ++ text).splitOn '\n').filterMap (link? base) from
    carried body.toList [] List.not_mem_nil
  intro text
  induction text with
  | nil => exact fun line _ => rfl
  | cons c text ih =>
    intro line single
    by_cases feed : c = '\n'
    · subst feed
      have shape : line ++ withReturns ('\n' :: text) =
          (line ++ ['\r']) ++ '\n' :: withReturns text := by
        simp [withReturns]
      have whole : '\n' ∉ line ++ ['\r'] := by simp [single]
      have same : link? base (line ++ ['\r']) = link? base line := by
        rw [link?, link?, (Relaid.returned line).pair?_eq]
      have rest := ih [] List.not_mem_nil
      rw [List.nil_append, List.nil_append] at rest
      rw [shape, List.splitOn_append_cons_self_of_not_mem whole,
        List.splitOn_append_cons_self_of_not_mem single, List.filterMap_cons, List.filterMap_cons,
        same, rest]
    · have shape : line ++ withReturns (c :: text) = (line ++ [c]) ++ withReturns text := by
        simp [withReturns, feed]
      have longer : '\n' ∉ line ++ [c] := by simp [single, Ne.symm feed]
      rw [shape, ih _ longer, List.append_assoc]
      rfl

/-- A file of one line with the key of sitemaps has the link that its value resolves to. -/
theorem links_sitemap (base : Url) {body : String} {value : List Char}
    (line : body.toList = "Sitemap".toList ++ ':' :: value) (plain : '#' ∉ value)
    (single : '\n' ∉ value) :
    links base body = ((Link.resolve? base value).map Link.toSitemap).toList := by
  have bare : IsKey "Sitemap".toList := by
    unfold IsKey
    decide
  have key : lower (trim "Sitemap".toList) = "sitemap".toList := by decide
  have whole : '\n' ∉ "Sitemap".toList ++ ':' :: value := by
    have keyless : '\n' ∉ "Sitemap".toList := by decide
    refine List.not_mem_append keyless ?_
    exact List.not_mem_cons_of_ne_of_not_mem (by decide) single
  have all : said value = value := by rw [said, splitFirst_of_not_mem plain]
  have named : link? base ("Sitemap".toList ++ ':' :: value) =
      (Link.resolve? base value).map Link.toSitemap := by
    rw [link?, pair?_said bare, key, all, Option.bind_some, ← Link.resolve?_trim]
    exact if_pos rfl
  rw [links_eq, line, List.splitOn_eq_singleton whole, ← named, List.filterMap_cons]
  cases link? base ("Sitemap".toList ++ ':' :: value) with
  | none => rfl
  | some link => rfl

/-- The links of a file are those of its lines: two files with a line feed between them have the
links of both, no edit changes a link, returns in front of the line feeds change none, and a file of
one line with the key of sitemaps has the link that its value resolves to, if it does. -/
theorem links_blind_to_layout (base : Url) :
    (∀ front back : String,
        links base (front ++ "\n" ++ back) = links base front ++ links base back) ∧
      (∀ body other : String,
        Relation.EqvGen Edit (body.toList.splitOn '\n') (other.toList.splitOn '\n') →
          links base body = links base other) ∧
      (∀ body : String,
        links base (String.ofList (withReturns body.toList)) = links base body) ∧
      ∀ value : String, '#' ∉ value.toList → '\n' ∉ value.toList →
        ∀ ending ∈ ["", "\n", "\r\n"], links base ("Sitemap: " ++ value ++ ending) =
          ((Link.resolve? base value.toList).map Link.toSitemap).toList := by
  have append (front back : String) :
      links base (front ++ "\n" ++ back) = links base front ++ links base back := by
    rw [links_eq, links_eq, links_eq, splitOn_append_line, List.filterMap_append]
  refine ⟨append, fun body other edits => ?_, links_withReturns base, ?_⟩
  · rw [links_eq, links_eq]
    exact filterMap_eq_of_edits base edits
  intro value plain single ending mem
  have line (space : String) (blank : ∀ c ∈ space.toList, isBlank c = true)
      (inside : '\n' ∉ space.toList) :
      links base ("Sitemap: " ++ value ++ space) =
        ((Link.resolve? base value.toList).map Link.toSitemap).toList := by
    have shape : ("Sitemap: " ++ value ++ space).toList =
        "Sitemap".toList ++ ':' :: ([' '] ++ value.toList ++ space.toList) := by
      rw [String.toList_append, String.toList_append, List.append_assoc]
      rfl
    have noSign : '#' ∉ space.toList := not_mem_of_blank blank rfl
    have trimmed : trim ([' '] ++ value.toList ++ space.toList) = trim value.toList := by
      rw [trim_append_blank blank, trim_blank_append (List.forall_mem_singleton.mpr rfl)]
    rw [links_sitemap base shape (by simp [plain, noSign]) (by simp [single, inside]),
      ← Link.resolve?_trim, trimmed, Link.resolve?_trim]
  have ended (text : String) : links base (text ++ "\n") = links base text := by
    have parts : text ++ "\n" = text ++ "\n" ++ "" := String.append_empty.symm
    have nothing : links base "" = [] := rfl
    rw [parts, append, nothing, List.append_nil]
  have unended := line "" (List.forall_mem_nil _) List.not_mem_nil
  have returned := line "\r" (List.forall_mem_singleton.mpr rfl) (by decide)
  simp only [List.mem_cons, List.not_mem_nil, or_false] at mem
  rcases mem with rfl | rfl | rfl
  · exact unended
  · rw [String.append_empty] at unended
    rw [ended, unended]
  · have joined : "\r\n" = "\r" ++ "\n" := rfl
    rw [joined, ← String.append_assoc, ended, returned]

/-- A line with another key is left out, a comment is inserted, and the line that is left is written
in capitals and noted: the link stays that of the line alone. -/
theorem links_blind_to_layout_noted :
    ∃ base : Url, Url.parse "http://[::1]/" = .ok base ∧
      Relation.EqvGen Edit ("Disallow: /\nSitemap: /a".toList.splitOn '\n')
        ("# all\nSITEMAP: /a#".toList.splitOn '\n') ∧
      links base "Disallow: /\nSitemap: /a" = links base "# all\nSITEMAP: /a#" ∧
      '#' ∉ "/a".toList ∧ '\n' ∉ "/a".toList ∧
      links base "Sitemap: /a\r\n" = [⟨"http://[::1]/a", .sitemap⟩] := by
  have read : Url.parse "http://[::1]/" = .ok (Canonical.loopbackPage [""] none none) := by
    decide +kernel
  have bare : IsKey "Disallow".toList ∧ IsKey "Sitemap".toList ∧ IsKey [] := by
    unfold IsKey
    decide
  have disallow : IsSilent ("Disallow".toList ++ ':' :: " /".toList) :=
    .otherKey bare.1 (by decide) _
  have comment : IsSilent ([] ++ "# all".toList) := .keyless bare.2.2 (.inr rfl)
  have capitals : Relaid ("Sitemap".toList ++ ':' :: " /a".toList)
      ("SITEMAP".toList ++ ':' :: " /a".toList) := .cased bare.2.1 (by decide) _
  have edits : Relation.EqvGen Edit ("Disallow: /\nSitemap: /a".toList.splitOn '\n')
      ("# all\nSITEMAP: /a#".toList.splitOn '\n') :=
    .trans _ _ _ (.symm _ _ (.rel _ _ (.inserted [] [_] disallow)))
      (.trans _ _ _ (.rel _ _ (.relaid [] [] capitals))
        (.trans _ _ _ (.rel _ _ (.relaid [] [] (.noted _ [])))
          (.rel _ _ (.inserted [] [_] comment))))
  obtain ⟨-, edited, -, single⟩ := links_blind_to_layout (Canonical.loopbackPage [""] none none)
  have found : Link.resolve? (Canonical.loopbackPage [""] none none) "/a".toList =
      some (Canonical.loopbackPage ["a"] none none) := by
    decide +kernel
  have link := single "/a" (by decide) (by decide) "\r\n" (by decide)
  rw [found] at link
  exact ⟨_, read, edits, edited _ _ edits, by decide, by decide, link⟩

end CrawlFrontier.Robots
