import CrawlFrontier.Discovery.Link
import CrawlFrontier.Proofs.Canonical.Key

/-!
# Destinations

Links that name a script, a mailbox, a telephone or data lead to no page. They are told by the
beginning of what stands between the ends of a destination, while a URL is read after controls at
its ends and tabs and line ends inside it were dropped. Main statement: the beginnings exclude
nothing that the URL itself would not exclude, for in whatever disguise such a scheme is read, the
URL has that scheme.
-/

namespace CrawlFrontier

open CrawlFrontier.Text

namespace Url

/-- Whether a text is a scheme: a letter, and behind it characters that may stand in schemes. -/
def IsScheme (name : List Char) : Prop :=
  ∃ first rest, name = first :: rest ∧ first.isAlpha = true ∧ ∀ c ∈ rest, isSchemeChar c = true

/-- The text without tabs and line ends. -/
def withoutGaps (text : List Char) : List Char :=
  text.filter fun c => c ≠ '\t' ∧ c ≠ '\n' ∧ c ≠ '\r'

/-- Whether a text begins with a scheme in letters of either case and a colon, however this is
disguised: white space, then controls and spaces may stand in front of it, and tabs and line ends
inside. -/
def Disguises (scheme : String) (text : List Char) : Prop :=
  ∃ space controls spelled rest, text = space ++ controls ++ spelled ++ rest ∧
    (∀ c ∈ space, isBlank c = true) ∧ (∀ c ∈ controls, c.toNat ≤ 0x20) ∧
    lower (withoutGaps spelled) = scheme.toList ++ [':']

/-- A letter is a letter in either case. -/
theorem isAlpha_toLower (c : Char) : c.toLower.isAlpha = c.isAlpha := apply_toLower (by decide) c

/-- A character stands in schemes in either case. -/
theorem isSchemeChar_toLower (c : Char) : isSchemeChar c.toLower = isSchemeChar c :=
  apply_toLower (by decide) c

/-- A letter may stand in a scheme. -/
theorem isSchemeChar_of_isAlpha {c : Char} (letter : c.isAlpha = true) : isSchemeChar c = true := by
  unfold isSchemeChar Char.isAlphanum
  rw [letter]
  rfl

/-- A letter is printed as it is. -/
theorem isPrinted_of_isAlpha {c : Char} (letter : c.isAlpha = true) : isPrinted c = true := by
  have alphanum : c.isAlphanum = true := by
    unfold Char.isAlphanum
    rw [letter]
    rfl
  refine isPrinted_of_not_isControl (Form.isControl_of_isAlphanum alphanum) ?_
  rintro rfl
  cases letter

namespace IsScheme

variable {name : List Char}

/-- A scheme is one in letters of either case. -/
theorem of_lower (scheme : IsScheme (lower name)) : IsScheme name := by
  obtain ⟨first, rest, spelled, letter, chars⟩ := scheme
  obtain ⟨c, others, rfl, rfl, rfl⟩ := List.map_eq_cons_iff.mp spelled
  refine ⟨c, others, rfl, ?_, fun d mem => ?_⟩
  · rwa [isAlpha_toLower] at letter
  · rw [← isSchemeChar_toLower]
    exact chars _ (List.mem_map_of_mem mem)

/-- All of a scheme may stand in schemes. -/
theorem isSchemeChar_of_mem (scheme : IsScheme name) {c : Char} (mem : c ∈ name) :
    isSchemeChar c = true := by
  obtain ⟨first, rest, rfl, letter, chars⟩ := scheme
  rcases List.mem_cons.mp mem with rfl | mem
  · exact isSchemeChar_of_isAlpha letter
  · exact chars c mem

/-- A mark is not in a scheme. -/
theorem not_mem (scheme : IsScheme name) {mark : Char} (marked : isSchemeChar mark = false) :
    mark ∉ name := by
  intro mem
  rw [scheme.isSchemeChar_of_mem mem] at marked
  cases marked

/-- A scheme is cut from what follows its colon. -/
theorem splitScheme?_append (scheme : IsScheme name) (rest : List Char) :
    splitScheme? (name ++ ':' :: rest) = some (String.ofList (lower name), rest) := by
  rw [splitScheme?, splitFirst_append (scheme.not_mem rfl)]
  obtain ⟨first, others, rfl, letter, chars⟩ := scheme
  have all : (first.isAlpha && others.all isSchemeChar) = true := by
    rw [letter, List.all_eq_true.mpr chars]
    rfl
  exact if_pos all

/-- Nor is a mark other than the colon in a scheme with its colon. -/
theorem not_mem_append (scheme : IsScheme name) {mark : Char} (marked : isSchemeChar mark = false)
    (other : mark ≠ ':') : mark ∉ name ++ [':'] := by
  simp [scheme.not_mem marked, other]

/-- The marks of a reference do not cut its scheme. -/
theorem exists_main_ofText (scheme : IsScheme name) (rest : List Char) :
    ∃ main, (Reference.ofText (name ++ ':' :: rest)).main = name ++ ':' :: main := by
  have shape (rest : List Char) : name ++ ':' :: rest = name ++ [':'] ++ rest := by simp
  have noFragment : '#' ∉ name ++ [':'] := scheme.not_mem_append rfl (by decide)
  have noQuery : '?' ∉ name ++ [':'] := scheme.not_mem_append rfl (by decide)
  refine ⟨(splitFirst '?' (splitFirst '#' rest).1).1, ?_⟩
  rw [shape, Reference.ofText, splitFirst_append_left noFragment]
  simp only
  rw [splitFirst_append_left noQuery, ← shape]

/-- What is read of a text that begins with a scheme has that scheme. -/
theorem scheme_of_parseFrom (scheme : IsScheme name) {base : Option Url} {text rest : List Char}
    {url : Url} (cleaned : clean text = name ++ ':' :: rest)
    (read : parseFrom base text = .ok url) : url.scheme = String.ofList (lower name) := by
  obtain ⟨main, begins⟩ := scheme.exists_main_ofText rest
  have cut := scheme.splitScheme?_append main
  unfold parseFrom at read
  simp only [cleaned, begins, cut] at read
  exact scheme_of_parseWithScheme read

end IsScheme

/-- A printed character is no gap. -/
theorem withoutGaps_append_cons {c : Char} (printed : isPrinted c = true)
    (front back : List Char) :
    withoutGaps (front ++ c :: back) = withoutGaps front ++ c :: withoutGaps back := by
  have others : c ∉ ['\t', '\n', '\r'] :=
    not_mem_of_test (List.all_iff_forall_prop.mp (by decide)) printed
  have kept : decide (c ≠ '\t' ∧ c ≠ '\n' ∧ c ≠ '\r') = true := by simpa using others
  rw [withoutGaps, List.filter_append, List.filter_cons, if_pos kept]
  rfl

/-- Gaps are controls. -/
theorem le_of_not_kept {c : Char} (gap : ¬decide (c ≠ '\t' ∧ c ≠ '\n' ∧ c ≠ '\r') = true) :
    c.toNat ≤ 0x20 := by
  have cases : c = '\t' ∨ c = '\n' ∨ c = '\r' := by
    by_contra other
    exact gap (decide_eq_true (by simpa using other))
  rcases cases with rfl | rfl | rfl <;> decide

/-- White space and then controls in front of a printed character are dropped, and between it and
another one nothing but gaps. -/
theorem exists_clean_trim_eq {space controls : List Char} (blank : ∀ c ∈ space, isBlank c = true)
    (low : ∀ c ∈ controls, c.toNat ≤ 0x20) {first mark : Char} (printed : isPrinted first = true)
    (printedMark : isPrinted mark = true) (middle back : List Char) :
    ∃ rest, clean (trim (space ++ controls ++ first :: (middle ++ mark :: back))) =
      first :: (withoutGaps middle ++ mark :: rest) := by
  have solid {c : Char} (printed : isPrinted c = true) : decide (c.toNat ≤ 0x20) = false := by
    simp only [isPrinted, Bool.and_eq_true, decide_eq_true_eq] at printed
    exact decide_eq_false (by omega)
  have none : (controls.dropWhile isBlank).dropWhile (fun c => decide (c.toNat ≤ 0x20)) = [] := by
    refine List.dropWhile_eq_nil_iff.mpr fun c mem => ?_
    exact decide_eq_true (low c ((List.dropWhile_sublist _).subset mem))
  have trimmed : trim (space ++ controls ++ first :: (middle ++ mark :: back)) =
      controls.dropWhile isBlank ++ first :: (middle ++ mark :: dropEndWhile isBlank back) := by
    rw [trim, dropBothWhile_append_cons (Canonical.isBlank_of_isPrinted printed),
      dropEndWhile_append_cons (Canonical.isBlank_of_isPrinted printedMark),
      List.dropWhile_append_of_pos blank]
  have cleaned (text : List Char) :
      clean text = withoutGaps (dropBothWhile (fun c => c.toNat ≤ 0x20) text) := rfl
  rw [cleaned, trimmed, dropBothWhile_append_cons (solid printed),
    dropEndWhile_append_cons (solid printedMark), none, withoutGaps_append_cons printed,
    withoutGaps_append_cons printedMark]
  exact ⟨_, rfl⟩

/-- A disguised scheme stands bare in the text that is read. -/
theorem Disguises.exists_clean_trim {scheme : String} {text : List Char}
    (disguised : Disguises scheme text) (readable : IsScheme scheme.toList) :
    ∃ name rest, clean (trim text) = name ++ ':' :: rest ∧ lower name = scheme.toList := by
  obtain ⟨space, controls, spelled, rest, rfl, blank, low, bare⟩ := disguised
  obtain ⟨name, last, cut, spelling, ends⟩ := List.map_eq_append_iff.mp bare
  obtain ⟨mark, rfl, same⟩ := List.map_eq_singleton_iff.mp ends
  obtain rfl : mark = ':' := (toLower_eq_iff (by decide)).mp same
  have named : IsScheme name := by
    refine .of_lower ?_
    rwa [lower, spelling]
  obtain ⟨first, others, rfl, letter, -⟩ := named
  -- The gaps in front of the first letter and of the colon belong to what is dropped around them.
  obtain ⟨front, back, rfl, keptFront, keptBack⟩ := List.filter_eq_append_iff.mp cut
  obtain ⟨gap, middle, rfl, gaps, -, keptMiddle⟩ := List.filter_eq_cons_iff.mp keptFront
  obtain ⟨gap', tail, rfl, gaps', -, -⟩ := List.filter_eq_cons_iff.mp keptBack
  have lowGap : ∀ c ∈ controls ++ gap, c.toNat ≤ 0x20 :=
    List.forall_mem_append.mpr ⟨low, fun c mem => le_of_not_kept (gaps c mem)⟩
  have shape : space ++ controls ++ (gap ++ first :: middle ++ (gap' ++ ':' :: tail)) ++ rest =
      space ++ (controls ++ gap) ++ first :: ((middle ++ gap') ++ ':' :: (tail ++ rest)) := by
    simp
  have between : withoutGaps (middle ++ gap') = others := by
    rw [withoutGaps, List.filter_append, keptMiddle, List.filter_eq_nil_iff.mpr gaps',
      List.append_nil]
  have colon : isPrinted ':' = true := rfl
  obtain ⟨rest', cleaned⟩ := exists_clean_trim_eq blank lowGap (isPrinted_of_isAlpha letter) colon
    (middle ++ gap') (tail ++ rest)
  refine ⟨first :: others, rest', ?_, spelling⟩
  rw [shape, cleaned, between]
  rfl

/-- However a scheme is disguised, a URL that is read has it. -/
theorem Disguises.scheme_eq {scheme : String} {text : List Char}
    (disguised : Disguises scheme text) (readable : IsScheme scheme.toList) {base : Option Url}
    {url : Url} (read : parseFrom base (trim text) = .ok url) : url.scheme = scheme := by
  obtain ⟨name, rest, cleaned, spelling⟩ := disguised.exists_clean_trim readable
  have named : IsScheme name := by
    refine .of_lower ?_
    rwa [spelling]
  rw [named.scheme_of_parseFrom cleaned read, spelling, String.ofList_toList]

/-- A scheme that a text begins with between its ends is disguised in nothing but the case of its
letters and white space. -/
theorem disguises_of_prefix {scheme : String} (readable : IsScheme scheme.toList)
    {text : List Char} (begins : scheme.toList ++ [':'] <+: lower (trim text)) :
    Disguises scheme text := by
  obtain ⟨rest, spelling⟩ := begins
  obtain ⟨spelled, last, cut, bare, -⟩ := List.map_eq_append_iff.mp spelling.symm
  obtain ⟨space, back, parts, blank, -⟩ := exists_eq_append_dropBothWhile isBlank text
  refine ⟨space, [], spelled, last ++ back, ?_, blank, List.forall_mem_nil _, ?_⟩
  · conv_lhs => rw [parts]
    rw [← trim, cut]
    simp
  · have absent {mark : Char} (noLetter : ∀ n ∈ List.range 26,
        ((Char.ofNat (65 + n)).toLower == mark) = (Char.ofNat (65 + n) == mark))
        (marked : isSchemeChar mark = false) (other : mark ≠ ':') : mark ∉ spelled := by
      rw [← mem_lower_iff noLetter, lower, bare]
      exact readable.not_mem_append marked other
    have kept : withoutGaps spelled = spelled := by
      refine List.filter_eq_self.mpr fun c mem => decide_eq_true ⟨?_, ?_, ?_⟩
      · rintro rfl
        exact absent (by decide) rfl (by decide) mem
      · rintro rfl
        exact absent (by decide) rfl (by decide) mem
      · rintro rfl
        exact absent (by decide) rfl (by decide) mem
    rw [kept]
    exact bare

end Url

namespace Link

/-- The schemes of links that lead to no page. -/
def pagelessNames : List String := ["javascript", "mailto", "tel", "data"]

/-- The beginnings of links that lead to no page are those of the schemes. -/
theorem pagelessSchemes_eq :
    pagelessSchemes = pagelessNames.map fun name => name.toList ++ [':'] := by
  decide

/-- The schemes of links that lead to no page are schemes. -/
theorem isScheme_of_mem {name : String} (mem : name ∈ pagelessNames) :
    Url.IsScheme name.toList := by
  have spelled (first : Char) (rest : List Char) (letter : first.isAlpha = true)
      (chars : rest.all Url.isSchemeChar = true) : Url.IsScheme (first :: rest) :=
    ⟨first, rest, rfl, letter, List.all_eq_true.mp chars⟩
  simp only [pagelessNames, List.mem_cons, List.not_mem_nil, or_false] at mem
  rcases mem with rfl | rfl | rfl | rfl
  · exact spelled 'j' "avascript".toList rfl (by decide)
  · exact spelled 'm' "ailto".toList rfl (by decide)
  · exact spelled 't' "el".toList rfl (by decide)
  · exact spelled 'd' "ata".toList rfl (by decide)

/-- No page has such a scheme. -/
theorem isWeb_of_mem {url : Url} (mem : url.scheme ∈ pagelessNames) : url.isWeb = false := by
  refine Bool.eq_false_iff.mpr fun web => ?_
  rcases Url.isWeb_iff.mp web with scheme | scheme
  · rw [scheme] at mem
    exact absurd mem (by decide)
  · rw [scheme] at mem
    exact absurd mem (by decide)

/-- A text begins with a lower-case text if it does so in lower case. -/
theorem startsWithLower_iff {start text : List Char} :
    startsWithLower start text = true ↔ start <+: lower text := by
  unfold startsWithLower lower
  rw [List.isPrefixOf_iff_prefix, List.map_take, List.prefix_take_iff]
  simp

/-- What is read of a disguised scheme has that scheme, and is no page. -/
theorem scheme_of_disguises {name : String} (mem : name ∈ pagelessNames) {href : List Char}
    (disguised : Url.Disguises name href) {base : Option Url} {url : Url}
    (read : Url.parseFrom base (trim href) = .ok url) :
    url.scheme = name ∧ url.isWeb = false := by
  have scheme := disguised.scheme_eq (isScheme_of_mem mem) read
  refine ⟨scheme, isWeb_of_mem ?_⟩
  rwa [scheme]

/-- What is excluded by its beginning names no page. -/
theorem isWeb_of_excluded {base : Option Url} {url : Url} {href : List Char}
    (excluded : pagelessSchemes.any (startsWithLower · (trim href)) = true)
    (read : Url.parseFrom base (trim href) = .ok url) : url.isWeb = false := by
  obtain ⟨start, listed, begins⟩ := List.any_eq_true.mp excluded
  rw [pagelessSchemes_eq] at listed
  obtain ⟨name, mem, rfl⟩ := List.mem_map.mp listed
  have disguised : Url.Disguises name href :=
    Url.disguises_of_prefix (isScheme_of_mem mem) (startsWithLower_iff.mp begins)
  exact (scheme_of_disguises mem disguised read).2

/-- A destination names the page that is read of it, unless it is empty or begins like a place on
the page itself. -/
theorem resolve?_eq_some_iff {base url : Url} {href : List Char} :
    resolve? base href = some url ↔
      trim href ≠ [] ∧ (trim href).head? ≠ some '#' ∧
        Url.parseFrom (some base) (trim href) = .ok url ∧ url.isWeb = true := by
  have blocked : ((trim href).isEmpty || (trim href).head? == some '#') = true ↔
      ¬(trim href ≠ [] ∧ (trim href).head? ≠ some '#') := by
    rw [Bool.or_eq_true, List.isEmpty_iff, beq_iff_eq, not_and_or, not_not, not_not]
  unfold resolve?
  simp only
  rw [← and_assoc]
  by_cases other : trim href ≠ [] ∧ (trim href).head? ≠ some '#'
  · rw [if_neg (mt blocked.mp (not_not.mpr other))]
    by_cases excluded : pagelessSchemes.any (startsWithLower · (trim href)) = true
    · rw [if_pos excluded]
      refine iff_of_false nofun ?_
      rintro ⟨-, read, web⟩
      rw [isWeb_of_excluded excluded read] at web
      cases web
    · rw [if_neg excluded, Option.filter_eq_some_iff, toOption_eq_some_iff]
      exact (and_iff_right other).symm
  · rw [if_pos (blocked.mpr other)]
    exact iff_of_false nofun fun found => other found.1

/-- White space at the ends of a destination does not matter. -/
theorem resolve?_trim (base : Url) (href : List Char) :
    resolve? base (trim href) = resolve? base href := by
  have again : trim (trim href) = trim href := dropBothWhile_idempotent isBlank href
  unfold resolve?
  rw [again]

/-- A destination names a page exactly if it is not empty, does not begin like a place on the page
itself, and is joined to a URL of a page. What begins with the scheme of a script, a mailbox, a
telephone or data, in letters of either case, is joined to a URL of that scheme or to none, so the
beginnings exclude no page. In no disguise does such a scheme name a page. -/
theorem resolve?_excludes_no_page (base : Url) (href : String) :
    (∀ url, resolve? base href.toList = some url ↔
        trim href.toList ≠ [] ∧ (trim href.toList).head? ≠ some '#' ∧
          base.join (String.ofList (trim href.toList)) = .ok url ∧
          (url.scheme = "http" ∨ url.scheme = "https")) ∧
      (∀ name ∈ pagelessNames, name.toList ++ [':'] <+: lower (trim href.toList) →
        ∀ url, base.join (String.ofList (trim href.toList)) = .ok url →
          url.scheme = name ∧ url.isWeb = false) ∧
      ∀ name ∈ pagelessNames, Url.Disguises name href.toList →
        resolve? base href.toList = none ∧
          ∀ url, base.join (String.ofList (trim href.toList)) = .ok url → url.scheme = name := by
  have joined : base.join (String.ofList (trim href.toList)) =
      Url.parseFrom (some base) (trim href.toList) := by
    rw [Url.join, String.toList_ofList]
  rw [joined]
  refine ⟨fun url => ?_, fun name mem begins url read => ?_, fun name mem disguised => ⟨?_, ?_⟩⟩
  · rw [resolve?_eq_some_iff, Url.isWeb_iff]
  · exact scheme_of_disguises mem (Url.disguises_of_prefix (isScheme_of_mem mem) begins) read
  · refine Option.eq_none_iff_forall_ne_some.mpr fun url found => ?_
    obtain ⟨-, -, read, web⟩ := resolve?_eq_some_iff.mp found
    rw [(scheme_of_disguises mem disguised read).2] at web
    cases web
  · exact fun url read => (scheme_of_disguises mem disguised read).1

/-- On a page of the machine itself a path is followed, a mailbox is none of its pages, and a script
is none in whatever disguise. -/
theorem resolve?_excludes_no_page_loopback :
    ∃ base url mailbox : Url, Url.parse "http://[::1]/a/b" = .ok base ∧
      base.join "../c" = .ok url ∧ resolve? base " ../c ".toList = some url ∧
      base.join "MailTo:me" = .ok mailbox ∧ mailbox.scheme = "mailto" ∧
      Url.Disguises "javascript" "\u00a0\x01jAva\tSCRIPT\n:alert(1)".toList ∧
      resolve? base "\u00a0\x01jAva\tSCRIPT\n:alert(1)".toList = none := by
  have read : Url.parse "http://[::1]/a/b" =
      .ok (Canonical.loopbackPage ["a", "b"] none none) := by
    decide +kernel
  have path : (Canonical.loopbackPage ["a", "b"] none none).join
      (String.ofList (trim " ../c ".toList)) = .ok (Canonical.loopbackPage ["c"] none none) := by
    decide +kernel
  have mail : (Canonical.loopbackPage ["a", "b"] none none).join
      (String.ofList (trim "MailTo:me".toList)) =
        .ok ⟨"mailto", "", "", none, none, .verbatim "me", none, none⟩ := by
    decide +kernel
  have script : Url.Disguises "javascript" "\u00a0\x01jAva\tSCRIPT\n:alert(1)".toList :=
    ⟨['\u00a0'], ['\x01'], "jAva\tSCRIPT\n:".toList, "alert(1)".toList, by decide,
      List.forall_mem_singleton.mpr rfl, List.forall_mem_singleton.mpr (by decide), by decide⟩
  obtain ⟨follows, -, -⟩ :=
    resolve?_excludes_no_page (Canonical.loopbackPage ["a", "b"] none none) " ../c "
  obtain ⟨-, begins, -⟩ :=
    resolve?_excludes_no_page (Canonical.loopbackPage ["a", "b"] none none) "MailTo:me"
  obtain ⟨-, -, disguised⟩ :=
    resolve?_excludes_no_page (Canonical.loopbackPage ["a", "b"] none none)
      "\u00a0\x01jAva\tSCRIPT\n:alert(1)"
  refine ⟨_, _, _, read, path, (follows _).mpr ⟨by decide, by decide, path, .inl rfl⟩, mail, ?_,
    script, (disguised "javascript" (by decide) script).1⟩
  exact (begins "mailto" (by decide) (by decide) _ mail).1

end Link

end CrawlFrontier
