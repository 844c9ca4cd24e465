import CrawlFrontier.Proofs.Url.WellFormed
import Mathlib.Data.List.Infix
import Mathlib.Logic.Function.Iterate

/-!
# References that stand on a page

A reference that names no host takes its place from the page on which it stands: it stays on the
path of the page, leaves some of the last segments, or begins at the root. How often it goes up is
told by the reference alone, and it goes up no further than to a drive letter. Main statements: the
path of what such a reference names is what is left of the path of the page with segments behind it
that do not depend on the page, and every other reference names the same from all pages of one
scheme.
-/

namespace CrawlFrontier.Url

open CrawlFrontier.Text

/-- How often the pieces of a path go up to the place above from where the path begins, while the
given segments of the path itself, in reverse, stand behind that. -/
def climbs (own : List String) : List (List Char) → Nat
  | [] => 0
  | piece :: rest =>
    if isDoubleDot piece then if own = [] then climbs [] rest + 1 else climbs (leave own) rest
    else if isSingleDot piece then climbs own rest
    else climbs (keepSegment .special own piece :: own) rest

/-- The segments of a page that a reference keeps. A path that begins with no slash leaves the last
one in any case, and goes up from there. -/
def Reference.kept (reference : Reference) (list : List String) : List String :=
  match reference.main with
  | [] => list
  | c :: rest =>
    if isSlash c then []
    else
      (leave^[climbs [] ((c :: rest).splitOnP SchemeClass.special.separates)]
        (list.reverse.drop 1)).reverse

/-- The segments of a page that a reference leaves. -/
def Reference.left (reference : Reference) (list : List String) : List String :=
  list.drop (reference.kept list).length

/-- What a reference says without the scheme of the page, if it names no host. -/
def placed? (scheme : String) (text : List Char) : Option Reference :=
  let reference := Reference.ofText (clean text)
  let main :=
    match splitScheme? reference.main with
    | some (own, rest) => if own = scheme then some rest else none
    | none => some reference.main
  (main.filter fun main => ¬2 ≤ (main.takeWhile isSlash).length).map ({ reference with main := · })

/-- What a reference without a host names on a page. -/
def place (base : Url) (reference : Reference) : Url :=
  match reference.main with
  | [] => base.atSamePath reference
  | c :: rest =>
    if isSlash c then
      withMore { base with path := .segments (follow (.ofScheme base.scheme) [] rest) } reference
    else (base.atRelativePath (c :: rest)).withMore reference

/-- Whether segments that are left behind others are also those that would be left if all empty ones
were taken out first: none of them is empty, or all in front of them are, or a drive that ends what
is in front, empty segments not counted, stops the way up. The first step leaves a drive too, so one
of the segments has to be there for it. -/
def LeavesSameNames (front back : List String) : Prop :=
  (∀ segment ∈ back, segment ≠ "") ∨ (∀ segment ∈ front, segment = "") ∨
    (∃ segment ∈ back, segment ≠ "") ∧
      ∃ drive ∈ (filledSegments front).getLast?, startsWithDrive drive.toList = true

instance (front back : List String) : Decidable (LeavesSameNames front back) :=
  inferInstanceAs (Decidable ((∀ _, _) ∨ (∀ _, _) ∨ (∃ _, _) ∧ ∃ _, _))

/-- The segments that are not empty are those of the front and of the rest. -/
theorem filledSegments_append (front rest : List String) :
    filledSegments (front ++ rest) = filledSegments front ++ filledSegments rest :=
  List.filter_append _ _

/-- The place above cannot be reached exactly at the root and at a drive. -/
theorem leave_eq_self_iff {list : List String} :
    leave list = list ↔ list = [] ∨ ∃ drive ∈ list.head?, startsWithDrive drive.toList = true := by
  cases list with
  | nil => simp [leave]
  | cons last front =>
    have shorter : front ≠ last :: front := fun same => by
      simpa using congrArg List.length same
    simp [leave, shorter]

/-- Going up leaves segments that are no drives, and ends at a place from which there is no way up if
these are fewer than the steps. -/
theorem exists_leave_iterate (count : Nat) (list : List String) :
    ∃ gone, gone ++ leave^[count] list = list ∧
      (∀ segment ∈ gone, ¬startsWithDrive segment.toList = true) ∧ gone.length ≤ count ∧
      (gone.length = count ∨ leave (leave^[count] list) = leave^[count] list) := by
  induction count generalizing list with
  | zero => exact ⟨[], rfl, nofun, Nat.le_refl 0, .inl rfl⟩
  | succ count ih =>
    by_cases stops : leave list = list
    · rw [Function.iterate_fixed stops]
      exact ⟨[], rfl, nofun, Nat.zero_le _, .inr stops⟩
    · obtain ⟨some, plain⟩ := not_or.mp (mt leave_eq_self_iff.mpr stops)
      obtain ⟨last, front, rfl⟩ := List.exists_cons_of_ne_nil some
      have last : ¬startsWithDrive last.toList = true := fun drive => plain ⟨last, rfl, drive⟩
      obtain ⟨gone, parts, others, few, ends⟩ := ih front
      rw [Function.iterate_succ_apply, leave, if_neg last]
      refine ⟨_ :: gone, congrArg _ parts, ?_, Nat.succ_le_succ few, ends.imp_left (congrArg _)⟩
      rintro segment (_ | ⟨_, mem⟩)
      · exact last
      · exact others segment mem

/-- Segments that are no drives are left one by one. -/
theorem leave_iterate_append {gone : List String}
    (plain : ∀ segment ∈ gone, ¬startsWithDrive segment.toList = true) (count : Nat)
    (rest : List String) :
    leave^[gone.length + count] (gone ++ rest) = leave^[count] rest := by
  induction gone with
  | nil => rw [List.length_nil, Nat.zero_add, List.nil_append]
  | cons last gone ih =>
    obtain ⟨first, others⟩ := List.forall_mem_cons.mp plain
    rw [List.length_cons, Nat.add_right_comm, Function.iterate_succ_apply, List.cons_append, leave,
      if_neg first, ih others]

/-- Some steps up lead nowhere exactly if one does. -/
theorem leave_iterate_succ_eq_self_iff {count : Nat} {list : List String} :
    leave^[count + 1] list = list ↔ leave list = list := by
  constructor
  · intro same
    obtain ⟨gone, parts, -, -, ends⟩ := exists_leave_iterate (count + 1) list
    rw [same] at parts ends
    have nothing : gone = [] := List.self_eq_append_left.mp parts.symm
    rw [nothing] at ends
    exact ends.resolve_left (Nat.zero_ne_add_one count)
  · exact fun stops => Function.iterate_fixed stops _

/-- The way up ends behind segments that are no drives exactly if there are as many of them as steps,
or there is no way up from there. -/
theorem leave_iterate_append_eq_iff {gone rest : List String} {count : Nat}
    (plain : ∀ segment ∈ gone, ¬startsWithDrive segment.toList = true)
    (few : gone.length ≤ count) :
    leave^[count] (gone ++ rest) = rest ↔ gone.length = count ∨ leave rest = rest := by
  obtain ⟨extra, rfl⟩ := Nat.exists_eq_add_of_le few
  rw [leave_iterate_append plain]
  cases extra with
  | zero => exact iff_of_true rfl (.inl rfl)
  | succ extra =>
    rw [leave_iterate_succ_eq_self_iff]
    exact ⟨.inr, fun either => either.resolve_left (by omega)⟩

/-- Going up only takes segments away. -/
theorem leave_iterate_suffix (count : Nat) (list : List String) : leave^[count] list <:+ list := by
  obtain ⟨gone, parts, -⟩ := exists_leave_iterate count list
  exact ⟨gone, parts⟩

/-- Without the last segment the same are left after some steps up only if there are none. -/
theorem leave_iterate_drop_eq_self_iff {count : Nat} {list : List String} :
    leave^[count] (list.drop 1) = list ↔ list = [] := by
  constructor
  · intro same
    have shorter := (leave_iterate_suffix count (list.drop 1)).length_le
    rw [same, List.length_drop] at shorter
    exact List.eq_nil_of_length_eq_zero (by omega)
  · rintro rfl
    exact Function.iterate_fixed rfl count

/-- The segments that are not empty are not reordered. -/
theorem filledSegments_reverse (list : List String) :
    filledSegments list.reverse = (filledSegments list).reverse :=
  List.filter_reverse ..

/-- No segment is there if the empty ones are left out exactly if all are empty. -/
theorem filledSegments_eq_nil_iff {list : List String} :
    filledSegments list = [] ↔ ∀ segment ∈ list, segment = "" := by
  simp [filledSegments, List.filter_eq_nil_iff]

/-- From where there is no way up there is none if the empty segments are left out. -/
theorem leave_filledSegments {list : List String} (stops : leave list = list) :
    leave (filledSegments list) = filledSegments list := by
  rcases leave_eq_self_iff.mp stops with rfl | ⟨drive, first, isDrive⟩
  · rfl
  · obtain ⟨rest, rfl⟩ := List.head?_eq_some_iff.mp first
    have filled : drive ≠ "" := by
      rintro rfl
      cases isDrive
    have kept : filledSegments (drive :: rest) = drive :: filledSegments rest :=
      List.filter_cons_of_pos (decide_eq_true filled)
    rw [kept, leave, if_pos isDrive]

/-- Segments of which all are filled are kept if the empty ones are left out. -/
theorem filledSegments_of_sublist {kept list : List String}
    (inside : kept.Sublist (filledSegments list)) : filledSegments kept = kept :=
  List.filter_eq_self.mpr fun _ mem => (List.mem_filter.mp (inside.subset mem)).2

/-- The last segment is left and the way goes up from there, given the segments in reverse: without
the empty ones the same names are left exactly if those that are gone leave the same names. -/
theorem leave_iterate_filledSegments_iff {last : String} {gone rest : List String} {count : Nat}
    (plain : ∀ segment ∈ gone, ¬startsWithDrive segment.toList = true)
    (few : gone.length ≤ count) (ends : gone.length = count ∨ leave rest = rest) :
    leave^[count] ((filledSegments (last :: gone ++ rest)).drop 1) = filledSegments rest ↔
      LeavesSameNames rest.reverse (last :: gone).reverse := by
  have allEmpty : filledSegments rest = [] ↔ ∀ segment ∈ rest, segment = "" :=
    filledSegments_eq_nil_iff
  have sameDrive : (filledSegments rest.reverse).getLast? = (filledSegments rest).head? := by
    rw [filledSegments_reverse, List.getLast?_reverse]
  have all : (filledSegments (last :: gone)).length = (last :: gone).length ↔
      ∀ segment ∈ last :: gone, segment ≠ "" := by
    rw [filledSegments, List.length_filter_eq_length_iff]
    simp
  have some : filledSegments (last :: gone) = [] ↔ ¬∃ segment ∈ last :: gone, segment ≠ "" := by
    rw [filledSegments_eq_nil_iff]
    simp
  unfold LeavesSameNames
  simp only [List.mem_reverse, sameDrive, ← allEmpty, ← all]
  rw [filledSegments_append]
  cases names : filledSegments (last :: gone) with
  | nil =>
    -- All that are gone are empty, so the first step already takes a name too many.
    have none := some.mp names
    rw [List.nil_append, leave_iterate_drop_eq_self_iff]
    simp only [List.length_nil, List.length_cons, (Nat.succ_ne_zero _).symm, none, false_and,
      false_or, or_false]
  | cons name names' =>
    have sub : names'.Sublist gone := by
      have kept : (filledSegments (last :: gone)).Sublist (last :: gone) := List.filter_sublist
      rw [names] at kept
      exact kept.tail
    have filled : ∃ segment ∈ last :: gone, segment ≠ "" := by
      rw [names] at some
      exact not_not.mp (mt some.mpr (List.cons_ne_nil name names'))
    rw [List.cons_append, List.drop_one, List.tail_cons,
      leave_iterate_append_eq_iff (fun segment mem => plain segment (sub.subset mem))
        (sub.length_le.trans few), leave_eq_self_iff]
    simp only [List.length_cons, Nat.add_right_cancel_iff, filled, true_and, ← leave_eq_self_iff]
    rcases ends with rfl | stops
    · exact Iff.rfl
    · have above := leave_filledSegments stops
      exact iff_of_true (.inr above) (.inr above)

/-- The segments that a reference keeps and those that it leaves are those of the page. -/
theorem Reference.kept_append_left (reference : Reference) (list : List String) :
    reference.kept list ++ reference.left list = list := by
  have front : reference.kept list <+: list := by
    unfold Reference.kept
    split
    · exact List.prefix_rfl
    · split
      · exact List.nil_prefix
      · rw [← List.reverse_suffix, List.reverse_reverse]
        exact (leave_iterate_suffix _ _).trans (List.drop_suffix 1 list.reverse)
  exact (List.prefix_append_drop front).symm

/-- A path that begins with no slash leaves the last segment and goes up from there. -/
theorem Reference.kept_of_main {reference : Reference} {c : Char} {rest : List Char}
    (shape : reference.main = c :: rest) (slash : ¬isSlash c = true) (list : List String) :
    reference.kept list =
      (leave^[climbs [] ((c :: rest).splitOnP SchemeClass.special.separates)]
        (list.reverse.drop 1)).reverse := by
  rw [Reference.kept, shape]
  exact if_neg slash

/-- The empty segment that stands for no segments is the last one. -/
theorem reverse_orEmpty_drop (list : List String) :
    (orEmpty list).reverse.drop 1 = list.reverse.drop 1 := by
  unfold orEmpty
  split
  · next nothing => rw [nothing]; rfl
  · rfl

/-- A reference keeps the same names of a path in normal form as of the path that it stands for
exactly if those that it leaves are the same. -/
theorem filledSegments_kept_iff (reference : Reference) {list : List String} (filled : list ≠ []) :
    filledSegments (reference.kept (orEmpty (filledSegments list))) =
        filledSegments (reference.kept list) ↔
      LeavesSameNames (reference.kept list) (reference.left list) := by
  have parts := reference.kept_append_left list
  cases shape : reference.main with
  | nil =>
    have whole (list : List String) : reference.kept list = list := by
      rw [Reference.kept, shape]
    have nothing : reference.left list = [] := by
      rw [Reference.left, whole, List.drop_length]
    rw [whole, whole, filledSegments_orEmpty, nothing]
    exact iff_of_true rfl (.inl nofun)
  | cons c rest =>
    by_cases slash : isSlash c = true
    · have none (list : List String) : reference.kept list = [] := by
        rw [Reference.kept, shape]
        exact if_pos slash
      rw [none, none]
      exact iff_of_true rfl (.inr (.inl nofun))
    · have climbed := Reference.kept_of_main shape slash
      generalize climbs [] ((c :: rest).splitOnP SchemeClass.special.separates) = count at climbed
      obtain ⟨last, front, reversed⟩ :=
        List.exists_cons_of_ne_nil (mt List.reverse_eq_nil_iff.mp filled)
      obtain ⟨gone, above, plain, few, ends⟩ := exists_leave_iterate count front
      have kept : reference.kept list = (leave^[count] front).reverse := by
        rw [climbed, reversed, List.drop_one, List.tail_cons]
      have left : reference.left list = (last :: gone).reverse := by
        have ordered : list = (leave^[count] front).reverse ++ (last :: gone).reverse := by
          rw [← List.reverse_append, List.cons_append, above, ← reversed, List.reverse_reverse]
        rw [← parts, kept] at ordered
        exact List.append_cancel_left ordered
      have law := @leave_iterate_filledSegments_iff last gone _ _ plain few ends
      rw [List.cons_append, above, ← reversed] at law
      have inside : (leave^[count] ((filledSegments list.reverse).drop 1)).Sublist
          (filledSegments list.reverse) :=
        (leave_iterate_suffix _ _).sublist.trans (List.drop_sublist 1 _)
      rw [climbed, reverse_orEmpty_drop, ← filledSegments_reverse list, kept, left,
        filledSegments_reverse (leave^[count] front), filledSegments_reverse (leave^[count] _),
        List.reverse_inj, filledSegments_of_sublist inside]
      exact law

/-- The way up ends at a drive, whether or not there is an empty segment behind it. The first step needs
a name there. -/
example : LeavesSameNames ["c:"] ["", "x"] ∧ ¬LeavesSameNames ["c:"] [""] ∧
    ¬LeavesSameNames ["c"] ["", "x"] := by
  decide

/-- What closes a path stands behind the segments in front of it. -/
theorem close_append (own front : List String) (rest : List (List Char)) :
    walk.close (own ++ front) rest = walk.close own rest ++ front := by
  unfold walk.close
  split <;> rfl

/-- What closes a path goes up no further. -/
theorem climbs_close (own : List String) (rest : List (List Char)) :
    climbs (walk.close own rest) rest = climbs own rest := by
  cases rest with
  | nil => rfl
  | cons piece rest => rfl

/-- A path goes up from segments of its own before it goes up from those in front. -/
theorem leave_append {own : List String} (some : own ≠ []) (front : List String) :
    leave (own ++ front) = leave own ++ front := by
  obtain ⟨last, own, rfl⟩ := List.exists_cons_of_ne_nil some
  rw [List.cons_append, leave, leave]
  split <;> rfl

/-- In the URL of a page a segment is kept in the same way behind all others. -/
theorem keepSegment_special (front : List String) (piece : List Char) :
    keepSegment .special front piece = String.ofList (percentEncode escapedInPath piece) := by
  rw [keepSegment, if_neg (by simp)]

/-- From the segments in front a path only goes up, and what it puts behind them does not depend on
them. -/
theorem exists_walk_append (pieces : List (List Char)) (own : List String) :
    ∃ tail, ∀ front, walk .special (own ++ front) pieces =
      (leave^[climbs own pieces] front).reverse ++ tail := by
  induction pieces generalizing own with
  | nil =>
    refine ⟨own.reverse, fun front => ?_⟩
    rw [walk, climbs, Function.iterate_zero, id, List.reverse_append]
  | cons piece rest ih =>
    -- In each case the walk goes on from other segments of its own.
    have goOn (own' : List String) :
        ∃ tail, ∀ front, walk .special (walk.close (own' ++ front) rest) rest =
          (leave^[climbs own' rest] front).reverse ++ tail := by
      obtain ⟨tail, all⟩ := ih (walk.close own' rest)
      refine ⟨tail, fun front => ?_⟩
      rw [close_append, all, climbs_close]
    by_cases double : isDoubleDot piece = true
    · by_cases none : own = []
      · obtain ⟨tail, all⟩ := goOn []
        refine ⟨tail, fun front => ?_⟩
        have step := all (leave front)
        rw [List.nil_append] at step
        rw [none, List.nil_append, walk, if_pos double, step, climbs, if_pos double, if_pos rfl,
          Function.iterate_succ_apply]
      · obtain ⟨tail, all⟩ := goOn (leave own)
        refine ⟨tail, fun front => ?_⟩
        rw [walk, if_pos double, leave_append none, all, climbs, if_pos double, if_neg none]
    · by_cases single : isSingleDot piece = true
      · obtain ⟨tail, all⟩ := goOn own
        refine ⟨tail, fun front => ?_⟩
        rw [walk, if_neg double, if_pos single, all, climbs, if_neg double, if_pos single]
      · obtain ⟨tail, all⟩ := ih (keepSegment .special own piece :: own)
        refine ⟨tail, fun front => ?_⟩
        have step := all front
        rw [List.cons_append] at step
        rw [walk, if_neg double, if_neg single, keepSegment_special, ← keepSegment_special own, step,
          climbs, if_neg double, if_neg single]

/-- Of a page a reference leaves the last segment, a drive too. -/
theorem dropLast_special (list : List String) : dropLast .special list = list.drop 1 := by
  cases list with
  | nil => rfl
  | cons last front =>
    rw [dropLast, if_neg (by simp)]
    rfl

/-- The path of what a reference without a host names: what it keeps of the path of the page, and
segments behind it that are the same for all pages. -/
theorem exists_segments_place (reference : Reference) :
    ∃ tail, ∀ base : Url, base.WellFormed → (base.place reference).segments =
      reference.kept base.segments ++ tail := by
  unfold place Reference.kept
  cases reference.main with
  | nil =>
    refine ⟨[], fun base _ => ?_⟩
    have same : (base.atSamePath reference).segments = base.segments := by
      unfold atSamePath
      split <;> rfl
    rw [List.append_nil]
    exact same
  | cons c rest =>
    by_cases slash : isSlash c = true
    · refine ⟨follow .special [] rest, fun base valid => ?_⟩
      simp only [if_pos slash, ofScheme_of_isWeb valid.web, List.nil_append]
      rfl
    · obtain ⟨tail, all⟩ :=
        exists_walk_append ((c :: rest).splitOnP SchemeClass.special.separates) []
      refine ⟨tail, fun base valid => ?_⟩
      have special := ofScheme_of_isWeb valid.web
      have walked := all (base.segments.reverse.drop 1)
      rw [List.nil_append] at walked
      simp only [if_neg slash]
      change follow (.ofScheme base.scheme) (dropLast (.ofScheme base.scheme) base.segments.reverse)
        (c :: rest) = _
      rw [special, follow, if_neg (by simp), dropLast_special, walked]

/-- A reference without a host changes nothing in front of the path. -/
theorem place_keeps (base : Url) (reference : Reference) :
    (base.place reference).scheme = base.scheme ∧
      (base.place reference).username = base.username ∧
      (base.place reference).password = base.password ∧
      (base.place reference).host = base.host ∧ (base.place reference).port = base.port := by
  unfold place
  split
  · unfold atSamePath
    split <;> exact ⟨rfl, rfl, rfl, rfl, rfl⟩
  · split <;> exact ⟨rfl, rfl, rfl, rfl, rfl⟩

/-- The query is that of the reference, unless it has neither a path nor a query. -/
theorem query_place (base : Url) (reference : Reference) :
    (base.place reference).query =
      if reference.main = [] ∧ reference.query = none then base.query
      else reference.query.map (keepQuery (.ofScheme base.scheme)) := by
  unfold place
  split
  · next nothing =>
    unfold atSamePath
    split
    · next absent => rw [if_pos ⟨nothing, absent⟩]
    · next query present => rw [if_neg (by simp [present])]; rfl
  · next c rest shape =>
    have other : ¬(reference.main = [] ∧ reference.query = none) := by simp [shape]
    rw [if_neg other]
    split <;> rfl

/-- Two slashes stand in front of a text if its first character is one and so is the next. -/
theorem two_le_slashes_iff {c : Char} {rest : List Char} (slash : isSlash c = true) :
    2 ≤ ((c :: rest).takeWhile isSlash).length ↔ rest.head?.any isSlash = true := by
  rw [List.takeWhile_cons_of_pos slash]
  cases rest with
  | nil => simp
  | cons d rest =>
    by_cases second : isSlash d = true
    · simp [second]
    · simp [second]

/-- A reference in front of which fewer than two slashes stand names no host. -/
theorem parseRelative_eq_place {base : Url} {reference : Reference}
    (few : ¬2 ≤ (reference.main.takeWhile isSlash).length) :
    parseRelative base reference = .ok (base.place reference) := by
  obtain ⟨main, query, fragment⟩ := reference
  unfold parseRelative place
  simp only at few ⊢
  split
  · rfl
  · next rest => exact absurd ((two_le_slashes_iff rfl).mpr rfl) few
  · next c rest _ =>
    by_cases slash : isSlash c = true
    · have apart := mt (two_le_slashes_iff slash).mpr few
      simp only [if_pos slash, if_neg apart]
    · simp only [if_neg slash]

/-- A reference that begins with two slashes names its host on all pages of one scheme alike. -/
theorem parseRelative_congr {base other : Url} {reference : Reference}
    (scheme : other.scheme = base.scheme)
    (many : 2 ≤ (reference.main.takeWhile isSlash).length) :
    parseRelative other reference = parseRelative base reference := by
  obtain ⟨main, query, fragment⟩ := reference
  unfold parseRelative
  simp only [scheme] at many ⊢
  split
  · simp at many
  · rfl
  · next c rest _ =>
    by_cases slash : isSlash c = true
    · have next := (two_le_slashes_iff slash).mp many
      simp only [if_pos slash, if_pos next]
    · simp [slash] at many

/-- A page with the scheme that a reference names is the base of the reference. -/
theorem parseWithScheme_of_eq {base : Url} (web : base.isWeb = true) (reference : Reference) :
    parseWithScheme (some base) base.scheme reference =
      if 2 ≤ (reference.main.takeWhile isSlash).length then
        parseAuthority base.scheme (reference.main.dropWhile isSlash) reference
      else parseRelative base reference := by
  unfold parseWithScheme
  simp only [ofScheme_of_isWeb web, Option.filter_some, decide_true, if_true]

/-- A page with another scheme than a reference names has no say. -/
theorem parseWithScheme_of_ne {base : Url} {scheme : String} (other : base.scheme ≠ scheme)
    (reference : Reference) :
    parseWithScheme (some base) scheme reference = parseWithScheme none scheme reference := by
  unfold parseWithScheme
  simp only [Option.filter_some, other, decide_false, Bool.false_eq_true, if_false,
    Option.filter_none]

/-- On a page a reference without a scheme is relative to it. -/
theorem WellFormed.parseWithoutScheme_eq {base : Url} (valid : base.WellFormed)
    (reference : Reference) :
    parseWithoutScheme (some base) reference = parseRelative base reference := by
  have noFile : base.scheme ≠ "file" := by
    rcases isWeb_iff.mp valid.web with scheme | scheme <;> rw [scheme] <;> decide
  unfold parseWithoutScheme
  simp only [valid.path_eq.1, if_neg noFile]

/-- What a reference without a host names on a page. -/
theorem WellFormed.parseFrom_of_placed? {base : Url} (valid : base.WellFormed) {text : List Char}
    {reference : Reference} (placed : placed? base.scheme text = some reference) :
    parseFrom (some base) text = .ok (base.place reference) := by
  obtain ⟨main, found, rfl⟩ := Option.map_eq_some_iff.mp placed
  obtain ⟨found, few⟩ := Option.filter_eq_some_iff.mp found
  have few := of_decide_eq_true few
  unfold parseFrom
  cases scheme : splitScheme? (Reference.ofText (clean text)).main with
  | none =>
    simp only [scheme] at found ⊢
    obtain rfl := Option.some.inj found
    rw [valid.parseWithoutScheme_eq]
    exact parseRelative_eq_place few
  | some parts =>
    obtain ⟨own, rest⟩ := parts
    simp only [scheme] at found ⊢
    by_cases same : own = base.scheme
    · rw [if_pos same] at found
      obtain rfl := Option.some.inj found
      rw [same, parseWithScheme_of_eq valid.web, if_neg few]
      exact parseRelative_eq_place few
    · rw [if_neg same] at found
      cases found

/-- A reference with a scheme and two slashes behind it, or with another scheme than pages have,
names the same on all of them. -/
theorem parseWithScheme_congr {base other : Url} (web : base.isWeb = true)
    (webOther : other.isWeb = true) (scheme : other.scheme = base.scheme) {own : String}
    {reference : Reference}
    (many : own = base.scheme → 2 ≤ (reference.main.takeWhile isSlash).length) :
    parseWithScheme (some other) own reference = parseWithScheme (some base) own reference := by
  by_cases same : own = base.scheme
  · have first := parseWithScheme_of_eq web reference
    have second := parseWithScheme_of_eq webOther reference
    rw [if_pos (many same), ← same] at first
    rw [if_pos (many same), scheme, ← same] at second
    rw [first, second]
  · have apart : base.scheme ≠ own := Ne.symm same
    have apartOther : other.scheme ≠ own := by rwa [scheme]
    rw [parseWithScheme_of_ne apart, parseWithScheme_of_ne apartOther]

/-- A reference that names its host names the same on all pages of one scheme. -/
theorem WellFormed.parseFrom_congr {base other : Url} (valid : base.WellFormed)
    (validOther : other.WellFormed) (scheme : other.scheme = base.scheme) {text : List Char}
    (placed : placed? base.scheme text = none) :
    parseFrom (some other) text = parseFrom (some base) text := by
  have unfiltered := Option.filter_eq_none_iff.mp (Option.map_eq_none_iff.mp placed)
  have many (main : List Char) (other : ¬(decide ¬2 ≤ (main.takeWhile isSlash).length) = true) :
      2 ≤ (main.takeWhile isSlash).length :=
    Decidable.not_not.mp (mt decide_eq_true other)
  unfold parseFrom
  cases named : splitScheme? (Reference.ofText (clean text)).main with
  | none =>
    simp only [named] at unfiltered ⊢
    rw [valid.parseWithoutScheme_eq, validOther.parseWithoutScheme_eq]
    exact parseRelative_congr scheme (many _ (unfiltered _ rfl))
  | some parts =>
    obtain ⟨own, rest⟩ := parts
    simp only [named] at unfiltered ⊢
    apply parseWithScheme_congr valid.web validOther.web scheme
    intro same
    exact many rest (unfiltered rest (if_pos same))

end CrawlFrontier.Url
