import CrawlFrontier.Canonical.Url
import CrawlFrontier.Proofs.Text.Parts
import Mathlib.Data.List.DropRight

/-!
# Normal form of all paths

The normal form of a path is told by the names that are kept of it, and these are what is left when
its segments are taken one by one from the left. The names are found again in the normal form, so
what is written behind a path leads to the same from its normal form. Main statement: the normal
form of a path with another one behind it is that of its normal form with the other one behind it.
-/

namespace CrawlFrontier.Canonical

open CrawlFrontier.Text

/-- Whether what stands between two slashes is a name: it is not empty, and it is no dots. -/
def IsName (segment : List Char) : Prop :=
  segment ≠ [] ∧ segment ≠ ['.'] ∧ segment ≠ ['.', '.']

/-- What is kept of segments that are taken from left to right: names are kept, empty segments and
single dots say nothing, and two dots take away the last name that is kept, and nothing at the
root. -/
inductive Keeps : List (List Char) → List (List Char) → Prop where
  | root : Keeps [] []
  | name {segments kept : List (List Char)} {segment : List Char} :
      Keeps segments kept → IsName segment → Keeps (segments ++ [segment]) (kept ++ [segment])
  | empty {segments kept : List (List Char)} :
      Keeps segments kept → Keeps (segments ++ [[]]) kept
  | here {segments kept : List (List Char)} :
      Keeps segments kept → Keeps (segments ++ [['.']]) kept
  | above {segments kept : List (List Char)} {last : List Char} :
      Keeps segments (kept ++ [last]) → Keeps (segments ++ [['.', '.']]) kept
  | aboveRoot {segments : List (List Char)} :
      Keeps segments [] → Keeps (segments ++ [['.', '.']]) []

/-- A name is added to the path. -/
theorem enter_of_isName {segment : List Char} (named : IsName segment)
    (front : List (List Char)) : enter front segment = segment :: front := by
  obtain ⟨filled, notSingle, notDouble⟩ := named
  unfold enter
  rw [if_neg (not_or.mpr ⟨filled, notSingle⟩), if_neg notDouble]

/-- An empty segment changes nothing. -/
theorem enter_nil (front : List (List Char)) : enter front [] = front := rfl

/-- A single dot changes nothing. -/
theorem enter_dot (front : List (List Char)) : enter front ['.'] = front := rfl

/-- Two dots take away the last name. -/
theorem enter_dots (front : List (List Char)) : enter front ['.', '.'] = front.drop 1 := rfl

/-- Names are added to the path in their order. -/
theorem foldl_enter_of_isName {list : List (List Char)} (named : ∀ name ∈ list, IsName name)
    (front : List (List Char)) : list.foldl enter front = list.reverse ++ front := by
  induction list generalizing front with
  | nil => rfl
  | cons name list ih =>
    obtain ⟨first, rest⟩ := List.forall_mem_cons.mp named
    rw [List.foldl_cons, enter_of_isName first, ih rest, List.reverse_cons, List.append_assoc]
    rfl

/-- What is kept of segments is what going through them leaves. -/
theorem Keeps.eq_foldl_enter {segments kept : List (List Char)} (keeps : Keeps segments kept) :
    kept = (segments.foldl enter []).reverse := by
  suffices turned : segments.foldl enter [] = kept.reverse by
    rw [turned, List.reverse_reverse]
  induction keeps with
  | root => rfl
  | name _ named ih =>
    rw [List.foldl_concat, ih, enter_of_isName named, List.reverse_concat]
  | empty _ ih => rw [List.foldl_concat, ih, enter_nil]
  | here _ ih => rw [List.foldl_concat, ih, enter_dot]
  | above _ ih =>
    rw [List.foldl_concat, ih, enter_dots, List.reverse_concat]
    rfl
  | aboveRoot _ ih =>
    rw [List.foldl_concat, ih, enter_dots]
    rfl

/-- Going through segments leaves what is kept of them. -/
theorem keeps_foldl_enter (segments : List (List Char)) :
    Keeps segments (segments.foldl enter []).reverse := by
  induction segments using List.reverseRecOn with
  | nil => exact .root
  | append_singleton segments segment ih =>
    rw [List.foldl_concat]
    by_cases empty : segment = []
    · subst empty
      exact .empty ih
    by_cases single : segment = ['.']
    · subst single
      exact .here ih
    by_cases double : segment = ['.', '.']
    · subst double
      rw [enter_dots]
      cases front : segments.foldl enter [] with
      | nil =>
        rw [front] at ih
        exact .aboveRoot ih
      | cons last front' =>
        rw [front, List.reverse_cons] at ih
        exact .above ih
    · have named : IsName segment := ⟨empty, single, double⟩
      rw [enter_of_isName named, List.reverse_cons]
      exact .name ih named

/-- The names of a path are what is kept of its segments, and nothing else is. -/
theorem keeps_splitOn_iff {path : List Char} {kept : List (List Char)} :
    Keeps (path.splitOn '/') kept ↔ kept = names path := by
  constructor
  · exact Keeps.eq_foldl_enter
  · rintro rfl
    exact keeps_foldl_enter _

/-- What is kept of segments are names among them. -/
theorem Keeps.mem {segments kept : List (List Char)} (keeps : Keeps segments kept) :
    ∀ name ∈ kept, name ∈ segments ∧ IsName name := by
  have widen {front : List (List Char)} {name : List Char} (last : List Char)
      (found : name ∈ front ∧ IsName name) : name ∈ front ++ [last] ∧ IsName name :=
    ⟨List.mem_append_left [last] found.1, found.2⟩
  induction keeps with
  | root => exact List.forall_mem_nil _
  | @name segments kept segment _ named ih =>
    intro name mem
    rcases List.mem_append.mp mem with earlier | last
    · exact widen segment (ih name earlier)
    · rw [List.mem_singleton.mp last]
      exact ⟨List.mem_append_right segments List.mem_cons_self, named⟩
  | empty _ ih => exact fun name mem => widen _ (ih name mem)
  | here _ ih => exact fun name mem => widen _ (ih name mem)
  | above _ ih => exact fun name mem => widen _ (ih name (List.mem_append_left _ mem))
  | aboveRoot _ _ => exact List.forall_mem_nil _

/-- The names of a path are names, and no slash is in them. -/
theorem isName_of_mem_names {path name : List Char} (mem : name ∈ names path) :
    IsName name ∧ '/' ∉ name := by
  obtain ⟨inside, named⟩ := (keeps_splitOn_iff.mpr rfl).mem name mem
  exact ⟨named, not_mem_of_mem_splitOn inside⟩

/-- The normal form of a path adds the names of the path. -/
theorem foldl_enter_normalizePath (path : List Char) (front : List (List Char)) :
    ((normalizePath path).splitOn '/').foldl enter front = (names path).reverse ++ front := by
  have cut : (normalizePath path).splitOn '/' =
      [] :: (['/'].intercalate (names path)).splitOn '/' :=
    List.splitOn_append_cons_self_of_not_mem List.not_mem_nil _
  rw [cut, List.foldl_cons, enter_nil]
  by_cases none : names path = []
  · rw [none]
    rfl
  · have whole : ∀ name ∈ names path, '/' ∉ name := fun name mem => (isName_of_mem_names mem).2
    rw [List.splitOn_intercalate '/' whole none]
    exact foldl_enter_of_isName (fun name mem => (isName_of_mem_names mem).1) front

/-- The names of a path are found again in its normal form. -/
theorem names_normalizePath (path : List Char) : names (normalizePath path) = names path := by
  rw [names, foldl_enter_normalizePath, List.append_nil, List.reverse_reverse]

/-- What is written behind a path goes on from the names of the path. -/
theorem names_append_slash (front rest : List Char) :
    names (front ++ '/' :: rest) =
      ((rest.splitOn '/').foldl enter (names front).reverse).reverse := by
  rw [names, List.splitOn_append_cons_self, List.foldl_append, names, List.reverse_reverse]

/-- Two dots behind a path take away the last of its names. -/
theorem names_append_dots (path : List Char) :
    names (path ++ ['/', '.', '.']) = (names path).rdrop 1 := by
  rw [List.rdrop_eq_reverse_drop_reverse, ← enter_dots]
  exact names_append_slash path ['.', '.']

/-- Any number of two dots behind a path take away as many of its last names, and all of them if
there are no more. -/
theorem names_append_climbs (path : List Char) (count : Nat) :
    names (path ++ (List.replicate count ['/', '.', '.']).flatten) = (names path).rdrop count := by
  induction count generalizing path with
  | zero => rw [List.replicate_zero, List.flatten_nil, List.append_nil, List.rdrop_zero]
  | succ count ih =>
    rw [List.replicate_succ, List.flatten_cons, ← List.append_assoc, ih, names_append_dots]
    simp only [List.rdrop_eq_reverse_drop_reverse, List.reverse_reverse, List.drop_drop]
    rw [Nat.add_comm]

/-- The normal form of a path with another one behind it is that of its normal form with the other
one behind it, and so it is its own normal form. It is a slash and names with slashes between them,
and these are what is kept of the segments of the path and nothing else. Two dots behind the path
take away the last of the names, and at the root nothing. -/
theorem normalizePath_append_slash :
    (∀ front rest : List Char, normalizePath (front ++ '/' :: rest) =
        normalizePath (normalizePath front ++ '/' :: rest)) ∧
      (∀ path : List Char, normalizePath (normalizePath path) = normalizePath path) ∧
      ∀ path : List Char, ∃ kept : List (List Char),
        normalizePath path = '/' :: ['/'].intercalate kept ∧
          (∀ name ∈ kept, IsName name ∧ '/' ∉ name) ∧
          (∀ other, Keeps (path.splitOn '/') other ↔ other = kept) ∧
          ∀ count, normalizePath (path ++ (List.replicate count ['/', '.', '.']).flatten) =
            '/' :: ['/'].intercalate (kept.rdrop count) := by
  refine ⟨fun front rest => ?_, fun path => ?_, fun path => ⟨names path, rfl, ?_, ?_, ?_⟩⟩
  · have same : names (front ++ '/' :: rest) = names (normalizePath front ++ '/' :: rest) := by
      rw [names_append_slash, names_append_slash, names_normalizePath]
    rw [normalizePath, same, ← normalizePath]
  · rw [normalizePath, names_normalizePath, ← normalizePath]
  · exact fun name mem => isName_of_mem_names mem
  · exact fun other => keeps_splitOn_iff
  · intro count
    rw [normalizePath, names_append_climbs]

/-- A path that climbs above the root, stays in place and comes back keeps one name, and no more
than the root is left of it when it climbs again. -/
theorem normalizePath_append_slash_surplus :
    Keeps ("/../a//./b/..".toList.splitOn '/') ["a".toList] ∧
      IsName "a".toList ∧ '/' ∉ "a".toList ∧
      normalizePath "/../a//./b/..".toList = "/a".toList ∧
      normalizePath "/../a//./b/../../..".toList = "/".toList := by
  obtain ⟨-, -, shape⟩ := normalizePath_append_slash
  obtain ⟨kept, form, named, only, climb⟩ := shape "/../a//./b/..".toList
  have a : IsName ['a'] := by simp [IsName]
  have b : IsName ['b'] := by simp [IsName]
  have inside : Keeps _ ([['a']] ++ [['b']]) :=
    (Keeps.root.empty.aboveRoot.name a).empty.here.name b
  have keeps : Keeps ("/../a//./b/..".toList.splitOn '/') ["a".toList] := inside.above
  obtain rfl := (only _).mp keeps
  have first := named "a".toList List.mem_cons_self
  exact ⟨keeps, first.1, first.2, form, climb 2⟩

end CrawlFrontier.Canonical
