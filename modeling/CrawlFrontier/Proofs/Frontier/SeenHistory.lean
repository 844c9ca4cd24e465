import CrawlFrontier.Proofs.Frontier.Seen
import Mathlib.Data.Finset.Card
import Mathlib.Data.List.Chain
import Mathlib.Data.List.Permutation

/-!
# Histories of the store of seen URLs

Any number of callers mark URLs in a store, forget them and clear the store. Each call locks the
store, so whatever the callers do together is one sequence of calls. For one URL only some of these
calls matter: the marks that succeed and the removals that find it, which are its turns. Main
statement: after every sequence of calls the two counters are the numbers of recorded URLs and of
those of content, and what is recorded for a URL is said by its turns, of which every other is a
mark.
-/

namespace CrawlFrontier.SeenStore

/-- What a caller asks of a store. -/
inductive Call where
  | mark (url : String) (kind : DocumentKind)
  | forget (url : String)
  | clear
  deriving DecidableEq, Repr

/-- The URL that a call is about, if it is about one. -/
def Call.url? : Call → Option String
  | mark url _ | forget url => some url
  | clear => none

/-- The store after a call. -/
def call (store : SeenStore) : Call → SeenStore
  | .mark url kind => (store.mark url kind).2
  | .forget url => (store.forget url).1
  | .clear => store.clear.1

/-- The store after calls, one after the other. -/
def run (store : SeenStore) (calls : List Call) : SeenStore := calls.foldl call store

/-- What happens to a URL when it becomes known or unknown. -/
inductive Turn where
  /-- A mark succeeds; it carries the kind. -/
  | won (kind : DocumentKind)
  /-- A removal finds the URL. -/
  | lost
  deriving DecidableEq, Repr

/-- The kind that is recorded after a turn. -/
def Turn.kind? : Turn → Option DocumentKind
  | won kind => some kind
  | lost => none

/-- The turn that a call is for a URL. A mark that fails is none, whatever kind it carries, and
neither is a removal that does not find the URL. -/
def turn? (store : SeenStore) (key : String) : Call → Option Turn
  | .mark url kind => if url = key ∧ (store.mark url kind).1 = true then some (.won kind) else none
  | .forget url => if url = key ∧ store.contains key = true then some .lost else none
  | .clear => if store.contains key = true then some .lost else none

/-- The turns of a URL during calls. -/
def turns (key : String) (store : SeenStore) : List Call → List Turn
  | [] => []
  | call :: calls => (store.turn? key call).toList ++ turns key (store.call call) calls

/-- Marks that succeed and removals that find the URL take turns, and a mark is the first: before
it the URL is as unknown as after a removal. -/
def Alternate (turns : List Turn) : Prop :=
  (Turn.lost :: turns).IsChain fun turn next => turn.kind?.isSome ≠ next.kind?.isSome

/-- The URLs of a store and its counters, where they agree. -/
structure Tallied (store : SeenStore) (keys : Finset String) : Prop where
  /-- The URLs are those that were seen. -/
  mem : ∀ key, key ∈ keys ↔ store.contains key = true
  /-- One counter is their number. -/
  size : store.size = keys.card
  /-- The other counter is the number of those that are recorded as content. -/
  content : store.content = (keys.filter fun key => store.kind? key = some .content).card

/-- A mark that fails is no turn of any URL. -/
theorem turn?_mark_of_contains {store : SeenStore} {url : String}
    (seen : store.contains url = true) (key : String) (kind : DocumentKind) :
    store.turn? key (.mark url kind) = none := by
  simp [turn?, mark_of_contains seen]

/-- What is recorded for a URL after a call is said by the turn that the call is for it. -/
theorem kind?_call (store : SeenStore) (key : String) (call : Call) :
    (store.call call).kind? key =
      match store.turn? key call with
      | some turn => turn.kind?
      | none => store.kind? key := by
  cases call with
  | mark url kind =>
    by_cases seen : store.contains url = true
    · rw [turn?_mark_of_contains seen]
      simp only [SeenStore.call, mark_of_contains seen]
    · simp only [SeenStore.call, turn?, mark_fst, kind?_mark, kind?_eq_none seen, seen]
      by_cases same : key = url
      · simp [same, Turn.kind?]
      · simp [same, Ne.symm same]
  | forget url =>
    simp only [SeenStore.call, turn?, kind?_forget]
    by_cases same : key = url
    · subst same
      cases seen : store.contains key with
      | true => simp [Turn.kind?]
      | false => simp [kind?_eq_none (ne_true_of_eq_false seen)]
    · simp [same, Ne.symm same]
  | clear =>
    cases seen : store.contains key with
    | true => simp [SeenStore.call, turn?, seen, Turn.kind?]
    | false => simp [SeenStore.call, turn?, seen, kind?_eq_none (ne_true_of_eq_false seen)]

/-- A turn makes a URL known that was unknown, or unknown that was known. -/
theorem isSome_kind?_of_turn? {store : SeenStore} {key : String} {call : Call} {turn : Turn}
    (happens : store.turn? key call = some turn) :
    (store.kind? key).isSome ≠ turn.kind?.isSome := by
  rw [← contains_eq_isSome_kind?]
  cases call with
  | mark url kind =>
    simp only [turn?, mark_fst, Option.ite_none_right_eq_some, Option.some.injEq] at happens
    obtain ⟨⟨rfl, fresh⟩, rfl⟩ := happens
    simp_all [Turn.kind?]
  | forget url =>
    simp only [turn?, Option.ite_none_right_eq_some, Option.some.injEq] at happens
    obtain ⟨⟨_, seen⟩, rfl⟩ := happens
    simp [seen, Turn.kind?]
  | clear =>
    simp only [turn?, Option.ite_none_right_eq_some, Option.some.injEq] at happens
    obtain ⟨seen, rfl⟩ := happens
    simp [seen, Turn.kind?]

/-- One more call adds the turn that it is. -/
theorem turns_append_singleton (key : String) (store : SeenStore) (calls : List Call)
    (call : Call) :
    turns key store (calls ++ [call]) =
      turns key store calls ++ ((store.run calls).turn? key call).toList := by
  induction calls generalizing store with
  | nil => simp [turns, run]
  | cons first calls ih =>
    rw [List.cons_append, turns, ih, turns, List.append_assoc]
    rfl

/-- One more call is made on what the others left. -/
theorem run_append_singleton (store : SeenStore) (calls : List Call) (call : Call) :
    store.run (calls ++ [call]) = (store.run calls).call call := by
  simp [run]

/-- The last turn of a URL says what is recorded for it. -/
theorem kind?_run (key : String) (calls : List Call) :
    (run empty calls).kind? key = (turns key empty calls).getLast?.bind Turn.kind? := by
  induction calls using List.reverseRecOn with
  | nil => simp [run, turns]
  | append_singleton calls call ih =>
    rw [run_append_singleton, turns_append_singleton, kind?_call]
    cases (run empty calls).turn? key call with
    | none => simpa using ih
    | some turn => simp

/-- The turns of a URL alternate. -/
theorem alternate_turns (key : String) (calls : List Call) :
    Alternate (turns key empty calls) := by
  induction calls using List.reverseRecOn with
  | nil => exact List.isChain_singleton _
  | append_singleton calls call ih =>
    rw [turns_append_singleton, Alternate, ← List.cons_append]
    cases happens : (run empty calls).turn? key call with
    | none => simpa [Alternate] using ih
    | some turn =>
      have changes := isSome_kind?_of_turn? happens
      refine List.isChain_append.mpr ⟨ih, List.isChain_singleton _, ?_⟩
      intro last isLast next isNext
      obtain rfl : turn = next := by simpa using isNext
      -- the last turn before this one, or the beginning, says what was recorded
      have recorded : last.kind? = (run empty calls).kind? key := by
        rw [List.getLast?_cons, Option.mem_some_iff] at isLast
        rw [kind?_run, ← isLast]
        cases (turns key empty calls).getLast? with
        | none => rfl
        | some turn => rfl
      rwa [recorded]

/-- Between two removals that find the URL exactly one mark succeeds. -/
theorem Alternate.between {before between after : List Turn}
    (alternate : Alternate (before ++ .lost :: between ++ .lost :: after))
    (kept : Turn.lost ∉ between) : ∃ kind, between = [.won kind] := by
  have inner : (Turn.lost :: (between ++ .lost :: after)).IsChain
      fun turn next => turn.kind?.isSome ≠ next.kind?.isSome := by
    rw [Alternate, List.append_assoc, ← List.cons_append] at alternate
    exact (List.isChain_split.mp alternate).2
  match between, kept, inner with
  | [], _, inner => exact absurd rfl (List.isChain_cons_cons.mp inner).1
  | [.won kind], _, _ => exact ⟨kind, rfl⟩
  | .won kind :: .won other :: rest, _, inner =>
    have adjacent := (List.isChain_cons_cons.mp inner).2
    exact absurd rfl (List.isChain_cons_cons.mp adjacent).1
  | .lost :: _, kept, _ => exact absurd List.mem_cons_self kept
  | .won _ :: .lost :: _, kept, _ =>
    exact absurd (List.mem_cons_of_mem _ List.mem_cons_self) kept

/-- Nothing is counted in the empty store. -/
theorem tallied_empty : empty.Tallied ∅ where
  mem key := by simp [contains_eq_isSome_kind?]
  size := Std.ExtHashMap.size_empty
  content := rfl

/-- A mark that succeeds keeps the counters right. -/
theorem Tallied.mark {store : SeenStore} {keys : Finset String} (tallied : store.Tallied keys)
    {url : String} (fresh : ¬store.contains url = true) (kind : DocumentKind) :
    (store.mark url kind).2.Tallied (insert url keys) := by
  have apart : url ∉ keys := fun member => fresh ((tallied.mem url).mp member)
  have others : (keys.filter fun key => (store.mark url kind).2.kind? key = some .content) =
      keys.filter fun key => store.kind? key = some .content := by
    apply Finset.filter_congr
    intro key member
    rw [kind?_mark, if_neg (ne_of_mem_of_not_mem member apart)]
  have own : (store.mark url kind).2.kind? url = some kind := by
    rw [kind?_mark, if_pos rfl, kind?_eq_none fresh, Option.getD_none]
  constructor
  · intro key
    rw [Finset.mem_insert, tallied.mem, contains_eq_isSome_kind?, contains_eq_isSome_kind?,
      kind?_mark]
    by_cases same : key = url
    · simp [same]
    · simp [same]
  · rw [size_mark fresh, Finset.card_insert_of_notMem apart, tallied.size]
  · rw [content_mark fresh, tallied.content, Finset.filter_insert, own, others]
    cases kind with
    | content =>
      exact (Finset.card_insert_of_notMem fun member => apart (Finset.mem_filter.mp member).1).symm
    | unclassified | sitemap | robots => rfl

/-- Forgetting a URL that was seen keeps the counters right. -/
theorem Tallied.forget {store : SeenStore} {keys : Finset String} (tallied : store.Tallied keys)
    {url : String} {kind : DocumentKind} (found : store.kind? url = some kind) :
    (store.forget url).1.Tallied (keys.erase url) := by
  have seen : store.contains url = true := by rw [contains_eq_isSome_kind?, found]; rfl
  have member : url ∈ keys := (tallied.mem url).mpr seen
  have others : ((keys.erase url).filter fun key =>
      (store.forget url).1.kind? key = some .content) =
        (keys.filter fun key => store.kind? key = some .content).erase url := by
    rw [← Finset.filter_erase]
    apply Finset.filter_congr
    intro key other
    rw [kind?_forget, if_neg (Finset.ne_of_mem_erase other)]
  constructor
  · intro key
    rw [Finset.mem_erase, tallied.mem, contains_eq_isSome_kind?, contains_eq_isSome_kind?,
      kind?_forget]
    by_cases same : key = url
    · simp [same]
    · simp [same]
  · rw [size_forget seen, Finset.card_erase_of_mem member, tallied.size]
  · rw [content_forget found, tallied.content, others]
    cases kind with
    | content =>
      exact (Finset.card_erase_of_mem (Finset.mem_filter.mpr ⟨member, found⟩)).symm
    | unclassified | sitemap | robots =>
      rw [Finset.erase_eq_of_notMem (by simp [found])]
      rfl

/-- Every call keeps the counters right. -/
theorem Tallied.call {store : SeenStore} {keys : Finset String} (tallied : store.Tallied keys)
    (call : Call) : ∃ keys, (store.call call).Tallied keys := by
  cases call with
  | mark url kind =>
    by_cases seen : store.contains url = true
    · have same : store.call (.mark url kind) = store := by
        rw [SeenStore.call, mark_of_contains seen]
      exact ⟨keys, by rwa [same]⟩
    · exact ⟨_, tallied.mark seen kind⟩
  | forget url =>
    cases found : store.kind? url with
    | none =>
      have same : store.call (.forget url) = store := forget_of_kind?_eq_none found
      exact ⟨keys, by rwa [same]⟩
    | some kind => exact ⟨_, tallied.forget found⟩
  | clear => exact ⟨∅, tallied_empty⟩

/-- The counters are right after every sequence of calls. -/
theorem tallied_run (calls : List Call) : ∃ keys, (run empty calls).Tallied keys := by
  induction calls using List.reverseRecOn with
  | nil => exact ⟨∅, tallied_empty⟩
  | append_singleton calls call ih =>
    obtain ⟨keys, tallied⟩ := ih
    rw [run_append_singleton]
    exact tallied.call call

/-- There are no more URLs of content than URLs. -/
theorem Tallied.content_le {store : SeenStore} {keys : Finset String}
    (tallied : store.Tallied keys) : store.content ≤ store.size := by
  rw [tallied.content, tallied.size]
  exact Finset.card_filter_le _ _

/-- A URL of content is counted as such, so it can be taken from the counter. -/
theorem Tallied.content_pos {store : SeenStore} {keys : Finset String}
    (tallied : store.Tallied keys) {url : String} (found : store.kind? url = some .content) :
    0 < store.content := by
  have seen : store.contains url = true := by rw [contains_eq_isSome_kind?, found]; rfl
  rw [tallied.content]
  exact Finset.card_pos.mpr ⟨url, Finset.mem_filter.mpr ⟨(tallied.mem url).mpr seen, found⟩⟩

/-- A call about one URL changes no record of another. -/
theorem kind?_call_of_ne (store : SeenStore) {call : Call} {url key : String}
    (about : call.url? = some url) (apart : key ≠ url) :
    (store.call call).kind? key = store.kind? key := by
  cases call with
  | mark other kind =>
    obtain rfl : other = url := by simpa [Call.url?] using about
    rw [SeenStore.call, kind?_mark, if_neg apart]
  | forget other =>
    obtain rfl : other = url := by simpa [Call.url?] using about
    rw [SeenStore.call, kind?_forget, if_neg apart]
  | clear => simp [Call.url?] at about

/-- After every sequence of calls on an empty store, in which the calls of all callers are
interleaved as they came: the counters are the number of the recorded URLs and the number of those
that are recorded as content, and no subtraction from them is cut off at zero. The turns of every
URL alternate, beginning with a mark, so that between two removals that find it exactly one mark
succeeds; the URL is known exactly if its last turn is a mark, and its kind is the one that this
mark carried. A call about one URL changes nothing about another. -/
theorem run_tallied_alternate (calls : List Call) :
    (∃ keys : Finset String, (∀ key, key ∈ keys ↔ (run empty calls).contains key = true) ∧
      (run empty calls).size = keys.card ∧
      (run empty calls).content =
        (keys.filter fun key => (run empty calls).kind? key = some .content).card) ∧
    ((run empty calls).content ≤ (run empty calls).size ∧
      (run empty calls).otherSize + (run empty calls).content = (run empty calls).size ∧
      ∀ url, (run empty calls).kind? url = some .content →
        ((run empty calls).forget url).1.content + 1 = (run empty calls).content) ∧
    (∀ key,
      Alternate (turns key empty calls) ∧
      (∀ before between after,
        turns key empty calls = before ++ .lost :: between ++ .lost :: after →
          Turn.lost ∉ between → ∃ kind, between = [.won kind]) ∧
      ((run empty calls).contains key = true ↔
        ∃ kind, (turns key empty calls).getLast? = some (.won kind)) ∧
      (run empty calls).kind? key = (turns key empty calls).getLast?.bind Turn.kind?) ∧
    ∀ call url key, Call.url? call = some url → key ≠ url →
      ((run empty calls).call call).contains key = (run empty calls).contains key ∧
        ((run empty calls).call call).kind? key = (run empty calls).kind? key := by
  obtain ⟨keys, tallied⟩ := tallied_run calls
  have content := tallied.content_le
  refine ⟨⟨keys, tallied.mem, tallied.size, tallied.content⟩, ⟨content, ?_, ?_⟩, ?_, ?_⟩
  · rw [otherSize]
    omega
  · intro url found
    have positive := tallied.content_pos found
    rw [content_forget found, DocumentKind.isContent, if_pos rfl]
    omega
  · intro key
    have alternate := alternate_turns key calls
    have recorded := kind?_run key calls
    refine ⟨alternate, ?_, ?_, recorded⟩
    · intro before between after shape kept
      rw [shape] at alternate
      exact alternate.between kept
    · rw [contains_eq_isSome_kind?, recorded]
      cases (turns key empty calls).getLast? with
      | none => simp
      | some turn => cases turn <;> simp [Turn.kind?]
  · intro call url key about apart
    have same := (run empty calls).kind?_call_of_ne about apart
    exact ⟨by rw [contains_eq_isSome_kind?, contains_eq_isSome_kind?, same], same⟩

/-- A URL that is marked and forgotten, each time also in vain, and comes back as another kind. -/
def reentry : List Call :=
  [.mark "a" .sitemap, .mark "a" .content, .forget "a", .forget "a", .mark "a" .content,
    .mark "a" .robots]

/-- Of six calls three are turns of the URL, and the last of them says its kind. -/
theorem run_tallied_alternate_reentry :
    turns "a" empty reentry = [.won .sitemap, .lost, .won .content] ∧
      (run empty reentry).contains "a" = true ∧
      (run empty reentry).kind? "a" = some .content := by
  have shape : turns "a" empty reentry = [.won .sitemap, .lost, .won .content] := by cbv
  obtain ⟨_, _, each, _⟩ := run_tallied_alternate reentry
  obtain ⟨_, _, known, recorded⟩ := each "a"
  rw [shape] at known recorded
  exact ⟨shape, known.mpr ⟨.content, rfl⟩, recorded⟩

end CrawlFrontier.SeenStore
