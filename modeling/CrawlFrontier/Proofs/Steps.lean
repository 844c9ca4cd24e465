import Mathlib.Logic.Basic

/-!
# Steps that may fail

What succeeds as a whole succeeds step by step.
-/

namespace CrawlFrontier

/-- A step that succeeds has a first step that succeeds. -/
theorem bind_eq_ok {ε α β : Type} {first : Except ε α} {next : α → Except ε β} {out : β} :
    first >>= next = .ok out ↔ ∃ value, first = .ok value ∧ next value = .ok out := by
  cases first with
  | ok value =>
    constructor
    · exact fun same => ⟨value, rfl, same⟩
    · rintro ⟨other, same, rest⟩
      cases same
      exact rest
  | error cause =>
    constructor
    · intro same
      cases same
    · rintro ⟨value, same, -⟩
      cases same

/-- A changed result is the change of a result. -/
theorem map_eq_ok {ε α β : Type} {first : Except ε α} {change : α → β} {out : β}
    (same : first.map change = .ok out) : ∃ value, first = .ok value ∧ change value = out := by
  cases first with
  | ok value => exact ⟨value, rfl, Except.ok.inj same⟩
  | error cause => cases same

/-- What is found is the result of a success. -/
theorem toOption_eq_some_iff {ε α : Type} {first : Except ε α} {value : α} :
    first.toOption = some value ↔ first = .ok value := by
  cases first with
  | ok found =>
    rw [Except.ok.injEq]
    exact Option.some_inj
  | error cause => exact ⟨nofun, nofun⟩

/-- Another wording of errors changes no success. -/
theorem eq_ok_of_mapError {α ε ε' : Type} {first : Except ε α} {change : ε → ε'} {value : α}
    (same : first.mapError change = .ok value) : first = .ok value := by
  cases first with
  | ok found => exact congrArg Except.ok (Except.ok.inj same)
  | error cause => cases same

end CrawlFrontier
