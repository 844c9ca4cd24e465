import CrawlFrontier.Config.Load
import Mathlib.Data.List.Basic

/-!
# Valid configurations

A configuration is checked number by number and key by key, and the first check that fails is the
one that is reported. Main statement: a configuration passes exactly if its numbers are in range and
its keys are plain.
-/

namespace CrawlFrontier.Config

/-- Whether the key of a tracking parameter is plain: one or more ASCII letters, digits, low lines,
hyphens and full stops. -/
def IsPlainParam (param : String) : Prop :=
  param ≠ "" ∧ ∀ c ∈ param.toList,
    ('A' ≤ c ∧ c ≤ 'Z') ∨ ('a' ≤ c ∧ c ≤ 'z') ∨ ('0' ≤ c ∧ c ≤ '9') ∨ c ∈ ['_', '-', '.']

/-- Whether a configuration may be used. -/
structure Valid (config : Config) : Prop where
  /-- There are workers, and not too many. -/
  workers : 1 ≤ config.workers ∧ config.workers ≤ 256
  /-- Progress is reported now and then. -/
  interval : 1 ≤ config.progressInterval
  /-- The keys of tracking parameters are plain. -/
  params : ∀ param ∈ config.rules.trackingParams, IsPlainParam param

/-- What is reported of the key of a tracking parameter that is not plain. -/
def paramError (param : String) : ConfigError :=
  .invalidPattern (if param = "" then "Tracking parameter name cannot be empty"
    else "Tracking parameter '" ++ param ++ "' contains invalid characters")

/-- The characters of plain keys. -/
theorem isParamChar_iff {c : Char} :
    isParamChar c = true ↔
      ('A' ≤ c ∧ c ≤ 'Z') ∨ ('a' ≤ c ∧ c ≤ 'z') ∨ ('0' ≤ c ∧ c ≤ '9') ∨ c ∈ ['_', '-', '.'] := by
  have ranges : c.isAlphanum = true ↔
      ('A' ≤ c ∧ c ≤ 'Z') ∨ ('a' ≤ c ∧ c ≤ 'z') ∨ ('0' ≤ c ∧ c ≤ '9') := by
    unfold Char.isAlphanum Char.isAlpha Char.isUpper Char.isLower Char.isDigit
    simp only [Bool.or_eq_true, Bool.and_eq_true, decide_eq_true_eq, ge_iff_le, Char.le_def,
      or_assoc]
  unfold isParamChar
  simp only [Bool.or_eq_true, beq_iff_eq, ranges, List.mem_cons, List.not_mem_nil, or_false,
    or_assoc]

/-- The key of a tracking parameter is checked. -/
theorem checkParam_of_isPlainParam {param : String} (plain : IsPlainParam param) :
    checkParam param = .ok () := by
  have all : param.toList.all isParamChar = true :=
    List.all_eq_true.mpr fun c mem => isParamChar_iff.mpr (plain.2 c mem)
  rw [checkParam, if_neg plain.1, if_pos all]

/-- A key that is not plain is reported. -/
theorem checkParam_of_not_isPlainParam {param : String} (other : ¬IsPlainParam param) :
    checkParam param = .error (paramError param) := by
  unfold checkParam paramError
  by_cases empty : param = ""
  · rw [if_pos empty, if_pos empty]
  · have marked : ¬param.toList.all isParamChar = true := fun all =>
      other ⟨empty, fun c mem => isParamChar_iff.mp (List.all_eq_true.mp all c mem)⟩
    rw [if_neg empty, if_neg marked, if_neg empty]

/-- Either all keys are plain, or the first that is not is reported. -/
theorem forM_checkParam_cases (params : List String) :
    ((∀ param ∈ params, IsPlainParam param) ∧ params.forM checkParam = .ok ()) ∨
      ∃ good bad rest, params = good ++ bad :: rest ∧ (∀ param ∈ good, IsPlainParam param) ∧
        ¬IsPlainParam bad ∧ params.forM checkParam = .error (paramError bad) := by
  induction params with
  | nil => exact .inl ⟨nofun, rfl⟩
  | cons param params ih =>
    have unfolded : (param :: params).forM checkParam =
        (checkParam param >>= fun _ => params.forM checkParam) := rfl
    by_cases plain : IsPlainParam param
    · rw [unfolded, checkParam_of_isPlainParam plain]
      rcases ih with ⟨all, passed⟩ | ⟨good, bad, rest, rfl, before, other, failed⟩
      · exact .inl ⟨List.forall_mem_cons.mpr ⟨plain, all⟩, passed⟩
      · exact .inr ⟨param :: good, bad, rest, rfl, List.forall_mem_cons.mpr ⟨plain, before⟩, other,
          failed⟩
    · rw [unfolded, checkParam_of_not_isPlainParam plain]
      exact .inr ⟨[], param, params, rfl, nofun, plain, rfl⟩

/-- A number of workers is in range. -/
theorem validWorkers_iff {count : Nat} : validWorkers count = true ↔ 1 ≤ count ∧ count ≤ 256 := by
  unfold validWorkers maxWorkers
  rw [Bool.and_eq_true, decide_eq_true_eq, decide_eq_true_eq]

/-- A number of workers that is not in range is reported first. -/
theorem validate_of_workers {config : Config}
    (wrong : ¬(1 ≤ config.workers ∧ config.workers ≤ 256)) :
    validate config = .error (.validation
      ("workers must be between 1 and 256, got " ++ toString config.workers)) := by
  have invalid : validWorkers config.workers = false :=
    Bool.eq_false_iff.mpr (mt validWorkers_iff.mp wrong)
  unfold validate
  rw [invalid]
  rfl

/-- An interval of nothing is reported next. -/
theorem validate_of_interval {config : Config}
    (workers : 1 ≤ config.workers ∧ config.workers ≤ 256)
    (wrong : ¬1 ≤ config.progressInterval) :
    validate config = .error (.validation "progress_interval must be >= 1") := by
  have zero : config.progressInterval = 0 := by omega
  unfold validate
  rw [validWorkers_iff.mpr workers, if_pos zero]
  rfl

/-- If the numbers are in range the keys are checked. -/
theorem validate_of_numbers {config : Config}
    (workers : 1 ≤ config.workers ∧ config.workers ≤ 256)
    (interval : 1 ≤ config.progressInterval) :
    validate config = config.rules.trackingParams.forM checkParam := by
  have positive : ¬config.progressInterval = 0 := by omega
  unfold validate
  rw [validWorkers_iff.mpr workers, if_neg positive]
  rfl

/-- A configuration passes exactly if its numbers are in range and its keys are plain. -/
theorem validate_eq_ok_iff {config : Config} : validate config = .ok () ↔ config.Valid := by
  by_cases workers : 1 ≤ config.workers ∧ config.workers ≤ 256
  swap
  · rw [validate_of_workers workers]
    exact ⟨nofun, fun valid => absurd valid.workers workers⟩
  by_cases interval : 1 ≤ config.progressInterval
  swap
  · rw [validate_of_interval workers interval]
    exact ⟨nofun, fun valid => absurd valid.interval interval⟩
  rw [validate_of_numbers workers interval]
  rcases forM_checkParam_cases config.rules.trackingParams with
    ⟨all, passed⟩ | ⟨good, bad, rest, shape, -, other, failed⟩
  · rw [passed]
    exact ⟨fun _ => ⟨workers, interval, all⟩, fun _ => rfl⟩
  · rw [failed]
    refine ⟨nofun, fun valid => absurd (valid.params bad ?_) other⟩
    rw [shape]
    exact List.mem_append_right good List.mem_cons_self

/-- The configuration of a run without a file is valid. -/
theorem valid_default : Valid {} := ⟨by decide, by decide, nofun⟩

end CrawlFrontier.Config
