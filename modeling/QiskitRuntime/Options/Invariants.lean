import QiskitRuntime.Options.EstimatorOptions

/-! What every reachable `EstimatorOptions` satisfies: levels in range, and the simulator rule
exactly as far as `_validate_options` is run. -/

namespace QiskitRuntime.Options

theorem validateLevel_ok {bound level result : Int} {message : String}
    (h : validateLevel bound message level = .ok result) :
    result = level ∧ 0 ≤ level ∧ level ≤ bound := by
  unfold validateLevel at h
  split at h
  · cases h; exact ⟨rfl, ‹_›⟩
  · cases h

theorem validateLevel_in_range {level result : UnsetOr Int} {message : String}
    (h : valueError (skipUnsetValidation (validateLevel 3 message) level) = .ok result) :
    result = level ∧ InRange level := by
  replace h : skipUnsetValidation (validateLevel 3 message) level = .ok result := by
    revert h; cases skipUnsetValidation (validateLevel 3 message) level <;> simp [valueError, Except.mapError]
  cases level with
  | unset => cases h; exact ⟨rfl, trivial⟩
  | value v =>
    cases hv : validateLevel 3 message v with
    | error e => simp [skipUnsetValidation, hv, Except.map] at h
    | ok w =>
      simp only [skipUnsetValidation, hv, Except.map, Except.ok.injEq] at h
      obtain ⟨rfl, hr⟩ := validateLevel_ok hv
      exact ⟨h.symm, hr⟩

theorem validateOptions_ok_iff (o : EstimatorOptions) :
    (∃ o', validateOptions o = .ok o') ↔ ¬ SimulatorWithoutCouplingMap o := by
  unfold validateOptions SimulatorWithoutCouplingMap
  split <;> simp_all

theorem validateAssignment_cases {α : Type} (o : EstimatorOptions) (field : String)
    (checked : Except ValidationError α) (put : α → EstimatorOptions) :
    ((validateAssignment o field checked put).obj = o ∧
        (validateAssignment o field checked put).error.isSome) ∨
      ∃ v, checked = .ok v ∧ (validateAssignment o field checked put).obj = put v ∧
        ((validateAssignment o field checked put).error = none ↔
          ¬ SimulatorWithoutCouplingMap (put v)) := by
  rcases checked with msg | v
  · exact .inl ⟨rfl, rfl⟩
  · refine .inr ⟨v, rfl, ?_⟩
    rw [← validateOptions_ok_iff]
    cases hv : validateOptions (put v) <;> simp [validateAssignment, hv]

theorem setattr_in_range {o : EstimatorOptions} (ho : LevelsInRange o) (a : Assignment) :
    LevelsInRange (setattr o a).obj := by
  cases a with
  | optimizationLevel l =>
    rcases validateAssignment_cases o "optimization_level" (valueError (validateOptimizationLevel l))
      (fun v => { o with optimizationLevel := v }) with ⟨h, -⟩ | ⟨v, hv, h, -⟩
    · simpa only [setattr, h] using ho
    · obtain ⟨rfl, hr⟩ := validateLevel_in_range hv
      simp only [setattr, h]; exact ⟨hr, ho.2⟩
  | resilienceLevel l =>
    rcases validateAssignment_cases o "resilience_level" (valueError (validateResilienceLevel l))
      (fun v => { o with resilienceLevel := v }) with ⟨h, -⟩ | ⟨v, hv, h, -⟩
    · simpa only [setattr, h] using ho
    · obtain ⟨rfl, hr⟩ := validateLevel_in_range hv
      simp only [setattr, h]; exact ⟨ho.1, hr⟩
  | simulatorCouplingMap v => exact ho
  | isSimulator b =>
    rcases validateAssignment_cases o "_is_simulator" (.ok b) (fun b => { o with isSimulator := b })
      with ⟨h, -⟩ | ⟨v, -, h, -⟩ <;> simpa only [setattr, h] using ho
  | dynamicalDecoupling d =>
    rcases validateAssignment_cases o "dynamical_decoupling" (validateDynamicalDecoupling d)
      (fun v => { o with dynamicalDecoupling := v }) with ⟨h, -⟩ | ⟨v, -, h, -⟩ <;>
      simpa only [setattr, h] using ho
  | simulator g =>
    rcases validateAssignment_cases o "simulator" (.ok g) (fun g => { o with simulator := g })
      with ⟨h, -⟩ | ⟨v, -, h, -⟩ <;> simpa only [setattr, h] using ho

theorem fieldError_nil {α : Type} {field : String} {checked : Except String α}
    (h : fieldError field (valueError checked) = []) : ∃ v, valueError checked = .ok v := by
  cases checked with
  | error msg => cases h
  | ok v => exact ⟨v, rfl⟩

theorem construct_ok {kwargs o : EstimatorOptions} (h : construct kwargs = .ok o) :
    o = kwargs ∧ LevelsInRange kwargs ∧ ¬ SimulatorWithoutCouplingMap kwargs := by
  unfold construct at h
  split at h
  · rename_i hnil
    simp only [fieldErrors, List.append_eq_nil] at hnil
    obtain ⟨⟨ho, hr⟩, -⟩ := hnil
    obtain ⟨_, hov⟩ := fieldError_nil ho
    obtain ⟨_, hrv⟩ := fieldError_nil hr
    cases hv : validateOptions kwargs with
    | error msg => simp [hv, valueError, Except.mapError] at h
    | ok o' =>
      have hk : o' = kwargs := by
        unfold validateOptions at hv; split at hv <;> simp_all
      simp only [hv, valueError, Except.mapError, Except.ok.injEq] at h
      subst h hk
      exact ⟨rfl, ⟨(validateLevel_in_range hov).2, (validateLevel_in_range hrv).2⟩,
        (validateOptions_ok_iff _).1 ⟨_, hv⟩⟩
  · cases h

theorem reachable_run {o : EstimatorOptions} (h : Reachable o) (as : List Assignment) :
    Reachable (run o as) := by
  induction as generalizing o with
  | nil => exact h
  | cons a as ih => exact ih (.assign a h)

theorem reachable_in_range {o : EstimatorOptions} (h : Reachable o) : LevelsInRange o := by
  induction h with
  | construct hc => exact (construct_ok hc).1 ▸ (construct_ok hc).2.1
  | assign a _ ih => exact setattr_in_range ih a

theorem validateLevel_out_of_range {level : Int} {message : String} (h : ¬ (0 ≤ level ∧ level ≤ 3)) :
    skipUnsetValidation (validateLevel 3 message) (.value level) = .error message := by
  simp [skipUnsetValidation, validateLevel, h, Except.map]

/-- Both levels stay `Unset` or in `[0, 3]` on every reachable object; an integer outside the
range is rejected by construction and by assignment; `Unset` passes both field validators. -/
theorem levels_stay_in_range :
    (∀ o, Reachable o → LevelsInRange o) ∧
    (∀ kwargs : EstimatorOptions, ¬ LevelsInRange kwargs → ∃ e, construct kwargs = .error e) ∧
    (∀ o v, ¬ (0 ≤ v ∧ v ≤ 3) →
      (setattr o (.optimizationLevel (.value v))).error.isSome ∧
        (setattr o (.resilienceLevel (.value v))).error.isSome) ∧
    validateOptimizationLevel .unset = .ok .unset ∧ validateResilienceLevel .unset = .ok .unset := by
  refine ⟨fun _ => reachable_in_range, fun kwargs hk => ?_, fun o v hv => ?_, rfl, rfl⟩
  · cases hc : construct kwargs with
    | error e => exact ⟨e, rfl⟩
    | ok o => exact absurd (construct_ok hc).2.1 hk
  · simp only [setattr, validateOptimizationLevel, validateResilienceLevel, maxResilienceLevel,
      validateLevel_out_of_range hv, valueError, Except.mapError, validateAssignment, Option.isSome_some, and_self]

theorem validateAssignment_raises {α : Type} {o : EstimatorOptions} {field : String}
    {checked : Except ValidationError α} {put : α → EstimatorOptions}
    (h : SimulatorWithoutCouplingMap (validateAssignment o field checked put).obj) :
    (validateAssignment o field checked put).error.isSome := by
  rcases validateAssignment_cases o field checked put with ⟨-, he⟩ | ⟨v, -, ho, he⟩
  · exact he
  · rw [ho] at h
    exact Option.isSome_iff_ne_none.2 fun hn => he.1 hn h

/-- Objects reached from a construction by accepted assignments through `__setattr__`. -/
inductive ReachableValidated : EstimatorOptions → Prop
  | construct {kwargs o : EstimatorOptions} : construct kwargs = .ok o → ReachableValidated o
  | assign {o : EstimatorOptions} (a : Assignment) : a.topLevel = true →
      (setattr o a).error = none → ReachableValidated o → ReachableValidated (setattr o a).obj

/-- `_validate_options` guards every construction and every assignment through
`EstimatorOptions.__setattr__`, so no object reached by accepted ones of those breaks the rule. -/
theorem simulator_rule_on_validated_runs :
    (∀ kwargs o, construct kwargs = .ok o → ¬ SimulatorWithoutCouplingMap o) ∧
    (∀ o a, a.topLevel = true → SimulatorWithoutCouplingMap (setattr o a).obj →
      (setattr o a).error.isSome) ∧
    (∀ o, ReachableValidated o → ¬ SimulatorWithoutCouplingMap o) := by
  have hstep : ∀ o a, a.topLevel = true → SimulatorWithoutCouplingMap (setattr o a).obj →
      (setattr o a).error.isSome := by
    intro o a ha h
    cases a <;> first | exact validateAssignment_raises h | cases ha
  refine ⟨fun kwargs o hc => (construct_ok hc).1 ▸ (construct_ok hc).2.2, hstep, fun o h => ?_⟩
  induction h with
  | construct hc => exact (construct_ok hc).1 ▸ (construct_ok hc).2.2
  | assign a ha he _ _ => exact fun hf => by simpa [he] using hstep _ a ha hf

/-- Every assignment of this run is accepted, and the last object is one `_validate_options`
rejects. -/
theorem coupling_map_reset_reaches_rejected_state :
    let steps : List Assignment := [.simulatorCouplingMap (.value [[0, 1]]), .isSimulator true,
      .resilienceLevel (.value 3), .simulatorCouplingMap .unset]
    Reachable (run {} steps) ∧ SimulatorWithoutCouplingMap (run {} steps) ∧
      runErrors {} steps = [none, none, none, none] :=
  ⟨reachable_run (@Reachable.construct {} {} rfl) _, by decide, by decide⟩

/-- On a valid simulator object without a coupling map, `resilience_level = 3` raises from
`_validate_options` after the value was stored, and the object keeps it. -/
theorem rejected_resilience_level_is_kept :
    construct { isSimulator := true } = .ok { isSimulator := true } ∧
    setattr { isSimulator := true } (.resilienceLevel (.value 3)) =
      ⟨{ isSimulator := true, resilienceLevel := .value 3 },
        some [⟨[], "Value error, When the backend is a simulator and resilience_level == 3,a coupling map is required."⟩]⟩ :=
  ⟨rfl, rfl⟩

end QiskitRuntime.Options
