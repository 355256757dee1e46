import QiskitRuntime.Fake.Job

/-! Every interleaving of a fake job's task with `job_cancel`: the reported status only moves
forward and the result settles on the class's payload. -/

namespace QiskitRuntime.Fake

open QiskitRuntime.Python

def JobStatus.rank : JobStatus → Nat
  | .queued => 0
  | .running => 1
  | _ => 2

theorem JobStatus.eq_of_rank_le_one {s : JobStatus} (h : s.rank ≤ 1) :
    s = .queued ∨ s = .running := by
  cases s <;> simp_all [JobStatus.rank]

def StatusLe (a b : JobStatus) : Prop := a.rank ≤ b.rank ∧ (a.rank = 2 → b = a)

instance : DecidableRel StatusLe := fun a b =>
  inferInstanceAs (Decidable (a.rank ≤ b.rank ∧ (a.rank = 2 → b = a)))

theorem StatusLe.refl (a : JobStatus) : StatusLe a a := ⟨le_rfl, fun _ => rfl⟩

theorem StatusLe.trans {a b c : JobStatus} (h₁ : StatusLe a b) (h₂ : StatusLe b c) :
    StatusLe a c :=
  ⟨h₁.1.trans h₂.1, fun ha => by obtain rfl := h₁.2 ha; exact h₂.2 ha⟩

def replayFrom (r : ResultAttr) (c : JobClass) (n : Nat) : JobStatus × ResultAttr :=
  (c.autoProgress.take n).foldl TaskStep.apply (.queued, r)

def replay (c : JobClass) (n : Nat) : JobStatus × ResultAttr := replayFrom .none c n

theorem replayFrom_succ {r : ResultAttr} {c : JobClass} {n : Nat} {w : TaskStep}
    (h : c.autoProgress[n]? = some w) : replayFrom r c (n + 1) = w.apply (replayFrom r c n) := by
  simp [replayFrom, List.take_succ, h, List.foldl_append]

theorem apply_fst (w : TaskStep) (s : JobStatus) (r r' : ResultAttr) :
    (w.apply (s, r)).1 = (w.apply (s, r')).1 := by
  cases w with
  | resultIf s' p => by_cases h : s = s' <;> simp [TaskStep.apply, h]
  | _ => rfl

theorem foldl_apply_fst (ws : List TaskStep) (s : JobStatus) (r r' : ResultAttr) :
    (ws.foldl TaskStep.apply (s, r)).1 = (ws.foldl TaskStep.apply (s, r')).1 := by
  induction ws generalizing s r r' with
  | nil => rfl
  | cons w ws ih =>
    simp only [List.foldl_cons]
    rw [← Prod.mk.eta (p := w.apply (s, r)), ← Prod.mk.eta (p := w.apply (s, r')), apply_fst w s r r']
    exact ih _ _ _

theorem replayFrom_fst (r : ResultAttr) (c : JobClass) (n : Nat) :
    (replayFrom r c n).1 = (replay c n).1 :=
  foldl_apply_fst _ _ _ _

theorem JobClass.getElem?_autoProgress_of_task {c : JobClass} {sleeps : Bool} {n : Nat} {w : TaskStep}
    (h : (c.task sleeps)[n]? = some w) : c.autoProgress[n]? = some w := by
  have hn := (List.getElem?_eq_some_iff.1 h).1
  unfold JobClass.task at h hn
  rw [← List.takeWhile_append_dropWhile (·.runs sleeps) c.autoProgress, List.getElem?_append_left hn]
  exact h

theorem JobClass.task_length_le (c : JobClass) (sleeps : Bool) :
    (c.task sleeps).length ≤ c.autoProgress.length :=
  (List.takeWhile_prefix _).length_le

theorem foldl_apply_unassigned {ws : List TaskStep} {x : JobStatus × ResultAttr}
    (h : (ws.foldl TaskStep.apply x).2 = .unassigned) : x.2 = .unassigned := by
  induction ws generalizing x with
  | nil => exact h
  | cons w ws ih =>
    obtain ⟨s, r⟩ := x
    have h' := ih h
    cases w with
    | resultIf s' p => by_cases hs : s = s' <;> simp_all [TaskStep.apply]
    | _ => exact h'

theorem foldl_apply_none_of_unassigned {ws : List TaskStep} {s : JobStatus}
    (h : (ws.foldl TaskStep.apply (s, .unassigned)).2 = .unassigned) :
    (ws.foldl TaskStep.apply (s, .none)).2 = .none := by
  induction ws generalizing s with
  | nil => rfl
  | cons w ws ih =>
    cases w with
    | status _ | sleep => exact ih h
    | resultIf s' p =>
      by_cases hs : s = s'
      · simp only [List.foldl_cons, TaskStep.apply, hs, if_true] at h
        exact absurd (foldl_apply_unassigned h) (by simp)
      · simp only [List.foldl_cons, TaskStep.apply, hs, if_false] at h ⊢
        exact ih h

/-! Facts about each class's task, checked write by write. -/

theorem replay_moves_forward (c : JobClass) :
    ∀ n < c.autoProgress.length, StatusLe (replay c n).1 (replay c (n + 1)).1 := by
  cases c <;> decide

theorem replay_never_cancelled (c : JobClass) :
    ∀ n ≤ c.autoProgress.length, (replay c n).1 ≠ .cancelled := by
  cases c <;> decide

theorem replay_cancelable_pending :
    ∀ n ≤ JobClass.cancelableRuntimeJob.autoProgress.length,
      (replay .cancelableRuntimeJob n).1.rank ≤ 1 ∧ (replay .cancelableRuntimeJob n).2 = .none := by
  decide

theorem replay_pending_no_result (c : JobClass) :
    ∀ n ≤ c.autoProgress.length, (replay c n).1.rank ≤ 1 → (replay c n).2 = .none := by
  cases c <;> decide

theorem replay_before_last (c : JobClass) :
    ∀ n < c.autoProgress.length, (replay c n).2 = .none ∨ (replay c n).2 = .payload jsonFoo := by
  cases c <;> decide

theorem replay_assigned (c : JobClass) :
    ∀ n ≤ c.autoProgress.length, (replay c n).2 ≠ .unassigned := by
  cases c <;> decide

/-- The result a job settles on: `json.dumps("foo")` when created `COMPLETED`, otherwise what its
class's task writes last (nothing for the cancelable class, whose task stops at `RUNNING`). -/
def settledResult (c : JobClass) : Option JobStatus → Option String
  | some .completed => some jsonFoo
  | some _ => none
  | none =>
    match c with
    | .baseFakeRuntimeJob | .timedRuntimeJob => some jsonFoo
    | .failedRuntimeJob | .failedRanTooLongRuntimeJob => some "Kaboom!"
    | .customResultRuntimeJob => some jsonCustomResult
    | .cancelableRuntimeJob => none

def ResultAttr.ofOption : Option String → ResultAttr
  | some r => .payload r
  | Option.none => .none

theorem replay_last (c : JobClass) :
    (replay c c.autoProgress.length).2 = .ofOption (settledResult c none) := by
  cases c <;> decide

namespace FakeJob

@[simp] theorem exec_nil (j : FakeJob) : j.exec [] = j := rfl

@[simp] theorem exec_cons (j : FakeJob) (e : JobEvent) (evs : List JobEvent) :
    j.exec (e :: evs) = (j.apply e).exec evs := rfl

@[simp] theorem exec_append (j : FakeJob) (evs evs' : List JobEvent) :
    j.exec (evs ++ evs') = (j.exec evs).exec evs' := List.foldl_append _ _ _ _

theorem progress_cases (j : FakeJob) :
    j.progress = j ∨
      (j.future = some .pending ∧ j.progress = { j with future := some .started }) ∨
      (j.future = some .started ∧ ∃ w, (j.cls.task j.args.sleeps)[j.pc]? = some w ∧
        j.progress = { j with status := (w.apply (j.status, j.result)).1,
                              result := (w.apply (j.status, j.result)).2, pc := j.pc + 1 }) := by
  unfold progress
  rcases hf : j.future with _ | _ | _ | _
  · exact .inl rfl
  · exact .inr (.inl ⟨rfl, rfl⟩)
  · cases hw : (j.cls.task j.args.sleeps)[j.pc]? with
    | none => exact .inl rfl
    | some w => exact .inr (.inr ⟨rfl, w, rfl, rfl⟩)
  · exact .inl rfl

theorem apply_cancel_cases (j : FakeJob) :
    j.apply .cancel = j ∨
      (j.cls = .cancelableRuntimeJob ∧ ∃ f, j.future = some f ∧
        j.apply .cancel = { j with future := some f.cancel, cancelled := true }) := by
  unfold apply cancel
  cases hc : j.cls <;> try exact .inl rfl
  cases hf : j.future with
  | none => exact .inl rfl
  | some f => exact .inr ⟨rfl, f, rfl, rfl⟩

@[simp] theorem progress_cls (j : FakeJob) : j.progress.cls = j.cls := by
  rcases progress_cases j with h | ⟨-, h⟩ | ⟨-, _, -, h⟩ <;> rw [h]

@[simp] theorem progress_cancelled (j : FakeJob) : j.progress.cancelled = j.cancelled := by
  rcases progress_cases j with h | ⟨-, h⟩ | ⟨-, _, -, h⟩ <;> rw [h]

@[simp] theorem progress_args (j : FakeJob) : j.progress.args = j.args := by
  rcases progress_cases j with h | ⟨-, h⟩ | ⟨-, _, -, h⟩ <;> rw [h]

@[simp] theorem apply_cls (j : FakeJob) (e : JobEvent) : (j.apply e).cls = j.cls := by
  cases e
  · exact progress_cls j
  · rcases apply_cancel_cases j with h | ⟨-, _, -, h⟩ <;> rw [h]

@[simp] theorem apply_args (j : FakeJob) (e : JobEvent) : (j.apply e).args = j.args := by
  cases e
  · exact progress_args j
  · rcases apply_cancel_cases j with h | ⟨-, _, -, h⟩ <;> rw [h]

theorem apply_of_unsubmitted {j : FakeJob} (h : j.future = none) (e : JobEvent) : j.apply e = j := by
  cases e
  · show j.progress = j
    rcases progress_cases j with h1 | ⟨hf, -⟩ | ⟨hf, -⟩ <;> simp_all
  · rcases apply_cancel_cases j with h1 | ⟨-, f, hf, -⟩ <;> simp_all

theorem exec_of_unsubmitted {j : FakeJob} (h : j.future = none) (evs : List JobEvent) :
    j.exec evs = j := by
  induction evs with
  | nil => rfl
  | cons e evs ih => rw [exec_cons, apply_of_unsubmitted h, ih]

theorem reportedStatus_eq (j : FakeJob) :
    j.reportedStatus =
      if j.cls = .cancelableRuntimeJob ∧ j.cancelled = true then .cancelled else j.status := by
  unfold reportedStatus; cases j.cls <;> simp

theorem toDict_status (j : FakeJob) : j.toDict.status = j.reportedStatus.name := by
  unfold toDict reportedStatus
  cases j.cls <;> by_cases h : j.cancelled <;> simp [h, JobStatus.name]

def StatusTracks (j : FakeJob) : Prop :=
  j.future = none ∨ (j.pc ≤ j.cls.autoProgress.length ∧ j.status = (replay j.cls j.pc).1)

theorem StatusTracks.not_cancelled {j : FakeJob} (h : StatusTracks j) (hf : j.future ≠ none) :
    j.status ≠ .cancelled := by
  obtain ⟨hle, hs⟩ := h.resolve_left hf
  exact hs ▸ replay_never_cancelled _ _ hle

theorem progress_statusTracks {j : FakeJob} (h : StatusTracks j) :
    StatusTracks j.progress ∧ StatusLe j.status j.progress.status := by
  rcases progress_cases j with h1 | ⟨hf, h1⟩ | ⟨hf, w, hw, h1⟩ <;> rw [h1]
  · exact ⟨h, .refl _⟩
  · exact ⟨.inr (h.resolve_left (by simp [hf])), .refl _⟩
  · obtain ⟨hle, hs⟩ := h.resolve_left (by simp [hf])
    replace hw := JobClass.getElem?_autoProgress_of_task hw
    obtain ⟨hlt, -⟩ := List.getElem?_eq_some_iff.1 hw
    have hnext : (w.apply (j.status, j.result)).1 = (replay j.cls (j.pc + 1)).1 := by
      simp only [replay] at hs ⊢
      rw [replayFrom_succ hw, hs]
      exact apply_fst w _ j.result (replayFrom .none j.cls j.pc).2
    refine ⟨.inr ⟨hlt, hnext⟩, ?_⟩
    show StatusLe j.status (w.apply (j.status, j.result)).1
    rw [hnext, hs]
    exact replay_moves_forward _ _ hlt

theorem apply_reported {j : FakeJob} (h : StatusTracks j) (e : JobEvent) :
    StatusTracks (j.apply e) ∧ StatusLe j.reportedStatus (j.apply e).reportedStatus := by
  cases e with
  | progress =>
    obtain ⟨h1, h2⟩ := progress_statusTracks h
    refine ⟨h1, ?_⟩
    simp only [apply, reportedStatus_eq, progress_cls, progress_cancelled]
    split_ifs
    · exact .refl _
    · exact h2
  | cancel =>
    rcases apply_cancel_cases j with h1 | ⟨hc, f, hf, h1⟩ <;> rw [h1]
    · exact ⟨h, .refl _⟩
    · obtain ⟨hle, hs⟩ := h.resolve_left (by simp [hf])
      have hq := (replay_cancelable_pending _ (hc ▸ hle)).1
      refine ⟨.inr ⟨hle, hs⟩, ?_⟩
      simp only [reportedStatus_eq, hc, true_and]
      split_ifs
      · exact .refl _
      · rw [hs, hc]
        exact ⟨show _ ≤ 2 by omega, fun h2 => absurd h2 (by omega)⟩

theorem exec_reported {j : FakeJob} (h : StatusTracks j) (evs : List JobEvent) :
    StatusTracks (j.exec evs) ∧ StatusLe j.reportedStatus (j.exec evs).reportedStatus := by
  induction evs generalizing j with
  | nil => exact ⟨h, .refl _⟩
  | cons e evs ih =>
    obtain ⟨h1, h2⟩ := apply_reported h e
    obtain ⟨h3, h4⟩ := ih h1
    exact ⟨h3, h2.trans h4⟩

theorem progress_future_ne_none {j : FakeJob} (h : j.future ≠ none) : j.progress.future ≠ none := by
  rcases progress_cases j with h1 | ⟨-, h1⟩ | ⟨-, _, -, h1⟩ <;> rw [h1] <;> simp [h]

theorem apply_first_cancelled {j : FakeJob} (h : StatusTracks j) {e : JobEvent}
    (he : (j.apply e).reportedStatus = .cancelled) (hj : j.reportedStatus ≠ .cancelled) :
    e = .cancel ∧ (j.reportedStatus = .queued ∨ j.reportedStatus = .running) := by
  have hnc : ¬ (j.cls = .cancelableRuntimeJob ∧ j.cancelled = true) := fun hc => hj (by
    rw [reportedStatus_eq, if_pos hc])
  rw [reportedStatus_eq, if_neg hnc] at hj ⊢
  cases e with
  | progress =>
    by_cases hf : j.future = none
    · rw [apply_of_unsubmitted hf] at he; exact absurd he (by rwa [reportedStatus_eq, if_neg hnc])
    · have hs := (progress_statusTracks h).1.not_cancelled (progress_future_ne_none hf)
      simp only [apply, reportedStatus_eq, progress_cls, progress_cancelled, if_neg hnc] at he
      exact absurd he hs
  | cancel =>
    refine ⟨rfl, ?_⟩
    rcases apply_cancel_cases j with h1 | ⟨hc, f, hf, -⟩
    · rw [h1, reportedStatus_eq, if_neg hnc] at he; exact absurd he hj
    · obtain ⟨hle, hs⟩ := h.resolve_left (by simp [hf])
      rw [hs, hc]
      exact JobStatus.eq_of_rank_le_one (replay_cancelable_pending _ (hc ▸ hle)).1

theorem iterate_progress_facts {j : FakeJob} (h : j.future ≠ none) (k : Nat) :
    (progress^[k] j).future ≠ none ∧ (progress^[k] j).cancelled = j.cancelled ∧
      (progress^[k] j).cls = j.cls :=
  Function.Iterate.rec (fun j' => j'.future ≠ none ∧ j'.cancelled = j.cancelled ∧ j'.cls = j.cls)
    (fun j' ⟨h1, h2, h3⟩ => ⟨progress_future_ne_none h1, (progress_cancelled j').trans h2,
      (progress_cls j').trans h3⟩) ⟨h, rfl, rfl⟩ k

theorem iterate_progress_statusTracks {j : FakeJob} (h : StatusTracks j) (k : Nat) :
    StatusTracks (progress^[k] j) :=
  Function.Iterate.rec StatusTracks (fun _ h' => (progress_statusTracks h').1) h k

theorem create_statusTracks (c : JobClass) (args : JobArgs) (fs : Option JobStatus) (early : Nat) :
    StatusTracks (create c args fs early) := by
  cases fs with
  | none => exact iterate_progress_statusTracks (j := submitted c args) (.inr ⟨Nat.zero_le _, rfl⟩) early
  | some s => exact .inl rfl

theorem create_reported (c : JobClass) (args : JobArgs) (fs : Option JobStatus) (early : Nat)
    (h : (create c args fs early).reportedStatus = .cancelled) : fs = some .cancelled := by
  cases fs with
  | none =>
    obtain ⟨hf, hc, -⟩ := iterate_progress_facts (j := submitted c args) (by simp [submitted]) early
    have hc' : (create c args none early).cancelled = false := hc
    have hs := (create_statusTracks c args none early).not_cancelled hf
    rw [reportedStatus_eq, if_neg (by simp [hc'])] at h
    exact absurd h hs
  | some s => simpa [create, reportedStatus_eq] using h

@[simp] theorem create_cls (c : JobClass) (args : JobArgs) (fs : Option JobStatus) (early : Nat) :
    (create c args fs early).cls = c := by
  cases fs with
  | none => exact (iterate_progress_facts (j := submitted c args) (by simp [submitted]) early).2.2
  | some s => rfl

@[simp] theorem create_args (c : JobClass) (args : JobArgs) (fs : Option JobStatus) (early : Nat) :
    (create c args fs early).args = args := by
  cases fs with
  | none =>
    exact Function.Iterate.rec (fun j => j.args = args) (fun j h => (progress_args j).trans h)
      (rfl : (submitted c args).args = args) early
  | some s => rfl

@[simp] theorem exec_cls (j : FakeJob) (evs : List JobEvent) : (j.exec evs).cls = j.cls := by
  induction evs generalizing j with
  | nil => rfl
  | cons e evs ih => rw [exec_cons, ih, apply_cls]

theorem results_congr {j j' : FakeJob} (hr : j'.result = j.result) (hc : j'.cls = j.cls) :
    j'.results = j.results := by
  unfold results; rw [hr, hc]

theorem results_ofOption {j : FakeJob} {o : Option String} (h : j.result = .ofOption o) :
    j.results = .ok o := by
  cases o <;> simp [results, h, ResultAttr.ofOption]

/-- The steps of its class's `_auto_progress` a live job's task has not made, a sleep that raised
included. -/
def pendingWrites (j : FakeJob) : List TaskStep :=
  match j.future with
  | some .pending | some .started => j.cls.autoProgress.drop j.pc
  | _ => []

theorem pendingWrites_of_live {j : FakeJob} (hf : j.future ≠ none)
    (hc : j.future ≠ some .cancelled) : j.pendingWrites = j.cls.autoProgress.drop j.pc := by
  unfold pendingWrites
  rcases h : j.future with _ | _ | _ | _
  · exact absurd h hf
  · rfl
  · rfl
  · exact absurd h hc

structure Tracks (r : ResultAttr) (j : FakeJob) : Prop where
  submitted : j.future ≠ none
  pc_le : j.pc ≤ j.cls.autoProgress.length
  state : (j.status, j.result) = replayFrom r j.cls j.pc
  cancelable : j.future = some .cancelled → j.cls = .cancelableRuntimeJob

section Tracks

variable {r : ResultAttr} {j : FakeJob}

theorem progress_tracks (h : Tracks r j) : Tracks r j.progress := by
  rcases progress_cases j with h1 | ⟨-, h1⟩ | ⟨-, w, hw, h1⟩ <;> rw [h1]
  · exact h
  · exact ⟨by simp, h.pc_le, h.state, by simp⟩
  · replace hw := JobClass.getElem?_autoProgress_of_task hw
    refine ⟨h.submitted, (List.getElem?_eq_some_iff.1 hw).1, ?_, h.cancelable⟩
    dsimp only
    rw [replayFrom_succ hw, ← h.state]

theorem apply_tracks (h : Tracks r j) (e : JobEvent) : Tracks r (j.apply e) := by
  cases e with
  | progress => exact progress_tracks h
  | cancel =>
    rcases apply_cancel_cases j with h1 | ⟨hc, f, -, h1⟩ <;> rw [h1]
    · exact h
    · exact ⟨by simp, h.pc_le, h.state, fun _ => hc⟩

theorem exec_tracks (h : Tracks r j) (evs : List JobEvent) : Tracks r (j.exec evs) := by
  induction evs generalizing j with
  | nil => exact h
  | cons e evs ih => exact ih (apply_tracks h e)

theorem iterate_progress_tracks (h : Tracks r j) (k : Nat) : Tracks r (progress^[k] j) :=
  Function.Iterate.rec (Tracks r) (fun _ => progress_tracks) h k

end Tracks

theorem submitted_tracks (c : JobClass) (args : JobArgs) : Tracks .unassigned (submitted c args) :=
  ⟨by simp [submitted], Nat.zero_le _, rfl, by simp [submitted]⟩

theorem create_tracks {c : JobClass} {args : JobArgs} {early : Nat}
    (h : (progress^[early] (submitted c args)).result = .unassigned) :
    Tracks .none (create c args none early) := by
  have ht := iterate_progress_tracks (submitted_tracks c args) early
  have hr : (replayFrom .unassigned _ _).2 = .unassigned := (congrArg Prod.snd ht.state).symm.trans h
  refine ⟨ht.submitted, ht.pc_le, Prod.ext ?_ (foldl_apply_none_of_unassigned hr).symm, ht.cancelable⟩
  exact (congrArg Prod.fst ht.state).trans (replayFrom_fst _ _ _)

section Settling

variable {j : FakeJob}

theorem Tracks.result_eq (h : Tracks .none j) : j.result = (replay j.cls j.pc).2 :=
  congrArg Prod.snd h.state

theorem Tracks.status_eq (h : Tracks .none j) : j.status = (replay j.cls j.pc).1 :=
  congrArg Prod.fst h.state

theorem Tracks.results_ok (h : Tracks .none j) : ∃ r, j.results = .ok r := by
  have ha : j.result ≠ .unassigned := h.result_eq ▸ replay_assigned _ _ h.pc_le
  cases hr : j.result with
  | unassigned => exact absurd hr ha
  | none => exact ⟨none, by simp [results, hr]⟩
  | payload p => exact ⟨some p, by simp [results, hr]⟩

theorem Tracks.results_pending (h : Tracks .none j)
    (hs : j.reportedStatus = .queued ∨ j.reportedStatus = .running ∨ j.reportedStatus = .cancelled) :
    j.results = .ok none := by
  suffices hr : j.result = .none by simp [results, hr]
  rw [h.result_eq]
  by_cases hc : j.cls = .cancelableRuntimeJob
  · rw [hc]
    exact (replay_cancelable_pending _ (hc ▸ h.pc_le)).2
  · rw [reportedStatus_eq, if_neg (fun h' => hc h'.1), h.status_eq] at hs
    apply replay_pending_no_result _ _ h.pc_le
    rcases hs with hs | hs | hs <;> rw [hs]
    · decide
    · decide
    · exact absurd hs (replay_never_cancelled _ _ h.pc_le)

theorem Tracks.settled (h : Tracks .none j) (hp : j.pendingWrites = []) :
    j.results = .ok (settledResult j.cls none) := by
  apply results_ofOption
  rw [h.result_eq]
  by_cases hf : j.future = some .cancelled
  · have hc := h.cancelable hf
    rw [hc, (replay_cancelable_pending _ (hc ▸ h.pc_le)).2]
    rfl
  · rw [pendingWrites_of_live h.submitted hf, List.drop_eq_nil_iff] at hp
    rw [le_antisymm h.pc_le hp, replay_last]

theorem Tracks.window (h : Tracks .none j) (hp : j.pendingWrites ≠ []) :
    j.results = .ok none ∨ j.results = .ok (some jsonFoo) := by
  have hf : j.future ≠ some .cancelled := fun hf => hp (by simp [pendingWrites, hf])
  rw [pendingWrites_of_live h.submitted hf, Ne, List.drop_eq_nil_iff, not_le] at hp
  rcases replay_before_last _ _ hp with hr | hr <;> rw [← h.result_eq] at hr
  · exact .inl (results_ofOption (o := none) hr)
  · exact .inr (results_ofOption (o := some jsonFoo) hr)

end Settling

/-- The steps a live job's task will still make. -/
def remainingSteps (j : FakeJob) : List TaskStep :=
  match j.future with
  | some .pending | some .started => (j.cls.task j.args.sleeps).drop j.pc
  | _ => []

theorem remainingSteps_eq_nil {j : FakeJob} (hp : j.pendingWrites = []) : j.remainingSteps = [] := by
  unfold pendingWrites at hp
  unfold remainingSteps
  split at hp <;> simp only [List.drop_eq_nil_iff] at hp ⊢
  all_goals exact (JobClass.task_length_le _ _).trans hp

theorem apply_stopped {j : FakeJob} (hp : j.remainingSteps = []) (e : JobEvent) :
    (j.apply e).remainingSteps = [] ∧ (j.apply e).result = j.result ∧ (j.apply e).cls = j.cls := by
  cases e with
  | progress =>
    show j.progress.remainingSteps = [] ∧ j.progress.result = j.result ∧ j.progress.cls = j.cls
    rcases progress_cases j with h1 | ⟨hf, h1⟩ | ⟨hf, w, hw, -⟩
    · rw [h1]; exact ⟨hp, rfl, rfl⟩
    · rw [h1]; exact ⟨by simpa [remainingSteps, hf] using hp, rfl, rfl⟩
    · simp only [remainingSteps, hf, List.drop_eq_nil_iff] at hp
      simp [List.getElem?_eq_none hp] at hw
  | cancel =>
    rcases apply_cancel_cases j with h1 | ⟨-, f, hf, h1⟩ <;> rw [h1]
    · exact ⟨hp, rfl, rfl⟩
    · refine ⟨?_, rfl, rfl⟩
      cases f <;> simp_all [remainingSteps, FutureState.cancel]

theorem exec_settled {j : FakeJob} (hp : j.remainingSteps = []) (evs : List JobEvent) :
    (j.exec evs).result = j.result ∧ (j.exec evs).cls = j.cls := by
  induction evs generalizing j with
  | nil => exact ⟨rfl, rfl⟩
  | cons e evs ih =>
    obtain ⟨hp', hr, hc⟩ := apply_stopped hp e
    obtain ⟨hr', hc'⟩ := ih hp'
    exact ⟨hr'.trans hr, hc'.trans hc⟩

theorem iterate_progress_saturates {j : FakeJob} (hf : j.future = some .started)
    (hpc : j.pc ≤ (j.cls.task j.args.sleeps).length) (m : Nat) :
    (progress^[m] j).future = some .started ∧
      (progress^[m] j).pc = min (j.pc + m) (j.cls.task j.args.sleeps).length ∧ (progress^[m] j).cls = j.cls := by
  induction m generalizing j with
  | zero => exact ⟨hf, (Nat.min_eq_left hpc).symm, rfl⟩
  | succ m ih =>
    rw [Function.iterate_succ_apply]
    by_cases hlt : j.pc < (j.cls.task j.args.sleeps).length
    · obtain ⟨w, hw⟩ : ∃ w, (j.cls.task j.args.sleeps)[j.pc]? = some w :=
        ⟨_, List.getElem?_eq_getElem hlt⟩
      have step : j.progress.future = some .started ∧ j.progress.pc = j.pc + 1 ∧
          j.progress.cls = j.cls := by
        simp [progress, hf, hw]
      obtain ⟨h1, h2, h3⟩ := ih step.1 (by rw [step.2.2, progress_args, step.2.1]; omega)
      rw [step.2.2, progress_args, step.2.1] at h2
      exact ⟨h1, by rw [h2]; omega, h3.trans step.2.2⟩
    · have idle : j.progress = j := by simp [progress, hf, List.getElem?_eq_none (Nat.le_of_not_lt hlt)]
      rw [idle]
      obtain ⟨h1, h2, h3⟩ := ih hf hpc
      exact ⟨h1, by rw [h2]; omega, h3⟩

/-- When the task makes all its steps before the constructor's `self._result = None`, the
payload is lost: `result()` returns `None` on every later call. -/
theorem late_reset_loses_result (c : JobClass) (args : JobArgs) (evs : List JobEvent) :
    ((create c args none (c.autoProgress.length + 1)).exec evs).results = .ok none := by
  obtain ⟨hf, hpc, -⟩ := iterate_progress_saturates (j := { submitted c args with future := some .started })
    rfl (Nat.zero_le _) c.autoProgress.length
  have hf' : (create c args none (c.autoProgress.length + 1)).future = some .started := hf
  have hpc' : (create c args none (c.autoProgress.length + 1)).pc = (c.task args.sleeps).length :=
    hpc.trans (by simpa [submitted] using JobClass.task_length_le c args.sleeps)
  have hp : (create c args none (c.autoProgress.length + 1)).remainingSteps = [] := by
    simp only [remainingSteps, hf', hpc', create_cls, create_args, List.drop_length]
  obtain ⟨hr, hc⟩ := exec_settled hp evs
  rw [results_congr hr hc]
  rfl

end FakeJob

/-- Along every interleaving of a job's task with `job_cancel`, the reported status only moves
forward, and turns `CANCELLED` only right after a cancel or from the client's `final_status`. -/
theorem reported_status_moves_forward (c : JobClass) (args : JobArgs) (fs : Option JobStatus)
    (early : Nat) (pre post : List JobEvent) :
    let j := (FakeJob.create c args fs early).exec pre
    StatusLe j.reportedStatus (j.exec post).reportedStatus ∧
      (∀ e, (j.apply e).reportedStatus = .cancelled → j.reportedStatus ≠ .cancelled →
        e = .cancel ∧ (j.reportedStatus = .queued ∨ j.reportedStatus = .running)) ∧
      ((FakeJob.create c args fs early).reportedStatus = .cancelled → fs = some .cancelled) := by
  intro j
  have hj : j.StatusTracks :=
    (FakeJob.exec_reported (FakeJob.create_statusTracks c args fs early) pre).1
  exact ⟨(FakeJob.exec_reported hj post).2, fun e he hne => FakeJob.apply_first_cancelled hj he hne,
    FakeJob.create_reported c args fs early⟩

/-- With `final_status` `None` or `"COMPLETED"`, `job_results` never raises along any interleaving of
the task with `job_cancel`, and from the task's last write on returns the class's payload. -/
theorem job_results_settle (c : JobClass) (args : JobArgs) (fs : Option JobStatus)
    (hfs : fs = none ∨ fs = some .completed) (early : Nat)
    (hreset : fs = none → (FakeJob.progress^[early] (FakeJob.submitted c args)).result = .unassigned)
    (pre : List JobEvent) :
    let j := (FakeJob.create c args fs early).exec pre
    (∃ r, j.results = .ok r) ∧
      (j.reportedStatus = .queued ∨ j.reportedStatus = .running ∨ j.reportedStatus = .cancelled →
        j.results = .ok none) ∧
      (j.pendingWrites ≠ [] → j.results = .ok none ∨ j.results = .ok (some jsonFoo)) ∧
      (j.pendingWrites = [] → ∀ post, (j.exec post).results = .ok (settledResult c fs)) := by
  intro j
  rcases hfs with rfl | rfl
  · have h : FakeJob.Tracks .none j := FakeJob.exec_tracks (FakeJob.create_tracks (hreset rfl)) pre
    have hc : j.cls = c := by simp [j]
    refine ⟨h.results_ok, h.results_pending, h.window, fun hp post => ?_⟩
    obtain ⟨hr, hc'⟩ := FakeJob.exec_settled (FakeJob.remainingSteps_eq_nil hp) post
    rw [FakeJob.results_congr hr hc', h.settled hp, hc]
  · have hj : j = FakeJob.create c args (some .completed) early :=
      FakeJob.exec_of_unsubmitted rfl pre
    rw [hj]
    refine ⟨⟨_, rfl⟩, fun hs => ?_, fun hp => absurd rfl hp, fun _ post => ?_⟩
    · simp [FakeJob.create, FakeJob.reportedStatus_eq] at hs
    · rw [FakeJob.exec_of_unsubmitted rfl post]
      rfl

def sampleJobArgs : JobArgs :=
  { jobId := "job", programId := "program", hub := none, group := none, project := none,
    backendName := "backend", params := "", image := none, runTime := none }

/-- With the client's `final_status` set to `"CANCELLED"`, a new job reports `CANCELLED`
before any `job_cancel`. -/
theorem cancelled_final_status_reported_at_once :
    (FakeJob.create .baseFakeRuntimeJob sampleJobArgs (some .cancelled) 0).reportedStatus =
      .cancelled := rfl

theorem default_job_results_settle :
    ((none : Option JobStatus) = none ∨ (none : Option JobStatus) = some .completed) ∧
      (FakeJob.progress^[0] (FakeJob.submitted .baseFakeRuntimeJob sampleJobArgs)).result =
        .unassigned ∧
      (let j := (FakeJob.create .baseFakeRuntimeJob sampleJobArgs none 0).exec
        (List.replicate 5 .progress)
      (∃ r, j.results = .ok r) ∧
        (j.reportedStatus = .queued ∨ j.reportedStatus = .running ∨ j.reportedStatus = .cancelled →
          j.results = .ok none) ∧
        (j.pendingWrites ≠ [] → j.results = .ok none ∨ j.results = .ok (some jsonFoo)) ∧
        (j.pendingWrites = [] → ∀ post,
          (j.exec post).results = .ok (settledResult .baseFakeRuntimeJob none))) :=
  ⟨.inl rfl, rfl, job_results_settle .baseFakeRuntimeJob sampleJobArgs none (.inl rfl) 0
    (fun _ => rfl) (List.replicate 5 .progress)⟩

/-- Right after the default job's task writes `COMPLETED`, `job_get` reports `COMPLETED` while
`job_results` still returns `None`. -/
theorem completed_reported_before_result :
    let j := (FakeJob.create .baseFakeRuntimeJob sampleJobArgs none 0).exec
      (List.replicate 4 .progress)
    j.reportedStatus = .completed ∧ j.results = .ok none := ⟨rfl, rfl⟩

end QiskitRuntime.Fake
