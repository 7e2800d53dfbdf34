import Mathlib.Data.List.Induction
import RankedSearch.Session.Lifecycle

/-! # What a lifecycle answers to a whole history

`Lifecycle.take` looks at the latches of the moment. The theorem at the end says the same in terms
of the history alone: which step asks for training, for ranking and for the first page, and what is
known after the history. The link is that an armed timer means that nothing has happened yet but
reports of data collection, so that the lifecycle still is the one it started as. -/
namespace RankedSearch.Session.Lifecycle

/-- What can happen to a lifecycle. -/
inductive Step
  | reported (stage : Stage)
  | deadline
  /-- The timer is taken away, as the end of a session does it. -/
  | disarmed
deriving DecidableEq, Repr

def take (l : Lifecycle) : Step → Lifecycle × Option Action
  | .reported stage => l.apply (.stageReported stage)
  | .deadline => l.apply .deadlinePassed
  | .disarmed => (l.disarm, none)

/-! ## Histories -/

/-- The lifecycle after a history. -/
def after (history : List Step) : Lifecycle := history.foldl (fun l x => (l.take x).1) {}

/-- What a step asks for after a history. -/
def answer (history : List Step) (x : Step) : Option Action := ((after history).take x).2

def answersFrom (l : Lifecycle) : List Step → List (Option Action)
  | [] => []
  | x :: rest => (l.take x).2 :: (l.take x).1.answersFrom rest

/-- What the steps of a history ask for, one after the other. -/
def answers (history : List Step) : List (Option Action) := answersFrom {} history

def Step.stage? : Step → Option Stage
  | .reported stage => some stage
  | _ => none

/-- The stage that was reported last; data collection if none was. -/
def lastReported (history : List Step) : Stage :=
  (history.filterMap Step.stage?).getLast?.getD .dataCollecting

theorem after_snoc (history : List Step) (x : Step) :
    after (history ++ [x]) = ((after history).take x).1 := by simp [after]

theorem answersFrom_append (l : Lifecycle) (xs ys : List Step) :
    l.answersFrom (xs ++ ys) =
      l.answersFrom xs ++ (xs.foldl (fun l x => (l.take x).1) l).answersFrom ys := by
  induction xs generalizing l with
  | nil => rfl
  | cons x rest ih => simp [answersFrom, ih]

theorem answers_snoc (history : List Step) (x : Step) :
    answers (history ++ [x]) = answers history ++ [answer history x] :=
  answersFrom_append {} history [x]

/-- A list of answers holds at each place what the step there asked for, after those before it. -/
theorem answers_getElem? (history : List Step) (i : Nat) :
    (answers history)[i]? = history[i]?.map (answer (history.take i)) := by
  suffices h : ∀ (l : Lifecycle) (xs : List Step) (i : Nat), (l.answersFrom xs)[i]? =
      xs[i]?.map fun x => (((xs.take i).foldl (fun l x => (l.take x).1) l).take x).2 from
    h {} history i
  intro l xs
  induction xs generalizing l with
  | nil => intro i; simp [answersFrom]
  | cons x rest ih =>
    intro i
    cases i with
    | zero => simp [answersFrom]
    | succ i => simpa [answersFrom] using ih (l.take x).1 i

/-! ## One step -/

/-- The latch of an action. -/
def fired (l : Lifecycle) : Action → Bool
  | .beginTraining => l.trainingFired
  | .beginRanking => l.rankingFired
  | .fetchFirstPage => l.firstPageFired

/-- The stage whose report is an occasion for an action. -/
def stageFor : Action → Stage
  | .beginTraining => .dataCollectionComplete
  | .beginRanking => .trained
  | .fetchFirstPage => .ranked

def closeLatch (l : Lifecycle) : Action → Lifecycle
  | .beginTraining => { l with trainingFired := true }
  | .beginRanking => { l with rankingFired := true }
  | .fetchFirstPage => { l with firstPageFired := true }

/-- What a step is the occasion for, whether or not its latch is still open. -/
def occasion (l : Lifecycle) : Step → Option Action
  | .reported .dataCollectionComplete => some .beginTraining
  | .reported .trained => some .beginRanking
  | .reported .ranked => some .fetchFirstPage
  | .deadline =>
    if l.timerArmed = true ∧ l.stage ≤ .dataCollectionComplete then some .beginTraining else none
  | _ => none

/-- Asks for an action if its latch is open; the latch is closed afterwards either way. -/
def ask (l : Lifecycle) (action : Option Action) : Lifecycle × Option Action :=
  (action.elim l l.closeLatch, action.filter fun a => !l.fired a)

/-- A step in one equation: a reported stage is taken over, anything but a report of data collection
ends the timer, and what the step is the occasion for is asked for. -/
theorem take_eq (l : Lifecycle) (x : Step) :
    l.take x =
      ({ l with
          stage := x.stage?.getD l.stage
          timerArmed := l.timerArmed && decide (x = .reported .dataCollecting) } : Lifecycle).ask
        (l.occasion x) := by
  cases l with | mk stage training ranking firstPage timer =>
  -- Stages and latches are finitely many, so that each case computes.
  cases x with
  | reported reported =>
    cases reported <;> cases timer <;> cases training <;> cases ranking <;> cases firstPage <;> rfl
  | deadline => cases timer <;> cases training <;> cases stage <;> rfl
  | disarmed => cases timer <;> rfl

theorem take_stage (l : Lifecycle) (x : Step) :
    (l.take x).1.stage = x.stage?.getD l.stage := by
  rw [take_eq]
  cases l.occasion x with
  | none => rfl
  | some a => cases a <;> rfl

/-- Only a report of data collection leaves the timer as it is. -/
theorem take_timerArmed (l : Lifecycle) (x : Step) :
    (l.take x).1.timerArmed = (l.timerArmed && decide (x = .reported .dataCollecting)) := by
  rw [take_eq]
  cases l.occasion x with
  | none => rfl
  | some a => cases a <;> rfl

/-- A step asks for what it is the occasion for while the latch is open. -/
theorem take_asks (l : Lifecycle) (x : Step) (a : Action) :
    (l.take x).2 = some a ↔ l.fired a = false ∧ l.occasion x = some a := by
  rw [take_eq, ask, Option.filter_eq_some_iff, Bool.not_eq_true', and_comm]
  cases a <;> rfl

/-- An open latch closes with its action. -/
theorem take_fresh {l : Lifecycle} {x : Step} {a : Action} (h : (l.take x).2 = some a) :
    l.fired a = false := ((l.take_asks x a).mp h).1

theorem take_fired (l : Lifecycle) (x : Step) (a : Action) :
    (l.take x).1.fired a = true ↔ l.fired a = true ∨ (l.take x).2 = some a := by
  rw [take_asks, take_eq]
  cases l.occasion x with
  | none => cases a <;> simp [ask, fired]
  | some b => cases a <;> cases b <;> simp [ask, closeLatch, fired]

/-- The reports of three stages are occasions, and so is the deadline while it is waited for. -/
theorem occasion_iff (l : Lifecycle) (x : Step) (a : Action) :
    l.occasion x = some a ↔ x = .reported (stageFor a) ∨
      a = .beginTraining ∧ x = .deadline ∧ l.timerArmed = true ∧
        l.stage ≤ .dataCollectionComplete := by
  cases x with
  | reported stage => cases stage <;> cases a <;> simp [occasion, stageFor]
  | deadline => cases a <;> simp [occasion]
  | disarmed => simp [occasion]

/-- A latch that the deadline has no part in closes with the report of its stage. -/
theorem take_fired_eq (l : Lifecycle) (x : Step) {a : Action} (h : a ≠ .beginTraining) :
    (l.take x).1.fired a = (l.fired a || decide (x = .reported (stageFor a))) := by
  rw [Bool.eq_iff_iff, take_fired, take_asks, occasion_iff]
  cases l.fired a <;> simp [h]

/-- When a step asks for training. -/
theorem take_beginTraining (l : Lifecycle) (x : Step) :
    (l.take x).2 = some .beginTraining ↔ l.trainingFired = false ∧
      (x = .reported .dataCollectionComplete ∨
        x = .deadline ∧ l.timerArmed = true ∧ l.stage ≤ .dataCollectionComplete) := by
  simp [take_asks, occasion_iff, fired, stageFor]

theorem take_beginRanking (l : Lifecycle) (x : Step) :
    (l.take x).2 = some .beginRanking ↔ l.rankingFired = false ∧ x = .reported .trained := by
  simp [take_asks, occasion_iff, fired, stageFor]

theorem take_fetchFirstPage (l : Lifecycle) (x : Step) :
    (l.take x).2 = some .fetchFirstPage ↔ l.firstPageFired = false ∧ x = .reported .ranked := by
  simp [take_asks, occasion_iff, fired, stageFor]

/-! ## Triggers

All steps but one are triggers, so that each of these says the same of `apply`. -/

def stepOf : Trigger → Step
  | .stageReported stage => .reported stage
  | .deadlinePassed => .deadline

theorem take_stepOf (l : Lifecycle) (t : Trigger) : l.take (stepOf t) = l.apply t := by
  cases t <;> rfl

theorem stepOf_eq_reported_iff {t : Trigger} {stage : Stage} :
    stepOf t = .reported stage ↔ t = .stageReported stage := by
  cases t <;> simp [stepOf]

theorem stage_apply (l : Lifecycle) (t : Trigger) :
    (l.apply t).1.stage =
      match t with
      | .stageReported stage => stage
      | .deadlinePassed => l.stage := by
  rw [← take_stepOf, take_stage]
  cases t <;> rfl

theorem apply_timerArmed (l : Lifecycle) (t : Trigger) :
    (l.apply t).1.timerArmed =
      (l.timerArmed && decide (t = .stageReported .dataCollecting)) := by
  simp only [← take_stepOf, take_timerArmed, stepOf_eq_reported_iff]

theorem apply_fired (l : Lifecycle) (t : Trigger) (a : Action) :
    (l.apply t).1.fired a = true ↔ l.fired a = true ∨ (l.apply t).2 = some a := by
  rw [← take_stepOf, take_fired]

theorem apply_fired_eq (l : Lifecycle) (t : Trigger) {a : Action} (h : a ≠ .beginTraining) :
    (l.apply t).1.fired a = (l.fired a || decide (t = .stageReported (stageFor a))) := by
  simp only [← take_stepOf, take_fired_eq _ _ h, stepOf_eq_reported_iff]

theorem apply_fresh {l : Lifecycle} {t : Trigger} {a : Action} (h : (l.apply t).2 = some a) :
    l.fired a = false := take_fresh (l.take_stepOf t ▸ h)

theorem apply_fetchFirstPage (l : Lifecycle) (t : Trigger) :
    (l.apply t).2 = some .fetchFirstPage ↔
      l.firstPageFired = false ∧ t = .stageReported .ranked := by
  rw [← take_stepOf, take_fetchFirstPage, stepOf_eq_reported_iff]

/-! ## Whole histories -/

/-- While the timer is armed, the lifecycle is the one it started as. -/
theorem after_of_armed (history : List Step) (h : (after history).timerArmed = true) :
    after history = {} := by
  induction history using List.reverseRecOn with
  | nil => rfl
  | append_singleton before x ih =>
    rw [after_snoc] at h ⊢
    rw [take_timerArmed, Bool.and_eq_true] at h
    obtain ⟨harmed, hx⟩ := h
    rw [ih harmed, of_decide_eq_true hx]
    rfl

theorem after_timerArmed (history : List Step) :
    (after history).timerArmed = true ↔ ∀ x ∈ history, x = .reported .dataCollecting := by
  induction history using List.reverseRecOn with
  | nil => simp [after]
  | append_singleton before x ih =>
    rw [after_snoc, take_timerArmed, Bool.and_eq_true, ih, decide_eq_true_iff]
    simp [or_imp, forall_and]

theorem after_stage (history : List Step) : (after history).stage = lastReported history := by
  induction history using List.reverseRecOn with
  | nil => rfl
  | append_singleton before x ih =>
    rw [after_snoc, take_stage, ih]
    cases x <;> simp [lastReported, Step.stage?]

theorem after_fired (history : List Step) (a : Action) :
    (after history).fired a = true ↔ some a ∈ answers history := by
  induction history using List.reverseRecOn with
  | nil => cases a <;> simp [after, fired, answers, answersFrom]
  | append_singleton before x ih =>
    rw [after_snoc, take_fired, ih, answers_snoc, List.mem_append, List.mem_singleton]
    exact or_congr_right eq_comm

/-- An action that only the report of a stage can ask for has been asked for as soon as that stage
was reported. -/
theorem after_fired_of_report {a : Action} {stage : Stage}
    (h : ∀ l x, (take l x).2 = some a ↔ l.fired a = false ∧ x = .reported stage)
    (history : List Step) : (after history).fired a = true ↔ .reported stage ∈ history := by
  induction history using List.reverseRecOn with
  | nil => cases a <;> simp [after, fired]
  | append_singleton before x ih =>
    rw [after_snoc, take_fired, h, ih, List.mem_append, List.mem_singleton]
    by_cases hf : (after before).fired a = true
    · simp [ih.mp hf]
    · simp [Bool.eq_false_iff.mpr hf, eq_comm]

theorem answers_count (history : List Step) (a : Action) :
    (answers history).count (some a) ≤ 1 := by
  induction history using List.reverseRecOn with
  | nil => simp [answers, answersFrom]
  | append_singleton before x ih =>
    rw [answers_snoc, List.count_append]
    by_cases hx : answer before x = some a
    · have hopen : some a ∉ answers before := by
        rw [← after_fired, take_fresh hx]; simp
      rw [List.count_eq_zero_of_not_mem hopen, Nat.zero_add]
      exact List.count_le_length
    · have hz : [answer before x].count (some a) = 0 :=
        List.count_eq_zero_of_not_mem (by simpa using Ne.symm hx)
      omega

/-- **The lifecycle answers to its history.** Training is asked for by the first step that either
reports the end of data collection or is a deadline before which nothing but data collection was
reported; ranking and the first page are asked for by the first report of their stages; and no other
step asks for anything. The stage is the one reported last, the timer is armed while nothing but
data collection was reported, the latches say what was asked for, and nothing is asked for twice. -/
theorem answer_iff_history (history : List Step) :
    (∀ i, (answers history)[i]? = history[i]?.map (answer (history.take i))) ∧
    (∀ x, (answer history x = some .beginTraining ↔
        some .beginTraining ∉ answers history ∧
          (x = .reported .dataCollectionComplete ∨
            x = .deadline ∧ ∀ y ∈ history, y = .reported .dataCollecting)) ∧
      (answer history x = some .beginRanking ↔
        x = .reported .trained ∧ .reported .trained ∉ history) ∧
      (answer history x = some .fetchFirstPage ↔
        x = .reported .ranked ∧ .reported .ranked ∉ history)) ∧
    (after history).stage = lastReported history ∧
    ((after history).timerArmed = true ↔ ∀ x ∈ history, x = .reported .dataCollecting) ∧
    ((after history).trainingFired = true ↔ some .beginTraining ∈ answers history) ∧
    ((after history).rankingFired = true ↔ some .beginRanking ∈ answers history) ∧
    ∀ a, (answers history).count (some a) ≤ 1 := by
  refine ⟨answers_getElem? history, fun x => ⟨?_, ?_, ?_⟩, after_stage history,
    after_timerArmed history, after_fired history .beginTraining, after_fired history .beginRanking,
    answers_count history⟩
  · have hlatch := after_fired history .beginTraining
    rw [answer, take_beginTraining, ← hlatch, ← after_timerArmed, Bool.not_eq_true]
    refine and_congr_right fun _ => or_congr_right (and_congr_right fun _ =>
      ⟨And.left, fun ht => ⟨ht, ?_⟩⟩)
    rw [after_of_armed history ht]
    decide
  · rw [answer, take_beginRanking, ← after_fired_of_report take_beginRanking, Bool.not_eq_true,
      and_comm, fired]
  · rw [answer, take_fetchFirstPage, ← after_fired_of_report take_fetchFirstPage, Bool.not_eq_true,
      and_comm, fired]

end RankedSearch.Session.Lifecycle
