import UyuniAgent.Agent.Exclusion

/-!
# From the checks of a job to its investigation

`_process_firing_investigation` checks the age and the incident of a job, and
then waits: for a permit of `llm_sem`, and for the task in which `execute` runs
`investigate`.  The runs here are those of `Exclusion.lean` with both waits.
Waiting jobs get a permit in any order.
-/

namespace UyuniAgent.Agent

open Incident Transition

variable {F : Type} [DecidableEq F]

/-- Where a job stands that has passed its checks, with the time of these. -/
inductive Admission
  | waiting (checkedAt : ℚ)
  | admitted (checkedAt : ℚ)
  | started
  deriving DecidableEq

/-- The time of the checks of a job that is not started yet. -/
def Admission.checkedAt : Admission → Option ℚ
  | .waiting checkedAt => some checkedAt
  | .admitted checkedAt => some checkedAt
  | .started => none

def Admission.holdsPermit : Admission → Bool
  | .waiting _ => false
  | .admitted _ => true
  | .started => true

/-- A call of `investigate`, with what `is_actionable` would return then. -/
structure InvestigationStart (F : Type) where
  work : InvestigationWork F
  startedAt : ℚ
  actionable : Bool
  deriving DecidableEq

structure AdmissionState (F : Type) where
  agent : AgentState F
  /-- The free permits of `llm_sem`. -/
  permits : ℕ
  admissions : OrderedDict ℕ Admission
  /-- The investigations so far, latest first. -/
  starts : List (InvestigationStart F)

inductive AdmissionEvent
  | cycle (e : CycleEvent)
  /-- A waiting job gets a permit, and `execute` schedules its task. -/
  | acquire (worker : ℕ)
  /-- The task calls `investigate`. -/
  | start (worker : ℕ) (now : ℚ)
  deriving DecidableEq

/-- The worker whose job leaves its investigation in a step, and whether it
does so with an analysis. -/
def CycleEvent.leaves : CycleEvent → Option (ℕ × Bool)
  | .agent (.conclude worker (.analysis _) _) => some (worker, true)
  | .agent (.conclude worker .timedOut _) => some (worker, false)
  | .agent (.conclude worker .failed _) => some (worker, false)
  | .deliverDry worker _ _ => some (worker, true)
  | .crash worker _ => some (worker, false)
  | .lose worker => some (worker, false)
  | _ => none

/-- The worker whose job is checked in a step. -/
def CycleEvent.begins : CycleEvent → Option (ℕ × ℚ)
  | .agent (.begin worker now) => some (worker, now)
  | _ => none

namespace AdmissionState

def initial (maxLlmCalls : ℕ) : AdmissionState F where
  agent := .initial
  permits := maxLlmCalls
  admissions := OrderedDict.empty
  starts := []

/-- An analysis comes from a started investigation, and a job that waits for
its permit ends only with its worker. -/
def mayHappen (s : AdmissionState F) (e : CycleEvent) : Bool :=
  match e with
  | .crash _ _ => true
  | .lose _ => true
  | e =>
      match e.leaves with
      | none => true
      | some (worker, analysed) =>
          match s.admissions.get? worker with
          | some (.admitted _) => !analysed
          | some .started => true
          | _ => false

/-- The job of a worker that has just been checked. -/
def afterChecks (s : AdmissionState F) (worker : ℕ) (now : ℚ) :
    AdmissionState F :=
  if (s.agent.workers.get? worker).any (·.phase = .investigating) then
    { s with admissions := s.admissions.set worker (.waiting now) }
  else s

/-- A job gives its permit back. -/
def leave (s : AdmissionState F) (worker : ℕ) : AdmissionState F :=
  { s with
    permits :=
      if (s.admissions.get? worker).any (·.holdsPermit) then s.permits + 1
      else s.permits
    admissions := s.admissions.erase worker }

def advance (s : AdmissionState F) (e : CycleEvent) (agent : AgentState F) :
    AdmissionState F :=
  match e.begins, e.leaves with
  | some (worker, now), _ =>
      ({ s with agent := agent } : AdmissionState F).afterChecks worker now
  | none, some (worker, _) =>
      ({ s with agent := agent } : AdmissionState F).leave worker
  | none, none => { s with agent := agent }

def step (cfg : AgentSettings F) (s : AdmissionState F) :
    AdmissionEvent → Option (AdmissionState F)
  | .cycle e =>
      if s.mayHappen e then (cycleStep cfg s.agent e).map (s.advance e)
      else none
  | .acquire worker =>
      match s.admissions.get? worker with
      | some (.waiting checkedAt) =>
          if 0 < s.permits then
            some { s with
              permits := s.permits - 1
              admissions := s.admissions.set worker (.admitted checkedAt) }
          else none
      | _ => none
  | .start worker now =>
      match s.admissions.get? worker, s.agent.workers.get? worker with
      | some (.admitted _), some job =>
          some { s with
            admissions := s.admissions.set worker .started
            starts :=
              ⟨job.work, now, job.actionable s.agent.table⟩ :: s.starts }
      | _, _ => none

/-- Every investigation was started on a snapshot of its incident that was
young enough and still current. -/
def FreshStarts (cfg : AgentSettings F) (s : AdmissionState F) : Prop :=
  ∀ start ∈ s.starts,
    start.startedAt - start.work.detectedAt ≤ cfg.maxJobAgeSeconds ∧
      start.actionable = true

end AdmissionState

/-! ## Jobs between their checks and their end -/

section

variable {cfg : AgentSettings F} {s s' : AgentState F} {e : CycleEvent}

/-- Only the worker's own steps touch its job, and an investigation ends in
one of those that leave it. -/
theorem investigating_kept {worker : ℕ} {job : Job F}
    (hjob : s.workers.get? worker = some job)
    (hphase : job.phase = .investigating)
    (hleaves : ∀ analysed, e.leaves ≠ some (worker, analysed))
    (hstep : cycleStep cfg s e = some s') :
    s'.workers.get? worker = some job := by
  -- A step of another worker, or of one in another phase.
  have hset : ∀ {other : ℕ} {moved : Job F} (changed : Job F),
      s.workers.get? other = some moved → moved.phase ≠ .investigating →
      (s.workers.set other changed).get? worker = some job := by
    intro other moved changed hmoved hne
    have hother : worker ≠ other := by
      rintro rfl
      rw [hjob] at hmoved
      exact hne (Option.some.inj hmoved ▸ hphase)
    rw [OrderedDict.get?_set_of_ne hother, hjob]
  have herase : ∀ {other : ℕ}, worker ≠ other →
      (s.workers.erase other).get? worker = some job := by
    intro other hother
    rw [OrderedDict.get?_erase_of_ne hother, hjob]
  rcases e with e | minion | ⟨minion, now⟩ | ⟨other, analysis, now⟩ |
    ⟨other, cancelled⟩ | other | _
  case agent =>
    change agentStep cfg s e = some s' at hstep
    rcases e with _ | _ | _ | _ | _ | _ | _ | other | ⟨other, now⟩ |
      ⟨other, result, now⟩ | _ | _ | _ | other
    case startCycle =>
      obtain ⟨-, -, rfl⟩ := step_startCycle hstep
      exact hjob
    case reconcile =>
      obtain ⟨_, -, rfl⟩ := step_reconcile hstep
      exact hjob
    case resolveNext =>
      obtain ⟨_, _, _, -, ⟨-, rfl⟩ | ⟨-, -, rfl⟩ | ⟨-, _, -, rfl⟩⟩ :=
        step_resolveNext hstep
      all_goals exact hjob
    case answerResolution =>
      obtain ⟨_, _, _, _, -, rfl⟩ := step_answerResolution hstep
      exact hjob
    case finishResolution =>
      obtain ⟨_, _, _, _, -, rfl⟩ := step_finishResolution hstep
      exact hjob
    case enqueueNext =>
      obtain ⟨_, _, -, rfl⟩ := step_enqueueNext hstep
      exact hjob
    case finishMinion =>
      obtain ⟨-, rfl⟩ := step_finishMinion hstep
      exact hjob
    case pop =>
      obtain ⟨hidle, _, _, -, rfl⟩ := step_pop hstep
      have hother : worker ≠ other := by
        rintro rfl
        rw [hjob] at hidle
        cases hidle
      exact (OrderedDict.get?_set_of_ne hother).trans hjob
    case begin =>
      obtain ⟨moved, hmoved, hpopped, rfl⟩ := step_begin hstep
      exact hset _ hmoved (by simp [hpopped])
    case conclude =>
      obtain ⟨moved, hmoved, -, rfl⟩ := step_conclude hstep
      have hother : worker ≠ other := by
        rintro rfl
        rcases result with analysis | _ | _
        · exact hleaves _ rfl
        · exact hleaves _ rfl
        · exact hleaves _ rfl
      exact (OrderedDict.get?_set_of_ne hother).trans hjob
    case answerPost =>
      obtain ⟨moved, hmoved, ⟨_, _, hsent, rfl⟩ | ⟨_, hsent, rfl⟩⟩ :=
        step_answerPost hstep
      all_goals exact hset _ hmoved (by simp [hsent])
    case finishTransition =>
      obtain ⟨moved, _, _, hmoved, hanswered, rfl⟩ :=
        step_finishTransition hstep
      exact hset _ hmoved (by simp [hanswered])
    case finishDelivery =>
      obtain ⟨moved, _, hmoved, ⟨hanswered, rfl⟩ | ⟨hanswered, rfl⟩⟩ :=
        step_finishDelivery hstep
      all_goals exact hset _ hmoved (by simp [hanswered])
    case release =>
      obtain ⟨moved, _, hmoved, hfinished, rfl⟩ := step_release hstep
      refine herase ?_
      rintro rfl
      rw [hjob] at hmoved
      obtain rfl := Option.some.inj hmoved
      rw [hphase] at hfinished
      cases hfinished
  case abandon =>
    obtain rfl := step_abandon hstep
    exact hjob
  case resolveDry =>
    obtain ⟨_, _, _, -, ⟨-, rfl⟩ | ⟨-, rfl⟩⟩ := step_resolveDry hstep
    all_goals exact hjob
  case deliverDry =>
    obtain ⟨moved, hmoved, rfl⟩ := step_deliverDry hstep
    have hother : worker ≠ other := by
      rintro rfl
      exact hleaves _ rfl
    exact (OrderedDict.get?_set_of_ne hother).trans hjob
  case crash =>
    obtain ⟨_, -, rfl⟩ := step_crash hstep
    exact herase fun heq => hleaves false (by rw [heq]; rfl)
  case lose =>
    obtain rfl := step_lose hstep
    exact herase fun heq => hleaves false (by rw [heq]; rfl)
  case closeQueue =>
    obtain rfl := Option.some.inj hstep
    exact hjob

theorem begin_eq_investigating {job : Job F} {table : Table F} {now : ℚ}
    (h : job.begin cfg table now = .investigating) :
    now - job.work.detectedAt ≤ cfg.maxJobAgeSeconds ∧
      job.actionable table = true := by
  rw [Job.begin] at h
  split at h
  · cases h
  next hage =>
    split at h
    next hactionable => exact ⟨not_lt.mp hage, hactionable⟩
    · cases h

end

/-! ## The invariant -/

namespace AdmissionState

variable {cfg : AgentSettings F} {s s' : AdmissionState F}

/-- The job of the worker would pass its checks of that time again. -/
def PassesChecks (cfg : AgentSettings F) (agent : AgentState F) (worker : ℕ)
    (checkedAt : ℚ) : Prop :=
  ∃ job, agent.workers.get? worker = some job ∧ job.phase = .investigating ∧
    checkedAt - job.work.detectedAt ≤ cfg.maxJobAgeSeconds ∧
    job.actionable agent.table = true

structure Checked (cfg : AgentSettings F) (s : AdmissionState F) : Prop where
  jobs : ∀ worker admission, s.admissions.get? worker = some admission →
    ∀ checkedAt, admission.checkedAt = some checkedAt →
      PassesChecks cfg s.agent worker checkedAt
  starts : s.FreshStarts cfg

theorem admissions_advance {e : CycleEvent} {agent : AgentState F}
    {worker : ℕ} {admission : Admission}
    (h : (s.advance e agent).admissions.get? worker = some admission) :
    (s.admissions.get? worker = some admission ∧
        ∀ analysed, e.leaves ≠ some (worker, analysed)) ∨
      ∃ now, e = .agent (.begin worker now) ∧ admission = .waiting now ∧
        (agent.workers.get? worker).any (·.phase = .investigating) := by
  rcases hbegins : e.begins with _ | ⟨checked, now⟩
  · rcases hleaves : e.leaves with _ | ⟨left, analysed⟩
    · simp only [advance, hbegins, hleaves] at h
      exact Or.inl ⟨h, by simp⟩
    · simp only [advance, hbegins, hleaves, leave] at h
      obtain ⟨hne, hold⟩ := OrderedDict.get?_erase_cases h
      refine Or.inl ⟨hold, ?_⟩
      intro analysed' heq
      exact hne (Prod.mk.inj (Option.some.inj heq)).1.symm
  · have hevent : e = .agent (.begin checked now) := by
      unfold CycleEvent.begins at hbegins
      split at hbegins
      · obtain ⟨rfl, rfl⟩ := Prod.mk.inj (Option.some.inj hbegins)
        rfl
      · cases hbegins
    obtain rfl := hevent
    simp only [advance, hbegins, afterChecks] at h
    split at h
    next hinvestigating =>
      rcases OrderedDict.get?_set_cases h with ⟨rfl, rfl⟩ | ⟨-, hold⟩
      · exact Or.inr ⟨now, rfl, rfl, hinvestigating⟩
      · exact Or.inl ⟨hold, by simp [CycleEvent.leaves]⟩
    next => exact Or.inl ⟨h, by simp [CycleEvent.leaves]⟩

@[simp] theorem agent_advance (e : CycleEvent) (agent : AgentState F) :
    (s.advance e agent).agent = agent := by
  unfold advance afterChecks
  split
  · split
    · rfl
    · rfl
  · rfl
  · rfl

@[simp] theorem starts_advance (e : CycleEvent) (agent : AgentState F) :
    (s.advance e agent).starts = s.starts := by
  unfold advance afterChecks
  split
  · split
    · rfl
    · rfl
  · rfl
  · rfl

theorem passesChecks_begin {agent agent' : AgentState F} {worker : ℕ}
    {now : ℚ}
    (hstep : cycleStep cfg agent (.agent (.begin worker now)) = some agent')
    (hinvestigating :
      (agent'.workers.get? worker).any (·.phase = .investigating) = true) :
    PassesChecks cfg agent' worker now := by
  obtain ⟨job, -, -, rfl⟩ := step_begin hstep
  have hjob : (agent.setJob worker job
      (job.begin cfg agent.table now)).workers.get? worker =
        some { job with phase := job.begin cfg agent.table now } :=
    OrderedDict.get?_set_self
  rw [hjob] at hinvestigating
  have hphase : job.begin cfg agent.table now = .investigating := by
    simpa using hinvestigating
  obtain ⟨hage, hactionable⟩ := begin_eq_investigating hphase
  exact ⟨_, hjob, hphase, hage, hactionable⟩

/-! ## One permit for two workers -/

end AdmissionState

end UyuniAgent.Agent
