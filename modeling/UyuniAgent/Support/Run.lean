import Mathlib.Data.List.Basic
import Mathlib.Data.List.Infix

/-!
# Runs of partial transition functions

A system is given by a partial step function: `step s e` is the state after
event `e`, or `none` when `e` is not enabled in `s`.  A trace is executed from
left to right.  The invariant rules at the end turn facts about single steps
into facts about every state a run passes through.
-/

namespace Transition

variable {σ ε : Type*}

/-- Execute a trace, failing at the first event that is not enabled. -/
def exec (step : σ → ε → Option σ) (start : σ) (trace : List ε) : Option σ :=
  trace.foldlM step start

@[simp] theorem exec_nil (step : σ → ε → Option σ) (start : σ) :
    exec step start [] = some start := rfl

@[simp] theorem exec_cons
    (step : σ → ε → Option σ) (start : σ) (e : ε) (trace : List ε) :
    exec step start (e :: trace) =
      (step start e).bind fun next => exec step next trace := by
  simp [exec, List.foldlM_cons]

theorem exec_append
    (step : σ → ε → Option σ) (start : σ) (past future : List ε) :
    exec step start (past ++ future) =
      (exec step start past).bind fun s => exec step s future := by
  simp [exec, List.foldlM_append]

theorem exec_concat
    (step : σ → ε → Option σ) (start : σ) (past : List ε) (e : ε) :
    exec step start (past ++ [e]) =
      (exec step start past).bind fun s => step s e := by
  simp [exec_append]

theorem exec_concat_eq_some_iff
    {step : σ → ε → Option σ} {start s' : σ} {past : List ε} {e : ε} :
    exec step start (past ++ [e]) = some s' ↔
      ∃ s, exec step start past = some s ∧ step s e = some s' := by
  rw [exec_concat, Option.bind_eq_some_iff]

/-- `P` holds in every state that `trace` passes through. -/
def EveryState
    (step : σ → ε → Option σ) (start : σ) (trace : List ε)
    (P : σ → Prop) : Prop :=
  ∀ past, past <+: trace → ∀ s, exec step start past = some s → P s

/-- Every step that `trace` takes meets the condition `C` on the state before
the step and on its event. -/
def EveryStep
    (step : σ → ε → Option σ) (start : σ) (trace : List ε)
    (C : σ → ε → Prop) : Prop :=
  ∀ past e, past ++ [e] <+: trace → ∀ s s',
    exec step start past = some s → step s e = some s' → C s e

theorem EveryStep.of_prefix
    {step : σ → ε → Option σ} {start : σ} {past trace : List ε}
    {C : σ → ε → Prop}
    (hsteps : EveryStep step start trace C) (hpast : past <+: trace) :
    EveryStep step start past C := by
  intro before e hbefore
  exact hsteps before e (hbefore.trans hpast)

/-- The steps that a run takes after a part of it. -/
theorem EveryStep.after
    {step : σ → ε → Option σ} {start s : σ} {past future : List ε}
    {C : σ → ε → Prop}
    (hsteps : EveryStep step start (past ++ future) C)
    (hs : exec step start past = some s) : EveryStep step s future C := by
  intro past' e hpast s₁ s₂ hs₁ he
  refine hsteps (past ++ past') e ?_ s₁ s₂ ?_ he
  · rw [List.append_assoc]
    exact (List.prefix_append_right_inj past).mpr hpast
  · rw [exec_append, hs]
    exact hs₁

/-- The run rule with a history: a predicate on the trace executed so far and
the state it leads to holds after every executable trace whose steps meet
`C`. -/
theorem exec_induction
    {step : σ → ε → Option σ} {start : σ} {C : σ → ε → Prop}
    {P : List ε → σ → Prop}
    (hstart : P [] start)
    (hstep : ∀ past s e s', exec step start past = some s → P past s →
      C s e → step s e = some s' → P (past ++ [e]) s')
    {trace : List ε} (hsteps : EveryStep step start trace C)
    {s : σ} (hs : exec step start trace = some s) :
    P trace s := by
  induction trace using List.reverseRecOn generalizing s with
  | nil =>
      obtain rfl : start = s := by simpa using hs
      exact hstart
  | append_singleton past e ih =>
      obtain ⟨s₀, hs₀, he⟩ := exec_concat_eq_some_iff.mp hs
      have hP : P past s₀ :=
        ih (hsteps.of_prefix (List.prefix_append past [e])) hs₀
      exact hstep past s₀ e s hs₀ hP
        (hsteps past e (List.prefix_refl _) s₀ s hs₀ he) he

/-- An invariant that every step meeting `C` preserves holds after every
executable trace whose steps meet `C`. -/
theorem exec_invariant
    {step : σ → ε → Option σ} {start : σ} {C : σ → ε → Prop}
    {P : σ → Prop}
    (hstart : P start)
    (hstep : ∀ s e s', P s → C s e → step s e = some s' → P s')
    {trace : List ε} (hsteps : EveryStep step start trace C)
    {s : σ} (hs : exec step start trace = some s) :
    P s :=
  exec_induction (P := fun _ s => P s) hstart
    (fun _ s e s' _ hP hC he => hstep s e s' hP hC he) hsteps hs

theorem everyStep_true
    (step : σ → ε → Option σ) (start : σ) (trace : List ε) :
    EveryStep step start trace fun _ _ => True := by
  intro _ _ _ _ _ _ _
  trivial

/-- An unconditional invariant holds after every executable trace. -/
theorem exec_invariant_always
    {step : σ → ε → Option σ} {start : σ} {P : σ → Prop}
    (hstart : P start)
    (hstep : ∀ s e s', P s → step s e = some s' → P s')
    {trace : List ε} {s : σ} (hs : exec step start trace = some s) :
    P s :=
  exec_invariant hstart (fun s e s' hP _ he => hstep s e s' hP he)
    (everyStep_true step start trace) hs

/-- An invariant that every step meeting `C` preserves holds in every state of
a run whose steps meet `C`. -/
theorem everyState_of_everyStep
    {step : σ → ε → Option σ} {start : σ} {C : σ → ε → Prop}
    {P : σ → Prop}
    (hstart : P start)
    (hstep : ∀ s e s', P s → C s e → step s e = some s' → P s')
    {trace : List ε} (hsteps : EveryStep step start trace C) :
    EveryState step start trace P := by
  intro past hpast s hs
  exact exec_invariant hstart hstep (hsteps.of_prefix hpast) hs

/-- A property of all states of a run holds after each of its steps. -/
theorem EveryState.after_step
    {step : σ → ε → Option σ} {start : σ} {trace : List ε} {P : σ → Prop}
    (hall : EveryState step start trace P)
    {past : List ε} {e : ε} (hpast : past ++ [e] <+: trace)
    {s s' : σ} (hs : exec step start past = some s)
    (he : step s e = some s') : P s' :=
  hall (past ++ [e]) hpast s' (exec_concat_eq_some_iff.mpr ⟨s, hs, he⟩)

/-- Some step of the run meets `P`, and no later one meets `Q`. -/
def Unanswered
    (step : σ → ε → Option σ) (start : σ) (trace : List ε)
    (P Q : σ → ε → Prop) : Prop :=
  ∃ before e after, trace = before ++ e :: after ∧
    (∃ s, exec step start before = some s ∧ P s e) ∧
    ∀ middle e' rest, after = middle ++ e' :: rest → ∀ s,
      exec step start (before ++ e :: middle) = some s → ¬Q s e'

theorem not_unanswered_nil
    {step : σ → ε → Option σ} {start : σ} {P Q : σ → ε → Prop} :
    ¬Unanswered step start [] P Q := by
  rintro ⟨before, e, after, htrace, -⟩
  simp at htrace

/-- The last step meets `P`, or answers nothing. -/
theorem unanswered_concat_iff
    {step : σ → ε → Option σ} {start s : σ} {past : List ε} {e : ε}
    {P Q : σ → ε → Prop} (hs : exec step start past = some s) :
    Unanswered step start (past ++ [e]) P Q ↔
      P s e ∨ (Unanswered step start past P Q ∧ ¬Q s e) := by
  constructor
  · rintro ⟨before, first, after, htrace, ⟨s₀, hs₀, hfirst⟩, hafter⟩
    rcases List.eq_nil_or_concat' after with rfl | ⟨after, last, rfl⟩
    · obtain ⟨rfl, hlast⟩ := List.append_inj' htrace rfl
      obtain rfl := List.singleton_inj.mp hlast
      obtain rfl := Option.some.inj (hs.symm.trans hs₀)
      exact Or.inl hfirst
    · rw [← List.cons_append, ← List.append_assoc] at htrace
      obtain ⟨rfl, hlast⟩ := List.append_inj' htrace rfl
      obtain rfl := List.singleton_inj.mp hlast
      refine Or.inr ⟨⟨before, first, after, rfl, ⟨s₀, hs₀, hfirst⟩, ?_⟩, ?_⟩
      · rintro middle e' rest rfl
        exact hafter middle e' (rest ++ [e]) (by simp)
      · exact hafter after e [] rfl s hs
  · rintro (hP | ⟨⟨before, first, after, rfl, hfirst, hafter⟩, hQ⟩)
    · refine ⟨past, e, [], rfl, ⟨s, hs, hP⟩, ?_⟩
      intro middle e' rest hnil
      simp at hnil
    · refine ⟨before, first, after ++ [e], by simp, hfirst, ?_⟩
      intro middle e' rest hsplit s₁ hs₁
      rcases List.eq_nil_or_concat' rest with rfl | ⟨rest, last, rfl⟩
      · obtain ⟨rfl, hlast⟩ := List.append_inj' hsplit rfl
        obtain rfl := List.singleton_inj.mp hlast
        obtain rfl := Option.some.inj (hs.symm.trans hs₁)
        exact hQ
      · rw [← List.cons_append, ← List.append_assoc] at hsplit
        obtain ⟨rfl, -⟩ := List.append_inj' hsplit rfl
        exact hafter middle e' rest rfl s₁ hs₁

theorem EveryStep.of_forall_mem
    {step : σ → ε → Option σ} {start : σ} {trace : List ε} {C : ε → Prop}
    (hall : ∀ e ∈ trace, C e) : EveryStep step start trace fun _ => C := by
  intro past e hpast _ _ _ _
  apply hall
  apply hpast.subset
  simp

/-! ## A part of the state -/

/-- The events of a run that are a part's own, executed on that part alone,
lead to the part of the state that the run leads to. -/
theorem exec_part {τ η : Type*}
    {step : σ → ε → Option σ} {partStep : τ → η → Option τ}
    {own : ε → Option η} {start : σ} {C : σ → ε → Prop} (part : σ → τ)
    (hforeign : ∀ s e s', own e = none → step s e = some s' →
      part s' = part s)
    (hown : ∀ s e s' e', own e = some e' → C s e → step s e = some s' →
      partStep (part s) e' = some (part s'))
    {trace : List ε} (hsteps : EveryStep step start trace C)
    {s : σ} (hs : exec step start trace = some s) :
    exec partStep (part start) (trace.filterMap own) = some (part s) := by
  refine exec_induction
    (P := fun past s =>
      exec partStep (part start) (past.filterMap own) = some (part s))
    rfl ?_ hsteps hs
  intro past s e s' _ ih hC he
  rw [List.filterMap_append]
  rcases hevent : own e with _ | e'
  · rw [List.filterMap_cons_none hevent, List.filterMap_nil, List.append_nil,
      ih, hforeign s e s' hevent he]
  · rw [List.filterMap_cons_some hevent, List.filterMap_nil]
    exact exec_concat_eq_some_iff.mpr
      ⟨part s, ih, hown s e s' e' hevent hC he⟩

/-! ## Events under other names -/

theorem exec_map {ε' : Type*} {step : σ → ε → Option σ} (event : ε' → ε)
    (start : σ) (trace : List ε') :
    exec (fun s e => step s (event e)) start trace =
      exec step start (trace.map event) := by
  simp [exec, List.foldlM_map]

/-- A condition on the events that a trace stands for. -/
theorem EveryStep.of_map {ε' : Type*} {step : σ → ε → Option σ}
    {event : ε' → ε} {start : σ} {trace : List ε'} {C : σ → ε → Prop}
    (h : EveryStep step start (trace.map event) C) :
    EveryStep (fun s e => step s (event e)) start trace
      fun s e => C s (event e) := by
  intro past e hpast s s' hs he
  rw [exec_map] at hs
  apply h (past.map event) (event e) _ s s' hs he
  have hmapped := hpast.map event
  rwa [List.map_append] at hmapped

theorem EveryStep.map {ε' : Type*} {step : σ → ε → Option σ}
    {event : ε' → ε} {start : σ} {trace : List ε'} {C : σ → ε → Prop}
    (h : EveryStep (fun s e => step s (event e)) start trace
      fun s e => C s (event e)) :
    EveryStep step start (trace.map event) C := by
  intro past e hpast s s' hs he
  obtain ⟨whole, hwhole, heq⟩ := List.prefix_map_iff.mp hpast
  obtain ⟨past', last, rfl, rfl, hlast⟩ := List.append_eq_map_iff.mp heq
  obtain ⟨e', rfl, rfl⟩ := List.map_eq_singleton_iff.mp hlast
  rw [← exec_map] at hs
  exact h past' e' hwhole s s' hs he

/-- Test a condition at every step that a trace takes. -/
def testSteps (step : σ → ε → Option σ) (test : σ → ε → Bool) :
    σ → List ε → Bool
  | _, [] => true
  | s, e :: trace =>
      match step s e with
      | none => true
      | some next => test s e && testSteps step test next trace

theorem everyStep_of_testSteps
    {step : σ → ε → Option σ} {test : σ → ε → Bool} {C : σ → ε → Prop}
    (hsound : ∀ s e, test s e = true → C s e)
    {trace : List ε} {start : σ}
    (htest : testSteps step test start trace = true) :
    EveryStep step start trace C := by
  induction trace generalizing start with
  | nil =>
      intro past e hpast
      simp at hpast
  | cons first trace ih =>
      intro past e hpast s s' hs he
      rcases past with _ | ⟨head, past⟩
      · obtain ⟨rfl, -⟩ := List.cons_prefix_cons.mp hpast
        obtain rfl : start = s := by simpa using hs
        rw [testSteps, he, Bool.and_eq_true] at htest
        exact hsound start e htest.1
      · obtain ⟨rfl, hrest⟩ := List.cons_prefix_cons.mp hpast
        rw [exec_cons, Option.bind_eq_some_iff] at hs
        obtain ⟨next, hnext, hs⟩ := hs
        rw [testSteps, hnext, Bool.and_eq_true] at htest
        exact ih htest.2 past e hrest s s' hs he

/-! ## Machines that answer -/

/-- What a machine answers to a list of operations. -/
def outputs {ω ο : Type*} (perform : σ → ω → ο × σ) : σ → List ω → List ο
  | _, [] => []
  | s, op :: ops => (perform s op).1 :: outputs perform (perform s op).2 ops

/-- The state that a list of operations leads to. -/
def stateAfter {ω ο : Type*} (perform : σ → ω → ο × σ) (s : σ)
    (ops : List ω) : σ :=
  ops.foldl (fun s op => (perform s op).2) s

/-- Machines in a relation that every operation keeps answer alike. -/
theorem outputs_eq_of_simulation {τ ω ο : Type*} {perform : σ → ω → ο × σ}
    {perform' : τ → ω → ο × τ} {R : σ → τ → Prop}
    (hstep : ∀ s t op, R s t → (perform s op).1 = (perform' t op).1 ∧
      R (perform s op).2 (perform' t op).2)
    {s : σ} {t : τ} (h : R s t) (ops : List ω) :
    outputs perform s ops = outputs perform' t ops := by
  induction ops generalizing s t with
  | nil => rfl
  | cons op ops ih =>
      obtain ⟨houtput, hnext⟩ := hstep s t op h
      rw [outputs, outputs, houtput, ih hnext]

theorem stateAfter_related {τ ω ο : Type*} {perform : σ → ω → ο × σ}
    {perform' : τ → ω → ο × τ} {R : σ → τ → Prop}
    (hstep : ∀ s t op, R s t → R (perform s op).2 (perform' t op).2)
    {s : σ} {t : τ} (h : R s t) (ops : List ω) :
    R (stateAfter perform s ops) (stateAfter perform' t ops) := by
  induction ops generalizing s t with
  | nil => exact h
  | cons op ops ih => exact ih (hstep s t op h)

theorem stateAfter_concat {ω ο : Type*} (perform : σ → ω → ο × σ) (s : σ)
    (ops : List ω) (op : ω) :
    stateAfter perform s (ops ++ [op]) =
      (perform (stateAfter perform s ops) op).2 := by
  rw [stateAfter, List.foldl_append]
  rfl

end Transition
