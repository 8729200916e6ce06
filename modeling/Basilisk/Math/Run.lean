/-
# Labelled runs and their invariants

A transition system is a relation between a state, a label and a next state.
`Run` records a finite execution together with its past: every state that was
left and the label that left it, latest first.  A property of whole executions
is proved from what one step preserves, either on the current state alone or on
the state together with the recorded past.  A `guard` on the recorded steps
expresses "in every run whose steps all meet the condition".
-/

import Basilisk.Math.Checked
import Mathlib.Logic.Relation

namespace Basilisk.Math

universe u v w x

variable {σ : Type u} {ι : Type v} {κ : Type x}

/-- A finite execution from an initial state, with its past latest first. -/
inductive Run (init : σ → Prop) (step : σ → ι → σ → Prop) :
    List (σ × ι) → σ → Prop
  | start {s : σ} (isInit : init s) : Run init step [] s
  | extend {past : List (σ × ι)} {s t : σ} {label : ι}
      (prior : Run init step past s) (taken : step s label t) :
      Run init step ((s, label) :: past) t

/-- Every step of the recorded past met `guard` in the state it was taken in. -/
def Guarded (guard : σ → ι → Prop) (past : List (σ × ι)) : Prop :=
  ∀ event ∈ past, guard event.1 event.2

/-- A state is reachable when some execution ends in it. -/
def Reachable (init : σ → Prop) (step : σ → ι → σ → Prop) (s : σ) : Prop :=
  ∃ past, Run init step past s

/-- A state is reachable by steps that all meet `guard`. -/
def ReachableUnder (init : σ → Prop) (step : σ → ι → σ → Prop)
    (guard : σ → ι → Prop) (s : σ) : Prop :=
  ∃ past, Run init step past s ∧ Guarded guard past

variable {init : σ → Prop} {step : σ → ι → σ → Prop} {guard : σ → ι → Prop}

@[simp]
theorem guarded_nil : Guarded guard [] := by
  simp [Guarded]

@[simp]
theorem guarded_cons {s : σ} {label : ι} {past : List (σ × ι)} :
    Guarded guard ((s, label) :: past) ↔ guard s label ∧ Guarded guard past := by
  simp [Guarded]

instance [∀ s label, Decidable (guard s label)] (past : List (σ × ι)) :
    Decidable (Guarded guard past) :=
  inferInstanceAs (Decidable (∀ event ∈ past, guard event.1 event.2))

/-- Weakening the condition on the steps only enlarges the set of runs. -/
theorem Guarded.mono {weaker : σ → ι → Prop} {past : List (σ × ι)}
    (guarded : Guarded guard past)
    (implied : ∀ s label, guard s label → weaker s label) :
    Guarded weaker past :=
  fun event hmem => implied _ _ (guarded event hmem)

/-- The history rule: a property of the past and the present state that holds
initially and survives every guarded step holds along every guarded run. -/
theorem Run.history_invariant (Inv : List (σ × ι) → σ → Prop)
    (initial : ∀ s, init s → Inv [] s)
    (preserved : ∀ past s label t, Run init step past s → Inv past s →
      guard s label → step s label t → Inv ((s, label) :: past) t)
    {past : List (σ × ι)} {s : σ} (run : Run init step past s)
    (guarded : Guarded guard past) : Inv past s := by
  induction run with
  | start isInit => exact initial _ isInit
  | extend prior taken ih =>
      rw [guarded_cons] at guarded
      exact preserved _ _ _ _ prior (ih guarded.2) guarded.1 taken

/-- The invariant rule for guarded runs. -/
theorem ReachableUnder.invariant (Inv : σ → Prop)
    (initial : ∀ s, init s → Inv s)
    (preserved : ∀ s label t, Inv s → guard s label → step s label t → Inv t)
    {s : σ} (reachable : ReachableUnder init step guard s) : Inv s := by
  obtain ⟨past, run, guarded⟩ := reachable
  refine run.history_invariant (fun _ s => Inv s) initial ?_ guarded
  intro past s label t _ inv met taken
  exact preserved s label t inv met taken

/-- The invariant rule for unrestricted runs. -/
theorem Reachable.invariant (Inv : σ → Prop)
    (initial : ∀ s, init s → Inv s)
    (preserved : ∀ s label t, Inv s → step s label t → Inv t)
    {s : σ} (reachable : Reachable init step s) : Inv s := by
  obtain ⟨past, run⟩ := reachable
  have unguarded : Guarded (fun _ _ => True) past := fun _ _ => trivial
  exact ReachableUnder.invariant Inv initial
    (fun s label t inv _ taken => preserved s label t inv taken)
    ⟨past, run, unguarded⟩

/-- A run continued by a run from where it ended. -/
theorem Run.append {past past' : List (σ × ι)} {s t : σ} (first : Run init step past s)
    (second : Run (· = s) step past' t) : Run init step (past' ++ past) t := by
  induction second with
  | start isStart => exact isStart ▸ first
  | extend _ taken ih => exact ih.extend taken

/-- A run preceded by one step. -/
theorem Run.prepend {past : List (σ × ι)} {s t u : σ} {label : ι} (taken : step s label t)
    (run : Run (· = t) step past u) : Run (· = s) step (past ++ [(s, label)]) u := by
  have first : Run (· = s) step [(s, label)] t := .extend (.start rfl) taken
  exact first.append run

/-- Guarded reachability is reachability. -/
theorem ReachableUnder.reachable {s : σ}
    (reachable : ReachableUnder init step guard s) : Reachable init step s :=
  let ⟨past, run, _⟩ := reachable
  ⟨past, run⟩

/-- Guarded reachability under a stronger condition. -/
theorem ReachableUnder.mono {weaker : σ → ι → Prop} {s : σ}
    (reachable : ReachableUnder init step guard s)
    (implied : ∀ s label, guard s label → weaker s label) :
    ReachableUnder init step weaker s :=
  let ⟨past, run, guarded⟩ := reachable
  ⟨past, run, guarded.mono implied⟩

/-- A guarded run from a reachable state ends in a reachable state. -/
theorem ReachableUnder.append {past : List (σ × ι)} {s t : σ}
    (reachable : ReachableUnder init step guard s) (run : Run (· = s) step past t)
    (guarded : Guarded guard past) : ReachableUnder init step guard t := by
  obtain ⟨before, first, met⟩ := reachable
  refine ⟨past ++ before, first.append run, ?_⟩
  intro event listed
  rcases List.mem_append.mp listed with later | earlier
  · exact guarded event later
  · exact met event earlier

/-- Guarded steps from a reachable state lead to reachable states. -/
theorem ReachableUnder.steps {s t : σ} (reachable : ReachableUnder init step guard s)
    (path : Relation.ReflTransGen (fun u v => ∃ label, guard u label ∧ step u label v) s t) :
    ReachableUnder init step guard t := by
  induction path with
  | refl => exact reachable
  | tail _ taken ih =>
      obtain ⟨label, met, taken⟩ := taken
      obtain ⟨past, run, guarded⟩ := ih
      exact ⟨_, run.extend taken, guarded_cons.mpr ⟨met, guarded⟩⟩

/-- The refinement rule: if every guarded step is a sequence of guarded steps of
another system on the same states, then so is every guarded run. -/
theorem ReachableUnder.refine {step' : σ → κ → σ → Prop} {guard' : σ → κ → Prop}
    (simulated : ∀ s label t, ReachableUnder init step' guard' s → guard s label →
      step s label t →
      Relation.ReflTransGen (fun u v => ∃ label, guard' u label ∧ step' u label v) s t)
    {s : σ} (reachable : ReachableUnder init step guard s) :
    ReachableUnder init step' guard' s := by
  obtain ⟨past, run, guarded⟩ := reachable
  refine run.history_invariant (fun _ s => ReachableUnder init step' guard' s) ?_ ?_ guarded
  · intro s isInit
    exact ⟨[], .start isInit, guarded_nil⟩
  · intro past s label t _ inner met taken
    exact inner.steps (simulated s label t inner met taken)

/-- The simulation rule: if a view of every guarded step is a guarded step of another
system, then a view of every guarded run is a guarded run. -/
theorem ReachableUnder.simulate {τ : Type w} {init' : τ → Prop} {step' : τ → κ → τ → Prop}
    {guard' : τ → κ → Prop} (view : σ → τ) (initial : ∀ s, init s → init' (view s))
    (simulated : ∀ s label t, ReachableUnder init step guard s →
      ReachableUnder init' step' guard' (view s) → guard s label → step s label t →
      ∃ label', guard' (view s) label' ∧ step' (view s) label' (view t))
    {s : σ} (reachable : ReachableUnder init step guard s) :
    ReachableUnder init' step' guard' (view s) := by
  obtain ⟨past, run, guarded⟩ := reachable
  induction run with
  | start isInit => exact ⟨[], .start (initial _ isInit), guarded_nil⟩
  | extend prior taken ih =>
      rw [guarded_cons] at guarded
      have inner := ih guarded.2
      obtain ⟨label', met, simulating⟩ :=
        simulated _ _ _ ⟨_, prior, guarded.2⟩ inner guarded.1 taken
      obtain ⟨past', run', guarded'⟩ := inner
      exact ⟨_, run'.extend simulating, guarded_cons.mpr ⟨met, guarded'⟩⟩

/-- Running a list of inputs with a partial step function is a guarded run, if every
successful step is a guarded one. -/
theorem reachableUnder_of_foldlM {ε : Type w} {exec : σ → κ → Except ε σ}
    (sound : ∀ s input t, exec s input = .ok t → ∃ label, guard s label ∧ step s label t)
    {inputs : List κ} {s t : σ} (reachable : ReachableUnder init step guard s)
    (computed : inputs.foldlM exec s = .ok t) : ReachableUnder init step guard t := by
  induction inputs generalizing s with
  | nil =>
      obtain rfl : s = t := by simpa using computed
      exact reachable
  | cons input inputs ih =>
      rw [List.foldlM_cons, bind_eq_ok] at computed
      obtain ⟨next, executed, rest⟩ := computed
      obtain ⟨label, met, taken⟩ := sound _ _ _ executed
      obtain ⟨past, run, guarded⟩ := reachable
      exact ih ⟨_, run.extend taken, guarded_cons.mpr ⟨met, guarded⟩⟩ rest

/-- Execute an input and record the step it was. -/
def recording {ε : Type w} (exec : σ → κ → Except ε σ) (labelOf : σ → κ → ι)
    (progress : List (σ × ι) × σ) (input : κ) : Except ε (List (σ × ι) × σ) :=
  match exec progress.2 input with
  | .ok next => .ok ((progress.2, labelOf progress.2 input) :: progress.1, next)
  | .error e => .error e

/-- What is recorded while running a list of inputs is the past of a run. -/
theorem run_of_recording {ε : Type w} {exec : σ → κ → Except ε σ} {labelOf : σ → κ → ι}
    (sound : ∀ s input t, exec s input = .ok t → step s (labelOf s input) t)
    {inputs : List κ} {past past' : List (σ × ι)} {s t : σ} (run : Run init step past s)
    (computed : inputs.foldlM (recording exec labelOf) (past, s) = .ok (past', t)) :
    Run init step past' t := by
  induction inputs generalizing past s with
  | nil =>
      obtain ⟨rfl, rfl⟩ : past = past' ∧ s = t := by simpa using computed
      exact run
  | cons input inputs ih =>
      rw [List.foldlM_cons, bind_eq_ok] at computed
      obtain ⟨_, recorded, rest⟩ := computed
      unfold recording at recorded
      split at recorded
      · next next executed =>
          obtain rfl := Except.ok.inj recorded
          exact ih (run.extend (sound _ _ _ executed)) rest
      · exact absurd recorded nofun

/-- Running a list of inputs with a partial step function is a run, if every
successful step is one. -/
theorem reachable_of_foldlM {ε : Type w} {exec : σ → κ → Except ε σ}
    (sound : ∀ s input t, exec s input = .ok t → ∃ label, step s label t)
    {inputs : List κ} {s t : σ} (reachable : Reachable init step s)
    (computed : inputs.foldlM exec s = .ok t) : Reachable init step t := by
  obtain ⟨past, run⟩ := reachable
  have unguarded : ReachableUnder init step (fun _ _ => True) s :=
    ⟨past, run, fun _ _ => trivial⟩
  refine (reachableUnder_of_foldlM ?_ unguarded computed).reachable
  intro s input t executed
  obtain ⟨label, taken⟩ := sound s input t executed
  exact ⟨label, trivial, taken⟩

end Basilisk.Math
