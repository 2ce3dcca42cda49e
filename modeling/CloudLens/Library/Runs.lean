import Mathlib.Data.List.Basic
import Mathlib.Data.List.DropRight

/-! Runs of a deterministic machine: the state after a list of actions, the
assertion that every step of a run meets a condition on its own state and
action, and the induction that carries an invariant through such a run. The
events that a run leaves behind are read from the last one that opens an epoch
of their subject. -/
namespace CloudLens.Library.Runs

variable {State Action : Type}

def run (step : State → Action → State) (start : State) (actions : List Action) : State :=
  actions.foldl step start

def Along (step : State → Action → State) (good : State → Action → Prop) : State → List Action → Prop
  | _, [] => True
  | s, action :: rest => good s action ∧ Along step good (step s action) rest

variable {step : State → Action → State} {good : State → Action → Prop}

@[simp] theorem run_nil (s : State) : run step s [] = s := rfl

@[simp] theorem run_cons (s : State) (action : Action) (rest : List Action) :
    run step s (action :: rest) = run step (step s action) rest := rfl

theorem run_append (s : State) (first second : List Action) :
    run step s (first ++ second) = run step (run step s first) second := by
  simp [run,List.foldl_append]

theorem along_append (s : State) (first second : List Action) :
    Along step good s (first ++ second) ↔ Along step good s first ∧ Along step good (run step s first) second := by
  induction first generalizing s with
  | nil => simp [Along]
  | cons action first ih => simp [Along,ih,and_assoc]

theorem along_mono {other : State → Action → Prop} (weaker : ∀ s action, good s action → other s action)
    {s : State} {actions : List Action} (met : Along step good s actions) : Along step other s actions := by
  induction actions generalizing s with
  | nil => trivial
  | cons action actions ih => exact ⟨weaker s action met.1,ih met.2⟩

theorem along_congr {other : State → Action → Prop} (same : ∀ s action, good s action ↔ other s action)
    (s : State) (actions : List Action) : Along step good s actions ↔ Along step other s actions :=
  ⟨along_mono (fun s action => (same s action).mp),along_mono (fun s action => (same s action).mpr)⟩

theorem along_and {other : State → Action → Prop} {s : State} {actions : List Action} :
    Along step (fun s action => good s action ∧ other s action) s actions ↔
      Along step good s actions ∧ Along step other s actions := by
  induction actions generalizing s with
  | nil => simp [Along]
  | cons action actions ih => simp [Along,ih,and_assoc,and_left_comm]

/-- An invariant that every good step keeps holds after a run of good steps. -/
theorem run_preserves {invariant : State → Prop}
    (keeps : ∀ s action, invariant s → good s action → invariant (step s action))
    {s : State} {actions : List Action} (start : invariant s) (met : Along step good s actions) :
    invariant (run step s actions) := by
  induction actions generalizing s with
  | nil => exact start
  | cons action actions ih =>
    obtain ⟨first,rest⟩ := met
    exact ih (keeps s action start first) rest

theorem along_of_invariant {other : State → Action → Prop} {invariant : State → Prop}
    (gives : ∀ s action, invariant s → good s action → other s action)
    (keeps : ∀ s action, invariant s → good s action → invariant (step s action))
    {s : State} {actions : List Action} (start : invariant s) (met : Along step good s actions) :
    Along step other s actions := by
  induction actions generalizing s with
  | nil => trivial
  | cons action actions ih =>
    obtain ⟨first,rest⟩ := met
    exact ⟨gives s action start first,ih (keeps s action start first) rest⟩

theorem along_iff_of_invariant {other : State → Action → Prop} (invariant : State → Prop)
    (same : ∀ s action, invariant s → (good s action ↔ other s action))
    (keeps : ∀ s action, invariant s → good s action → invariant (step s action))
    {s : State} (start : invariant s) (actions : List Action) :
    Along step good s actions ↔ Along step other s actions := by
  constructor
  · intro met
    exact along_of_invariant (fun t action holds => (same t action holds).mp) keeps start met
  · intro met
    refine along_of_invariant (fun t action holds => (same t action holds).mpr) ?_ start met
    intro t action holds allowed
    exact keeps t action holds ((same t action holds).mpr allowed)

theorem along_of_forall {actions : List Action} (always : ∀ action ∈ actions, ∀ s, good s action) (s : State) :
    Along step good s actions := by
  induction actions generalizing s with
  | nil => trivial
  | cons action actions ih =>
    have rest := ih (fun other member => always other (List.mem_cons_of_mem action member)) (step s action)
    exact ⟨always action (List.mem_cons_self ..) s,rest⟩

theorem along_true (s : State) (actions : List Action) : Along step (fun _ _ => True) s actions :=
  along_of_forall (fun _ _ _ => trivial) s

theorem run_invariant {invariant : State → Prop} (keeps : ∀ s action, invariant s → invariant (step s action))
    {s : State} (actions : List Action) (start : invariant s) : invariant (run step s actions) :=
  run_preserves (fun s action holds _ => keeps s action holds) start (along_true s actions)

/-- Where an allowed step keeps a property exactly when it is good, the property
holds in every state of a run of allowed steps exactly when all of them are good. -/
theorem property_throughout_iff {property : State → Prop} {allowed : State → Action → Prop} (invariant : State → Prop)
    (same : ∀ s action, invariant s → property s → allowed s action → (property (step s action) ↔ good s action))
    (keeps : ∀ s action, invariant s → allowed s action → invariant (step s action))
    {s : State} (start : invariant s) (holds : property s) {actions : List Action} (met : Along step allowed s actions) :
    (∀ done, done <+: actions → property (run step s done)) ↔ Along step good s actions := by
  induction actions generalizing s with
  | nil => simp [Along,holds]
  | cons action actions ih =>
    obtain ⟨first,rest⟩ := met
    have kept := keeps s action start first
    constructor
    · intro throughout
      have next : property (step s action) := throughout [action] (by simp)
      refine ⟨(same s action start holds first).mp next,(ih kept next rest).mp ?_⟩
      intro done within
      exact throughout (action :: done) (by simpa using within)
    · rintro ⟨now,later⟩ done within
      have next := (same s action start holds first).mpr now
      cases done with
      | nil => exact holds
      | cons taken done =>
        obtain ⟨rfl,shorter⟩ := List.cons_prefix_cons.mp within
        exact (ih kept next rest).mpr later done shorter

section Epochs

variable {Event Subject : Type} [DecidableEq Subject]

/-- The events of one subject after the last of them that opens an epoch. -/
def since (subject : Event → Subject) (opens : Event → Bool) (events : List Event) (about : Subject) : List Event :=
  (events.filter (fun e => subject e = about)).rtakeWhile (fun e => !opens e)

variable {subject : Event → Subject} {opens : Event → Bool} {events : List Event} {event : Event} {about : Subject}

theorem since_other (other : about ≠ subject event) :
    since subject opens (events ++ [event]) about = since subject opens events about := by
  simp [since,Ne.symm other]

theorem since_opened (opened : opens event = true) :
    since subject opens (events ++ [event]) (subject event) = [] := by
  simp [since,opened]

theorem since_kept (kept : opens event = false) :
    since subject opens (events ++ [event]) (subject event) = since subject opens events (subject event) ++ [event] := by
  simp [since,kept]

end Epochs

end CloudLens.Library.Runs
