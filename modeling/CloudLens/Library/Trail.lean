import Mathlib.Data.List.Chain

/-! Trails: lists of entries that each leave one state and enter another.
Replaying a trail from a state follows its entries as long as each leaves the
state reached so far. A replay succeeds exactly when consecutive entries meet. -/
namespace CloudLens.Library.Trail

variable {Entry State : Type} [DecidableEq State] {source target : Entry → State}

def replay (source target : Entry → State) : State → List Entry → Option State
  | s, [] => some s
  | s, entry :: rest => if source entry = s then replay source target (target entry) rest else none

theorem replay_append (s : State) (first second : List Entry) :
    replay source target s (first ++ second) =
      (replay source target s first).bind (fun t => replay source target t second) := by
  induction first generalizing s with
  | nil => rfl
  | cons entry rest ih =>
    simp only [List.cons_append,replay]
    split
    · exact ih (target entry)
    · rfl

theorem replay_concat {s t : State} {entries : List Entry} {entry : Entry} (reached : replay source target s entries = some t)
    (leaves : source entry = t) : replay source target s (entries ++ [entry]) = some (target entry) := by
  rw [replay_append,reached]
  simp [replay,leaves]

theorem connected_of_replay {s t : State} {entries : List Entry} (reached : replay source target s entries = some t) :
    entries.IsChain (fun earlier later => target earlier = source later) := by
  induction entries generalizing s with
  | nil => exact List.isChain_nil
  | cons entry rest ih =>
    simp only [replay] at reached
    split at reached
    · have onwards := ih reached
      cases rest with
      | nil => exact List.isChain_singleton entry
      | cons next others =>
        refine List.isChain_cons_cons.mpr ⟨?_,onwards⟩
        simp only [replay] at reached
        split at reached
        · rename_i meets
          exact meets.symm
        · cases reached
    · cases reached

theorem last_of_replay {s t : State} {entries : List Entry} (reached : replay source target s entries = some t) :
    (entries.getLast?.map target).getD s = t := by
  induction entries generalizing s with
  | nil =>
    cases reached
    rfl
  | cons entry rest ih =>
    simp only [replay] at reached
    split at reached
    · have onwards := ih reached
      cases rest with
      | nil => exact onwards
      | cons next others =>
        rw [List.getLast?_cons_cons]
        cases ends : (next :: others).getLast? with
        | none => simp at ends
        | some last =>
          rw [ends] at onwards
          exact onwards
    · cases reached

end CloudLens.Library.Trail
