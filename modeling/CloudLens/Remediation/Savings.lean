import CloudLens.Remediation.Moves

/-! The ledger of realised savings. A verification that clears a task with an estimate adds
one entry, whatever state it finds the task in; the report sums the entries in whole cents. -/
namespace CloudLens.Remediation
open Library Library.Runs

structure SavingReport where
  totalRealisedSaving : ℤ
  savingsByPeriod : Dict String ℤ
  savingsByTeam : Dict String ℤ
  savingsByCategory : Dict TaskCategory ℤ
  savingsByMethod : Dict RealisedSavingMethod ℤ
  entriesCount : ℕ
  entries : List RealisedSavingEntry

/-- The empty text filters nothing. -/
def withinPeriods (startPeriod endPeriod period : Option String) (entry : RealisedSavingEntry) : Bool :=
  (orElse period none).all (fun p => entry.period = p) &&
    (orElse startPeriod none).all (fun p => p ≤ entry.period) &&
    (orElse endPeriod none).all (fun p => entry.period ≤ p)

def Store.getSavingsReport (s : Store) (tenantId : String) (startPeriod endPeriod period : Option String) : SavingReport :=
  let entries := (s.listSavingEntries tenantId).filter (withinPeriods startPeriod endPeriod period)
  { totalRealisedSaving := (entries.map RealisedSavingEntry.realisedAmount).sum
    savingsByPeriod := Dict.tally RealisedSavingEntry.period RealisedSavingEntry.realisedAmount entries
    savingsByTeam := Dict.tally RealisedSavingEntry.teamId RealisedSavingEntry.realisedAmount entries
    savingsByCategory := Dict.tally RealisedSavingEntry.category RealisedSavingEntry.realisedAmount entries
    savingsByMethod := Dict.tally RealisedSavingEntry.calculationMethod RealisedSavingEntry.realisedAmount entries
    entriesCount := entries.length
    entries := entries }

structure SavingReport.Balanced (report : SavingReport) : Prop where
  period : report.savingsByPeriod.values.sum = report.totalRealisedSaving
  team : report.savingsByTeam.values.sum = report.totalRealisedSaving
  category : report.savingsByCategory.values.sum = report.totalRealisedSaving
  method : report.savingsByMethod.values.sum = report.totalRealisedSaving

theorem report_balanced (s : Store) (tenantId : String) (startPeriod endPeriod period : Option String) :
    (s.getSavingsReport tenantId startPeriod endPeriod period).Balanced :=
  ⟨Dict.sum_tally _ _ _,Dict.sum_tally _ _ _,Dict.sum_tally _ _ _,Dict.sum_tally _ _ _⟩

def Change.closesCleared (change : Change) : Bool := change.cause = .cleared && change.fromState ≠ some .closed

def Store.entriesOf (s : Store) (id : String) : List RealisedSavingEntry := s.ledger.filter (fun entry => entry.taskId = id)

def Store.clearedClosures (s : Store) (id : String) : ℕ :=
  s.journal.countP (fun change => change.taskId = id && change.closesCleared)

structure CountedOnce (s : Store) : Prop where
  once : ∀ id, (s.entriesOf id).length ≤ s.clearedClosures id
  realised : ∀ id task, s.tasks.lookup id = some task →
    task.realisedSaving = (s.entriesOf id).getLast?.map RealisedSavingEntry.realisedAmount
  report : ∀ tenantId startPeriod endPeriod period, (s.getSavingsReport tenantId startPeriod endPeriod period).Balanced

/-- A verification that clears a task with something to save finds it not closed yet. -/
def Operation.savesOnce : Operation → RemediationTask → Prop
  | .verifyTask _ (some true) _, task => 0 < task.estimatedSaving.getD 0 → task.state ≠ .closed
  | _, _ => True

structure Booked (s : Store) : Prop where
  absent : ∀ id, s.tasks.lookup id = none → s.entriesOf id = [] ∧ s.clearedClosures id = 0
  worthwhile : ∀ id task, s.tasks.lookup id = some task → 0 < task.estimatedSaving.getD 0 →
    s.clearedClosures id ≤ (s.entriesOf id).length
  realised : ∀ id task, s.tasks.lookup id = some task →
    task.realisedSaving = (s.entriesOf id).getLast?.map RealisedSavingEntry.realisedAmount

section Revised

variable {s : Store} {tenantId id : String} {task : RemediationTask} {operation : Operation} {revision : Revision}

theorem savesOnce_iff : operation.savesOnce task ↔ ((operation.effect task).amount.isSome → task.state ≠ .closed) := by
  cases operation with
  | verifyTask actor verdict clock =>
    obtain _ | _ | _ := verdict
    · simp [Operation.savesOnce,Operation.effect,RemediationTask.noted]
    · simp [Operation.savesOnce,Operation.effect,RemediationTask.noted]
    · simp only [Operation.savesOnce,Operation.effect]
      split <;> simp [*]
  | _ => simp [Operation.savesOnce,Operation.effect,RemediationTask.noted]

theorem amount_isSome_iff : (operation.effect task).amount.isSome ↔
    (operation.effect task).cause = .cleared ∧ 0 < task.estimatedSaving.getD 0 := by
  cases operation with
  | verifyTask actor verdict clock =>
    obtain _ | _ | _ := verdict
    · simp [Operation.effect,RemediationTask.noted]
    · simp [Operation.effect,RemediationTask.noted]
    · simp only [Operation.effect,RemediationTask.noted]
      split <;> simp [*]
  | _ => simp [Operation.effect,RemediationTask.noted]

theorem entriesOf_commit (applied : operation.apply task = .ok revision) :
    (s.commit tenantId task revision).entriesOf id = s.entriesOf id ++ if id = task.id then revision.saving.toList else [] := by
  unfold Store.entriesOf
  rw [commit_ledger,List.filter_append]
  congr 1
  have named := (revises_of_ok applied).saving
  cases saving : revision.saving with
  | none => simp
  | some entry =>
    have about := named entry saving
    by_cases same : id = task.id
    · simp [same,about]
    · simp [same,about,Ne.symm same]

theorem clearedClosures_commit (applied : operation.apply task = .ok revision) :
    (s.commit tenantId task revision).clearedClosures id = s.clearedClosures id +
      if id = task.id ∧ (operation.effect task).cause = .cleared ∧ task.state ≠ .closed then 1 else 0 := by
  unfold Store.clearedClosures
  rw [commit_line applied,List.countP_append,List.countP_singleton]
  congr 2
  simp only [Change.closesCleared,Effect.change,@eq_comm String id task.id,Bool.and_eq_true,decide_eq_true_iff,ne_eq,
    Option.some.injEq]
  exact propext (and_congr decide_eq_true_iff (and_congr_left' decide_eq_true_iff))

theorem length_entriesOf_commit (applied : operation.apply task = .ok revision) :
    ((s.commit tenantId task revision).entriesOf id).length = (s.entriesOf id).length +
      if id = task.id ∧ (operation.effect task).amount.isSome then 1 else 0 := by
  have amount : revision.saving.map RealisedSavingEntry.realisedAmount = (operation.effect task).amount :=
    congrArg Effect.amount (revises_of_ok applied).effect
  rw [entriesOf_commit applied,List.length_append,← amount,Option.isSome_map]
  by_cases same : id = task.id
  · cases revision.saving <;> simp [same]
  · simp [same]

theorem realised_revised (found : s.getTask tenantId task.id = some task) (applied : operation.apply task = .ok revision)
    (booked : Booked s) : ∀ id stored, (s.commit tenantId task revision).tasks.lookup id = some stored →
      stored.realisedSaving = ((s.commit tenantId task revision).entriesOf id).getLast?.map RealisedSavingEntry.realisedAmount := by
  have revises := revises_of_ok applied
  intro id stored lookup
  rw [lookup_commit,revises.id] at lookup
  rw [entriesOf_commit applied]
  split at lookup
  · rename_i same
    subst same
    cases lookup
    change revision.task.realisedSaving = _
    have before := booked.realised task.id task (getTask_eq_some.mp found).1
    rw [revises.realisedSaving,before,if_pos rfl]
    cases revision.saving with
    | none => simp
    | some entry => simp
  · rename_i other
    rw [if_neg other,List.append_nil]
    exact booked.realised id stored lookup

theorem booked_revised (found : s.getTask tenantId task.id = some task) (applied : operation.apply task = .ok revision)
    (booked : Booked s) : Booked (s.commit tenantId task revision) := by
  have revises := revises_of_ok applied
  refine ⟨?_,?_,realised_revised found applied booked⟩
  · intro id missing
    rw [lookup_commit,revises.id] at missing
    split at missing
    · cases missing
    · rename_i other
      rw [entriesOf_commit applied,if_neg other,List.append_nil,clearedClosures_commit applied,if_neg (fun both => other both.1)]
      exact booked.absent id missing
  · intro id stored lookup worth
    rw [lookup_commit,revises.id] at lookup
    rw [clearedClosures_commit applied,length_entriesOf_commit applied]
    split at lookup
    · rename_i same
      subst same
      cases lookup
      change 0 < revision.task.estimatedSaving.getD 0 at worth
      rw [revises.estimatedSaving] at worth
      have before := booked.worthwhile task.id task (getTask_eq_some.mp found).1 worth
      simp only [amount_isSome_iff,worth,true_and,and_true]
      split
      · rename_i closes
        rw [if_pos closes.1]
        omega
      · omega
    · rename_i other
      simp only [other,false_and,if_false]
      exact booked.worthwhile id stored lookup worth

theorem countedOnce_revised (found : s.getTask tenantId task.id = some task) (applied : operation.apply task = .ok revision)
    (booked : Booked s) (counted : CountedOnce s) : CountedOnce (s.commit tenantId task revision) ↔ operation.savesOnce task := by
  rw [savesOnce_iff]
  constructor
  · intro after saved closed
    have worth := (amount_isSome_iff.mp saved).2
    have before := booked.worthwhile task.id task (getTask_eq_some.mp found).1 worth
    have once := after.once task.id
    rw [clearedClosures_commit applied,length_entriesOf_commit applied,if_pos ⟨rfl,saved⟩,
      if_neg (fun closes => closes.2.2 closed)] at once
    omega
  · intro fresh
    refine ⟨?_,realised_revised found applied booked,report_balanced _⟩
    intro id
    have before := counted.once id
    rw [clearedClosures_commit applied,length_entriesOf_commit applied]
    by_cases added : id = task.id ∧ (operation.effect task).amount.isSome
    · rw [if_pos added,if_pos ⟨added.1,(amount_isSome_iff.mp added.2).1,fresh added.2⟩]
      omega
    · rw [if_neg added]
      omega

end Revised

section Inserted

variable {s : Store} {tenantId : String} {task : RemediationTask}

theorem entriesOf_insert (id : String) : (s.insertTask tenantId task).entriesOf id = s.entriesOf id := rfl

theorem clearedClosures_insert (id : String) : (s.insertTask tenantId task).clearedClosures id = s.clearedClosures id := by
  unfold Store.clearedClosures
  rw [insertTask_journal,List.countP_append]
  simp [Change.closesCleared]

theorem booked_inserted (opened : Store.Opened task) (missing : s.tasks.lookup task.id = none) (booked : Booked s) :
    Booked (s.insertTask tenantId task) := by
  obtain ⟨unlisted,unclosed⟩ := booked.absent task.id missing
  refine ⟨?_,?_,?_⟩
  · intro id absent
    rw [lookup_insertTask] at absent
    split at absent
    · cases absent
    · rw [entriesOf_insert,clearedClosures_insert]
      exact booked.absent id absent
  · intro id stored lookup worth
    rw [lookup_insertTask] at lookup
    rw [entriesOf_insert,clearedClosures_insert]
    split at lookup
    · rename_i same
      rw [same,unclosed]
      exact Nat.zero_le _
    · exact booked.worthwhile id stored lookup worth
  · intro id stored lookup
    rw [lookup_insertTask] at lookup
    rw [entriesOf_insert]
    split at lookup
    · rename_i same
      cases lookup
      rw [same,unlisted]
      exact opened.realisedSaving
    · exact booked.realised id stored lookup

end Inserted

/-- The ledger counts each remediation once, in every store that a run of calls leaves, exactly
when no task with something to save is cleared once it is closed. -/
theorem savings_counted_once_iff {calls : List (String × Call)} (fresh : Along Store.perform Store.Fresh Store.empty calls) :
    (∀ done, done <+: Store.empty.trace calls → CountedOnce (run Store.step Store.empty done)) ↔
      Along Store.step (Store.Meets Operation.savesOnce) Store.empty (Store.empty.trace calls) := by
  have nothing : ∀ id (task : RemediationTask), Store.empty.tasks.lookup id ≠ some task := by simp [Store.empty]
  apply throughout_iff Booked _ _ _ _ fresh
  · exact ⟨fun _ _ => ⟨rfl,rfl⟩,fun id task held => absurd held (nothing id task),fun id task held => absurd held (nothing id task)⟩
  · exact ⟨fun _ => Nat.le_refl 0,fun id task held => absurd held (nothing id task),report_balanced _⟩
  · intro s tenantId task opened missing _ booked
    have after : Booked (s.insertTask tenantId task) := booked_inserted opened missing booked
    refine ⟨after,fun counted => ⟨?_,after.realised,report_balanced _⟩⟩
    intro id
    rw [entriesOf_insert,clearedClosures_insert]
    exact counted.once id
  · intro s tenantId task operation revision found applied _ booked
    exact ⟨booked_revised found applied booked,countedOnce_revised found applied booked⟩

section Twice

def clearedOnce : List (String × Call) := [sampleTask, ("t", .verifyTask "rem-task-1" "ada" (some true) sampleClock)]

theorem clearedOnce_counted : CountedOnce (run Store.step Store.empty (Store.empty.trace clearedOnce)) := by
  have fresh : Along Store.perform Store.Fresh Store.empty clearedOnce := ⟨rfl,trivial,trivial⟩
  refine (savings_counted_once_iff fresh).mpr ⟨trivial,?_,trivial⟩ _ (List.prefix_refl _)
  refine meets_of_state .assigned (by decide +kernel) ?_
  intro task assigned _
  rw [assigned]
  decide

def clearedTwice : List (String × Call) := clearedOnce ++ [("t", .verifyTask "rem-task-1" "ada" (some true) sampleClock)]

theorem clearedTwice_counted_twice : ¬∀ calls : List (String × Call), Along Store.perform Store.Fresh Store.empty calls →
    ∀ done, done <+: Store.empty.trace calls → CountedOnce (run Store.step Store.empty done) := by
  intro always
  have counted := always clearedTwice ⟨rfl,trivial,trivial,trivial⟩ _ (List.prefix_refl _)
  have entries : ((run Store.step Store.empty (Store.empty.trace clearedTwice)).entriesOf "rem-task-1").length = 2 := by
    decide +kernel
  have closures : (run Store.step Store.empty (Store.empty.trace clearedTwice)).clearedClosures "rem-task-1" = 1 := by
    decide +kernel
  have once := counted.once "rem-task-1"
  omega

end Twice
end CloudLens.Remediation
