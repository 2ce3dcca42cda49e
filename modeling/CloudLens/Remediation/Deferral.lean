import CloudLens.Remediation.Moves

/-! Deferrals and their return. A deferred task carries a reason and an expiry, which only
the sweep takes away again; the sweep reads one page of the tenant's deferred tasks. -/
namespace CloudLens.Remediation
open Library Library.Runs
open Library.Calendar (Instant)

/-- A task is deferred for a reason and until an expiry, or has neither pending. -/
def Timely (state : TaskState) (reasonCode : Option String) (deferralExpiry : Option Instant) : Prop :=
  (state = .deferred → (∃ reason ∈ reasonCode, ¬blank reason) ∧ deferralExpiry ≠ none) ∧
    (state ≠ .deferred → deferralExpiry = none)

def DeferralsTimely (s : Store) : Prop :=
  ∀ id task, s.tasks.lookup id = some task → Timely task.state task.reasonCode task.deferralExpiry

structure SweepReturns (s : Store) (tenantId : String) (now : Instant) : Prop where
  returned : ∀ id task, (s.checkExpiredDeferrals tenantId now).1.tasks.lookup id = some task → task.tenantId = tenantId →
    task.state = .deferred → ¬task.expiredBy now
  reopened : ∀ task ∈ (s.checkExpiredDeferrals tenantId now).2,
    task.state = .open ∧ (s.checkExpiredDeferrals tenantId now).1.tasks.lookup task.id = some task
  untouched : ∀ id task, s.tasks.lookup id = some task → (∃ expiry ∈ task.deferralExpiry, now < expiry) →
    (s.checkExpiredDeferrals tenantId now).1.tasks.lookup id = some task

def SweepsReturn (s : Store) (call : String × Call) : Prop :=
  ∀ now, call.2 = .checkExpiredDeferrals now → SweepReturns s call.1 now

def PageSuffices (s : Store) (call : String × Call) : Prop :=
  ∀ now, call.2 = .checkExpiredDeferrals now → ∀ id task, s.tasks.lookup id = some task → task.tenantId = call.1 →
    task.state = .deferred → task.expiredBy now → task ∈ s.listTasks call.1 .deferred 500

/-- DEFERRED is not entered by hand, and left by the sweep alone. -/
def Operation.keepsDeferral : Operation → RemediationTask → Prop
  | .transitionState toState _ _, task => toState ≠ .deferred ∧ task.state ≠ .deferred
  | .markResolved _, task => task.state ≠ .deferred
  | .verifyTask _ _ _, task => task.state ≠ .deferred
  | .acceptRisk _ _ _ _, task => task.state ≠ .deferred
  | .closeDuplicate _ _ _, task => task.state ≠ .deferred
  | .assignTask _ _ _ _, _ => True
  | .deferTask _ _ _ _ _, _ => True
  | .reopenExpired _, _ => True
  | .reprioritise _ _ _, _ => True
  | .escalate, _ => True
  | .mirror, _ => True

section Revised

variable {s : Store} {tenantId : String} {task : RemediationTask} {operation : Operation} {revision : Revision}
variable {state toState : TaskState} {reasonCode reasonAfter : Option String} {deferralExpiry : Option Instant}

theorem timely_moved (before : Timely state reasonCode deferralExpiry) (entered : toState ≠ .deferred) :
    Timely toState reasonAfter deferralExpiry ↔ state ≠ .deferred := by
  constructor
  · rintro after rfl
    exact (before.1 rfl).2 (after.2 entered)
  · intro elsewhere
    exact ⟨fun deferred => absurd deferred entered,fun _ => before.2 elsewhere⟩

theorem timely_iff_keepsDeferral (admitted : operation.admits task)
    (before : Timely task.state task.reasonCode task.deferralExpiry) :
    Timely (operation.effect task).state (operation.effect task).reasonCode (operation.effect task).deferralExpiry ↔
      operation.keepsDeferral task := by
  cases operation with
  | transitionState toState actor reason =>
    by_cases entered : toState = .deferred
    · refine iff_of_false ?_ (fun kept => kept.1 entered)
      intro after
      subst entered
      have elsewhere : task.state ≠ .deferred := by
        intro already
        change _ ∈ validTransitions task.state at admitted
        rw [already] at admitted
        exact absurd admitted (by decide)
      exact (after.1 rfl).2 (before.2 elsewhere)
    · rw [Operation.keepsDeferral,and_iff_right entered]
      exact timely_moved before entered
  | assignTask assigneeId actor assigneeType reason =>
    apply iff_of_true _ trivial
    simp only [Operation.effect]
    split
    · rename_i unassigned
      refine (timely_moved before ?_).mpr ?_
      · rintro ⟨⟩
      · rw [unassigned]
        rintro ⟨⟩
    · exact before
  | markResolved actor => exact timely_moved before (by rintro ⟨⟩)
  | verifyTask actor verdict clock =>
    obtain _ | _ | _ := verdict
    · exact absurd rfl admitted
    · exact timely_moved before (by rintro ⟨⟩)
    · exact timely_moved before (by rintro ⟨⟩)
  | deferTask actor reason deferralExpiry approvalWorkflowId now =>
    refine iff_of_true ⟨?_,fun elsewhere => absurd rfl elsewhere⟩ trivial
    intro _
    refine ⟨⟨Text.stripped reason,rfl,?_⟩,Option.some_ne_none deferralExpiry⟩
    rw [blank_stripped]
    exact admitted.2.1
  | acceptRisk actor reason riskExpiry now => exact timely_moved before (by rintro ⟨⟩)
  | reopenExpired now => exact iff_of_true ⟨by rintro ⟨⟩,fun _ => rfl⟩ trivial
  | reprioritise newPriority actor reason => exact iff_of_true before trivial
  | closeDuplicate actor reason now => exact timely_moved before (by rintro ⟨⟩)
  | escalate => exact iff_of_true before trivial
  | mirror => exact iff_of_true before trivial

theorem timely_revised (found : s.getTask tenantId task.id = some task) (applied : operation.apply task = .ok revision)
    (timely : DeferralsTimely s) : DeferralsTimely (s.commit tenantId task revision) ↔ operation.keepsDeferral task := by
  have revises := revises_of_ok applied
  have state : revision.task.state = (operation.effect task).state := congrArg Effect.state revises.effect
  have reasonCode : revision.task.reasonCode = (operation.effect task).reasonCode := congrArg Effect.reasonCode revises.effect
  have expiry : revision.task.deferralExpiry = (operation.effect task).deferralExpiry :=
    congrArg Effect.deferralExpiry revises.effect
  rw [← timely_iff_keepsDeferral (admits_of_ok applied) (timely task.id task (getTask_eq_some.mp found).1),← state,← reasonCode,
    ← expiry]
  constructor
  · intro after
    exact after task.id { revision.task with tenantId := tenantId } (by rw [lookup_commit,revises.id,if_pos rfl])
  · intro now id stored lookup
    rw [lookup_commit] at lookup
    split at lookup
    · cases lookup
      exact now
    · exact timely id stored lookup

end Revised

section Sweep

variable {s : Store} {tenantId : String} {now : Instant}

theorem lookup_commits_other {revise : RemediationTask → Revision} (same : ∀ task, (revise task).task.id = task.id)
    {page : List RemediationTask} {id : String} (absent : ∀ task ∈ page, task.id ≠ id) :
    (page.foldl (fun current task => current.commit tenantId task (revise task)) s).tasks.lookup id = s.tasks.lookup id := by
  induction page generalizing s with
  | nil => rfl
  | cons task page ih =>
    rw [List.foldl_cons,ih (fun other member => absent other (List.mem_cons_of_mem task member)),lookup_commit,same,
      if_neg (Ne.symm (absent task (List.mem_cons_self ..)))]

theorem lookup_commits_self {revise : RemediationTask → Revision} (same : ∀ task, (revise task).task.id = task.id)
    {page : List RemediationTask} (distinct : (page.map RemediationTask.id).Nodup) {task : RemediationTask} (member : task ∈ page) :
    (page.foldl (fun current task => current.commit tenantId task (revise task)) s).tasks.lookup task.id =
      some { (revise task).task with tenantId := tenantId } := by
  induction page generalizing s with
  | nil => exact absurd member List.not_mem_nil
  | cons first page ih =>
    rw [List.map_cons,List.nodup_cons] at distinct
    rw [List.foldl_cons]
    obtain rfl | later := List.mem_cons.mp member
    · rw [lookup_commits_other same,lookup_commit,same,if_pos rfl]
      intro other inside equal
      exact distinct.1 (equal ▸ List.mem_map_of_mem inside)
    · exact ih distinct.2 later

theorem reopenExpired_id (task : RemediationTask) : task.reopenExpired.task.id = task.id := rfl

theorem expired_distinct (keyed : s.Keyed) : ((s.expiredDeferrals tenantId now).map RemediationTask.id).Nodup :=
  (listed_distinct keyed .deferred 500).sublist (List.filter_sublist.map RemediationTask.id)

theorem sweep_returns_iff (keyed : s.Keyed) : SweepReturns s tenantId now ↔ ∀ id task, s.tasks.lookup id = some task →
    task.tenantId = tenantId → task.state = .deferred → task.expiredBy now → task ∈ s.listTasks tenantId .deferred 500 := by
  constructor
  · intro sweep id task held owned deferred due
    by_contra missed
    have absent : ∀ other ∈ s.expiredDeferrals tenantId now, other.id ≠ id := by
      intro other member same
      have listed := (List.mem_filter.mp member).1
      have stored := (getTask_eq_some.mp (held_of_listed keyed listed).1).1
      rw [same,held] at stored
      cases stored
      exact missed listed
    have left : (s.checkExpiredDeferrals tenantId now).1.tasks.lookup id = some task := by
      rw [Store.checkExpiredDeferrals,lookup_commits_other reopenExpired_id absent]
      exact held
    exact sweep.returned id task left owned deferred due
  · intro suffices_page
    refine ⟨?_,?_,?_⟩
    · intro id task held owned deferred due
      by_cases met : ∃ other ∈ s.expiredDeferrals tenantId now, other.id = id
      · obtain ⟨other,member,rfl⟩ := met
        rw [Store.checkExpiredDeferrals,lookup_commits_self reopenExpired_id (expired_distinct keyed) member] at held
        cases held
        cases deferred
      · have absent : ∀ other ∈ s.expiredDeferrals tenantId now, other.id ≠ id := fun other member same => met ⟨other,member,same⟩
        rw [Store.checkExpiredDeferrals,lookup_commits_other reopenExpired_id absent] at held
        have listed := suffices_page id task held owned deferred due
        exact absent task (List.mem_filter.mpr ⟨listed,due⟩) (keyed id task held)
    · intro task member
      obtain ⟨read,selected,rfl⟩ := List.mem_map.mp member
      have owned := (getTask_eq_some.mp (held_of_listed keyed (List.mem_filter.mp selected).1).1).2
      refine ⟨rfl,?_⟩
      rw [Store.checkExpiredDeferrals,reopenExpired_id,lookup_commits_self reopenExpired_id (expired_distinct keyed) selected,
        ← owned]
      rfl
    · intro id task held running
      obtain ⟨expiry,pending,later⟩ := running
      rw [Store.checkExpiredDeferrals,lookup_commits_other reopenExpired_id]
      · exact held
      · intro other member same
        obtain ⟨listed,due⟩ := List.mem_filter.mp member
        have stored := (getTask_eq_some.mp (held_of_listed keyed listed).1).1
        rw [same,held] at stored
        cases stored
        rw [RemediationTask.expiredBy,Option.mem_def.mp pending,Option.any_some,decide_eq_true_eq] at due
        exact absurd due (not_le.mpr later)

theorem mem_listTasks_of_few {state : TaskState} {limit : ℕ} {id : String} {task : RemediationTask}
    (few : s.tasks.countWhere (fun _ other => other.tenantId = tenantId && other.state = state) ≤ limit)
    (held : s.tasks.lookup id = some task) (owned : task.tenantId = tenantId) (inState : task.state = state) :
    task ∈ s.listTasks tenantId state limit := by
  unfold Store.listTasks
  rw [List.take_of_length_le (by rw [List.length_insertionSort,List.length_map]; exact few),List.mem_insertionSort]
  have selected : (⟨id,task⟩ : Σ _ : String, RemediationTask) ∈
      s.tasks.selectWhere (fun _ other => other.tenantId = tenantId && other.state = state) :=
    Table.mem_selectWhere.mpr ⟨held,by simp [owned,inState]⟩
  exact List.mem_map_of_mem selected

end Sweep

/-- Every deferred task comes back, in every run of calls, exactly when DEFERRED is entered by a
deferral and left by the sweep alone, and no sweep's page is too short. -/
theorem deferrals_return_iff {calls : List (String × Call)} (fresh : Along Store.perform Store.Fresh Store.empty calls) :
    ((∀ done, done <+: Store.empty.trace calls → DeferralsTimely (run Store.step Store.empty done)) ∧
        Along Store.perform SweepsReturn Store.empty calls) ↔
      Along Store.step (Store.Meets Operation.keepsDeferral) Store.empty (Store.empty.trace calls) ∧
        Along Store.perform PageSuffices Store.empty calls := by
  refine and_congr ?_ ?_
  · apply throughout_iff (fun _ => True) trivial _ _ _ fresh
    · intro id task held
      simp [Store.empty] at held
    · intro s tenantId task opened _ _ _
      refine ⟨trivial,?_⟩
      intro timely id stored lookup
      rw [lookup_insertTask] at lookup
      split at lookup
      · cases lookup
        refine ⟨?_,fun _ => opened.deferralExpiry⟩
        intro deferred
        change task.state = .deferred at deferred
        obtain unassigned | assigned := opened.state
        · rw [unassigned] at deferred
          cases deferred
        · rw [assigned] at deferred
          cases deferred
      · exact timely id stored lookup
    · intro s tenantId task operation revision found applied _ _
      exact ⟨trivial,timely_revised found applied⟩
  · apply along_iff_of_invariant Store.Keyed _ _ keyed_empty calls
    · intro s call keyed
      exact forall_congr' (fun now => imp_congr_right (fun _ => sweep_returns_iff keyed))
    · intro s call keyed _
      rw [perform_eq_run keyed call]
      exact keyed_run keyed _

section Forgotten

def deferredWork : List (String × Call) :=
  [sampleTask, ("t", .deferTask "rem-task-1" "ada" "freeze" 10 none 2), ("t", .checkExpiredDeferrals 12)]

theorem deferredWork_returns :
    (∀ done, done <+: Store.empty.trace deferredWork → DeferralsTimely (run Store.step Store.empty done)) ∧
      Along Store.perform SweepsReturn Store.empty deferredWork := by
  have fresh : Along Store.perform Store.Fresh Store.empty deferredWork := ⟨rfl,trivial,trivial,trivial⟩
  refine (deferrals_return_iff fresh).mpr ⟨⟨trivial,fun _ _ _ => trivial,?_⟩,⟨nofun,nofun,?_,trivial⟩⟩
  · change Along _ _ _ (Store.moves _ _ ++ [])
    refine (along_append _ _ _).mpr ⟨along_of_forall ?_ _,trivial⟩
    intro move member s
    obtain ⟨task,_,rfl⟩ := List.mem_map.mp member
    exact fun _ _ _ => trivial
  · intro now sweep id task held owned deferred _
    exact mem_listTasks_of_few (by decide +kernel) held owned deferred

def parkedWork : List (String × Call) := [sampleTask, ("t", .transitionState "rem-task-1" .deferred "ada" none)]

theorem parkedWork_forgotten : ¬∀ calls : List (String × Call), Along Store.perform Store.Fresh Store.empty calls →
    (∀ done, done <+: Store.empty.trace calls → DeferralsTimely (run Store.step Store.empty done)) ∧
      Along Store.perform SweepsReturn Store.empty calls := by
  intro always
  have timely := (always parkedWork ⟨rfl,trivial,trivial⟩).1 _ (List.prefix_refl _)
  have parked : ((run Store.step Store.empty (Store.empty.trace parkedWork)).tasks.lookup "rem-task-1").map
      (fun task => (task.state, task.deferralExpiry)) = some (.deferred, none) := by decide +kernel
  obtain ⟨task,held,shown⟩ := Option.map_eq_some_iff.mp parked
  rw [Prod.mk.injEq] at shown
  exact ((timely "rem-task-1" task held).1 shown.1).2 shown.2

end Forgotten
end CloudLens.Remediation
