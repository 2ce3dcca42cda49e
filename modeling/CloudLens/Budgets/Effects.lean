import CloudLens.Budgets.Model

/-! The operations on budgets as steps: each one that takes effect leaves an
event, and the event says what was read of the budget and how it was written. -/
namespace CloudLens.Budgets
open Library
open Workflows (Payload WorkflowRequest)

inductive BudgetEvent where
  | created (budgetId : String)
  | imported (budgetId : String)
  | amended (budgetId : String)
  | approved (budgetId : String)
  | rejected (budgetId : String)
  | applied (budgetId : String) (submitted : Option ℚ)
  deriving DecidableEq

namespace BudgetEvent

def budgetId : BudgetEvent → String
  | created id | imported id | amended id | approved id | rejected id | applied id _ => id

def setsCeiling : BudgetEvent → Bool
  | created _ | imported _ | amended _ => true
  | approved _ | rejected _ | applied _ _ => false

def approves (amount : ℚ) : BudgetEvent → Prop
  | approved _ => True
  | applied _ submitted => submitted = some amount
  | created _ | imported _ | amended _ | rejected _ => False

instance (amount : ℚ) : DecidablePred (approves amount)
  | approved _ => isTrue trivial
  | applied _ submitted => inferInstanceAs (Decidable (submitted = some amount))
  | created _ | imported _ | amended _ | rejected _ => isFalse not_false

end BudgetEvent

inductive BudgetOp where
  | create (call : Call) (request : BudgetCreateRequest)
  | importNative (call : Call) (request : NativeBudgetImportRequest)
  | amend (call : Call) (budgetId : String) (request : BudgetAmendRequest)
  | approve (call : Call) (budgetId : String) (request : BudgetDecisionRequest)
  | reject (call : Call) (budgetId : String) (request : BudgetDecisionRequest)
  | apply (call : Call) (request : WorkflowRequest)

def reported {Answer : Type} (event : Answer → BudgetEvent) (served : BudgetStore × Except BudgetError Answer) :
    BudgetStore × List BudgetEvent :=
  (served.1,
    match served.2 with
    | .ok answer => [event answer]
    | .error _ => [])

def serve (limit : ℚ) (s : BudgetStore) : BudgetOp → BudgetStore × List BudgetEvent
  | .create call request => reported (fun budget => .created budget.id) (createBudget limit call request s)
  | .importNative call request => reported (fun budget => .imported budget.id) (importNativeBudget call request s)
  | .amend call id request => reported (fun _ => .amended id) (amendBudget limit call id request s)
  | .approve call id request => reported (fun _ => .approved id) (approveBudget call id request s)
  | .reject call id request => reported (fun _ => .rejected id) (rejectBudget call id request s)
  | .apply call request =>
    reported (fun _ => .applied request.subjectEntity.entityId request.financialImpact) (applyApproval call request s)

def stored (s : BudgetStore) (id : String) : Option BudgetEntity := (s.budgets.lookup id).map Owned.entity

def CommentAccepted (payload : Payload) : Prop :=
  ∃ comment, applierComment payload = some comment ∧ 5 ≤ comment.length

def Keyed (s : BudgetStore) : Prop := ∀ id budget, stored s id = some budget → budget.id = id

inductive Effect (limit : ℚ) (before : Option BudgetEntity) : BudgetEvent → BudgetEntity → Prop where
  | created {budget : BudgetEntity} (logical : budget.isNative = false)
      (held : limit < budget.amount → budget.approvalStatus = .pendingApproval) :
      Effect limit before (.created budget.id) budget
  | imported {budget : BudgetEntity} (native : budget.isNative = true) :
      Effect limit before (.imported budget.id) budget
  | amended {budget : BudgetEntity} (logical : budget.isNative = false)
      (held : limit < budget.amount → budget.approvalStatus = .pendingApproval) :
      Effect limit before (.amended budget.id) budget
  | approved {old budget : BudgetEntity} (found : before = some old) (pending : old.approvalStatus = .pendingApproval)
      (logical : old.isNative = false) (native : budget.isNative = old.isNative) (active : budget.isActive = true) :
      Effect limit before (.approved budget.id) budget
  | rejected {budget : BudgetEntity} (logical : budget.isNative = false) (status : budget.approvalStatus = .rejected) :
      Effect limit before (.rejected budget.id) budget
  | applied {old budget : BudgetEntity} {submitted : Option ℚ} (found : before = some old)
      (native : budget.isNative = old.isNative) (amount : budget.amount = old.amount) (active : budget.isActive = true) :
      Effect limit before (.applied budget.id submitted) budget

def Wrote (before after : BudgetStore) (budget : BudgetEntity) : Prop :=
  stored after budget.id = some budget ∧ ∀ other, other ≠ budget.id → stored after other = stored before other

theorem saveBudget_wrote {call : Call} {budget : BudgetEntity} {s saved : BudgetStore}
    (ok : saveBudget call budget s = .ok saved) : Wrote s saved budget := by
  unfold saveBudget at ok
  split at ok
  · cases ok
  · rename_i budgets written
    cases ok
    obtain ⟨self,others,_⟩ := saveOwned_ok written
    refine ⟨?_,?_⟩
    · simp [stored,self]
    · intro other distinct
      simp [stored,others other distinct]

theorem getBudget_ok {call : Call} {id : String} {s : BudgetStore} {budget : BudgetEntity}
    (ok : getBudget call id s = .ok budget) : getOwned call.tc.tenantId id s.budgets = some budget := by
  unfold getBudget at ok
  split at ok
  · cases ok
  · rename_i found
    cases ok
    exact found

theorem stored_of_getOwned {tenant id : String} {s : BudgetStore} {budget : BudgetEntity}
    (found : getOwned tenant id s.budgets = some budget) : stored s id = some budget := by
  simp [stored,getOwned_eq_some_iff.mp found]

theorem wrote_submitApproval {before after : BudgetStore} {budget : BudgetEntity} (payload : Payload)
    (previousValues : Option Payload) (wrote : Wrote before after budget) :
    Wrote before (submitApproval budget payload previousValues after) budget := by
  unfold submitApproval
  split <;> exact wrote

theorem operationalStatus_active (budget : BudgetEntity) {effective today : Calendar.Date}
    (status : budget.approvalStatus = operationalStatus effective today) : budget.isActive = true := by
  unfold operationalStatus at status
  split at status <;> simp [BudgetEntity.isActive,status]

theorem createBudget_ok {limit : ℚ} {call : Call} {request : BudgetCreateRequest} {s after : BudgetStore}
    {budget : BudgetEntity} (ok : createBudget limit call request s = (after, .ok budget)) :
    Wrote s after budget ∧ ∀ before, Effect limit before (.created budget.id) budget := by
  unfold createBudget at ok
  split at ok
  · rename_i positive
    split at ok
    · rename_i dated
      simp only at ok
      split at ok
      · cases ok
      · rename_i saved written
        cases ok
        refine ⟨wrote_submitApproval _ _ (saveBudget_wrote written),fun before => .created rfl ?_⟩
        intro above
        exact if_pos above
    · cases ok
  · cases ok

theorem importNativeBudget_ok {call : Call} {request : NativeBudgetImportRequest} {s after : BudgetStore}
    {budget : BudgetEntity} (ok : importNativeBudget call request s = (after, .ok budget)) :
    budget.isNative = true ∧ Wrote s after budget := by
  unfold importNativeBudget at ok
  split at ok
  · split at ok
    · cases ok
    · rename_i written
      cases ok
      exact ⟨rfl,saveBudget_wrote written⟩
  · cases ok

theorem amendBudget_ok {limit : ℚ} {call : Call} {id : String} {request : BudgetAmendRequest} {s after : BudgetStore}
    {budget : BudgetEntity} (keyed : Keyed s) (ok : amendBudget limit call id request s = (after, .ok budget)) :
    budget.id = id ∧ Wrote s after budget ∧ ∀ before, Effect limit before (.amended budget.id) budget := by
  unfold amendBudget at ok
  split at ok
  · cases ok
  · rename_i old read
    have same : old.id = id := keyed id old (stored_of_getOwned (getBudget_ok read))
    split at ok
    · cases ok
    · rename_i mutable
      split at ok
      · simp only at ok
        split at ok
        · cases ok
        · rename_i saved written
          cases ok
          refine ⟨same,wrote_submitApproval _ _ (saveBudget_wrote written),fun before => .amended ?_ ?_⟩
          · exact Bool.eq_false_iff.mpr (fun native => mutable (Or.inr native))
          · intro above
            exact if_pos above
      · cases ok

theorem decideBudget_ok {call : Call} {id : String} {decided : BudgetEntity → BudgetEntity} {s after : BudgetStore}
    {budget : BudgetEntity} (ok : decideBudget call id decided s = (after, .ok budget)) :
    ∃ old, stored s id = some old ∧ old.isNative = false ∧ old.approvalStatus = .pendingApproval ∧
      budget = decided old ∧ Wrote s after budget := by
  unfold decideBudget at ok
  split at ok
  · cases ok
  · rename_i old read
    split at ok
    · cases ok
    · rename_i mutable
      split at ok
      · cases ok
      · rename_i pending
        split at ok
        · cases ok
        · rename_i saved written
          cases ok
          refine ⟨old,stored_of_getOwned (getBudget_ok read),?_,not_not.mp pending,rfl,saveBudget_wrote written⟩
          exact Bool.eq_false_iff.mpr (fun native => mutable (Or.inr native))

theorem applyApproval_ok {call : Call} {request : WorkflowRequest} {s after : BudgetStore}
    (ok : applyApproval call request s = (after, .ok ())) :
    ∃ old budget, stored s request.subjectEntity.entityId = some old ∧ budget.id = old.id ∧
      budget.isNative = old.isNative ∧ budget.amount = old.amount ∧ budget.isActive = true ∧ Wrote s after budget := by
  unfold applyApproval at ok
  split at ok
  · cases ok
  · rename_i old found
    split at ok
    · cases ok
    · rename_i comment _
      split at ok
      · rename_i long
        split at ok
        · cases ok
        · rename_i saved written
          cases ok
          exact ⟨old,approvedBudget call (applierActor request) comment long old,stored_of_getOwned found,rfl,rfl,rfl,
            operationalStatus_active _ rfl,saveBudget_wrote written⟩
      · cases ok

def Atomic {Answer : Type} (s : BudgetStore) (served : BudgetStore × Except BudgetError Answer) : Prop :=
  ∀ e, served.2 = .error e → served.1 = s

theorem createBudget_atomic (limit : ℚ) (call : Call) (request : BudgetCreateRequest) (s : BudgetStore) :
    Atomic s (createBudget limit call request s) := by
  intro e failed
  unfold createBudget at failed ⊢
  split
  · split
    · simp only
      split <;> simp_all
    · rfl
  · rfl

theorem importNativeBudget_atomic (call : Call) (request : NativeBudgetImportRequest) (s : BudgetStore) :
    Atomic s (importNativeBudget call request s) := by
  intro e failed
  unfold importNativeBudget at failed ⊢
  split
  · split <;> simp_all
  · rfl

theorem amendBudget_atomic (limit : ℚ) (call : Call) (id : String) (request : BudgetAmendRequest) (s : BudgetStore) :
    Atomic s (amendBudget limit call id request s) := by
  intro e failed
  unfold amendBudget at failed ⊢
  split
  · rfl
  · split
    · rfl
    · split
      · simp only
        split <;> simp_all
      · rfl

theorem decideBudget_atomic (call : Call) (id : String) (decided : BudgetEntity → BudgetEntity) (s : BudgetStore) :
    Atomic s (decideBudget call id decided s) := by
  intro e failed
  unfold decideBudget at failed ⊢
  split
  · rfl
  · split
    · rfl
    · split
      · rfl
      · split <;> simp_all

theorem applyApproval_atomic (call : Call) (request : WorkflowRequest) (s : BudgetStore) :
    Atomic s (applyApproval call request s) := by
  intro e failed
  unfold applyApproval at failed ⊢
  split
  · rfl
  · split
    · rfl
    · split
      · split <;> simp_all
      · rfl

def Took (limit : ℚ) (s : BudgetStore) (served : BudgetStore × List BudgetEvent) : Prop :=
  served.1 = s ∧ served.2 = [] ∨ ∃ event budget, served.2 = [event] ∧ event.budgetId = budget.id ∧
    Effect limit (stored s budget.id) event budget ∧ Wrote s served.1 budget

theorem reported_took {Answer : Type} {limit : ℚ} {s : BudgetStore} {event : Answer → BudgetEvent}
    {served : BudgetStore × Except BudgetError Answer} (atomic : Atomic s served)
    (effect : ∀ after answer, served = (after, .ok answer) → ∃ budget, (event answer).budgetId = budget.id ∧
      Effect limit (stored s budget.id) (event answer) budget ∧ Wrote s after budget) :
    Took limit s (reported event served) := by
  obtain ⟨after,answer⟩ := served
  cases answer with
  | error e => exact Or.inl ⟨atomic e rfl,rfl⟩
  | ok answer =>
    obtain ⟨budget,about,shape,wrote⟩ := effect after answer rfl
    exact Or.inr ⟨event answer,budget,rfl,about,shape,wrote⟩

theorem serve_took (limit : ℚ) {s : BudgetStore} (keyed : Keyed s) (op : BudgetOp) : Took limit s (serve limit s op) := by
  cases op with
  | create call request =>
    refine reported_took (createBudget_atomic limit call request s) ?_
    intro after budget ok
    obtain ⟨wrote,shape⟩ := createBudget_ok ok
    exact ⟨budget,rfl,shape _,wrote⟩
  | importNative call request =>
    refine reported_took (importNativeBudget_atomic call request s) ?_
    intro after budget ok
    obtain ⟨native,wrote⟩ := importNativeBudget_ok ok
    exact ⟨budget,rfl,.imported native,wrote⟩
  | amend call id request =>
    refine reported_took (amendBudget_atomic limit call id request s) ?_
    intro after budget ok
    obtain ⟨rfl,wrote,shape⟩ := amendBudget_ok keyed ok
    exact ⟨budget,rfl,shape _,wrote⟩
  | approve call id request =>
    refine reported_took (decideBudget_atomic call id _ s) ?_
    intro after budget ok
    obtain ⟨old,found,logical,pending,rfl,wrote⟩ := decideBudget_ok ok
    have same : old.id = id := keyed id old found
    subst same
    let approved := approvedBudget call (call.actorId "approver") request.comment request.long old
    have active : approved.isActive = true := operationalStatus_active _ rfl
    have shape : Effect limit (stored s approved.id) (.approved approved.id) approved :=
      .approved found pending logical rfl active
    exact ⟨approved,rfl,shape,wrote⟩
  | reject call id request =>
    refine reported_took (decideBudget_atomic call id _ s) ?_
    intro after budget ok
    obtain ⟨old,found,logical,_,rfl,wrote⟩ := decideBudget_ok ok
    have same : old.id = id := keyed id old found
    subst same
    let rejected := rejectedBudget call request old
    have shape : Effect limit (stored s rejected.id) (.rejected rejected.id) rejected := .rejected logical rfl
    exact ⟨rejected,rfl,shape,wrote⟩
  | apply call request =>
    refine reported_took (applyApproval_atomic call request s) ?_
    intro after _ ok
    obtain ⟨old,budget,found,id,native,amount,active,wrote⟩ := applyApproval_ok ok
    have same : budget.id = request.subjectEntity.entityId := id.trans (keyed _ old found)
    rw [← same] at found ⊢
    exact ⟨budget,rfl,.applied found native amount active,wrote⟩

theorem serve_applied {limit : ℚ} {s : BudgetStore} {op : BudgetOp} {id : String} {submitted : Option ℚ}
    (left : (serve limit s op).2 = [.applied id submitted]) :
    ∃ call request old, op = .apply call request ∧ id = request.subjectEntity.entityId ∧
      submitted = request.financialImpact ∧ getOwned call.tc.tenantId id s.budgets = some old ∧
      CommentAccepted request.payload := by
  have other : ∀ {Answer : Type} {event : Answer → BudgetEvent} {served : BudgetStore × Except BudgetError Answer},
      (∀ answer, event answer ≠ .applied id submitted) → (reported event served).2 ≠ [.applied id submitted] := by
    intro Answer event served distinct same
    unfold reported at same
    cases answered : served.2 with
    | error e => simp [answered] at same
    | ok answer => exact distinct answer (by simpa [answered] using same)
  cases op with
  | create | importNative | amend | approve | reject =>
    exact absurd left (other (fun _ => by simp))
  | apply call request =>
    simp only [serve,reported] at left
    cases answered : (applyApproval call request s).2 with
    | error e => simp [answered] at left
    | ok _ =>
      rw [answered] at left
      cases left
      refine ⟨call,request,?_⟩
      unfold applyApproval at answered
      split at answered
      · cases answered
      · rename_i old found
        split at answered
        · cases answered
        · rename_i comment given
          split at answered
          · rename_i long
            exact ⟨old,rfl,rfl,rfl,found,comment,given,long⟩
          · cases answered

theorem applyApproval_accepted {call : Call} {request : WorkflowRequest} {s : BudgetStore} {old : BudgetEntity}
    (keyed : Keyed s) (found : getOwned call.tc.tenantId request.subjectEntity.entityId s.budgets = some old)
    (accepted : CommentAccepted request.payload) :
    ∃ after budget, applyApproval call request s = (after, .ok ()) ∧ budget.isNative = old.isNative ∧
      budget.amount = old.amount ∧ budget.isActive = true ∧
      stored after request.subjectEntity.entityId = some budget := by
  obtain ⟨comment,given,long⟩ := accepted
  have same : old.id = request.subjectEntity.entityId := keyed _ old (stored_of_getOwned found)
  let budget := approvedBudget call (applierActor request) comment long old
  have own : ∀ row, s.budgets.lookup budget.id = some row → row.tenantId = call.tc.tenantId := by
    intro row present
    have kept : s.budgets.lookup budget.id = some ⟨call.tc.tenantId,old⟩ := same ▸ getOwned_eq_some_iff.mp found
    cases present.symm.trans kept
    rfl
  obtain ⟨budgets,saved⟩ : ∃ after, saveOwned call.tc.tenantId budget.id budget s.budgets = some after :=
    saveOwned_own own
  have written : saveBudget call budget s = .ok { s with budgets := budgets } := by
    simp [saveBudget,saved]
  refine ⟨{ s with budgets := budgets },budget,?_,rfl,rfl,operationalStatus_active _ rfl,?_⟩
  · simp only [applyApproval,found,given,long]
    simp [budget,written]
  · exact same ▸ (saveBudget_wrote written).1

end CloudLens.Budgets
