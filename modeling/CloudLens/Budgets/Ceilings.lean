import CloudLens.Budgets.Effects
import CloudLens.Library.Runs

/-! Ceilings in force and the approvals behind them: a budget above the limit has
to be approved after the last event that set its ceiling, and a rejected one
amended before it is active again. -/
namespace CloudLens.Budgets
open Library Library.Runs
open Workflows (WorkflowRequest)

structure BudgetHistory where
  store : BudgetStore
  events : List BudgetEvent

def BudgetHistory.blank : BudgetHistory := ⟨⟨∅,[]⟩,[]⟩

def step (limit : ℚ) (h : BudgetHistory) (op : BudgetOp) : BudgetHistory :=
  ⟨(serve limit h.store op).1,h.events ++ (serve limit h.store op).2⟩

def sinceCeiling (events : List BudgetEvent) (id : String) : List BudgetEvent :=
  since BudgetEvent.budgetId BudgetEvent.setsCeiling events id

def ApprovedSince (events : List BudgetEvent) (id : String) (amount : ℚ) : Prop :=
  ∃ event ∈ sinceCeiling events id, event.approves amount

instance (events : List BudgetEvent) (id : String) (amount : ℚ) : Decidable (ApprovedSince events id amount) :=
  inferInstanceAs (Decidable (∃ event ∈ sinceCeiling events id, event.approves amount))

def RejectedSince (events : List BudgetEvent) (id : String) : Prop :=
  BudgetEvent.rejected id ∈ sinceCeiling events id

instance (events : List BudgetEvent) (id : String) : Decidable (RejectedSince events id) :=
  inferInstanceAs (Decidable (BudgetEvent.rejected id ∈ sinceCeiling events id))

/-- Above the limit an active budget has been approved since its last amendment,
and no active budget has been rejected since then. -/
structure NoUnapprovedCeiling (limit : ℚ) (h : BudgetHistory) : Prop where
  approved : ∀ id budget, stored h.store id = some budget → budget.isNative = false → budget.isActive = true →
    limit < budget.amount → ApprovedSince h.events id budget.amount
  amended : ∀ id budget, stored h.store id = some budget → budget.isActive = true → ¬ RejectedSince h.events id

/-- The budget a request is applied to has not been rejected since its last
amendment, and its ceiling is within the limit, is the one submitted or has been
approved since. -/
def WellApplied (limit : ℚ) (h : BudgetHistory) : BudgetOp → Prop
  | .apply call request =>
    ∀ budget, getOwned call.tc.tenantId request.subjectEntity.entityId h.store.budgets = some budget →
      CommentAccepted request.payload → ¬ RejectedSince h.events request.subjectEntity.entityId ∧
        (budget.isNative = true ∨ budget.amount ≤ limit ∨ request.financialImpact = some budget.amount ∨
          ApprovedSince h.events request.subjectEntity.entityId budget.amount)
  | _ => True

structure Consistent (h : BudgetHistory) : Prop where
  keyed : Keyed h.store
  pending : ∀ id budget, stored h.store id = some budget → budget.approvalStatus = .pendingApproval →
    ¬ RejectedSince h.events id
  native : ∀ id budget, stored h.store id = some budget → budget.isNative = true → ¬ RejectedSince h.events id

theorem blank_consistent : Consistent .blank := by
  refine ⟨?_,?_,?_⟩ <;> intro id budget found <;> cases found

theorem sinceCeiling_other {events : List BudgetEvent} {event : BudgetEvent} {id : String} (other : id ≠ event.budgetId) :
    sinceCeiling (events ++ [event]) id = sinceCeiling events id := since_other other

theorem sinceCeiling_opened {events : List BudgetEvent} {event : BudgetEvent} (opened : event.setsCeiling = true) :
    sinceCeiling (events ++ [event]) event.budgetId = [] := since_opened opened

theorem sinceCeiling_kept {events : List BudgetEvent} {event : BudgetEvent} (kept : event.setsCeiling = false) :
    sinceCeiling (events ++ [event]) event.budgetId = sinceCeiling events event.budgetId ++ [event] := since_kept kept

theorem rejectedSince_append {events : List BudgetEvent} {event : BudgetEvent} :
    RejectedSince (events ++ [event]) event.budgetId ↔ event.setsCeiling = false ∧
      (event = .rejected event.budgetId ∨ RejectedSince events event.budgetId) := by
  unfold RejectedSince
  cases opened : event.setsCeiling with
  | true => simp [sinceCeiling_opened opened]
  | false =>
    rw [sinceCeiling_kept opened,List.mem_append,List.mem_singleton]
    constructor
    · rintro (earlier | now)
      · exact ⟨rfl,Or.inr earlier⟩
      · exact ⟨rfl,Or.inl now.symm⟩
    · rintro ⟨_,now | earlier⟩
      · exact Or.inr now.symm
      · exact Or.inl earlier

theorem approvedSince_append {events : List BudgetEvent} {event : BudgetEvent} {amount : ℚ}
    (kept : event.setsCeiling = false) :
    ApprovedSince (events ++ [event]) event.budgetId amount ↔
      ApprovedSince events event.budgetId amount ∨ event.approves amount := by
  unfold ApprovedSince
  rw [sinceCeiling_kept kept]
  simp [or_and_right,exists_or]

theorem step_each {limit : ℚ} {h : BudgetHistory} {op : BudgetOp} (keyed : Keyed h.store)
    (property : List BudgetEvent → String → BudgetEntity → Prop)
    (holds : ∀ id budget, stored h.store id = some budget → property h.events id budget)
    (others : ∀ id event budget, id ≠ event.budgetId → property h.events id budget →
      property (h.events ++ [event]) id budget)
    (written : ∀ event budget, event.budgetId = budget.id → Effect limit (stored h.store budget.id) event budget →
      (serve limit h.store op).2 = [event] → property (h.events ++ [event]) budget.id budget) :
    ∀ id budget, stored (step limit h op).store id = some budget → property (step limit h op).events id budget := by
  intro id budget found
  rcases serve_took limit keyed op with ⟨same,silent⟩ | ⟨event,saved,left,about,effect,self,rest⟩
  · have unchanged : step limit h op = h := by
      simp [step,same,silent]
    rw [unchanged] at found ⊢
    exact holds id budget found
  · have events : (step limit h op).events = h.events ++ [event] := by
      simp [step,left]
    rw [events]
    by_cases own : id = saved.id
    · subst own
      obtain rfl : saved = budget := Option.some.inj (self.symm.trans found)
      exact written event saved about effect left
    · exact others id event budget (about ▸ own) (holds id budget ((rest id own).symm.trans found))

theorem step_consistent {limit : ℚ} (h : BudgetHistory) (op : BudgetOp) (consistent : Consistent h) :
    Consistent (step limit h op) := by
  have keyed := consistent.keyed
  refine ⟨?_,?_,?_⟩
  · refine step_each keyed (fun _ id budget => budget.id = id) keyed ?_ ?_
    · intro id event budget _ same
      exact same
    · intro event budget _ _ _
      rfl
  · refine step_each keyed (fun events id budget => budget.approvalStatus = .pendingApproval →
      ¬ RejectedSince events id) consistent.pending ?_ ?_
    · intro id event budget other before status
      rw [RejectedSince,sinceCeiling_other other]
      exact before status
    · intro event budget about effect _ status
      rw [← about,rejectedSince_append]
      rintro ⟨kept,_⟩
      cases effect with
      | created | imported | amended => cases kept
      | approved _ _ _ _ active | applied _ _ _ active => simp [BudgetEntity.isActive,status] at active
      | rejected _ refused => simp [status] at refused
  · refine step_each keyed (fun events id budget => budget.isNative = true → ¬ RejectedSince events id)
      consistent.native ?_ ?_
    · intro id event budget other before native
      rw [RejectedSince,sinceCeiling_other other]
      exact before native
    · intro event budget about effect _ native
      rw [← about,rejectedSince_append]
      rintro ⟨kept,rejection⟩
      cases effect with
      | created | imported | amended => cases kept
      | approved _ _ logical same => simp [same,logical] at native
      | rejected logical => simp [logical] at native
      | applied found same =>
        rcases rejection with now | earlier
        · cases now
        · exact consistent.native _ _ found (same ▸ native) earlier

theorem step_safe_iff {limit : ℚ} (h : BudgetHistory) (op : BudgetOp) (consistent : Consistent h)
    (safe : NoUnapprovedCeiling limit h) : NoUnapprovedCeiling limit (step limit h op) ↔ WellApplied limit h op := by
  constructor
  · intro after
    cases op with
    | create | importNative | amend | approve | reject => trivial
    | apply call request =>
      intro old found accepted
      obtain ⟨saved,budget,ok,native,amount,active,present⟩ := applyApproval_accepted consistent.keyed found accepted
      have events : (step limit h (.apply call request)).events =
          h.events ++ [.applied request.subjectEntity.entityId request.financialImpact] := by
        simp [step,serve,reported,ok]
      have kept : stored (step limit h (.apply call request)).store request.subjectEntity.entityId = some budget := by
        simpa [step,serve,reported,ok] using present
      have unrejected := after.amended _ budget kept active
      rw [events] at unrejected
      refine ⟨fun earlier => unrejected (rejectedSince_append.mpr ⟨rfl,Or.inr earlier⟩),?_⟩
      by_cases logical : budget.isNative = true
      · exact Or.inl (native ▸ logical)
      · by_cases above : limit < budget.amount
        · have approved := after.approved _ budget kept (Bool.eq_false_iff.mpr logical) active above
          rw [events] at approved
          rcases (approvedSince_append rfl).mp approved with earlier | submitted
          · exact Or.inr (Or.inr (Or.inr (amount ▸ earlier)))
          · exact Or.inr (Or.inr (Or.inl (amount ▸ submitted)))
        · exact Or.inr (Or.inl (amount ▸ not_lt.mp above))
  · intro well
    have applied : ∀ {id submitted} {old : BudgetEntity}, (serve limit h.store op).2 = [.applied id submitted] →
        stored h.store id = some old → ¬ RejectedSince h.events id ∧ (old.isNative = true ∨ old.amount ≤ limit ∨
          submitted = some old.amount ∨ ApprovedSince h.events id old.amount) := by
      intro id submitted old left found
      obtain ⟨call,request,read,rfl,rfl,rfl,owned,accepted⟩ := serve_applied left
      obtain rfl : old = read := Option.some.inj (found.symm.trans (stored_of_getOwned owned))
      exact well old owned accepted
    refine ⟨?_,?_⟩
    · refine step_each consistent.keyed (fun events id budget => budget.isNative = false → budget.isActive = true →
        limit < budget.amount → ApprovedSince events id budget.amount) safe.approved ?_ ?_
      · intro id event budget other before
        rw [ApprovedSince,sinceCeiling_other other]
        exact before
      · intro event budget about effect left logical active above
        rw [← about]
        cases effect with
        | created _ held | amended _ held => simp [BudgetEntity.isActive,held above] at active
        | imported native => simp [native] at logical
        | approved => exact (approvedSince_append rfl).mpr (Or.inr trivial)
        | rejected _ status => simp [BudgetEntity.isActive,status] at active
        | applied found native amount =>
          refine (approvedSince_append rfl).mpr ?_
          rcases (applied left found).2 with was | within | submitted | earlier
          · simp [native,was] at logical
          · exact absurd (amount ▸ within) (not_le.mpr above)
          · exact Or.inr (amount ▸ submitted)
          · exact Or.inl (amount ▸ earlier)
    · refine step_each consistent.keyed (fun events id budget => budget.isActive = true → ¬ RejectedSince events id)
        safe.amended ?_ ?_
      · intro id event budget other before
        rw [RejectedSince,sinceCeiling_other other]
        exact before
      · intro event budget about effect left active
        rw [← about,rejectedSince_append]
        rintro ⟨kept,rejection⟩
        cases effect with
        | created | imported | amended => cases kept
        | rejected _ status => simp [BudgetEntity.isActive,status] at active
        | approved found pending =>
          rcases rejection with now | earlier
          · cases now
          · exact consistent.pending _ _ found pending earlier
        | applied found =>
          rcases rejection with now | earlier
          · cases now
          · exact (applied left found).1 earlier

/-- No unapproved ceiling is in force in any state of a run exactly when every
request that is applied finds a budget that has not been rejected since its last
amendment and whose ceiling is within the limit, the submitted one or approved. -/
theorem no_unapproved_ceiling_iff (limit : ℚ) (ops : List BudgetOp) :
    (∀ done, done <+: ops → NoUnapprovedCeiling limit (run (step limit) .blank done)) ↔
      Along (step limit) (WellApplied limit) .blank ops := by
  have safe : NoUnapprovedCeiling limit .blank := by
    refine ⟨?_,?_⟩ <;> intro id budget found <;> cases found
  exact property_throughout_iff Consistent (fun h op consistent safe _ => step_safe_iff h op consistent safe)
    (fun h op consistent _ => step_consistent h op consistent) blank_consistent safe (along_true BudgetHistory.blank ops)

def budgetCall (userId token : String) : Call :=
  ⟨⟨"t-1",userId,none,[],false⟩,⟨2026,3,2,by decide⟩,0,token⟩

def platformBudget : BudgetCreateRequest where
  name := "Platform"
  scopeType := .service
  scopeId := "svc-1"
  amount := 20000
  currency := "USD"
  effectiveDate := ⟨2026,2,1,by decide⟩
  expiryDate := none
  owner := "finops"
  notes := none

def platformSubmission : BudgetSubmission where
  requestType := "BUDGET_APPROVAL"
  entityType := "budget"
  entityId := "bgt-t-1-service-a"
  scopeType := "SERVICE"
  scopeId := "svc-1"
  payload := [("budget_id", .text "bgt-t-1-service-a"), ("name", .text "Platform"), ("amount", .number 20000),
    ("currency", .text "USD")]
  previousValues := none
  financialImpact := some 20000

def approvedRequest (submission : BudgetSubmission) : WorkflowRequest where
  id := "wf-req-t-1-a"
  tenantId := "t-1"
  definitionId := some "wf-def-budget-approval"
  requestType := submission.requestType
  title := "Budget Approval: Platform (USD 20,000.00)"
  subjectEntity := ⟨submission.entityType,submission.entityId,some submission.scopeType,some submission.scopeId,[]⟩
  requester := ⟨"analyst",none⟩
  justification := "Approval required for budget exceeding limit (20000.0 > 10000.0)"
  payload := submission.payload
  previousValues := submission.previousValues
  financialImpact := submission.financialImpact
  state := .approved
  currentStageIndex := 1
  stages := []
  createdAt := 0
  submittedAt := some 0
  dueDate := none
  slaWorkingHours := 48
  workingScheduleId := "WW_STANDARD_MON_FRI"
  slaBreached := false
  escalationPath := ⟨"TENANT_ADMIN",24,[],none,false⟩
  escalationDueAt := none
  isEscalated := false
  history := [⟨"t-1-admin","WORKFLOW_APPROVED",.inReview,.approved,none,[]⟩]
  errorMessage := none
  appliedAt := none
  appliedBy := none

def raisedThenApplied : List BudgetOp :=
  [.create (budgetCall "analyst" "a") platformBudget,
    .amend (budgetCall "analyst" "b") "bgt-t-1-service-a" ⟨90000,"new platform"⟩,
    .apply (budgetCall "t-1-admin" "c") (approvedRequest platformSubmission)]

def rejectedThenApplied : List BudgetOp :=
  [.create (budgetCall "analyst" "a") platformBudget,
    .reject (budgetCall "t-1-admin" "b") "bgt-t-1-service-a" ⟨"too high",by decide⟩,
    .apply (budgetCall "t-1-admin" "c") (approvedRequest platformSubmission)]

def ceilingOf (h : BudgetHistory) (id : String) : Option (ℚ × BudgetApprovalStatus) :=
  (stored h.store id).map (fun budget => (budget.amount, budget.approvalStatus))

private theorem unapproved_of_check {limit : ℚ} {h : BudgetHistory} (id : String)
    (check : (stored h.store id).any (fun budget => !budget.isNative && budget.isActive && limit < budget.amount &&
      !decide (ApprovedSince h.events id budget.amount)) = true) : ¬ NoUnapprovedCeiling limit h := by
  intro safe
  obtain ⟨budget,found,holds⟩ := (Option.any_eq_true _ _).mp check
  simp only [Bool.and_eq_true,Bool.not_eq_true',decide_eq_true_eq,decide_eq_false_iff_not] at holds
  obtain ⟨⟨⟨logical,active⟩,above⟩,unapproved⟩ := holds
  exact unapproved (safe.approved id budget found logical active above)

private theorem revived_of_check {limit : ℚ} {h : BudgetHistory} (id : String)
    (check : (stored h.store id).any (fun budget => budget.isActive && RejectedSince h.events id) = true) :
    ¬ NoUnapprovedCeiling limit h := by
  intro safe
  obtain ⟨budget,found,holds⟩ := (Option.any_eq_true _ _).mp check
  simp only [Bool.and_eq_true,decide_eq_true_eq] at holds
  exact safe.amended id budget found holds.1 holds.2

/-- A request submitted before the ceiling was raised puts the raised one in force,
and one left open by a rejection revives the rejected budget. -/
theorem stale_request_lifts_ceiling :
    (run (step defaultApprovalLimit) .blank (raisedThenApplied.take 1)).store.submissions = [platformSubmission] ∧
      ceilingOf (run (step defaultApprovalLimit) .blank raisedThenApplied) "bgt-t-1-service-a" = some (90000, .active) ∧
      ¬ NoUnapprovedCeiling defaultApprovalLimit (run (step defaultApprovalLimit) .blank raisedThenApplied) ∧
      ceilingOf (run (step defaultApprovalLimit) .blank rejectedThenApplied) "bgt-t-1-service-a" = some (20000, .active) ∧
      ¬ NoUnapprovedCeiling defaultApprovalLimit (run (step defaultApprovalLimit) .blank rejectedThenApplied) := by
  refine ⟨by decide +kernel,by decide +kernel,?_,by decide +kernel,?_⟩
  · exact unapproved_of_check "bgt-t-1-service-a" (by decide +kernel)
  · exact revived_of_check "bgt-t-1-service-a" (by decide +kernel)

end CloudLens.Budgets
