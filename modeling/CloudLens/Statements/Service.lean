import CloudLens.Statements.Generator

/-! The statement service: the period close cycle, acceptance, restatement
adjustments and disputes, each as a read of the store, a computation and the
writes in the order of the source. Every write is a transaction of its own, so
an operation that raises keeps what it had already saved. Fresh identifiers,
the clock and the outcome of the workflow submission are inputs. -/
namespace CloudLens.Statements
open Library
open Library.Calendar (Instant day hour)

def circulateForReview (statement : ShowbackStatement) (reviewWindowDays : ℤ) (now : Instant) : ShowbackStatement :=
  { statement with
    status := .inReview
    circulatedAt := some now
    reviewDeadline := some (now + reviewWindowDays * day) }

def finalisedStatement (statement : ShowbackStatement) (now : Instant) : ShowbackStatement :=
  { statement with status := .finalised, finalisedAt := some now }

def finaliseCycle (statement : ShowbackStatement) (now : Instant) : Except StatementError ShowbackStatement :=
  if statement.status = .finalised then
    .error (.statementAlreadyFinalised ("Statement '" ++ statement.statementId ++ "' is already finalised."))
  else .ok (finalisedStatement statement now)

def assertModifiable (statement : ShowbackStatement) : Except StatementError Unit :=
  if statement.status = .finalised then .error (.finalisedModificationForbidden statement.statementId) else .ok ()

structure AdjustmentDelta where
  lineId : Option String
  description : Option String
  originalAmount : Option ℚ
  adjustmentDelta : Option ℚ
  reason : Option String

structure RestateInput where
  adjustmentDeltas : List AdjustmentDelta
  restatementReason : String
  now : Instant
  token : String
  lineToken : ℕ → String

def adjustmentLine (input : RestateInput) (delta : AdjustmentDelta × ℕ) : AdjustmentLine where
  lineId := delta.1.lineId.getD ("adj-line-" ++ input.lineToken delta.2)
  description := delta.1.description.getD "Restatement correction"
  originalAmount := delta.1.originalAmount.getD 0
  adjustmentDelta := delta.1.adjustmentDelta.getD 0
  adjustedAmount := roundCurrency (delta.1.originalAmount.getD 0 + delta.1.adjustmentDelta.getD 0)
  reason := delta.1.reason.getD input.restatementReason

def netDelta (input : RestateInput) : ℚ := (input.adjustmentDeltas.map (fun delta => delta.adjustmentDelta.getD 0)).sum

def nextVersionId (original : ShowbackStatement) : String :=
  Text.beforeLast "-v" original.statementId ++ "-v" ++ toString (original.version + 1)

def restatedTotal (original : ShowbackStatement) (input : RestateInput) : ℚ :=
  roundCurrency (original.totalAllocatedCost + netDelta input)

def adjustmentRecord (tc : TenantContext) (original : ShowbackStatement) (input : RestateInput) : StatementAdjustment where
  adjustmentId := "adj-" ++ original.period ++ "-" ++ input.token
  tenantId := tc.tenantId
  originalStatementId := original.statementId
  adjustedStatementId := nextVersionId original
  version := original.version + 1
  originalTotal := original.totalAllocatedCost
  adjustmentTotal := netDelta input
  adjustedTotal := restatedTotal original input
  restatementReason := input.restatementReason
  adjustmentTimestamp := input.now
  adjustedBy := tc.userId
  lines := input.adjustmentDeltas.zipIdx.map (adjustmentLine input)

def adjustedStatement (original : ShowbackStatement) (input : RestateInput) : ShowbackStatement :=
  { original with
    statementId := nextVersionId original
    version := original.version + 1
    supersedesStatementId := some original.statementId
    status := .adjusted
    totalAllocatedCost := restatedTotal original input
    budgetVarianceAmount := roundCurrency (restatedTotal original input - original.budgetAmount)
    generatedAt := input.now
    finalisedAt := some input.now }

def supersededStatement (original : ShowbackStatement) : ShowbackStatement := { original with status := .superseded }

def disputedStatement (statement : ShowbackStatement) : ShowbackStatement := { statement with status := .disputed }

def acceptedStatement (tc : TenantContext) (statement : ShowbackStatement) (notes : Option String) (now : Instant) :
    ShowbackStatement :=
  { statement with
    status := .accepted
    acceptedAt := some now
    acceptedBy := some tc.userId
    acceptanceNotes := some (if notes.getD "" = "" then "Formally reviewed and accepted by recipient." else notes.getD "") }

structure DisputeInput where
  lineId : String
  lineDescription : String
  disputedAmount : ℚ
  proposedAmount : ℚ
  reason : String
  assignedOwner : String
  now : Instant
  token : String
  workflowRequestId : Option String

def disputeIdOf (statement : ShowbackStatement) (input : DisputeInput) : String :=
  "dsp-" ++ statement.period ++ "-" ++ input.token

def validateDispute (input : DisputeInput) : Except StatementError Unit :=
  if (Text.strip input.reason.toList).length < 5 then
    .error (.dispute "Dispute justification reason must be detailed (min 5 chars).")
  else if input.disputedAmount ≤ 0 then .error (.dispute "Disputed dollar amount must be strictly positive.")
  else .ok ()

def raisedDispute (tc : TenantContext) (statement : ShowbackStatement) (input : DisputeInput) : StatementDispute where
  disputeId := disputeIdOf statement input
  tenantId := tc.tenantId
  statementId := statement.statementId
  lineId := input.lineId
  lineDescription := input.lineDescription
  recipientId := tc.userId
  recipientEmail := if tc.email.getD "" = "" then statement.recipientOwnerEmail else tc.email.getD ""
  disputedAmount := input.disputedAmount
  proposedAmount := input.proposedAmount
  reason := String.ofList (Text.strip input.reason.toList)
  status := .submitted
  assignedOwner := input.assignedOwner
  slaDeadline := input.now + 48 * hour
  workflowRequestId := input.workflowRequestId.getD ("wf-" ++ disputeIdOf statement input)
  resolutionNotes := none
  resolvedAt := none
  resolvedBy := none
  createdAt := input.now

structure ResolveInput where
  decision : String
  resolutionNotes : String
  targetReallocationScope : Option String
  now : Instant
  token : String

def isApproval (decision : String) : Bool := Text.upper decision ∈ ["APPROVE", "APPROVED", "RESOLVED_ACCEPTED"]

def resolvedDispute (tc : TenantContext) (dispute : StatementDispute) (input : ResolveInput) : StatementDispute :=
  { dispute with
    status := if isApproval input.decision then .resolvedAccepted else .resolvedRejected
    resolutionNotes := some input.resolutionNotes
    resolvedAt := some input.now
    resolvedBy := some tc.userId }

def reallocatedAmount (dispute : StatementDispute) : ℚ :=
  if roundCurrency (dispute.disputedAmount - dispute.proposedAmount) ≤ 0 then dispute.disputedAmount
  else roundCurrency (dispute.disputedAmount - dispute.proposedAmount)

def reallocationRecord (tc : TenantContext) (disputeId : String) (dispute : StatementDispute)
    (statement : ShowbackStatement) (input : ResolveInput) : ReallocationRecord where
  reallocationId := "realloc-" ++ input.token
  tenantId := tc.tenantId
  disputeId := disputeId
  statementId := statement.statementId
  sourceScopeCode := statement.scopeCode
  targetScopeCode :=
    if input.targetReallocationScope.getD "" = "" then "CENTRAL-UNALLOCATED-POOL" else input.targetReallocationScope.getD ""
  reallocatedAmount := reallocatedAmount dispute
  reason := input.resolutionNotes
  approvedBy := tc.userId
  reallocatedAt := input.now

def storeStatement (tc : TenantContext) (statement : ShowbackStatement) (w : World) :
    World × Except StatementError ShowbackStatement :=
  match saveStatement tc statement w with
  | .error e => (w, .error e)
  | .ok after => (after, .ok statement)

def generateAndSave (tc : TenantContext) (input : GenerateInput) (w : World) :
    World × Except StatementError ShowbackStatement :=
  match generateStatement tc.tenantId input with
  | .error e => (w, .error e)
  | .ok statement => storeStatement tc statement w

def circulateStatement (tc : TenantContext) (id : String) (reviewWindowDays : ℤ) (now : Instant) (w : World) :
    World × Except StatementError ShowbackStatement :=
  match getStatement tc id w with
  | .error e => (w, .error e)
  | .ok statement => storeStatement tc (circulateForReview statement reviewWindowDays now) w

def finaliseStatement (tc : TenantContext) (id : String) (now : Instant) (w : World) :
    World × Except StatementError ShowbackStatement :=
  match getStatement tc id w with
  | .error e => (w, .error e)
  | .ok statement =>
    match finaliseCycle statement now with
    | .error e => (w, .error e)
    | .ok finalised => storeStatement tc finalised w

def processRestatementAdjustment (tc : TenantContext) (id : String) (input : RestateInput) (w : World) :
    World × Except StatementError (ShowbackStatement × StatementAdjustment) :=
  match getStatement tc id w with
  | .error e => (w, .error e)
  | .ok original =>
    match saveStatement tc (supersededStatement original) w with
    | .error e => (w, .error e)
    | .ok marked =>
      match saveStatement tc (adjustedStatement original input) marked with
      | .error e => (marked, .error e)
      | .ok emitted =>
        ({ emitted with adjustments := emitted.adjustments ++ [adjustmentRecord tc original input] },
          .ok (adjustedStatement original input, adjustmentRecord tc original input))

def raiseDispute (tc : TenantContext) (id : String) (input : DisputeInput) (w : World) :
    World × Except StatementError StatementDispute :=
  match getStatement tc id w with
  | .error e => (w, .error e)
  | .ok statement =>
    match validateDispute input with
    | .error e => (w, .error e)
    | .ok _ =>
      let dispute := raisedDispute tc statement input
      let managed := { w with
        managedDisputes := w.managedDisputes.upsert (fun _ proposed => proposed) (tc.tenantId, dispute.disputeId) dispute }
      match saveStatement tc (disputedStatement statement) managed with
      | .error e => (managed, .error e)
      | .ok marked =>
        match saveDispute tc dispute marked with
        | .error e => (marked, .error e)
        | .ok saved => (saved, .ok dispute)

def resolveDispute (tc : TenantContext) (disputeId : String) (input : ResolveInput) (w : World) :
    World × Except StatementError (StatementDispute × Option ReallocationRecord) :=
  match getOwned tc.tenantId disputeId w.disputes with
  | none => (w, .error (.statementNotFound ("Dispute '" ++ disputeId ++ "' not found.")))
  | some stored =>
    match getStatement tc stored.statementId w with
    | .error e => (w, .error e)
    | .ok statement =>
      match w.managedDisputes.lookup (tc.tenantId, disputeId) with
      | none => (w, .error (.dispute ("Dispute '" ++ disputeId ++ "' not found.")))
      | some dispute =>
        let resolved := resolvedDispute tc dispute input
        let records := if isApproval input.decision then [reallocationRecord tc disputeId dispute statement input] else []
        let managed := { w with
          managedDisputes := w.managedDisputes.upsert (fun _ proposed => proposed) (tc.tenantId, disputeId) resolved
          managedReallocations := w.managedReallocations ++ records }
        match saveDispute tc resolved managed with
        | .error e => (managed, .error e)
        | .ok saved =>
          ({ saved with reallocations := saved.reallocations ++ records }, .ok (resolved, records.head?))

def acceptStatement (tc : TenantContext) (id : String) (notes : Option String) (now : Instant) (w : World) :
    World × Except StatementError ShowbackStatement :=
  match getStatement tc id w with
  | .error e => (w, .error e)
  | .ok statement => storeStatement tc (acceptedStatement tc statement notes now) w

inductive StatementOp where
  | generate (input : GenerateInput)
  | circulate (id : String) (reviewWindowDays : ℤ) (now : Instant)
  | finalise (id : String) (now : Instant)
  | restate (id : String) (input : RestateInput)
  | raise (id : String) (input : DisputeInput)
  | resolve (disputeId : String) (input : ResolveInput)
  | accept (id : String) (notes : Option String) (now : Instant)

structure Request where
  tc : TenantContext
  op : StatementOp

def serve (w : World) (r : Request) : World :=
  match r.op with
  | .generate input => (generateAndSave r.tc input w).1
  | .circulate id days now => (circulateStatement r.tc id days now w).1
  | .finalise id now => (finaliseStatement r.tc id now w).1
  | .restate id input => (processRestatementAdjustment r.tc id input w).1
  | .raise id input => (raiseDispute r.tc id input w).1
  | .resolve disputeId input => (resolveDispute r.tc disputeId input w).1
  | .accept id notes now => (acceptStatement r.tc id notes now w).1

theorem saveStatement_ok {tc : TenantContext} {statement : ShowbackStatement} {w after : World}
    (saved : saveStatement tc statement w = .ok after) :
    after.statements.lookup statement.statementId = some ⟨tc.tenantId,statement⟩ ∧
      (∀ other, other ≠ statement.statementId → after.statements.lookup other = w.statements.lookup other) ∧
      (∀ stored, w.statements.lookup statement.statementId = some stored → stored.tenantId = tc.tenantId) ∧
      after = { w with statements := after.statements } := by
  unfold saveStatement at saved
  split at saved
  · cases saved
  · rename_i statements inner
    cases saved
    obtain ⟨here,elsewhere,owner⟩ := saveOwned_ok inner
    exact ⟨here,elsewhere,owner,rfl⟩

theorem saveStatement_own {tc : TenantContext} {statement : ShowbackStatement} {w : World}
    (owned : ∀ stored, w.statements.lookup statement.statementId = some stored → stored.tenantId = tc.tenantId) :
    ∃ after, saveStatement tc statement w = .ok after := by
  obtain ⟨statements,saved⟩ := @saveOwned_own _ _ _ statement _ owned
  exact ⟨{ w with statements := statements },by simp only [saveStatement,saved]⟩

theorem saveDispute_ok {tc : TenantContext} {dispute : StatementDispute} {w after : World}
    (saved : saveDispute tc dispute w = .ok after) :
    after.disputes.lookup dispute.disputeId = some ⟨tc.tenantId,dispute⟩ ∧
      (∀ other, other ≠ dispute.disputeId → after.disputes.lookup other = w.disputes.lookup other) ∧
      (∀ stored, w.disputes.lookup dispute.disputeId = some stored → stored.tenantId = tc.tenantId) ∧
      after = { w with disputes := after.disputes } := by
  unfold saveDispute at saved
  split at saved
  · cases saved
  · rename_i disputes inner
    cases saved
    obtain ⟨here,elsewhere,owner⟩ := saveOwned_ok inner
    exact ⟨here,elsewhere,owner,rfl⟩

theorem saveDispute_own {tc : TenantContext} {dispute : StatementDispute} {w : World} {e : StatementError}
    (owned : ∀ stored, w.disputes.lookup dispute.disputeId = some stored → stored.tenantId = tc.tenantId) :
    saveDispute tc dispute w ≠ .error e := by
  obtain ⟨disputes,saved⟩ := @saveOwned_own _ _ _ dispute _ owned
  simp [saveDispute,saved]

theorem getStatement_ok {tc : TenantContext} {id : String} {w : World} {statement : ShowbackStatement}
    (found : getStatement tc id w = .ok statement) : w.statements.lookup id = some ⟨tc.tenantId,statement⟩ := by
  unfold getStatement at found
  split at found
  · rename_i stored read
    cases found
    exact getOwned_eq_some_iff.mp read
  · cases found

end CloudLens.Statements
