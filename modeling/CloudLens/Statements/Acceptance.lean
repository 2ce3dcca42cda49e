import CloudLens.Library.Runs
import CloudLens.Statements.Service
import Mathlib.Data.List.Forall2

/-! The accounting identities that tie a statement's derived figures together, and the
outstanding-acceptance report of a period. The generator establishes the identities; a
restatement rewrites the total and the budget variance and copies the rest, so it keeps
them as long as the rounded total does not move, and when the prior-period cost is in
whole cents only then. The report counts the statements accepted and those outstanding
over the live versions, superseded ones left out, while the rate is a share of all
versions of the period, rounded to two places. -/
namespace CloudLens.Statements
open Library Library.Runs
open Library.Calendar (Instant)

structure AccountingIdentities (s : ShowbackStatement) : Prop where
  split : |s.totalAllocatedCost - (s.directAllocatedCost + s.sharedServiceApportionedCost)| ≤ 1 / 100
  variance : s.budgetVarianceAmount = roundCurrency (s.totalAllocatedCost - s.budgetAmount)
  movement : s.periodMovementAmount = roundCurrency (s.totalAllocatedCost - s.priorPeriodCost)
  percentage : s.budgetVariancePct = budgetVariancePct s.totalAllocatedCost s.budgetAmount
  status : s.budgetStatus = budgetStatusOf s.totalAllocatedCost s.budgetAmount

def KeepsTotal (s : ShowbackStatement) (input : RestateInput) : Prop := restatedTotal s input = s.totalAllocatedCost

theorem generated_identities {tenantId : String} {input : GenerateInput} {s : ShowbackStatement}
    (generated : generateStatement tenantId input = .ok s) :
    AccountingIdentities s ∧ Decimal.AtScale 2 s.totalAllocatedCost := by
  obtain ⟨rows,apportionments,rfl⟩ := generateStatement_ok generated
  refine ⟨⟨?_,rfl,rfl,rfl,rfl⟩,Decimal.quantize_atScale 2 _⟩
  have bound := Decimal.quantize_add_error 2 (rows.map AllocatedFact.billed).sum
    (apportionments.map SharedServiceApportionmentItem.apportionedAmount).sum
  norm_num at bound
  simp only [assembleStatement,roundCurrency]
  norm_num
  exact bound

theorem adjusted_identities {s : ShowbackStatement} {input : RestateInput} (identities : AccountingIdentities s)
    (kept : KeepsTotal s input) : AccountingIdentities (adjustedStatement s input) := by
  have total : (adjustedStatement s input).totalAllocatedCost = s.totalAllocatedCost := kept
  refine ⟨?_,rfl,?_,?_,?_⟩
  · rw [total]
    exact identities.split
  · rw [total]
    exact identities.movement
  · rw [total]
    exact identities.percentage
  · rw [total]
    exact identities.status

/-- With whole cents on both sides the movement of the period determines the
total, so a restatement that keeps the identities keeps the total. -/
theorem keepsTotal_of_identities {s : ShowbackStatement} {input : RestateInput} (identities : AccountingIdentities s)
    (cents : Decimal.AtScale 2 s.totalAllocatedCost) (prior : Decimal.AtScale 2 s.priorPeriodCost)
    (adjusted : AccountingIdentities (adjustedStatement s input)) : KeepsTotal s input := by
  have before : s.periodMovementAmount = s.totalAllocatedCost - s.priorPeriodCost := by
    rw [identities.movement]
    exact Decimal.quantize_of_atScale (cents.sub prior)
  have rounded : Decimal.AtScale 2 (restatedTotal s input) := Decimal.quantize_atScale 2 _
  have after : s.periodMovementAmount = restatedTotal s input - s.priorPeriodCost :=
    adjusted.movement.trans (Decimal.quantize_of_atScale (rounded.sub prior))
  unfold KeepsTotal
  linarith

/-- A generated statement satisfies the accounting identities after every run of
restatements that each leave its rounded total unchanged; with a prior-period
cost in whole cents these are the only runs that keep them. -/
theorem accounting_identities_while_total_kept {tenantId : String} {input : GenerateInput} {s : ShowbackStatement}
    (generated : generateStatement tenantId input = .ok s) (restatements : List RestateInput) :
    (Along adjustedStatement KeepsTotal s restatements →
      AccountingIdentities (run adjustedStatement s restatements)) ∧
    (Decimal.AtScale 2 s.priorPeriodCost →
      (Along adjustedStatement (fun t change => AccountingIdentities (adjustedStatement t change)) s restatements ↔
        Along adjustedStatement KeepsTotal s restatements)) := by
  obtain ⟨identities,cents⟩ := generated_identities generated
  constructor
  · intro kept
    exact run_preserves (fun t change holds keeps => adjusted_identities holds keeps) identities kept
  · intro prior
    refine along_iff_of_invariant (fun t => AccountingIdentities t ∧ Decimal.AtScale 2 t.totalAllocatedCost ∧
      Decimal.AtScale 2 t.priorPeriodCost) ?_ ?_ ⟨identities,cents,prior⟩ restatements
    · intro t change holds
      constructor
      · intro adjusted
        exact keepsTotal_of_identities holds.1 holds.2.1 holds.2.2 adjusted
      · intro kept
        exact adjusted_identities holds.1 kept
    · intro t change holds adjusted
      exact ⟨adjusted,Decimal.quantize_atScale 2 _,holds.2.2⟩

def lineDelta (amount : ℚ) : RestateInput := ⟨[⟨none,none,none,some amount,none⟩],"correction",1,"a",fun _ => "0"⟩

def retailStatement : ShowbackStatement :=
  assembleStatement "t-1" (retailInput 100 120 90) [⟨none,none,none,none,some 100,none,none⟩] []

private theorem retailStatement_generated : generateStatement "t-1" (retailInput 100 120 90) = .ok retailStatement := by
  have nonzero : retailStatement.totalAllocatedCost ≠ 0 := by decide +kernel
  exact generateStatement_nonzero rfl rfl rfl nonzero

/-- A restatement by fifty dollars leaves the split, the movement and the budget
status of the generated statement as they were for the old total. -/
theorem restatement_breaks_identities :
    generateStatement "t-1" (retailInput 100 120 90) = .ok retailStatement ∧
      ¬ AccountingIdentities (run adjustedStatement retailStatement [lineDelta 50]) := by
  refine ⟨retailStatement_generated,?_⟩
  intro identities
  exact absurd identities.status (by decide +kernel)

theorem accounting_identities_after_small_delta :
    AccountingIdentities (run adjustedStatement retailStatement [lineDelta (1 / 1000)]) := by
  have kept : KeepsTotal retailStatement (lineDelta (1 / 1000)) := by
    unfold KeepsTotal
    decide +kernel
  exact (accounting_identities_while_total_kept retailStatement_generated [lineDelta (1 / 1000)]).1 ⟨kept,trivial⟩

inductive EscalationStatus where
  | normal
  | reminderSent
  | escalatedToCfo
  deriving DecidableEq

structure OutstandingAcceptanceItem where
  statementId : String
  scopeType : RecipientScopeType
  scopeCode : String
  scopeName : String
  recipientOwner : String
  recipientEmail : String
  totalAllocatedCost : ℚ
  period : String
  reviewOpenedAt : Instant
  daysOutstanding : ℤ
  status : StatementLifecycleStatus
  escalationStatus : EscalationStatus
  deriving DecidableEq

structure OutstandingAcceptanceReport where
  period : String
  tenantId : String
  generatedAt : Instant
  totalStatementsIssued : ℕ
  totalAccepted : ℕ
  totalOutstanding : ℕ
  acceptanceRatePercentage : ℚ
  overdueCount : ℕ
  items : List OutstandingAcceptanceItem

def reviewOpenedAt (stmt : ShowbackStatement) : Instant := stmt.circulatedAt.getD stmt.generatedAt

def daysOutstanding (now : Instant) (stmt : ShowbackStatement) : ℤ := max 0 ((now - reviewOpenedAt stmt) / Calendar.day)

def escalationOf (daysOut : ℤ) : EscalationStatus :=
  if daysOut > 7 then .escalatedToCfo else if daysOut ≥ 3 then .reminderSent else .normal

def outstandingItem (now : Instant) (stmt : ShowbackStatement) : OutstandingAcceptanceItem where
  statementId := stmt.statementId
  scopeType := stmt.scopeType
  scopeCode := stmt.scopeCode
  scopeName := stmt.scopeName
  recipientOwner := stmt.recipientOwnerId
  recipientEmail := stmt.recipientOwnerEmail
  totalAllocatedCost := stmt.totalAllocatedCost
  period := stmt.period
  reviewOpenedAt := reviewOpenedAt stmt
  daysOutstanding := daysOutstanding now stmt
  status := stmt.status
  escalationStatus := escalationOf (daysOutstanding now stmt)

def tallyStatements (now : Instant) : List ShowbackStatement → ℕ → List OutstandingAcceptanceItem →
    ℕ × List OutstandingAcceptanceItem
  | [], totalAccepted, items => (totalAccepted, items)
  | stmt :: rest, totalAccepted, items =>
    if stmt.status = .superseded then tallyStatements now rest totalAccepted items
    else if stmt.status = .accepted then tallyStatements now rest (totalAccepted + 1) items
    else tallyStatements now rest totalAccepted (items ++ [outstandingItem now stmt])

def acceptanceRate (totalAccepted totalIssued : ℕ) : ℚ :=
  roundCurrency (if totalIssued > 0 then (totalAccepted : ℚ) / totalIssued * 100 else 0)

def generateOutstandingAcceptanceReport (tc : TenantContext) (now : Instant) (period : String)
    (statements : List ShowbackStatement) : OutstandingAcceptanceReport :=
  let tallied := tallyStatements now statements 0 []
  { period := period
    tenantId := tc.tenantId
    generatedAt := now
    totalStatementsIssued := statements.length
    totalAccepted := tallied.1
    totalOutstanding := tallied.2.length
    acceptanceRatePercentage := acceptanceRate tallied.1 statements.length
    overdueCount := (tallied.2.filter (fun item => item.daysOutstanding ≥ 5)).length
    items := tallied.2 }

def live (statements : List ShowbackStatement) : List ShowbackStatement :=
  statements.filter (fun stmt => stmt.status ≠ .superseded)

def outstanding (statements : List ShowbackStatement) : List ShowbackStatement :=
  statements.filter (fun stmt => stmt.status ≠ .superseded ∧ stmt.status ≠ .accepted)

def withStatus (status : StatementLifecycleStatus) (statements : List ShowbackStatement) : ℕ :=
  statements.countP (fun stmt => stmt.status = status)

structure Describes (stmt : ShowbackStatement) (item : OutstandingAcceptanceItem) : Prop where
  statementId : item.statementId = stmt.statementId
  scopeCode : item.scopeCode = stmt.scopeCode
  recipientOwner : item.recipientOwner = stmt.recipientOwnerId
  totalAllocatedCost : item.totalAllocatedCost = stmt.totalAllocatedCost
  status : item.status = stmt.status

structure ReportComplete (statements : List ShowbackStatement) (report : OutstandingAcceptanceReport) : Prop where
  counted : report.totalAccepted + report.totalOutstanding = (live statements).length
  listed : List.Forall₂ Describes (outstanding statements) report.items
  rate : report.acceptanceRatePercentage = 100 ↔ live statements ≠ [] ∧ ∀ stmt ∈ live statements, stmt.status = .accepted

/-- With nothing outstanding, superseded versions are at most one in twenty
thousand of the list; with something outstanding, it and they are more than that. -/
def RateDiscerns (statements : List ShowbackStatement) : Prop :=
  if outstanding statements = [] then
    withStatus .accepted statements = 0 ∨ withStatus .superseded statements * 20000 ≤ statements.length
  else statements.length < ((outstanding statements).length + withStatus .superseded statements) * 20000

section Tally

variable {now : Instant} {statements : List ShowbackStatement}

theorem tallyStatements_eq (totalAccepted : ℕ) (items : List OutstandingAcceptanceItem) :
    tallyStatements now statements totalAccepted items =
      (totalAccepted + withStatus .accepted statements, items ++ (outstanding statements).map (outstandingItem now)) := by
  induction statements generalizing totalAccepted items with
  | nil => simp [tallyStatements,withStatus,outstanding]
  | cons stmt rest ih =>
    unfold tallyStatements
    by_cases superseded : stmt.status = .superseded
    · rw [if_pos superseded,ih]
      simp [withStatus,outstanding,superseded]
    · rw [if_neg superseded]
      by_cases accepted : stmt.status = .accepted
      · rw [if_pos accepted,ih]
        simp [withStatus,outstanding,accepted]
        omega
      · rw [if_neg accepted,ih]
        simp [withStatus,outstanding,superseded,accepted]

theorem live_length : (live statements).length = withStatus .accepted statements + (outstanding statements).length := by
  induction statements with
  | nil => rfl
  | cons stmt rest ih =>
    simp only [live,withStatus,outstanding] at ih ⊢
    by_cases superseded : stmt.status = .superseded
    · simpa [superseded] using ih
    · by_cases accepted : stmt.status = .accepted
      · simp [accepted] at ih ⊢
        omega
      · simp [superseded,accepted] at ih ⊢
        omega

theorem length_eq : statements.length = (live statements).length + withStatus .superseded statements := by
  have parts := statements.length_eq_countP_add_countP (fun stmt => stmt.status = .superseded)
  rw [live,← List.countP_eq_length_filter,withStatus,add_comm]
  simpa using parts

theorem all_accepted_iff : (∀ stmt ∈ live statements, stmt.status = .accepted) ↔ outstanding statements = [] := by
  rw [outstanding,List.filter_eq_nil_iff]
  simp only [live,List.mem_filter,decide_eq_true_eq,not_and,not_not]
  constructor
  · intro every stmt member present
    exact every stmt ⟨member,present⟩
  · intro none stmt present
    exact none stmt present.1 present.2

end Tally

theorem acceptanceRate_full {accepted issued : ℕ} (most : accepted ≤ issued) :
    acceptanceRate accepted issued = 100 ↔ 0 < issued ∧ (issued - accepted) * 20000 ≤ issued := by
  unfold acceptanceRate roundCurrency Decimal.quantize
  rw [div_eq_iff (by norm_num)]
  by_cases some : issued > 0
  · have positive : (0:ℚ) < issued := by exact_mod_cast some
    have bound : (accepted : ℚ) ≤ issued := by exact_mod_cast most
    have whole : (100:ℚ) * 10^2 = ((10000 : ℤ) : ℚ) := by norm_num
    have missing : (accepted : ℚ) / issued * 100 * 10^2 - ((10000 : ℤ) : ℚ) = -((issued - accepted) * 10000 / issued) := by
      field_simp
      push_cast
      ring
    have gap : 0 ≤ ((issued : ℚ) - accepted) * 10000 / issued :=
      div_nonneg (mul_nonneg (by linarith) (by norm_num)) positive.le
    rw [if_pos some,whole,Int.cast_inj,Decimal.roundHalfEven_eq_even (by norm_num),missing,abs_neg,abs_of_nonneg gap,
      div_le_iff₀ positive]
    constructor
    · intro small
      refine ⟨some,?_⟩
      have cast : (((issued - accepted) * 20000 : ℕ) : ℚ) ≤ issued := by
        push_cast [Nat.cast_sub most]
        linarith
      exact_mod_cast cast
    · rintro ⟨_,small⟩
      have cast : (((issued - accepted) * 20000 : ℕ) : ℚ) ≤ issued := by exact_mod_cast small
      push_cast [Nat.cast_sub most] at cast
      linarith
  · rw [if_neg some,zero_mul]
    have zero : Decimal.roundHalfEven 0 = 0 := by exact_mod_cast Decimal.roundHalfEven_intCast 0
    rw [zero]
    constructor
    · intro absurdity
      norm_num at absurdity
    · intro positive
      exact absurd positive.1 some

/-- The report is complete for a list of statements of any statuses exactly when
superseded and outstanding versions weigh enough to show in the rate, or are none. -/
theorem report_complete_iff (tc : TenantContext) (now : Instant) (period : String) (statements : List ShowbackStatement) :
    ReportComplete statements (generateOutstandingAcceptanceReport tc now period statements) ↔ RateDiscerns statements := by
  have tallied := @tallyStatements_eq now statements 0 []
  rw [zero_add,List.nil_append] at tallied
  have lives := @live_length statements
  have issued := @length_eq statements
  have nonempty : live statements ≠ [] ↔ 0 < (live statements).length := List.length_pos_iff.symm
  have cleared : outstanding statements = [] ↔ (outstanding statements).length = 0 := List.length_eq_zero_iff.symm
  have full := acceptanceRate_full (show withStatus .accepted statements ≤ statements.length by omega)
  have rated : (generateOutstandingAcceptanceReport tc now period statements).acceptanceRatePercentage =
      acceptanceRate (withStatus .accepted statements) statements.length := by
    simp only [generateOutstandingAcceptanceReport,tallied]
  have discerns : (acceptanceRate (withStatus .accepted statements) statements.length = 100 ↔
      live statements ≠ [] ∧ ∀ stmt ∈ live statements, stmt.status = .accepted) ↔ RateDiscerns statements := by
    rw [full,all_accepted_iff,nonempty,RateDiscerns]
    simp only [cleared]
    split <;> omega
  constructor
  · intro complete
    rw [← discerns,← rated]
    exact complete.rate
  · intro condition
    refine ⟨?_,?_,?_⟩
    · simp only [generateOutstandingAcceptanceReport,tallied,List.length_map]
      exact lives.symm
    · simp only [generateOutstandingAcceptanceReport,tallied]
      rw [List.forall₂_map_right_iff,List.forall₂_same]
      intro stmt _
      exact ⟨rfl,rfl,rfl,rfl,rfl⟩
    · rw [rated]
      exact discerns.mpr condition

def restatedRetail : List ShowbackStatement :=
  [supersededStatement retailStatement,
    acceptedStatement ⟨"t-1","owner",none⟩ (adjustedStatement retailStatement (lineDelta 50)) none 2]

/-- A restated statement whose new version is accepted: the only live statement
is accepted and the rate is fifty percent. -/
theorem superseded_version_halves_rate :
    ¬ ReportComplete restatedRetail (generateOutstandingAcceptanceReport ⟨"t-1","owner",none⟩ 3 "2026-03" restatedRetail) := by
  intro complete
  have accepted : live restatedRetail ≠ [] ∧ ∀ stmt ∈ live restatedRetail, stmt.status = .accepted := by
    refine ⟨List.cons_ne_nil _ _,?_⟩
    intro stmt member
    rw [List.mem_singleton.mp member]
    rfl
  exact absurd (complete.rate.mpr accepted) (by decide +kernel)

end CloudLens.Statements
