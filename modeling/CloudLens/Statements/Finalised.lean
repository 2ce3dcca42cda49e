import CloudLens.Statements.Changes

/-! Immutability of finalised statements. The guard that forbids modifying a
finalised statement is never consulted by the service; a statement that was
finalised keeps its figures in exactly the runs in which no request regenerates,
circulates, disputes or accepts it, and no restatement is emitted onto its
identifier. -/
namespace CloudLens.Statements
open Library Library.Runs

structure StatementFigures where
  totalAllocatedCost : ℚ
  directAllocatedCost : ℚ
  sharedServiceApportionedCost : ℚ
  unallocatedCost : ℚ
  currency : String
  currencyDisclosure : CurrencyDisclosure
  budgetAmount : ℚ
  budgetVarianceAmount : ℚ
  budgetVariancePct : ℚ
  budgetStatus : BudgetVarianceStatus
  priorPeriodCost : ℚ
  periodMovementAmount : ℚ
  periodMovementPct : ℚ
  movementDirection : MovementDirection
  providerBreakdown : List ProviderBreakdownItem
  categoryBreakdown : List CategoryBreakdownItem
  applicationBreakdown : List ApplicationBreakdownItem
  environmentBreakdown : List EnvironmentBreakdownItem
  largestMovements : List CostMovementItem
  sharedServiceApportionments : List SharedServiceApportionmentItem
  unallocatedCostDetails : Option UnallocatedCostItem
  discountBenefit : Option DiscountBenefitItem

def figures (s : ShowbackStatement) : StatementFigures where
  totalAllocatedCost := s.totalAllocatedCost
  directAllocatedCost := s.directAllocatedCost
  sharedServiceApportionedCost := s.sharedServiceApportionedCost
  unallocatedCost := s.unallocatedCost
  currency := s.currency
  currencyDisclosure := s.currencyDisclosure
  budgetAmount := s.budgetAmount
  budgetVarianceAmount := s.budgetVarianceAmount
  budgetVariancePct := s.budgetVariancePct
  budgetStatus := s.budgetStatus
  priorPeriodCost := s.priorPeriodCost
  periodMovementAmount := s.periodMovementAmount
  periodMovementPct := s.periodMovementPct
  movementDirection := s.movementDirection
  providerBreakdown := s.providerBreakdown
  categoryBreakdown := s.categoryBreakdown
  applicationBreakdown := s.applicationBreakdown
  environmentBreakdown := s.environmentBreakdown
  largestMovements := s.largestMovements
  sharedServiceApportionments := s.sharedServiceApportionments
  unallocatedCostDetails := s.unallocatedCostDetails
  discountBenefit := s.discountBenefit

def Frozen (original : ShowbackStatement) (id : String) (w : World) : Prop :=
  ∃ stored, w.statements.lookup id = some stored ∧ figures stored.entity = figures original ∧
    (stored.entity.status = .finalised ∨ stored.entity.status = .superseded)

def Owns (r : Request) (id : String) (w : World) : Prop :=
  ∃ stored, w.statements.lookup id = some stored ∧ stored.tenantId = r.tc.tenantId

def Overwrites (id : String) (w : World) (r : Request) : Prop :=
  Owns r id w ∧ match r.op with
    | .generate input => generatedId r.tc.tenantId input = id ∧ ∃ s, generateStatement r.tc.tenantId input = .ok s
    | .circulate target _ _ => target = id
    | .finalise _ _ => False
    | .restate source _ => ∃ s, w.statements.lookup source = some ⟨r.tc.tenantId,s⟩ ∧ nextVersionId s = id
    | .raise target input => target = id ∧ validateDispute input = .ok ()
    | .resolve _ _ => False
    | .accept target _ _ => target = id

def StatusAt (id : String) (status : StatementLifecycleStatus) (w : World) : Prop :=
  ∃ stored, w.statements.lookup id = some stored ∧ stored.entity.status = status

structure Preserves (original : ShowbackStatement) (id : String) (w : World) (r : Request) : Prop where
  frozen : Frozen original id (serve w r)
  superseded : StatusAt id .finalised w → StatusAt id .superseded (serve w r) → ∃ input, r.op = .restate id input

private theorem generated_shape {tenantId : String} {input : GenerateInput} {s : ShowbackStatement}
    (built : generateStatement tenantId input = .ok s) : s.statementId = generatedId tenantId input ∧ s.status = .draft := by
  obtain ⟨rows,apportionments,rfl⟩ := generateStatement_ok built
  exact ⟨rfl,rfl⟩

private theorem overwrites_change {id : String} {w : World} {r : Request} (overwriting : Overwrites id w r) :
    ∃ result, StatementChange w r id result ∧ result.status ≠ .finalised ∧ result.status ≠ .superseded := by
  obtain ⟨tc,op⟩ := r
  obtain ⟨⟨stored,found,owner⟩,act⟩ := overwriting
  obtain ⟨tenant,statement⟩ := stored
  simp only at owner
  subst owner
  have owned : ∀ row, w.statements.lookup id = some row → row.tenantId = tc.tenantId := by
    intro row same
    rw [found] at same
    cases same
    rfl
  cases op with
  | generate input =>
    obtain ⟨named,s,built⟩ := act
    obtain ⟨identity,draft⟩ := generated_shape built
    exact ⟨s,.generated rfl built (identity.trans named) owned,by rw [draft]; decide,by rw [draft]; decide⟩
  | circulate target days now =>
    cases act
    exact ⟨_,.circulated rfl found,by simp [circulateForReview],by simp [circulateForReview]⟩
  | finalise target now => cases act
  | restate source input =>
    obtain ⟨s,origin,named⟩ := act
    exact ⟨_,.emitted rfl origin named owned,by simp [adjustedStatement],by simp [adjustedStatement]⟩
  | raise target input =>
    obtain ⟨same,valid⟩ := act
    cases same
    exact ⟨_,.disputed rfl found valid,by simp [disputedStatement],by simp [disputedStatement]⟩
  | resolve disputeId input => cases act
  | accept target notes now =>
    cases act
    exact ⟨_,.accepted rfl found,by simp [acceptedStatement],by simp [acceptedStatement]⟩

private theorem kept_change {id : String} {w : World} {r : Request} {stored : Owned ShowbackStatement}
    {result : ShowbackStatement} (found : w.statements.lookup id = some stored) (safe : ¬ Overwrites id w r)
    (change : StatementChange w r id result) :
    figures result = figures stored.entity ∧ (result.status = .finalised ∨
      (result.status = .superseded ∧ ∃ input, r.op = .restate id input)) := by
  obtain ⟨tc,op⟩ := r
  cases change with
  | generated asked built named owned =>
    cases asked
    have same := (generated_shape built).1.symm.trans named
    exact absurd ⟨⟨stored,found,owned stored found⟩,same,_,built⟩ safe
  | circulated asked before =>
    cases asked
    exact absurd ⟨⟨_,before,rfl⟩,rfl⟩ safe
  | finalised asked before unlocked =>
    rw [before] at found
    cases found
    exact ⟨rfl,Or.inl rfl⟩
  | superseded asked before apart =>
    rw [before] at found
    cases found
    exact ⟨rfl,Or.inr ⟨rfl,_,asked⟩⟩
  | emitted asked before named owned =>
    cases asked
    exact absurd ⟨⟨stored,found,owned stored found⟩,_,before,named⟩ safe
  | disputed asked before valid =>
    cases asked
    exact absurd ⟨⟨_,before,rfl⟩,rfl,valid⟩ safe
  | accepted asked before =>
    cases asked
    exact absurd ⟨⟨_,before,rfl⟩,rfl⟩ safe

theorem preserves_iff {original : ShowbackStatement} {id : String} {w : World} (keyed : Keyed w)
    (frozen : Frozen original id w) (r : Request) : Preserves original id w r ↔ ¬ Overwrites id w r := by
  obtain ⟨stored,found,same,status⟩ := frozen
  constructor
  · intro preserved overwriting
    obtain ⟨result,change,notFinal,notSuperseded⟩ := overwrites_change overwriting
    obtain ⟨after,now,_,final⟩ := preserved.frozen
    rw [serve_applies keyed change] at now
    cases now
    rcases final with final | final
    · exact notFinal final
    · exact notSuperseded final
  · intro safe
    rcases serve_cases keyed r id with ⟨result,change,written⟩ | ⟨_,unchanged⟩
    · obtain ⟨sameFigures,kind⟩ := kept_change found safe change
      refine ⟨⟨_,written,sameFigures.trans same,?_⟩,?_⟩
      · rcases kind with final | ⟨final,_⟩
        · exact Or.inl final
        · exact Or.inr final
      · intro _ after
        obtain ⟨row,now,ended⟩ := after
        rw [written] at now
        cases now
        rcases kind with final | ⟨_,restated⟩
        · rw [final] at ended
          cases ended
        · exact restated
    · refine ⟨⟨stored,unchanged.trans found,same,status⟩,?_⟩
      intro before after
      obtain ⟨row,first,began⟩ := before
      obtain ⟨other,now,ended⟩ := after
      rw [unchanged,first] at now
      cases now
      rw [began] at ended
      cases ended

/-- Once a statement is stored as finalised, a later run keeps its figures, and
keeps it finalised or supersedes it through a restatement, in every state
reached, exactly when no request of the run overwrites it. -/
theorem finalised_immutable_iff_not_overwritten (before after : List Request) (id : String)
    (stored : Owned ShowbackStatement)
    (found : (run serve World.empty before).statements.lookup id = some stored)
    (final : stored.entity.status = .finalised) :
    Along serve (Preserves stored.entity id) (run serve World.empty before) after ↔
      Along serve (fun w r => ¬ Overwrites id w r) (run serve World.empty before) after := by
  have start : Keyed (run serve World.empty before) ∧ Frozen stored.entity id (run serve World.empty before) :=
    ⟨reachable_keyed before,stored,found,rfl,Or.inl final⟩
  refine along_iff_of_invariant (fun w => Keyed w ∧ Frozen stored.entity id w) ?_ ?_ start after
  · intro w r holds
    exact preserves_iff holds.1 holds.2 r
  · intro w r holds kept
    exact ⟨serve_keyed w r holds.1,kept.frozen⟩

private theorem frozen_status {original : ShowbackStatement} {id : String} {w : World} {status : StatementLifecycleStatus}
    (frozen : Frozen original id w) (now : (w.statements.lookup id).map (fun stored => stored.entity.status) = some status) :
    status = .finalised ∨ status = .superseded := by
  obtain ⟨stored,found,_,ended⟩ := frozen
  rw [found,Option.map_some,Option.some.injEq] at now
  rw [now] at ended
  exact ended

def financeUser : TenantContext := ⟨"t-1","finance",none⟩

def retailFinalised : List Request :=
  [⟨financeUser,.generate (retailInput 100 120 90)⟩, ⟨financeUser,.finalise retailId 1⟩]

/-- Generating the same period and scope again replaces the finalised statement
by a draft with other figures; accepting it takes it out of the final states. -/
theorem regenerated_finalised_statement_changes :
    ∃ stored, (run serve World.empty retailFinalised).statements.lookup retailId = some stored ∧
      stored.entity.status = .finalised ∧
      ¬ Along serve (Preserves stored.entity retailId) (run serve World.empty retailFinalised)
        [⟨financeUser,.generate (retailInput 250 120 90)⟩] ∧
      ¬ Along serve (Preserves stored.entity retailId) (run serve World.empty retailFinalised)
        [⟨financeUser,.accept retailId none 2⟩] := by
  have final : ((run serve World.empty retailFinalised).statements.lookup retailId).map
      (fun stored => stored.entity.status) = some .finalised := by decide +kernel
  have drafted : ((serve (run serve World.empty retailFinalised)
      ⟨financeUser,.generate (retailInput 250 120 90)⟩).statements.lookup retailId).map
      (fun stored => stored.entity.status) = some .draft := by decide +kernel
  have accepted : ((serve (run serve World.empty retailFinalised)
      ⟨financeUser,.accept retailId none 2⟩).statements.lookup retailId).map
      (fun stored => stored.entity.status) = some .accepted := by decide +kernel
  obtain ⟨stored,found,status⟩ := Option.map_eq_some_iff.mp final
  refine ⟨stored,found,status,?_,?_⟩
  · intro kept
    rcases frozen_status kept.1.frozen drafted with ended | ended <;> cases ended
  · intro kept
    rcases frozen_status kept.1.frozen accepted with ended | ended <;> cases ended

theorem finalised_immutable_through_restatement :
    ∃ stored, (run serve World.empty retailFinalised).statements.lookup retailId = some stored ∧
      Along serve (Preserves stored.entity retailId) (run serve World.empty retailFinalised)
        [⟨financeUser,.restate retailId ⟨[],"correction",3,"a",fun _ => ""⟩⟩] := by
  have final : ((run serve World.empty retailFinalised).statements.lookup retailId).map
      (fun stored => (stored.tenantId, stored.entity.status, nextVersionId stored.entity)) =
      some ("t-1", .finalised, "stmt-t-1-2026-03-bu-retail-v2") := by decide +kernel
  obtain ⟨stored,found,shape⟩ := Option.map_eq_some_iff.mp final
  simp only [Prod.mk.injEq] at shape
  refine ⟨stored,found,?_⟩
  apply (finalised_immutable_iff_not_overwritten retailFinalised _ retailId stored found shape.2.1).mpr
  refine ⟨?_,trivial⟩
  intro overwriting
  obtain ⟨_,s,source,named⟩ := overwriting
  rw [found] at source
  cases source
  rw [shape.2.2] at named
  exact absurd named (by decide)

end CloudLens.Statements
