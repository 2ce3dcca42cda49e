import CloudLens.Statements.Changes

/-! Disputes of statement lines and the reallocations their approval records. A
request touches the disputes in one of three ways, and from that follows when a
dispute is settled once and within its amount: the resolution checks neither
that the dispute is still open nor that the proposed amount lies within the
disputed one, so both are conditions on the calls. -/
namespace CloudLens.Statements
open Library Library.Runs

def Resolved (status : DisputeStatus) : Prop := status = .resolvedAccepted ∨ status = .resolvedRejected

structure Reaches (w : World) (tc : TenantContext) (disputeId : String) (statement : ShowbackStatement)
    (dispute : StatementDispute) : Prop where
  stored : ∃ row, w.disputes.lookup disputeId = some ⟨tc.tenantId,row⟩ ∧
    w.statements.lookup row.statementId = some ⟨tc.tenantId,statement⟩
  managed : w.managedDisputes.lookup (tc.tenantId, disputeId) = some dispute

def resolutionRecords (tc : TenantContext) (disputeId : String) (dispute : StatementDispute)
    (statement : ShowbackStatement) (input : ResolveInput) : List ReallocationRecord :=
  if isApproval input.decision then [reallocationRecord tc disputeId dispute statement input] else []

def WithinAmount (dispute : StatementDispute) (amount : ℚ) : Prop :=
  0 < amount ∧ amount ≤ dispute.disputedAmount ∧
    (0 ≤ dispute.proposedAmount → dispute.proposedAmount < dispute.disputedAmount →
      amount = roundCurrency (dispute.disputedAmount - dispute.proposedAmount))

structure DisputesSettled (w : World) : Prop where
  once : (w.managedReallocations.map ReallocationRecord.disputeId).Nodup ∧
    (w.reallocations.map ReallocationRecord.disputeId).Nodup
  within : ∀ record ∈ w.managedReallocations ++ w.reallocations, ∃ dispute,
    w.managedDisputes.lookup (record.tenantId, record.disputeId) = some dispute ∧
      WithinAmount dispute record.reallocatedAmount

def StatusKept (w : World) (r : Request) : Prop :=
  (∀ key dispute, w.managedDisputes.lookup key = some dispute → Resolved dispute.status →
    ∃ later, (serve w r).managedDisputes.lookup key = some later ∧ later.status = dispute.status) ∧
  ∀ id row, w.disputes.lookup id = some row → Resolved row.entity.status →
    ∃ later, (serve w r).disputes.lookup id = some later ∧ later.entity.status = row.entity.status

def ProposalFits (dispute : StatementDispute) : Prop :=
  roundCurrency (dispute.disputedAmount - dispute.proposedAmount) ≤ dispute.disputedAmount ∧
    (0 ≤ dispute.proposedAmount → dispute.proposedAmount < dispute.disputedAmount →
      0 < roundCurrency (dispute.disputedAmount - dispute.proposedAmount))

def SettlesOpen (w : World) (r : Request) : Prop :=
  match r.op with
  | .raise id input => ∀ statement, w.statements.lookup id = some ⟨r.tc.tenantId,statement⟩ →
      w.managedDisputes.lookup (r.tc.tenantId, disputeIdOf statement input) = none
  | .resolve disputeId input => ∀ statement dispute, Reaches w r.tc disputeId statement dispute →
      if isApproval input.decision then ¬ Resolved dispute.status ∧ ProposalFits dispute
      else dispute.status ≠ .resolvedAccepted
  | _ => True

structure NoDisputes (w : World) : Prop where
  stored : w.disputes = ∅
  managed : w.managedDisputes = ∅
  reallocated : w.reallocations = [] ∧ w.managedReallocations = []

def ManagedKeyed (w : World) : Prop :=
  ∀ tenant id dispute, w.managedDisputes.lookup (tenant, id) = some dispute →
    dispute.disputeId = id ∧ 0 < dispute.disputedAmount

inductive DisputeChange (w : World) (r : Request) (after : World) : Prop
  | idle (disputes : after.disputes = w.disputes) (managed : after.managedDisputes = w.managedDisputes)
      (reallocations : after.reallocations = w.reallocations)
      (records : after.managedReallocations = w.managedReallocations)
  | raised {id : String} {input : DisputeInput} {statement : ShowbackStatement} (asked : r.op = .raise id input)
      (found : w.statements.lookup id = some ⟨r.tc.tenantId,statement⟩) (positive : 0 < input.disputedAmount)
      (managed : after.managedDisputes = w.managedDisputes.upsert (fun _ proposed => proposed)
        (r.tc.tenantId, disputeIdOf statement input) (raisedDispute r.tc statement input))
      (disputes : after.disputes = w.disputes ∨
        after.disputes.lookup (disputeIdOf statement input) = some ⟨r.tc.tenantId,raisedDispute r.tc statement input⟩ ∧
          (∀ other, other ≠ disputeIdOf statement input → after.disputes.lookup other = w.disputes.lookup other) ∧
          ∀ stored, w.disputes.lookup (disputeIdOf statement input) = some stored → stored.tenantId = r.tc.tenantId)
      (reallocations : after.reallocations = w.reallocations)
      (records : after.managedReallocations = w.managedReallocations)
  | resolved {disputeId : String} {input : ResolveInput} {statement : ShowbackStatement} {dispute : StatementDispute}
      (asked : r.op = .resolve disputeId input) (reaches : Reaches w r.tc disputeId statement dispute)
      (managed : after.managedDisputes = w.managedDisputes.upsert (fun _ proposed => proposed)
        (r.tc.tenantId, disputeId) (resolvedDispute r.tc dispute input))
      (here : after.disputes.lookup disputeId = some ⟨r.tc.tenantId,resolvedDispute r.tc dispute input⟩)
      (elsewhere : ∀ other, other ≠ disputeId → after.disputes.lookup other = w.disputes.lookup other)
      (reallocations : after.reallocations = w.reallocations ++ resolutionRecords r.tc disputeId dispute statement input)
      (records : after.managedReallocations =
        w.managedReallocations ++ resolutionRecords r.tc disputeId dispute statement input)

private theorem storeStatement_idle (tc : TenantContext) (statement : ShowbackStatement) (w : World) (r : Request) :
    DisputeChange w r (storeStatement tc statement w).1 := by
  unfold storeStatement
  split
  · exact .idle rfl rfl rfl rfl
  · rename_i after saved
    rw [(saveStatement_ok saved).2.2.2]
    exact .idle rfl rfl rfl rfl

private theorem restate_idle (tc : TenantContext) (id : String) (input : RestateInput) (w : World) (r : Request) :
    DisputeChange w r (processRestatementAdjustment tc id input w).1 := by
  unfold processRestatementAdjustment
  split
  · exact .idle rfl rfl rfl rfl
  · split
    · exact .idle rfl rfl rfl rfl
    · rename_i marked first
      split
      · rw [(saveStatement_ok first).2.2.2]
        exact .idle rfl rfl rfl rfl
      · rename_i emitted second
        rw [(saveStatement_ok second).2.2.2,(saveStatement_ok first).2.2.2]
        exact .idle rfl rfl rfl rfl

private theorem validateDispute_positive {input : DisputeInput} (valid : validateDispute input = .ok ()) :
    0 < input.disputedAmount := by
  unfold validateDispute at valid
  split at valid
  · cases valid
  · split at valid
    · cases valid
    · rename_i positive
      exact not_le.mp positive

private theorem raise_change (tc : TenantContext) (id : String) (input : DisputeInput) (w : World) :
    DisputeChange w ⟨tc,.raise id input⟩ (raiseDispute tc id input w).1 := by
  unfold raiseDispute
  split
  · exact .idle rfl rfl rfl rfl
  · rename_i statement read
    have found := getStatement_ok read
    split
    · exact .idle rfl rfl rfl rfl
    · rename_i valid
      have positive := validateDispute_positive valid
      simp only
      split
      · exact .raised rfl found positive rfl (Or.inl rfl) rfl rfl
      · rename_i marked first
        have before := (saveStatement_ok first).2.2.2
        split
        · rw [before]
          exact .raised rfl found positive rfl (Or.inl rfl) rfl rfl
        · rename_i saved second
          obtain ⟨here,elsewhere,owned,rest⟩ := saveDispute_ok second
          rw [before] at elsewhere owned rest
          rw [rest]
          exact .raised rfl found positive rfl (Or.inr ⟨here,elsewhere,owned⟩) rfl rfl

private theorem resolve_change (tc : TenantContext) (disputeId : String) (input : ResolveInput) {w : World}
    (keyed : ManagedKeyed w) :
    DisputeChange w ⟨tc,.resolve disputeId input⟩ (resolveDispute tc disputeId input w).1 := by
  unfold resolveDispute
  split
  · exact .idle rfl rfl rfl rfl
  · rename_i stored read
    have row := getOwned_eq_some_iff.mp read
    split
    · exact .idle rfl rfl rfl rfl
    · rename_i statement there
      split
      · exact .idle rfl rfl rfl rfl
      · rename_i dispute managed
        have named : (resolvedDispute tc dispute input).disputeId = disputeId :=
          (keyed tc.tenantId disputeId dispute managed).1
        have reaches : Reaches w tc disputeId statement dispute := ⟨⟨stored,row,getStatement_ok there⟩,managed⟩
        simp only
        split
        · rename_i e refused
          have owned : ∀ kept, w.disputes.lookup (resolvedDispute tc dispute input).disputeId = some kept →
              kept.tenantId = tc.tenantId := by
            intro kept same
            rw [named,row] at same
            cases same
            rfl
          exact absurd refused (saveDispute_own owned)
        · rename_i saved second
          obtain ⟨here,elsewhere,_,rest⟩ := saveDispute_ok second
          rw [named] at here elsewhere
          rw [rest]
          exact .resolved rfl reaches rfl here elsewhere rfl rfl

theorem serve_disputes {w : World} (keyed : ManagedKeyed w) (r : Request) : DisputeChange w r (serve w r) := by
  obtain ⟨tc,op⟩ := r
  cases op with
  | generate input =>
    simp only [serve,generateAndSave]
    split
    · exact .idle rfl rfl rfl rfl
    · exact storeStatement_idle _ _ _ _
  | circulate id days now =>
    simp only [serve,circulateStatement]
    split
    · exact .idle rfl rfl rfl rfl
    · exact storeStatement_idle _ _ _ _
  | finalise id now =>
    simp only [serve,finaliseStatement]
    split
    · exact .idle rfl rfl rfl rfl
    · split
      · exact .idle rfl rfl rfl rfl
      · exact storeStatement_idle _ _ _ _
  | restate id input => exact restate_idle tc id input w _
  | raise id input => exact raise_change tc id input w
  | resolve disputeId input => exact resolve_change tc disputeId input keyed
  | accept id notes now =>
    simp only [serve,acceptStatement]
    split
    · exact .idle rfl rfl rfl rfl
    · exact storeStatement_idle _ _ _ _

structure Settling (w : World) : Prop where
  keyed : ManagedKeyed w
  synced : ∀ id row, w.disputes.lookup id = some row → w.managedDisputes.lookup (row.tenantId, id) = some row.entity
  mirrored : w.reallocations = w.managedReallocations
  distinct : (w.managedReallocations.map ReallocationRecord.disputeId).Nodup
  settled : ∀ record ∈ w.managedReallocations, ∃ dispute,
    w.disputes.lookup record.disputeId = some ⟨record.tenantId,dispute⟩ ∧ dispute.status = .resolvedAccepted ∧
      WithinAmount dispute record.reallocatedAmount

theorem reallocatedAmount_within {dispute : StatementDispute} (positive : 0 < dispute.disputedAmount)
    (fits : ProposalFits dispute) : WithinAmount dispute (reallocatedAmount dispute) := by
  obtain ⟨bounded,proper⟩ := fits
  unfold WithinAmount reallocatedAmount
  split
  · rename_i vanishes
    refine ⟨positive,le_refl _,?_⟩
    intro nonnegative below
    exact absurd (proper nonnegative below) (not_lt.mpr vanishes)
  · rename_i exceeds
    exact ⟨not_le.mp exceeds,bounded,fun _ _ => rfl⟩

private theorem managedKeyed_upsert {w after : World} {tenant id : String} {dispute : StatementDispute} (keyed : ManagedKeyed w)
    (managed : after.managedDisputes = w.managedDisputes.upsert (fun _ proposed => proposed) (tenant, id) dispute)
    (named : dispute.disputeId = id) (positive : 0 < dispute.disputedAmount) : ManagedKeyed after := by
  intro other key held there
  rw [managed,Table.lookup_overwrite] at there
  split at there
  · rename_i same
    cases same
    cases there
    exact ⟨named,positive⟩
  · exact keyed other key held there

private theorem raised_settling {w after : World} {tc : TenantContext} {statement : ShowbackStatement}
    {input : DisputeInput} (settling : Settling w) (positive : 0 < input.disputedAmount)
    (fresh : w.managedDisputes.lookup (tc.tenantId, disputeIdOf statement input) = none)
    (managed : after.managedDisputes = w.managedDisputes.upsert (fun _ proposed => proposed)
      (tc.tenantId, disputeIdOf statement input) (raisedDispute tc statement input))
    (disputes : after.disputes = w.disputes ∨
      after.disputes.lookup (disputeIdOf statement input) = some ⟨tc.tenantId,raisedDispute tc statement input⟩ ∧
        (∀ other, other ≠ disputeIdOf statement input → after.disputes.lookup other = w.disputes.lookup other) ∧
        ∀ stored, w.disputes.lookup (disputeIdOf statement input) = some stored → stored.tenantId = tc.tenantId)
    (reallocations : after.reallocations = w.reallocations)
    (records : after.managedReallocations = w.managedReallocations) :
    Settling after ∧ ∀ id row, w.disputes.lookup id = some row → after.disputes.lookup id = some row := by
  have kept : ∀ id row, w.disputes.lookup id = some row → after.disputes.lookup id = some row := by
    intro id row stored
    rcases disputes with same | ⟨_,elsewhere,owned⟩
    · rw [same]
      exact stored
    · rw [elsewhere id ?_]
      · exact stored
      · intro same
        subst same
        have held := settling.synced _ row stored
        rw [owned row stored,fresh] at held
        cases held
  refine ⟨⟨managedKeyed_upsert settling.keyed managed rfl positive,?_,?_,?_,?_⟩,kept⟩
  · intro id row stored
    rw [managed,Table.lookup_overwrite]
    have older : w.disputes.lookup id = some row →
        (if (row.tenantId, id) = (tc.tenantId, disputeIdOf statement input) then some (raisedDispute tc statement input)
          else w.managedDisputes.lookup (row.tenantId, id)) = some row.entity := by
      intro before
      have held := settling.synced id row before
      split
      · rename_i same
        rw [same,fresh] at held
        cases held
      · exact held
    rcases disputes with same | ⟨here,elsewhere,_⟩
    · rw [same] at stored
      exact older stored
    · by_cases same : id = disputeIdOf statement input
      · subst same
        rw [here] at stored
        cases stored
        simp
      · rw [elsewhere id same] at stored
        exact older stored
  · rw [reallocations,records]
    exact settling.mirrored
  · rw [records]
    exact settling.distinct
  · intro record member
    rw [records] at member
    obtain ⟨dispute,stored,rest⟩ := settling.settled record member
    exact ⟨dispute,kept _ _ stored,rest⟩

private theorem resolved_settling {w after : World} {tc : TenantContext} {disputeId : String} {input : ResolveInput}
    {statement : ShowbackStatement} {dispute : StatementDispute} (settling : Settling w)
    (reaches : Reaches w tc disputeId statement dispute)
    (undecided : if isApproval input.decision then ¬ Resolved dispute.status ∧ ProposalFits dispute
      else dispute.status ≠ .resolvedAccepted)
    (managed : after.managedDisputes = w.managedDisputes.upsert (fun _ proposed => proposed)
      (tc.tenantId, disputeId) (resolvedDispute tc dispute input))
    (here : after.disputes.lookup disputeId = some ⟨tc.tenantId,resolvedDispute tc dispute input⟩)
    (elsewhere : ∀ other, other ≠ disputeId → after.disputes.lookup other = w.disputes.lookup other)
    (reallocations : after.reallocations = w.reallocations ++ resolutionRecords tc disputeId dispute statement input)
    (records : after.managedReallocations =
      w.managedReallocations ++ resolutionRecords tc disputeId dispute statement input) :
    Settling after := by
  obtain ⟨⟨row,stored,_⟩,held⟩ := reaches
  obtain ⟨named,positive⟩ := settling.keyed _ _ _ held
  have current : row = dispute := by
    have same := settling.synced disputeId _ stored
    rw [held] at same
    cases same
    rfl
  subst current
  have unsettled : ∀ record ∈ w.managedReallocations, record.disputeId ≠ disputeId := by
    intro record member same
    obtain ⟨other,there,accepted,_⟩ := settling.settled record member
    rw [same,stored] at there
    have equal : row = other := (Owned.mk.inj (Option.some.inj there)).2
    subst equal
    split at undecided
    · exact undecided.1 (Or.inl accepted)
    · exact undecided accepted
  refine ⟨managedKeyed_upsert settling.keyed managed named positive,?_,?_,?_,?_⟩
  · intro id d there
    rw [managed,Table.lookup_overwrite]
    by_cases same : id = disputeId
    · subst same
      rw [here] at there
      cases there
      simp
    · rw [elsewhere id same] at there
      have apart : (d.tenantId, id) ≠ (tc.tenantId, disputeId) := fun equal => same (congrArg Prod.snd equal)
      rw [if_neg apart]
      exact settling.synced id d there
  · rw [reallocations,records,settling.mirrored]
  · rw [records,List.map_append]
    refine List.Nodup.append settling.distinct ?_ ?_
    · unfold resolutionRecords
      split <;> simp
    · intro id old new
      obtain ⟨record,member,rfl⟩ := List.mem_map.mp old
      refine unsettled record member ?_
      unfold resolutionRecords at new
      split at new
      · simpa [reallocationRecord] using new
      · cases new
  · intro record member
    rw [records,List.mem_append] at member
    rcases member with old | new
    · obtain ⟨d,there,rest⟩ := settling.settled record old
      exact ⟨d,(elsewhere _ (unsettled record old)).trans there,rest⟩
    · unfold resolutionRecords at new
      split at new
      · rename_i approval
        rw [List.mem_singleton.mp new]
        rw [if_pos approval] at undecided
        refine ⟨_,here,?_,reallocatedAmount_within positive undecided.2⟩
        simp [resolvedDispute,approval]
      · cases new

theorem serve_settling (w : World) (r : Request) (settling : Settling w) (permitted : SettlesOpen w r) :
    Settling (serve w r) := by
  have change := serve_disputes settling.keyed r
  unfold SettlesOpen at permitted
  cases change with
  | idle disputes managed reallocations records =>
    obtain ⟨keyed,synced,mirrored,distinct,settled⟩ := settling
    refine ⟨?_,?_,?_,?_,?_⟩
    · unfold ManagedKeyed
      rw [managed]
      exact keyed
    · rw [disputes,managed]
      exact synced
    · rw [reallocations,records]
      exact mirrored
    · rw [records]
      exact distinct
    · rw [records,disputes]
      exact settled
  | raised asked found positive managed disputes reallocations records =>
    rw [asked] at permitted
    exact (raised_settling settling positive (permitted _ found) managed disputes reallocations records).1
  | resolved asked reaches managed here elsewhere reallocations records =>
    rw [asked] at permitted
    exact resolved_settling settling reaches (permitted _ _ reaches) managed here elsewhere reallocations records

private theorem resolved_status {tc : TenantContext} {dispute : StatementDispute} {input : ResolveInput}
    (permitted : if isApproval input.decision then ¬ Resolved dispute.status ∧ ProposalFits dispute
      else dispute.status ≠ .resolvedAccepted) (closed : Resolved dispute.status) :
    (resolvedDispute tc dispute input).status = dispute.status := by
  split at permitted
  · exact absurd closed permitted.1
  · rename_i rejection
    rcases closed with accepted | rejected
    · exact absurd accepted permitted
    · simp [resolvedDispute,rejection,rejected]

theorem serve_statusKept (w : World) (r : Request) (settling : Settling w) (permitted : SettlesOpen w r) :
    StatusKept w r := by
  have change := serve_disputes settling.keyed r
  unfold SettlesOpen at permitted
  cases change with
  | idle disputes managed reallocations records =>
    unfold StatusKept
    rw [disputes,managed]
    exact ⟨fun key dispute held _ => ⟨dispute,held,rfl⟩,fun id row stored _ => ⟨row,stored,rfl⟩⟩
  | raised asked found positive managed disputes reallocations records =>
    rw [asked] at permitted
    have fresh := permitted _ found
    have kept := (raised_settling settling positive fresh managed disputes reallocations records).2
    constructor
    · intro key dispute held _
      refine ⟨dispute,?_,rfl⟩
      rw [managed,Table.lookup_overwrite]
      split
      · rename_i same
        rw [same,fresh] at held
        cases held
      · exact held
    · intro id row stored _
      exact ⟨row,kept id row stored,rfl⟩
  | resolved asked reaches managed here elsewhere reallocations records =>
    rw [asked] at permitted
    have allowed := permitted _ _ reaches
    rename_i disputeId input statement current
    constructor
    · intro key dispute held closed
      rw [managed,Table.lookup_overwrite]
      split
      · rename_i same
        rw [same,reaches.managed] at held
        cases held
        exact ⟨_,rfl,resolved_status allowed closed⟩
      · exact ⟨dispute,held,rfl⟩
    · intro id row stored closed
      by_cases same : id = disputeId
      · subst same
        obtain ⟨kept,there,_⟩ := reaches.stored
        rw [there] at stored
        cases stored
        have held := settling.synced id _ there
        rw [reaches.managed] at held
        cases held
        exact ⟨_,here,resolved_status allowed closed⟩
      · exact ⟨row,(elsewhere id same).trans stored,rfl⟩

theorem settling_settled {w : World} (settling : Settling w) : DisputesSettled w := by
  refine ⟨⟨settling.distinct,?_⟩,?_⟩
  · rw [settling.mirrored]
    exact settling.distinct
  · intro record member
    rw [settling.mirrored,List.mem_append,or_self] at member
    obtain ⟨dispute,stored,_,within⟩ := settling.settled record member
    exact ⟨dispute,settling.synced _ _ stored,within⟩

theorem noDisputes_settling {w : World} (none : NoDisputes w) : Settling w := by
  obtain ⟨stored,managed,reallocations,records⟩ := none
  refine ⟨?_,?_,?_,?_,?_⟩
  · intro tenant id dispute held
    rw [managed] at held
    cases held
  · intro id row held
    rw [stored] at held
    cases held
  · rw [reallocations,records]
  · rw [records]
    exact List.nodup_nil
  · rw [records]
    intro record member
    cases member

/-- In every run whose new disputes have fresh identifiers, whose approvals meet
open disputes with a proposed amount that fits, and which rejects no accepted
dispute, each dispute is reallocated at most once and within its amount, and no
step changes the status of a resolved dispute. -/
theorem disputes_settled_once (start : World) (none : NoDisputes start) (requests : List Request)
    (permitted : Along serve SettlesOpen start requests) :
    DisputesSettled (run serve start requests) ∧ Along serve StatusKept start requests := by
  have first := noDisputes_settling none
  constructor
  · exact settling_settled (run_preserves serve_settling first permitted)
  · exact along_of_invariant serve_statusKept serve_settling first permitted

def retailDispute (disputed proposed : ℚ) (decisions : List String) : List Request :=
  [⟨⟨"t-1","finance",none⟩,.generate (retailInput 100 120 90)⟩,
    ⟨⟨"t-1","owner",none⟩,.raise retailId ⟨"line-1","Compute",disputed,proposed,"wrong cost centre","investigator",1,"a",none⟩⟩] ++
    decisions.map (fun decision => ⟨⟨"t-1","controller",none⟩,.resolve "dsp-2026-03-a" ⟨decision,"reviewed",none,2,"b"⟩⟩)

private theorem empty_noDisputes : NoDisputes World.empty := ⟨rfl,rfl,rfl,rfl⟩

private theorem statusKept_at {w : World} {r : Request} (kept : StatusKept w r) (key : String × String) {status : DisputeStatus}
    (closed : Resolved status) (before : (w.managedDisputes.lookup key).map StatementDispute.status = some status) :
    ((serve w r).managedDisputes.lookup key).map StatementDispute.status = some status := by
  obtain ⟨dispute,held,rfl⟩ := Option.map_eq_some_iff.mp before
  obtain ⟨later,found,same⟩ := kept.1 key dispute held closed
  exact Option.map_eq_some_iff.mpr ⟨later,found,same⟩

private theorem settled_bounded {w : World} (settled : DisputesSettled w) :
    ∀ record ∈ w.managedReallocations, (w.managedDisputes.lookup (record.tenantId, record.disputeId)).all
      (fun dispute => decide (record.reallocatedAmount ≤ dispute.disputedAmount)) = true := by
  intro record member
  obtain ⟨dispute,held,within⟩ := settled.within record (List.mem_append_left _ member)
  rw [held,Option.all_some,decide_eq_true_iff]
  exact within.2.1

/-- A repeated approval records a second reallocation, a rejection after an
approval reverses the status, and a negative proposed amount moves more than was
disputed. -/
theorem repeated_approval_reallocates_twice :
    NoDisputes World.empty ∧
      ¬ DisputesSettled (run serve World.empty (retailDispute 50 20 ["APPROVE", "APPROVE"])) ∧
      ¬ Along serve StatusKept World.empty (retailDispute 50 20 ["APPROVE", "REJECT"]) ∧
      ¬ DisputesSettled (run serve World.empty (retailDispute 50 (-20) ["APPROVE"])) := by
  refine ⟨empty_noDisputes,?_,?_,?_⟩
  · intro settled
    exact absurd settled.once.1 (by decide +kernel)
  · intro kept
    have later := statusKept_at kept.2.2.2.1 ("t-1", "dsp-2026-03-a") (Or.inl rfl) (by decide +kernel)
    exact absurd later (by decide +kernel)
  · intro settled
    exact absurd (settled_bounded settled) (by decide +kernel)

instance (dispute : StatementDispute) : Decidable (ProposalFits dispute) :=
  inferInstanceAs (Decidable (_ ∧ (_ → _ → _)))

private theorem settlesOpen_raise {w : World} {tc : TenantContext} {id : String} {input : DisputeInput}
    (check : (w.statements.lookup id).all
      (fun row => (w.managedDisputes.lookup (tc.tenantId, disputeIdOf row.entity input)).isNone) = true) :
    SettlesOpen w ⟨tc,.raise id input⟩ := by
  intro statement found
  rw [found,Option.all_some,Option.isNone_iff_eq_none] at check
  exact check

private theorem settlesOpen_approve {w : World} {tc : TenantContext} {disputeId : String} {input : ResolveInput}
    (approval : isApproval input.decision = true)
    (check : (w.managedDisputes.lookup (tc.tenantId, disputeId)).all
      (fun dispute => decide (dispute.status = .submitted) && decide (ProposalFits dispute)) = true) :
    SettlesOpen w ⟨tc,.resolve disputeId input⟩ := by
  intro statement dispute reaches
  rw [if_pos approval]
  rw [reaches.managed,Option.all_some,Bool.and_eq_true,decide_eq_true_iff,decide_eq_true_iff] at check
  refine ⟨?_,check.2⟩
  rw [check.1]
  intro closed
  rcases closed with accepted | rejected
  · cases accepted
  · cases rejected

theorem disputes_settled_once_retail :
    (run serve World.empty (retailDispute 50 20 ["APPROVE"])).reallocations.map ReallocationRecord.reallocatedAmount = [30] ∧
      DisputesSettled (run serve World.empty (retailDispute 50 20 ["APPROVE"])) ∧
      Along serve StatusKept World.empty (retailDispute 50 20 ["APPROVE"]) :=
  ⟨by decide +kernel,disputes_settled_once World.empty empty_noDisputes (retailDispute 50 20 ["APPROVE"])
    ⟨trivial,settlesOpen_raise (by decide +kernel),settlesOpen_approve (by decide +kernel) (by decide +kernel),trivial⟩⟩

end CloudLens.Statements
