import CloudLens.Commitments.Service

/-! What a call reads and writes. It covers some commitments; of the map of analyses it
writes the entries of these only, and what a report answers is determined by the covered
commitments and the analyses stored for them. -/
namespace CloudLens.Commitments
open Library Library.Calendar

structure Store.Consistent (s : Store) : Prop where
  named : ∀ id comm, s.commitments.get id = some comm → comm.commitmentId = id
  analysed : ∀ id analysis, s.analyses.get id = some analysis → ∃ comm, s.commitments.get id = some comm

theorem Store.Consistent.unanalysed {s : Store} (consistent : s.Consistent) {id : String} (unheld : s.commitments.get id = none) :
    s.analyses.get id = none := by
  cases stored : s.analyses.get id with
  | none => rfl
  | some analysis =>
    obtain ⟨comm,held⟩ := consistent.analysed id analysis stored
    rw [unheld] at held
    cases held

def Store.covered (s : Store) (call : Call) : List CommitmentEntity :=
  match call.operation with
  | .registerCommitment .. => []
  | .recordRenewalDecision .. => []
  | .analyzeCoverageAndUtilization commitmentId _ _ => (s.commitments.get commitmentId).toList
  | .generateRecommendation commitmentId _ _ => (s.commitments.get commitmentId).toList
  | .triggerExpiryAlertsAndTasks commitmentId _ _ => (s.commitments.get commitmentId).toList
  | .getRenewalPipeline _ _ => s.listCommitments call.tenantId
  | .getPortfolioView _ => s.listCommitments call.tenantId

def Operation.isReport : Operation → Bool
  | .registerCommitment .. => false
  | .recordRenewalDecision .. => false
  | .analyzeCoverageAndUtilization .. => false
  | .generateRecommendation .. => true
  | .triggerExpiryAlertsAndTasks .. => true
  | .getRenewalPipeline .. => true
  | .getPortfolioView .. => true

def completed (assumed : CommitmentEntity → UsageCosts) (comm : CommitmentEntity)
    (held : Option CommitmentCoverageAnalysis) : CommitmentCoverageAnalysis :=
  held.getD (analysisOf comm (assumed comm) [])

/-- The analysis stored for a covered commitment afterwards, where `held` was stored before. -/
def Operation.leaves (operation : Operation) (comm : CommitmentEntity) (held : Option CommitmentCoverageAnalysis) :
    Option CommitmentCoverageAnalysis :=
  match operation with
  | .registerCommitment .. => held
  | .recordRenewalDecision .. => held
  | .analyzeCoverageAndUtilization _ costs trendHistory => some (analysisOf comm costs trendHistory)
  | .generateRecommendation .. => some (completed renewalCosts comm held)
  | .triggerExpiryAlertsAndTasks .. => some (completed exposureCosts comm held)
  | .getRenewalPipeline .. => some (completed exposureCosts comm held)
  | .getPortfolioView .. => some (completed exposureCosts comm held)

namespace Store

section Assumed

variable {s : Store} {comm : CommitmentEntity} {assumed : CommitmentEntity → UsageCosts} {id : String}

theorem analysisOrAssumed_fst : (s.analysisOrAssumed comm assumed).1 = completed assumed comm (s.analyses.get comm.commitmentId) := by
  unfold analysisOrAssumed completed
  cases s.analyses.get comm.commitmentId with
  | some analysis => rfl
  | none => rfl

theorem commitments_analysisOrAssumed : (s.analysisOrAssumed comm assumed).2.commitments = s.commitments := by
  unfold analysisOrAssumed
  cases s.analyses.get comm.commitmentId with
  | some analysis => rfl
  | none => rfl

theorem analysisOrAssumed_of_held (held : (s.analyses.get comm.commitmentId).isSome) : (s.analysisOrAssumed comm assumed).2 = s := by
  obtain ⟨analysis,stored⟩ := Option.isSome_iff_exists.mp held
  simp [analysisOrAssumed,stored]

theorem analyses_analysisOrAssumed : (s.analysisOrAssumed comm assumed).2.analyses.get id =
    if id = comm.commitmentId then some (completed assumed comm (s.analyses.get id)) else s.analyses.get id := by
  unfold analysisOrAssumed completed
  split
  · rename_i analysis stored
    split
    · rename_i same
      rw [same,stored]
      rfl
    · rfl
  · rename_i missing
    change (s.analyses.assign comm.commitmentId _).get id = _
    rw [Dict.get_assign]
    split
    · rename_i same
      rw [same,missing]
      rfl
    · rfl

end Assumed

section Collected

variable {s : Store} {leadTimeDays : ℤ} {now : Instant} {comms : List CommitmentEntity} {id : String}

theorem commitments_collectItems : (collectItems leadTimeDays now comms s).2.commitments = s.commitments := by
  induction comms generalizing s with
  | nil => rfl
  | cons comm rest ih =>
    change (collectItems leadTimeDays now rest (s.analysisOrAssumed comm exposureCosts).2).2.commitments = _
    rw [ih,commitments_analysisOrAssumed]

theorem collectItems_of_held (held : ∀ comm ∈ comms, (s.analyses.get comm.commitmentId).isSome) :
    (collectItems leadTimeDays now comms s).2 = s := by
  induction comms with
  | nil => rfl
  | cons comm rest ih =>
    have first := held comm (List.mem_cons_self ..)
    change (collectItems leadTimeDays now rest (s.analysisOrAssumed comm exposureCosts).2).2 = s
    rw [analysisOrAssumed_of_held first]
    exact ih (fun other member => held other (List.mem_cons_of_mem comm member))

theorem analyses_collectItems_other (other : ∀ comm ∈ comms, comm.commitmentId ≠ id) :
    (collectItems leadTimeDays now comms s).2.analyses.get id = s.analyses.get id := by
  induction comms generalizing s with
  | nil => rfl
  | cons comm rest ih =>
    change (collectItems leadTimeDays now rest (s.analysisOrAssumed comm exposureCosts).2).2.analyses.get id = _
    rw [ih (fun next member => other next (List.mem_cons_of_mem comm member)),analyses_analysisOrAssumed,
      if_neg (Ne.symm (other comm (List.mem_cons_self ..)))]

theorem analyses_collectItems (distinct : (comms.map CommitmentEntity.commitmentId).Nodup) {comm : CommitmentEntity}
    (member : comm ∈ comms) : (collectItems leadTimeDays now comms s).2.analyses.get comm.commitmentId =
      some (completed exposureCosts comm (s.analyses.get comm.commitmentId)) := by
  induction comms generalizing s with
  | nil => cases member
  | cons first rest ih =>
    rw [List.map_cons,List.nodup_cons] at distinct
    change (collectItems leadTimeDays now rest (s.analysisOrAssumed first exposureCosts).2).2.analyses.get _ = _
    have apart : ∀ next ∈ rest, next.commitmentId ≠ first.commitmentId := by
      intro next inside same
      exact distinct.1 (List.mem_map.mpr ⟨next,inside,same⟩)
    obtain rfl | inside := List.mem_cons.mp member
    · rw [analyses_collectItems_other apart,analyses_analysisOrAssumed,if_pos rfl]
    · rw [ih distinct.2 inside,analyses_analysisOrAssumed,if_neg (apart comm inside)]

theorem collectItems_fst (distinct : (comms.map CommitmentEntity.commitmentId).Nodup) :
    (collectItems leadTimeDays now comms s).1 = (comms.filter (isInWindow leadTimeDays now)).map
      (fun comm => pipelineItem now comm (completed exposureCosts comm (s.analyses.get comm.commitmentId))) := by
  induction comms generalizing s with
  | nil => rfl
  | cons first rest ih =>
    rw [List.map_cons,List.nodup_cons] at distinct
    have later : (collectItems leadTimeDays now rest (s.analysisOrAssumed first exposureCosts).2).1 =
        (rest.filter (isInWindow leadTimeDays now)).map
          (fun comm => pipelineItem now comm (completed exposureCosts comm (s.analyses.get comm.commitmentId))) := by
      rw [ih distinct.2]
      apply List.map_congr_left
      intro comm member
      have apart : comm.commitmentId ≠ first.commitmentId := by
        intro same
        exact distinct.1 (List.mem_map.mpr ⟨comm,List.mem_of_mem_filter member,same⟩)
      rw [analyses_analysisOrAssumed,if_neg apart]
    simp only [collectItems]
    rw [later,analysisOrAssumed_fst,List.filter_cons]
    split
    · rw [List.map_cons]
    · rfl

end Collected

section Listed

variable {s : Store} {tenantId : String} {comm : CommitmentEntity}

theorem mem_listCommitments (consistent : s.Consistent) :
    comm ∈ s.listCommitments tenantId ↔ s.commitments.get comm.commitmentId = some comm ∧ comm.tenantId = tenantId := by
  unfold listCommitments Dict.values
  rw [List.mem_filter,decide_eq_true_iff,List.mem_map]
  apply and_congr_left'
  constructor
  · rintro ⟨⟨id,held⟩,member,rfl⟩
    have found := Dict.get_eq_some_iff.mpr member
    rw [consistent.named id held found]
    exact found
  · intro found
    exact ⟨_,Dict.get_eq_some_iff.mp found,rfl⟩

theorem listCommitments_distinct (consistent : s.Consistent) : ((s.listCommitments tenantId).map CommitmentEntity.commitmentId).Nodup := by
  have keyed : s.commitments.values.map CommitmentEntity.commitmentId = s.commitments.keys := by
    unfold Dict.values Dict.keys
    rw [List.map_map]
    apply List.map_congr_left
    intro item member
    exact consistent.named item.1 item.2 (Dict.get_eq_some_iff.mpr member)
  refine (List.filter_sublist.map _).nodup ?_
  rw [keyed]
  exact s.commitments.distinct

end Listed

section Performed

variable {s : Store} {call : Call} {comm : CommitmentEntity} {id : String}

theorem covered_held (consistent : s.Consistent) (member : comm ∈ s.covered call) :
    s.commitments.get comm.commitmentId = some comm := by
  obtain ⟨tenantId,operation⟩ := call
  have named {id : String} (found : comm ∈ (s.commitments.get id).toList) : s.commitments.get comm.commitmentId = some comm := by
    have found := Option.mem_toList.mp found
    rw [consistent.named id comm found]
    exact found
  cases operation with
  | registerCommitment => cases member
  | recordRenewalDecision => cases member
  | analyzeCoverageAndUtilization => exact named member
  | generateRecommendation => exact named member
  | triggerExpiryAlertsAndTasks => exact named member
  | getRenewalPipeline => exact ((mem_listCommitments consistent).mp member).1
  | getPortfolioView => exact ((mem_listCommitments consistent).mp member).1

theorem generateRecommendation_snd (commitmentId : String) (forwardGrowthPct plannedDecommissionPct : ℚ) :
    (s.generateRecommendation commitmentId forwardGrowthPct plannedDecommissionPct).2 =
      (s.commitments.get commitmentId).elim s (fun comm => (s.analysisOrAssumed comm renewalCosts).2) := by
  unfold generateRecommendation getCommitment
  cases s.commitments.get commitmentId with
  | none => rfl
  | some comm => rfl

theorem analyze_of_held {id : String} {costs : UsageCosts} {trendHistory : List HistoricalTrend}
    (found : s.commitments.get id = some comm) :
    s.analyzeCoverageAndUtilization id costs trendHistory = .ok (s.recordAnalysis comm costs trendHistory) := by
  unfold analyzeCoverageAndUtilization getCommitment
  rw [found]
  rfl

theorem analyze_of_unheld {id : String} {costs : UsageCosts} {trendHistory : List HistoricalTrend}
    (missing : s.commitments.get id = none) :
    s.analyzeCoverageAndUtilization id costs trendHistory = .error (.commitmentNotFound id) := by
  unfold analyzeCoverageAndUtilization getCommitment
  rw [missing]
  rfl

theorem analyze_snd (tenantId commitmentId : String) (costs : UsageCosts) (trendHistory : List HistoricalTrend) :
    (s.perform ⟨tenantId,.analyzeCoverageAndUtilization commitmentId costs trendHistory⟩).2 =
      (s.commitments.get commitmentId).elim s (fun comm => (s.recordAnalysis comm costs trendHistory).2) := by
  unfold perform
  dsimp only
  cases found : s.commitments.get commitmentId with
  | none =>
    rw [analyze_of_unheld found]
    rfl
  | some comm =>
    rw [analyze_of_held found]
    rfl

theorem getPortfolioView_snd (tenantId : String) (now : Instant) :
    (s.getPortfolioView tenantId now).2 = (s.getRenewalPipeline tenantId 365 now).2 := by
  unfold getPortfolioView
  dsimp only
  split
  · rename_i none
    simp [getRenewalPipeline,none,collectItems]
  · rfl

theorem trigger_snd (commitmentId : String) (now : Instant) (task : Option (Except String String)) :
    ∃ alerts, (s.triggerExpiryAlertsAndTasks commitmentId now task).2 =
      { (s.commitments.get commitmentId).elim s (fun comm => (s.analysisOrAssumed comm exposureCosts).2) with alerts := alerts } := by
  unfold triggerExpiryAlertsAndTasks getCommitment
  cases s.commitments.get commitmentId with
  | none => exact ⟨s.alerts,rfl⟩
  | some comm =>
    obtain _ | _ | _ := task
    · exact ⟨_,rfl⟩
    · exact ⟨_,rfl⟩
    · exact ⟨_,rfl⟩

theorem decision_snd (tenantId commitmentId : String) (chosenAction : RenewalAction) (approverId justification : String)
    (submission : Option (Except String String)) (authorityThreshold : ℚ) :
    ∃ decisions, (s.recordRenewalDecision tenantId commitmentId chosenAction approverId justification submission
      authorityThreshold).2 = { s with decisions := decisions } := by
  unfold recordRenewalDecision
  cases s.getCommitment commitmentId with
  | error missing => exact ⟨s.decisions,rfl⟩
  | ok comm =>
    dsimp only
    split
    · exact ⟨_,rfl⟩
    · exact ⟨s.decisions,rfl⟩
    · exact ⟨_,rfl⟩

theorem commitments_perform (unregistered : ∀ id provider kind expiryDate cost ownerId term,
      call.operation ≠ .registerCommitment id provider kind expiryDate cost ownerId term) :
    (s.perform call).2.commitments = s.commitments := by
  obtain ⟨tenantId,operation⟩ := call
  cases operation with
  | registerCommitment => exact (unregistered _ _ _ _ _ _ _ rfl).elim
  | recordRenewalDecision id action approverId justification submission threshold =>
    obtain ⟨decisions,after⟩ := decision_snd (s := s) tenantId id action approverId justification submission threshold
    change (s.recordRenewalDecision tenantId id action approverId justification submission threshold).2.commitments = _
    rw [after]
  | analyzeCoverageAndUtilization id costs trendHistory =>
    rw [analyze_snd]
    cases s.commitments.get id with
    | none => rfl
    | some comm => rfl
  | generateRecommendation id growth decommission =>
    change (s.generateRecommendation id growth decommission).2.commitments = _
    rw [generateRecommendation_snd]
    cases s.commitments.get id with
    | none => rfl
    | some comm => exact commitments_analysisOrAssumed
  | triggerExpiryAlertsAndTasks id now task =>
    obtain ⟨alerts,after⟩ := trigger_snd (s := s) id now task
    change (s.triggerExpiryAlertsAndTasks id now task).2.commitments = _
    rw [after]
    cases s.commitments.get id with
    | none => rfl
    | some comm => exact commitments_analysisOrAssumed
  | getRenewalPipeline => exact commitments_collectItems
  | getPortfolioView now =>
    change (s.getPortfolioView tenantId now).2.commitments = _
    rw [getPortfolioView_snd]
    exact commitments_collectItems

theorem analyses_uncovered (other : ∀ comm ∈ s.covered call, comm.commitmentId ≠ id) :
    (s.perform call).2.analyses.get id = s.analyses.get id := by
  obtain ⟨tenantId,operation⟩ := call
  have named {wanted : String} (apart : ∀ comm ∈ (s.commitments.get wanted).toList, comm.commitmentId ≠ id) (comm : CommitmentEntity)
      (found : s.commitments.get wanted = some comm) : ¬id = comm.commitmentId := by
    exact Ne.symm (apart comm (Option.mem_toList.mpr found))
  cases operation with
  | registerCommitment => rfl
  | recordRenewalDecision wanted action approverId justification submission threshold =>
    obtain ⟨decisions,after⟩ := decision_snd (s := s) tenantId wanted action approverId justification submission threshold
    change (s.recordRenewalDecision tenantId wanted action approverId justification submission threshold).2.analyses.get id = _
    rw [after]
  | analyzeCoverageAndUtilization wanted costs trendHistory =>
    rw [analyze_snd]
    cases found : s.commitments.get wanted with
    | none => rfl
    | some comm =>
      change (s.analyses.assign comm.commitmentId _).get id = _
      rw [Dict.get_assign,if_neg (named other comm found)]
  | generateRecommendation wanted growth decommission =>
    change (s.generateRecommendation wanted growth decommission).2.analyses.get id = _
    rw [generateRecommendation_snd]
    cases found : s.commitments.get wanted with
    | none => rfl
    | some comm =>
      rw [Option.elim_some,analyses_analysisOrAssumed,if_neg (named other comm found)]
  | triggerExpiryAlertsAndTasks wanted now task =>
    obtain ⟨alerts,after⟩ := trigger_snd (s := s) wanted now task
    change (s.triggerExpiryAlertsAndTasks wanted now task).2.analyses.get id = _
    rw [after]
    cases found : s.commitments.get wanted with
    | none => rfl
    | some comm =>
      rw [Option.elim_some,analyses_analysisOrAssumed,if_neg (named other comm found)]
  | getRenewalPipeline leadTimeDays now => exact analyses_collectItems_other other
  | getPortfolioView now =>
    change (s.getPortfolioView tenantId now).2.analyses.get id = _
    rw [getPortfolioView_snd]
    exact analyses_collectItems_other other

theorem analyses_covered (consistent : s.Consistent) (member : comm ∈ s.covered call) :
    (s.perform call).2.analyses.get comm.commitmentId = call.operation.leaves comm (s.analyses.get comm.commitmentId) := by
  obtain ⟨tenantId,operation⟩ := call
  cases operation with
  | registerCommitment => rfl
  | recordRenewalDecision => cases member
  | analyzeCoverageAndUtilization wanted costs trendHistory =>
    have found : s.commitments.get wanted = some comm := Option.mem_toList.mp member
    rw [analyze_snd,found]
    change (s.analyses.assign comm.commitmentId _).get _ = _
    rw [Dict.get_assign,if_pos rfl]
    rfl
  | generateRecommendation wanted growth decommission =>
    have found : s.commitments.get wanted = some comm := Option.mem_toList.mp member
    change (s.generateRecommendation wanted growth decommission).2.analyses.get _ = _
    rw [generateRecommendation_snd,found,Option.elim_some,analyses_analysisOrAssumed,if_pos rfl]
    rfl
  | triggerExpiryAlertsAndTasks wanted now task =>
    have found : s.commitments.get wanted = some comm := Option.mem_toList.mp member
    obtain ⟨alerts,after⟩ := trigger_snd (s := s) wanted now task
    change (s.triggerExpiryAlertsAndTasks wanted now task).2.analyses.get _ = _
    rw [after,found,Option.elim_some,analyses_analysisOrAssumed,if_pos rfl]
    rfl
  | getRenewalPipeline leadTimeDays now => exact analyses_collectItems (listCommitments_distinct consistent) member
  | getPortfolioView now =>
    change (s.getPortfolioView tenantId now).2.analyses.get _ = _
    rw [getPortfolioView_snd]
    exact analyses_collectItems (listCommitments_distinct consistent) member

theorem consistent_perform (consistent : s.Consistent) : (s.perform call).2.Consistent := by
  have kept (same : (s.perform call).2.commitments = s.commitments) : (s.perform call).2.Consistent := by
    refine ⟨?_,?_⟩
    · rw [same]
      exact consistent.named
    · rw [same]
      intro id analysis stored
      by_cases inside : ∃ comm ∈ s.covered call, comm.commitmentId = id
      · obtain ⟨comm,member,rfl⟩ := inside
        exact ⟨comm,covered_held consistent member⟩
      · rw [analyses_uncovered (fun comm member equal => inside ⟨comm,member,equal⟩)] at stored
        exact consistent.analysed id analysis stored
  obtain ⟨tenantId,operation⟩ := call
  cases operation with
  | registerCommitment wanted provider kind expiryDate cost ownerId term =>
    refine ⟨?_,?_⟩
    · intro id comm found
      change (s.commitments.assign wanted _).get id = _ at found
      rw [Dict.get_assign] at found
      split at found
      · rename_i same
        cases found
        exact same.symm
      · exact consistent.named id comm found
    · intro id analysis stored
      change ∃ comm, (s.commitments.assign wanted _).get id = some comm
      rw [Dict.get_assign]
      split
      · exact ⟨_,rfl⟩
      · exact consistent.analysed id analysis stored
  | _ => exact kept (commitments_perform (by rintro _ _ _ _ _ _ _ ⟨⟩))

theorem report_congr {other : Store} (consistent : s.Consistent) (consistentOther : other.Consistent) (report : call.operation.isReport)
    (same : other.covered call = s.covered call)
    (alike : ∀ comm ∈ s.covered call, other.analyses.get comm.commitmentId = s.analyses.get comm.commitmentId) :
    (other.perform call).1 = (s.perform call).1 := by
  obtain ⟨tenantId,operation⟩ := call
  have named {wanted : String} (covers : (other.commitments.get wanted).toList = (s.commitments.get wanted).toList) :
      other.commitments.get wanted = s.commitments.get wanted := by
    simpa using congrArg List.head? covers
  have pipeline (leadTimeDays : ℤ) (now : Instant) (listed : other.listCommitments tenantId = s.listCommitments tenantId)
      (alike : ∀ comm ∈ s.listCommitments tenantId, other.analyses.get comm.commitmentId = s.analyses.get comm.commitmentId) :
      (other.getRenewalPipeline tenantId leadTimeDays now).1 = (s.getRenewalPipeline tenantId leadTimeDays now).1 := by
    change ranked (collectItems leadTimeDays now (other.listCommitments tenantId) other).1 =
      ranked (collectItems leadTimeDays now (s.listCommitments tenantId) s).1
    rw [collectItems_fst (listCommitments_distinct consistentOther),collectItems_fst (listCommitments_distinct consistent),listed]
    congr 1
    apply List.map_congr_left
    intro comm member
    rw [alike comm (List.mem_of_mem_filter member)]
  cases operation with
  | registerCommitment => cases report
  | recordRenewalDecision => cases report
  | analyzeCoverageAndUtilization => cases report
  | generateRecommendation wanted growth decommission =>
    have found := named same
    change Outcome.of .recommendation (other.generateRecommendation wanted growth decommission).1 =
      Outcome.of .recommendation (s.generateRecommendation wanted growth decommission).1
    congr 1
    unfold generateRecommendation getCommitment
    rw [found]
    cases held : s.commitments.get wanted with
    | none => rfl
    | some comm =>
      change Except.ok (recommend comm (other.analysisOrAssumed comm renewalCosts).1 growth decommission) =
        Except.ok (recommend comm (s.analysisOrAssumed comm renewalCosts).1 growth decommission)
      rw [analysisOrAssumed_fst,analysisOrAssumed_fst,alike comm (Option.mem_toList.mpr held)]
  | triggerExpiryAlertsAndTasks wanted now task =>
    have found := named same
    change Outcome.of .alert (other.triggerExpiryAlertsAndTasks wanted now task).1 =
      Outcome.of .alert (s.triggerExpiryAlertsAndTasks wanted now task).1
    congr 1
    unfold triggerExpiryAlertsAndTasks getCommitment
    rw [found]
    cases held : s.commitments.get wanted with
    | none => rfl
    | some comm =>
      have analysis : (other.analysisOrAssumed comm exposureCosts).1 = (s.analysisOrAssumed comm exposureCosts).1 := by
        rw [analysisOrAssumed_fst,analysisOrAssumed_fst,alike comm (Option.mem_toList.mpr held)]
      dsimp only
      rw [analysis]
      obtain _ | _ | _ := task
      · rfl
      · rfl
      · rfl
  | getRenewalPipeline leadTimeDays now => exact congrArg Outcome.pipeline (pipeline leadTimeDays now same alike)
  | getPortfolioView now =>
    have listed : other.listCommitments tenantId = s.listCommitments tenantId := same
    have stored : (s.listCommitments tenantId).filterMap (fun comm => other.analyses.get comm.commitmentId) =
        (s.listCommitments tenantId).filterMap (fun comm => s.analyses.get comm.commitmentId) := List.filterMap_congr alike
    change Outcome.portfolio (other.getPortfolioView tenantId now).1 = Outcome.portfolio (s.getPortfolioView tenantId now).1
    congr 1
    unfold getPortfolioView
    dsimp only
    rw [listed]
    split
    · rfl
    · rw [stored,pipeline 365 now listed alike]

theorem report_silent (report : call.operation.isReport)
    (held : ∀ comm ∈ s.covered call, (s.analyses.get comm.commitmentId).isSome) :
    (s.perform call).2.commitments = s.commitments ∧ (s.perform call).2.analyses = s.analyses := by
  obtain ⟨tenantId,operation⟩ := call
  have filled {wanted : String} {assumed : CommitmentEntity → UsageCosts}
      (held : ∀ comm ∈ (s.commitments.get wanted).toList, (s.analyses.get comm.commitmentId).isSome) :
      (s.commitments.get wanted).elim s (fun comm => (s.analysisOrAssumed comm assumed).2) = s := by
    cases found : s.commitments.get wanted with
    | none => rfl
    | some comm => exact analysisOrAssumed_of_held (held comm (Option.mem_toList.mpr found))
  cases operation with
  | registerCommitment => cases report
  | recordRenewalDecision => cases report
  | analyzeCoverageAndUtilization => cases report
  | generateRecommendation wanted growth decommission =>
    have after : (s.generateRecommendation wanted growth decommission).2 = s := by
      rw [generateRecommendation_snd]
      exact filled held
    exact ⟨congrArg commitments after,congrArg analyses after⟩
  | triggerExpiryAlertsAndTasks wanted now task =>
    obtain ⟨alerts,after⟩ := trigger_snd (s := s) wanted now task
    rw [filled held] at after
    change (s.triggerExpiryAlertsAndTasks wanted now task).2.commitments = _ ∧
      (s.triggerExpiryAlertsAndTasks wanted now task).2.analyses = _
    rw [after]
    exact ⟨rfl,rfl⟩
  | getRenewalPipeline leadTimeDays now =>
    have after : (s.getRenewalPipeline tenantId leadTimeDays now).2 = s := collectItems_of_held held
    exact ⟨congrArg commitments after,congrArg analyses after⟩
  | getPortfolioView now =>
    have after : (s.getPortfolioView tenantId now).2 = s := by
      rw [getPortfolioView_snd]
      exact collectItems_of_held held
    exact ⟨congrArg commitments after,congrArg analyses after⟩

end Performed

end Store

end CloudLens.Commitments
