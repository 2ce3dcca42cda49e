import CloudLens.Commitments.Effects
import CloudLens.Library.Runs

/-! Whether the reports only observe. A report that meets a commitment nobody has analysed
stores the figures it assumes where analyses are kept; and the maps are keyed by the
commitment's id alone, so that a call by a tenant reaches what another tenant registered. -/
namespace CloudLens.Commitments
open Library Library.Runs Library.Calendar

def Store.step (s : Store) (call : Call) : Store := (s.perform call).2

def Store.answer (s : Store) (call : Call) : Outcome := (s.perform call).1

def reached (calls : List Call) : Store := run Store.step Store.empty calls

def Call.isReport (call : Call) : Bool := call.operation.isReport

def withoutReports (calls : List Call) : List Call := calls.filter (fun call => !call.isReport)

def callsOf (tenantId : String) (calls : List Call) : List Call := calls.filter (fun call => call.tenantId = tenantId)

def explicitAnalyses : Store → List Call → List CommitmentCoverageAnalysis
  | _, [] => []
  | s, call :: rest =>
    match s.answer call with
    | .analysis analysis => analysis :: explicitAnalyses (s.step call) rest
    | _ => explicitAnalyses (s.step call) rest

def explicitAnalysis (calls : List Call) (commitmentId : String) : Option CommitmentCoverageAnalysis :=
  (explicitAnalyses Store.empty calls).reverse.find? (fun analysis => analysis.commitmentId = commitmentId)

def Store.Supported (s : Store) (call : Call) : Prop :=
  call.isReport → ∀ comm ∈ s.covered call, (s.analyses.get comm.commitmentId).isSome

/-- The commitment whose contract or analysis a call is about; a decision is read by no report. -/
def Operation.names : Operation → Option String
  | .registerCommitment commitmentId .. => some commitmentId
  | .analyzeCoverageAndUtilization commitmentId _ _ => some commitmentId
  | .recordRenewalDecision .. => none
  | .generateRecommendation commitmentId _ _ => some commitmentId
  | .triggerExpiryAlertsAndTasks commitmentId _ _ => some commitmentId
  | .getRenewalPipeline _ _ => none
  | .getPortfolioView _ => none

def Store.Own (s : Store) (call : Call) : Prop :=
  ∀ comm, call.operation.names.bind s.commitments.get = some comm → comm.tenantId = call.tenantId

/-- A report has nothing to assume, and another call names nothing of another tenant. -/
def Store.Sound (s : Store) (call : Call) : Prop := s.Supported call ∧ (call.isReport = false → s.Own call)

structure Ranked (items : List RenewalPipelineItem) (comms : List CommitmentEntity) : Prop where
  sorted : items.Pairwise (fun a b => b.valueAtRisk ≤ a.valueAtRisk)
  ranks : items.map RenewalPipelineItem.rank = List.range' 1 items.length
  exact : (items.map RenewalPipelineItem.commitmentId).Perm (comms.map CommitmentEntity.commitmentId)

/-- What the reports after these calls are: they depend on no report called before them and on no
call of another tenant, savings are those of explicit analyses, and the pipeline is ranked. -/
structure Faithful (calls : List Call) : Prop where
  unobserved : ∀ other, Along Store.step Store.Sound Store.empty other → withoutReports other = withoutReports calls →
    ∀ report : Call, report.isReport → (reached other).answer report = (reached calls).answer report
  savings : ∀ tenantId now, ((reached calls).getPortfolioView tenantId now).1.totalRealizedSavings =
    ((((reached calls).listCommitments tenantId).filterMap (fun comm => explicitAnalysis calls comm.commitmentId)).map
      CommitmentCoverageAnalysis.realizedSaving).sum
  pipeline : ∀ tenantId leadTimeDays now, Ranked ((reached calls).getRenewalPipeline tenantId leadTimeDays now).1
    (((reached calls).listCommitments tenantId).filter (Store.isInWindow leadTimeDays now))
  separate : ∀ report : Call, report.isReport → (reached calls).Own report →
    (reached (callsOf report.tenantId calls)).answer report = (reached calls).answer report

theorem consistent_empty : Store.empty.Consistent := by
  refine ⟨?_,?_⟩
  · intro id comm found
    cases found
  · intro id analysis stored
    cases stored

theorem consistent_run {s : Store} (calls : List Call) (consistent : s.Consistent) : (run Store.step s calls).Consistent :=
  run_invariant (fun _ _ kept => Store.consistent_perform kept) calls consistent

theorem consistent_reached (calls : List Call) : (reached calls).Consistent := consistent_run calls consistent_empty

section Unobserved

def SameBooks (s other : Store) : Prop := other.commitments = s.commitments ∧ other.analyses = s.analyses

variable {s other : Store} {call : Call}

theorem covered_sameBooks (same : SameBooks s other) : other.covered call = s.covered call := by
  obtain ⟨tenantId,operation⟩ := call
  cases operation <;> simp only [Store.covered,Store.listCommitments,same.1]

theorem answer_sameBooks (consistent : s.Consistent) (consistentOther : other.Consistent) (same : SameBooks s other)
    (report : call.isReport) : other.answer call = s.answer call := by
  refine Store.report_congr consistent consistentOther report (covered_sameBooks same) ?_
  intro comm _
  rw [same.2]

theorem sameBooks_step (same : SameBooks s other) (plain : call.isReport = false) : SameBooks (s.step call) (other.step call) := by
  obtain ⟨tenantId,operation⟩ := call
  cases operation with
  | registerCommitment => exact ⟨congrArg (fun held => Dict.assign _ _ held) same.1,same.2⟩
  | analyzeCoverageAndUtilization id costs trendHistory =>
    unfold SameBooks Store.step
    rw [Store.analyze_snd,Store.analyze_snd,same.1]
    cases s.commitments.get id with
    | none => exact same
    | some comm => exact ⟨same.1,congrArg (Dict.assign _ _) same.2⟩
  | recordRenewalDecision id action approverId justification submission threshold =>
    obtain ⟨_,first⟩ := Store.decision_snd (s := s) tenantId id action approverId justification submission threshold
    obtain ⟨_,second⟩ := Store.decision_snd (s := other) tenantId id action approverId justification submission threshold
    change SameBooks (s.recordRenewalDecision tenantId id action approverId justification submission threshold).2
      (other.recordRenewalDecision tenantId id action approverId justification submission threshold).2
    rw [first,second]
    exact same
  | generateRecommendation => cases plain
  | triggerExpiryAlertsAndTasks => cases plain
  | getRenewalPipeline => cases plain
  | getPortfolioView => cases plain

theorem sameBooks_withoutReports {calls : List Call} (same : SameBooks s other)
    (sound : Along Store.step Store.Sound s calls) :
    SameBooks (run Store.step s calls) (run Store.step other (withoutReports calls)) := by
  induction calls generalizing s other with
  | nil => exact same
  | cons call rest ih =>
    obtain ⟨first,later⟩ := sound
    unfold withoutReports
    cases reports : call.isReport with
    | false =>
      rw [List.filter_cons_of_pos (by simp [reports]),run_cons,run_cons]
      exact ih (sameBooks_step same reports) later
    | true =>
      rw [List.filter_cons_of_neg (by simp [reports]),run_cons]
      have silent := Store.report_silent reports (first.1 reports)
      refine ih ⟨same.1.trans silent.1.symm,same.2.trans silent.2.symm⟩ later

theorem reached_unobserved {calls others : List Call} (sound : Along Store.step Store.Sound Store.empty calls)
    (soundOther : Along Store.step Store.Sound Store.empty others) (alike : withoutReports others = withoutReports calls)
    {report : Call} (reports : report.isReport) : (reached others).answer report = (reached calls).answer report := by
  have here : SameBooks (reached calls) (reached (withoutReports calls)) := sameBooks_withoutReports ⟨rfl,rfl⟩ sound
  have there : SameBooks (reached others) (reached (withoutReports others)) := sameBooks_withoutReports ⟨rfl,rfl⟩ soundOther
  rw [alike] at there
  have same : SameBooks (reached calls) (reached others) := ⟨there.1.symm.trans here.1,there.2.symm.trans here.2⟩
  exact answer_sameBooks (consistent_reached calls) (consistent_reached others) same reports

end Unobserved

section Savings

variable {s : Store} {call : Call} {id : String}

theorem of_ne_analysis {Result : Type} {wrap : Result → Outcome} {analysis : CommitmentCoverageAnalysis}
    (other : ∀ result, wrap result ≠ .analysis analysis) (answered : Except CommitmentError Result) :
    Outcome.of wrap answered ≠ .analysis analysis := by
  cases answered with
  | ok result => exact other result
  | error refused => rintro ⟨⟩

theorem analyses_analysed {analysis : CommitmentCoverageAnalysis} (returned : s.answer call = .analysis analysis) :
    (s.step call).analyses.get id = if analysis.commitmentId = id then some analysis else s.analyses.get id := by
  obtain ⟨tenantId,operation⟩ := call
  cases operation with
  | analyzeCoverageAndUtilization wanted costs trendHistory =>
    unfold Store.answer Store.perform at returned
    dsimp only at returned
    unfold Store.step
    rw [Store.analyze_snd]
    cases found : s.commitments.get wanted with
    | none =>
      rw [Store.analyze_of_unheld found] at returned
      cases returned
    | some comm =>
      rw [Store.analyze_of_held found] at returned
      cases returned
      change (s.analyses.assign comm.commitmentId _).get id = _
      rw [Dict.get_assign]
      exact if_congr eq_comm rfl rfl
  | recordRenewalDecision => exact absurd returned (of_ne_analysis (by rintro _ ⟨⟩) _)
  | generateRecommendation => exact absurd returned (of_ne_analysis (by rintro _ ⟨⟩) _)
  | triggerExpiryAlertsAndTasks => exact absurd returned (of_ne_analysis (by rintro _ ⟨⟩) _)
  | registerCommitment => cases returned
  | getRenewalPipeline => cases returned
  | getPortfolioView => cases returned

theorem analyses_unanalysed (supported : s.Supported call) (none : ∀ analysis, s.answer call ≠ .analysis analysis) :
    (s.step call).analyses = s.analyses := by
  cases reports : call.isReport with
  | true => exact (Store.report_silent reports (supported reports)).2
  | false =>
    obtain ⟨tenantId,operation⟩ := call
    cases operation with
    | registerCommitment => rfl
    | analyzeCoverageAndUtilization wanted costs trendHistory =>
      unfold Store.answer Store.perform at none
      dsimp only at none
      unfold Store.step
      rw [Store.analyze_snd]
      cases found : s.commitments.get wanted with
      | none => rfl
      | some comm =>
        rw [Store.analyze_of_held found] at none
        exact absurd rfl (none _)
    | recordRenewalDecision id action approverId justification submission threshold =>
      obtain ⟨_,after⟩ := Store.decision_snd (s := s) tenantId id action approverId justification submission threshold
      change (s.recordRenewalDecision tenantId id action approverId justification submission threshold).2.analyses = _
      rw [after]
    | generateRecommendation => cases reports
    | triggerExpiryAlertsAndTasks => cases reports
    | getRenewalPipeline => cases reports
    | getPortfolioView => cases reports

theorem analyses_run {calls : List Call} (sound : Along Store.step Store.Sound s calls) :
    (run Store.step s calls).analyses.get id =
      ((explicitAnalyses s calls).reverse.find? (fun analysis => analysis.commitmentId = id)).or (s.analyses.get id) := by
  induction calls generalizing s with
  | nil => rfl
  | cons call rest ih =>
    obtain ⟨first,later⟩ := sound
    rw [run_cons,ih later]
    simp only [explicitAnalyses]
    split
    · rename_i analysis returned
      rw [analyses_analysed returned,List.reverse_cons,List.find?_append,Option.or_assoc]
      congr 1
      by_cases same : analysis.commitmentId = id
      · simp [same]
      · simp [same]
    · rename_i none
      rw [analyses_unanalysed first.1 none]

theorem analyses_reached {calls : List Call} (sound : Along Store.step Store.Sound Store.empty calls) :
    (reached calls).analyses.get id = explicitAnalysis calls id := by
  have stored : (reached calls).analyses.get id = (explicitAnalysis calls id).or none := analyses_run sound
  rw [stored,Option.or_none]

theorem totalRealizedSavings_eq (s : Store) (tenantId : String) (now : Instant) :
    (s.getPortfolioView tenantId now).1.totalRealizedSavings =
      (((s.listCommitments tenantId).filterMap (fun comm => s.analyses.get comm.commitmentId)).map
        CommitmentCoverageAnalysis.realizedSaving).sum := by
  unfold Store.getPortfolioView
  dsimp only
  split
  · rename_i none
    rw [none]
    rfl
  · rfl

end Savings

section Ranking

theorem map_ranked {β : Type} {f : RenewalPipelineItem → β} (unranked : ∀ item rank, f { item with rank := rank } = f item)
    (items : List RenewalPipelineItem) :
    (Store.ranked items).map f = (items.mergeSort (fun a b => decide (b.valueAtRisk ≤ a.valueAtRisk))).map f := by
  apply List.ext_getElem
  · simp [Store.ranked]
  · intro index left right
    simp [Store.ranked,unranked]

theorem ranked_sorted (items : List RenewalPipelineItem) :
    (Store.ranked items).Pairwise (fun a b => b.valueAtRisk ≤ a.valueAtRisk) := by
  have ordered : (items.mergeSort (fun a b => decide (b.valueAtRisk ≤ a.valueAtRisk))).Pairwise
      (fun a b => b.valueAtRisk ≤ a.valueAtRisk) := by
    refine (List.pairwise_mergeSort ?_ ?_ items).imp of_decide_eq_true
    · intro a b c first second
      exact decide_eq_true (le_trans (of_decide_eq_true second) (of_decide_eq_true first))
    · intro a b
      simpa using le_total b.valueAtRisk a.valueAtRisk
  have values := map_ranked (f := RenewalPipelineItem.valueAtRisk) (fun _ _ => rfl) items
  have mapped : ((Store.ranked items).map RenewalPipelineItem.valueAtRisk).Pairwise (fun a b => b ≤ a) := by
    rw [values]
    exact List.pairwise_map.mpr ordered
  exact List.pairwise_map.mp mapped

theorem ranks_ranked (items : List RenewalPipelineItem) :
    (Store.ranked items).map RenewalPipelineItem.rank = List.range' 1 (Store.ranked items).length := by
  apply List.ext_getElem
  · simp
  · intro index left right
    simp [Store.ranked,Nat.add_comm]

theorem pipeline_ranked {s : Store} (consistent : s.Consistent) (tenantId : String) (leadTimeDays : ℤ) (now : Instant) :
    Ranked (s.getRenewalPipeline tenantId leadTimeDays now).1
      ((s.listCommitments tenantId).filter (Store.isInWindow leadTimeDays now)) := by
  change Ranked (Store.ranked (Store.collectItems leadTimeDays now (s.listCommitments tenantId) s).1) _
  rw [Store.collectItems_fst (Store.listCommitments_distinct consistent)]
  refine ⟨ranked_sorted _,ranks_ranked _,?_⟩
  rw [map_ranked (fun _ _ => rfl)]
  refine ((List.mergeSort_perm _ _).map _).trans ?_
  rw [List.map_map]
  exact List.Perm.refl _

end Ranking

section Separate

structure Portion (tenantId : String) (s own : Store) : Prop where
  held : own.commitments = s.commitments.filterValues (fun comm => comm.tenantId = tenantId)
  analysed : ∀ id comm, own.commitments.get id = some comm → own.analyses.get id = s.analyses.get id

variable {s own : Store} {call : Call} {tenantId : String}

theorem Portion.get_eq_some (portion : Portion tenantId s own) {id : String} {comm : CommitmentEntity} :
    own.commitments.get id = some comm ↔ s.commitments.get id = some comm ∧ comm.tenantId = tenantId := by
  rw [portion.held,Dict.get_filterValues_eq_some,decide_eq_true_iff]

theorem Portion.get_own (portion : Portion tenantId s own) {id : String}
    (named : ∀ comm, s.commitments.get id = some comm → comm.tenantId = tenantId) :
    own.commitments.get id = s.commitments.get id := by
  apply Option.ext
  intro comm
  rw [portion.get_eq_some]
  exact and_iff_left_of_imp (named comm)

theorem Portion.covered_own (portion : Portion call.tenantId s own) (names : s.Own call) : own.covered call = s.covered call := by
  obtain ⟨tenantId,operation⟩ := call
  have listed : own.listCommitments tenantId = s.listCommitments tenantId := by
    unfold Store.listCommitments
    rw [portion.held,Dict.values_filterValues,List.filter_filter]
    simp
  cases operation with
  | registerCommitment => rfl
  | recordRenewalDecision => rfl
  | analyzeCoverageAndUtilization => exact congrArg Option.toList (portion.get_own names)
  | generateRecommendation => exact congrArg Option.toList (portion.get_own names)
  | triggerExpiryAlertsAndTasks => exact congrArg Option.toList (portion.get_own names)
  | getRenewalPipeline => exact listed
  | getPortfolioView => exact listed

theorem covered_tenant (consistent : s.Consistent) (names : s.Own call) {comm : CommitmentEntity} (member : comm ∈ s.covered call) :
    comm.tenantId = call.tenantId := by
  obtain ⟨tenantId,operation⟩ := call
  cases operation with
  | registerCommitment => cases member
  | recordRenewalDecision => cases member
  | analyzeCoverageAndUtilization => exact names comm (Option.mem_toList.mp member)
  | generateRecommendation => exact names comm (Option.mem_toList.mp member)
  | triggerExpiryAlertsAndTasks => exact names comm (Option.mem_toList.mp member)
  | getRenewalPipeline => exact ((Store.mem_listCommitments consistent).mp member).2
  | getPortfolioView => exact ((Store.mem_listCommitments consistent).mp member).2

theorem covered_of_id (consistent : s.Consistent) {comm other : CommitmentEntity} {id : String}
    (found : s.commitments.get id = some comm) (member : other ∈ s.covered call) (same : other.commitmentId = id) : other = comm := by
  have held := Store.covered_held consistent member
  rw [same,found] at held
  exact (Option.some.inj held).symm

theorem Portion.covered_subset (portion : Portion call.tenantId s own) (reports : call.isReport) :
    ∀ comm ∈ own.covered call, comm ∈ s.covered call := by
  intro comm member
  by_cases names : s.Own call
  · exact portion.covered_own names ▸ member
  · obtain ⟨tenantId,operation⟩ := call
    have found {id : String} (member : comm ∈ (own.commitments.get id).toList) : comm ∈ (s.commitments.get id).toList :=
      Option.mem_toList.mpr (portion.get_eq_some.mp (Option.mem_toList.mp member)).1
    cases operation with
    | registerCommitment => cases reports
    | recordRenewalDecision => cases reports
    | analyzeCoverageAndUtilization => cases reports
    | generateRecommendation => exact found member
    | triggerExpiryAlertsAndTasks => exact found member
    | getRenewalPipeline => exact absurd nofun names
    | getPortfolioView => exact absurd nofun names

theorem Portion.supported (consistentOwn : own.Consistent) (portion : Portion call.tenantId s own) (supported : s.Supported call) :
    own.Supported call := by
  intro reports comm member
  have held := Store.covered_held consistentOwn member
  rw [portion.analysed _ comm held]
  exact supported reports comm (portion.covered_subset reports comm member)

theorem portion_own (consistent : s.Consistent) (consistentOwn : own.Consistent) (portion : Portion call.tenantId s own)
    (sound : s.Sound call) : Portion call.tenantId (s.step call) (own.step call) := by
  cases reports : call.isReport with
  | true =>
    have whole := Store.report_silent reports (sound.1 reports)
    have part := Store.report_silent reports (portion.supported consistentOwn sound.1 reports)
    refine ⟨?_,?_⟩
    · exact part.1.trans (portion.held.trans (congrArg _ whole.1.symm))
    · intro id comm found
      have before : own.commitments.get id = some comm := part.1 ▸ found
      exact (congrArg (Dict.get · id) part.2).trans ((portion.analysed id comm before).trans (congrArg (Dict.get · id) whole.2.symm))
  | false =>
    have names := sound.2 reports
    have covered := portion.covered_own names
    have kept (same : (s.step call).commitments = s.commitments) (sameOwn : (own.step call).commitments = own.commitments) :
        Portion call.tenantId (s.step call) (own.step call) := by
      refine ⟨by rw [same,sameOwn,portion.held],?_⟩
      intro id comm found
      rw [sameOwn] at found
      have whole := (portion.get_eq_some.mp found).1
      by_cases inside : comm ∈ s.covered call
      · obtain rfl := consistent.named id comm whole
        have before := portion.analysed _ comm found
        unfold Store.step
        rw [Store.analyses_covered consistent inside,Store.analyses_covered consistentOwn (covered ▸ inside),before]
      · have apart : ∀ other ∈ s.covered call, other.commitmentId ≠ id := by
          intro other member same
          exact inside (covered_of_id consistent whole member same ▸ member)
        unfold Store.step
        rw [Store.analyses_uncovered apart,Store.analyses_uncovered (covered ▸ apart),portion.analysed id comm found]
    obtain ⟨tenantId,operation⟩ := call
    cases operation with
    | registerCommitment wanted provider kind expiryDate cost ownerId term =>
      refine ⟨?_,?_⟩
      · change own.commitments.assign wanted _ = (s.commitments.assign wanted _).filterValues _
        rw [portion.held]
        refine (Eq.trans (Dict.filterValues_assign ?_) ?_).symm
        · intro old found
          exact (decide_eq_true (names old found)).trans (decide_eq_true rfl).symm
        · exact if_pos (decide_eq_true rfl)
      · intro id comm found
        change (own.commitments.assign wanted _).get id = some comm at found
        change own.analyses.get id = s.analyses.get id
        cases before : own.commitments.get id with
        | some old => exact portion.analysed id old before
        | none =>
          rw [Dict.get_assign] at found
          split at found
          · rename_i same
            subst same
            have whole : s.commitments.get id = none := (portion.get_own names).symm.trans before
            rw [consistent.unanalysed whole,consistentOwn.unanalysed before]
          · rw [before] at found
            cases found
    | analyzeCoverageAndUtilization =>
      exact kept (Store.commitments_perform (by rintro _ _ _ _ _ _ _ ⟨⟩)) (Store.commitments_perform (by rintro _ _ _ _ _ _ _ ⟨⟩))
    | recordRenewalDecision =>
      exact kept (Store.commitments_perform (by rintro _ _ _ _ _ _ _ ⟨⟩)) (Store.commitments_perform (by rintro _ _ _ _ _ _ _ ⟨⟩))
    | _ => cases reports

theorem portion_foreign (consistent : s.Consistent) (portion : Portion tenantId s own) (sound : s.Sound call)
    (foreign : call.tenantId ≠ tenantId) : Portion tenantId (s.step call) own := by
  cases reports : call.isReport with
  | true =>
    have silent := Store.report_silent reports (sound.1 reports)
    refine ⟨?_,?_⟩
    · exact portion.held.trans (congrArg _ silent.1.symm)
    · intro id comm found
      exact (portion.analysed id comm found).trans (congrArg (Dict.get · id) silent.2.symm)
  | false =>
    have names := sound.2 reports
    have analysed : ∀ id comm, own.commitments.get id = some comm → own.analyses.get id = (s.step call).analyses.get id := by
      intro id comm found
      obtain ⟨whole,mine⟩ := portion.get_eq_some.mp found
      have apart : ∀ other ∈ s.covered call, other.commitmentId ≠ id := by
        intro other member same
        have theirs := covered_tenant consistent names member
        rw [covered_of_id consistent whole member same,mine] at theirs
        exact foreign theirs.symm
      unfold Store.step
      rw [Store.analyses_uncovered apart,portion.analysed id comm found]
    have kept (same : (s.step call).commitments = s.commitments) : Portion tenantId (s.step call) own :=
      ⟨by rw [same,portion.held],analysed⟩
    obtain ⟨caller,operation⟩ := call
    cases operation with
    | registerCommitment wanted provider kind expiryDate cost ownerId term =>
      refine ⟨?_,analysed⟩
      change own.commitments = (s.commitments.assign wanted _).filterValues _
      rw [portion.held]
      refine (Eq.trans (Dict.filterValues_assign ?_) ?_).symm
      · intro old found
        rw [names old found]
      · exact if_neg (mt of_decide_eq_true foreign)
    | analyzeCoverageAndUtilization => exact kept (Store.commitments_perform (by rintro _ _ _ _ _ _ _ ⟨⟩))
    | recordRenewalDecision => exact kept (Store.commitments_perform (by rintro _ _ _ _ _ _ _ ⟨⟩))
    | _ => cases reports

theorem portion_run {calls : List Call} (consistent : s.Consistent) (consistentOwn : own.Consistent)
    (portion : Portion tenantId s own) (sound : Along Store.step Store.Sound s calls) :
    Portion tenantId (run Store.step s calls) (run Store.step own (callsOf tenantId calls)) := by
  induction calls generalizing s own with
  | nil => exact portion
  | cons call rest ih =>
    obtain ⟨first,later⟩ := sound
    unfold callsOf
    by_cases mine : call.tenantId = tenantId
    · subst mine
      rw [List.filter_cons_of_pos (by simp),run_cons,run_cons]
      exact ih (Store.consistent_perform consistent) (Store.consistent_perform consistentOwn)
        (portion_own consistent consistentOwn portion first) later
    · rw [List.filter_cons_of_neg (by simpa using mine),run_cons]
      exact ih (Store.consistent_perform consistent) consistentOwn (portion_foreign consistent portion first mine) later

theorem reached_separate {calls : List Call} (sound : Along Store.step Store.Sound Store.empty calls) {report : Call}
    (reports : report.isReport) (names : (reached calls).Own report) :
    (reached (callsOf report.tenantId calls)).answer report = (reached calls).answer report := by
  have start : Portion report.tenantId Store.empty Store.empty := by
    refine ⟨rfl,?_⟩
    intro id comm found
    cases found
  have portion : Portion report.tenantId (reached calls) (reached (callsOf report.tenantId calls)) :=
    portion_run consistent_empty consistent_empty start sound
  have consistent := consistent_reached calls
  refine Store.report_congr consistent (consistent_reached _) reports (portion.covered_own names) ?_
  intro comm member
  exact portion.analysed _ comm
    (portion.get_eq_some.mpr ⟨Store.covered_held consistent member,covered_tenant consistent names member⟩)

end Separate

/-- In a run whose reports find each analysis they ask for and whose calls name no commitment of
another tenant, the reports observe the registrations and explicit analyses of their tenant. -/
theorem reports_faithful (calls : List Call) (sound : Along Store.step Store.Sound Store.empty calls) :
    ∀ done, done <+: calls → Faithful done := by
  rintro done ⟨rest,rfl⟩
  have sound := ((along_append Store.empty done rest).mp sound).1
  refine ⟨?_,?_,?_,?_⟩
  · intro other soundOther alike report reports
    exact reached_unobserved sound soundOther alike reports
  · intro tenantId now
    rw [totalRealizedSavings_eq]
    simp only [analyses_reached sound]
  · intro tenantId leadTimeDays now
    exact pipeline_ranked (consistent_reached done) tenantId leadTimeDays now
  · intro report reports names
    exact reached_separate sound reports names

def contractSigned : Call := ⟨"t",.registerCommitment "c" .aws .savingsPlan (10 * day) 1000 "ada" 12⟩

def contractAnalysed : Call := ⟨"t",.analyzeCoverageAndUtilization "c" ⟨1250,1000,1000,950,1300⟩ []⟩

def pipelineRead : Call := ⟨"t",.getRenewalPipeline 60 0⟩

def portfolioRead : Call := ⟨"t",.getPortfolioView 0⟩

theorem analysedContract_faithful : Faithful [contractSigned, contractAnalysed, pipelineRead, portfolioRead] := by
  refine reports_faithful [contractSigned, contractAnalysed, pipelineRead, portfolioRead] ⟨?_,?_,?_,?_,trivial⟩ _
    (List.prefix_refl _)
  · refine ⟨nofun,?_⟩
    intro _ comm found
    cases found
  · refine ⟨nofun,?_⟩
    intro _ comm found
    cases found
    rfl
  · refine ⟨?_,nofun⟩
    intro _
    decide +kernel
  · refine ⟨?_,nofun⟩
    intro _
    decide +kernel

/-- The pipeline's assumed 500 of savings are in the portfolio that is read after it. -/
theorem pipeline_changes_portfolio : withoutReports [contractSigned, pipelineRead] = withoutReports [contractSigned] ∧
    (reached [contractSigned, pipelineRead]).answer portfolioRead ≠ (reached [contractSigned]).answer portfolioRead ∧
    ((reached [contractSigned]).getPortfolioView "t" 0).1.totalRealizedSavings = 0 ∧
    ((reached [contractSigned, pipelineRead]).getPortfolioView "t" 0).1.totalRealizedSavings = 500 := by
  refine ⟨rfl,?_,?_,?_⟩
  · decide +kernel
  · decide +kernel
  · decide +kernel

end CloudLens.Commitments
