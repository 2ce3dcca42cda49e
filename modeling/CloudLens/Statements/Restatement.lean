import CloudLens.Statements.Changes

/-! Restatement histories. The identifier and version of an adjusted statement
are computed from the statement passed in, not from the versions already stored;
as long as the next identifier is free at every call, no version is lost and the
chain of superseded statements leads back to its original. -/
namespace CloudLens.Statements
open Library Library.Runs

structure RestateCall where
  tc : TenantContext
  id : String
  input : RestateInput

def restateStep (w : World) (c : RestateCall) : World := serve w ⟨c.tc,.restate c.id c.input⟩

def FreshVersion (w : World) (c : RestateCall) : Prop :=
  ∀ original, w.statements.lookup c.id = some ⟨c.tc.tenantId,original⟩ → w.statements.lookup (nextVersionId original) = none

def Originals (w : World) : Prop :=
  Keyed w ∧ w.adjustments = [] ∧
    ∀ id stored, w.statements.lookup id = some stored → stored.entity.version = 1 ∧ stored.entity.supersedesStatementId = none

def superseding (w : World) : ℕ → ShowbackStatement → Option ShowbackStatement
  | 0, s => some s
  | steps + 1, s =>
    match s.supersedesStatementId with
    | none => none
    | some previous =>
      match w.statements.lookup previous with
      | none => none
      | some stored => superseding w steps stored.entity

structure VersionsIntact (start w : World) : Prop where
  distinct : (w.adjustments.map StatementAdjustment.adjustedStatementId).Nodup
  stored : ∀ a ∈ w.adjustments, ∃ row, w.statements.lookup a.adjustedStatementId = some row ∧
    row.entity.totalAllocatedCost = a.adjustedTotal
  chain : ∀ id row, w.statements.lookup id = some row → ∃ root, superseding w (row.entity.version - 1) row.entity = some root ∧
    root.version = 1 ∧ root.supersedesStatementId = none ∧ (start.statements.lookup root.statementId).isSome

structure History (start w : World) : Prop where
  keyed : Keyed w
  distinct : (w.adjustments.map StatementAdjustment.adjustedStatementId).Nodup
  stored : ∀ a ∈ w.adjustments, ∃ row, w.statements.lookup a.adjustedStatementId = some row ∧
    row.entity.totalAllocatedCost = a.adjustedTotal
  previous : ∀ id row, w.statements.lookup id = some row →
    (row.entity.version = 1 ∧ row.entity.supersedesStatementId = none ∧ (start.statements.lookup id).isSome) ∨
    ∃ source before, row.entity.supersedesStatementId = some source ∧ w.statements.lookup source = some before ∧
      row.entity.version = before.entity.version + 1 ∧ 1 ≤ before.entity.version

section Step

variable {w : World} {tc : TenantContext} {id : String} {input : RestateInput}

theorem restate_missing (absent : ∀ original, w.statements.lookup id ≠ some ⟨tc.tenantId,original⟩) :
    serve w ⟨tc,.restate id input⟩ = w := by
  simp only [serve,processRestatementAdjustment,getStatement]
  cases read : getOwned tc.tenantId id w.statements with
  | none => rfl
  | some found => exact absurd (getOwned_eq_some_iff.mp read) (absent found)

theorem restate_fresh (keyed : Keyed w) {original : ShowbackStatement}
    (found : w.statements.lookup id = some ⟨tc.tenantId,original⟩)
    (fresh : w.statements.lookup (nextVersionId original) = none) :
    (serve w ⟨tc,.restate id input⟩).adjustments = w.adjustments ++ [adjustmentRecord tc original input] ∧
      (serve w ⟨tc,.restate id input⟩).statements.lookup (nextVersionId original) =
        some ⟨tc.tenantId,adjustedStatement original input⟩ ∧
      (serve w ⟨tc,.restate id input⟩).statements.lookup id = some ⟨tc.tenantId,supersededStatement original⟩ ∧
      ∀ other, other ≠ id → other ≠ nextVersionId original →
        (serve w ⟨tc,.restate id input⟩).statements.lookup other = w.statements.lookup other := by
  have apart : nextVersionId original ≠ id := by
    intro same
    rw [same,found] at fresh
    cases fresh
  have unowned : ∀ stored, w.statements.lookup (nextVersionId original) = some stored → stored.tenantId = tc.tenantId := by
    intro stored present
    rw [fresh] at present
    cases present
  refine ⟨?_,?_,?_,?_⟩
  · have self : (supersededStatement original).statementId = id := keyed id _ found
    obtain ⟨marked,first,_,elsewhere,shape⟩ := saveStatement_at self (owned_of_stored found)
    have free : ∀ stored, marked.statements.lookup (nextVersionId original) = some stored →
        stored.tenantId = tc.tenantId := by
      intro stored present
      rw [elsewhere (nextVersionId original) apart,fresh] at present
      cases present
    have target : (adjustedStatement original input).statementId = nextVersionId original := rfl
    obtain ⟨emitted,second,_,_,after⟩ := saveStatement_at target free
    simp only [serve,processRestatementAdjustment,getStatement,getOwned_eq_some_iff.mpr found,first,second]
    rw [after,shape]
  · exact serve_applies keyed (.emitted rfl found rfl unowned)
  · exact serve_applies keyed (.superseded rfl found apart)
  · intro other notSource notNext
    apply serve_frame keyed
    intro result change
    cases change with
    | generated asked built named owned => cases asked
    | circulated asked stored => cases asked
    | finalised asked stored unlocked => cases asked
    | superseded asked stored away =>
      cases asked
      exact notSource rfl
    | emitted asked stored named owned =>
      cases asked
      rw [found] at stored
      cases stored
      exact notNext named.symm
    | disputed asked stored valid => cases asked
    | accepted asked stored => cases asked

theorem restate_keeps (keyed : Keyed w) {original : ShowbackStatement}
    (found : w.statements.lookup id = some ⟨tc.tenantId,original⟩)
    (fresh : w.statements.lookup (nextVersionId original) = none) {key : String} {row : Owned ShowbackStatement}
    (present : w.statements.lookup key = some row) :
    ∃ kept, (serve w ⟨tc,.restate id input⟩).statements.lookup key = some kept ∧
      kept.entity.version = row.entity.version ∧ kept.entity.totalAllocatedCost = row.entity.totalAllocatedCost ∧
      kept.entity.supersedesStatementId = row.entity.supersedesStatementId := by
  obtain ⟨_,_,source,others⟩ := @restate_fresh w tc id input keyed original found fresh
  by_cases same : key = id
  · subst same
    rw [found] at present
    cases present
    exact ⟨_,source,rfl,rfl,rfl⟩
  · have notNext : key ≠ nextVersionId original := by
      intro next
      rw [next,fresh] at present
      cases present
    exact ⟨row,(others key same notNext).trans present,rfl,rfl,rfl⟩

end Step

private theorem previous_positive {start w : World} (history : History start w) {id : String} {row : Owned ShowbackStatement}
    (found : w.statements.lookup id = some row) : 1 ≤ row.entity.version := by
  rcases history.previous id row found with ⟨first,_⟩ | ⟨_,_,_,_,version,positive⟩
  · omega
  · omega

private theorem restate_previous {start w : World} {tc : TenantContext} {id : String} {input : RestateInput}
    (history : History start w) {original : ShowbackStatement}
    (found : w.statements.lookup id = some ⟨tc.tenantId,original⟩)
    (fresh : w.statements.lookup (nextVersionId original) = none) {key : String} {row kept : Owned ShowbackStatement}
    (stored : w.statements.lookup key = some row) (version : kept.entity.version = row.entity.version)
    (link : kept.entity.supersedesStatementId = row.entity.supersedesStatementId) :
    (kept.entity.version = 1 ∧ kept.entity.supersedesStatementId = none ∧ (start.statements.lookup key).isSome) ∨
    ∃ origin before, kept.entity.supersedesStatementId = some origin ∧
      (serve w ⟨tc,.restate id input⟩).statements.lookup origin = some before ∧
      kept.entity.version = before.entity.version + 1 ∧ 1 ≤ before.entity.version := by
  rcases history.previous key row stored with ⟨first,none,initial⟩ | ⟨origin,before,named,there,next,positive⟩
  · exact Or.inl ⟨version.trans first,link.trans none,initial⟩
  · obtain ⟨after,now,same,_,_⟩ := @restate_keeps w tc id input history.keyed original found fresh _ _ there
    exact Or.inr ⟨origin,after,link.trans named,now,by omega,by omega⟩

theorem restateStep_history {start : World} (w : World) (c : RestateCall) (history : History start w)
    (fresh : FreshVersion w c) : History start (restateStep w c) := by
  obtain ⟨tc,id,input⟩ := c
  by_cases present : ∃ original, w.statements.lookup id = some ⟨tc.tenantId,original⟩
  · obtain ⟨original,found⟩ := present
    have free : w.statements.lookup (nextVersionId original) = none := fresh original found
    obtain ⟨recorded,emitted,source,others⟩ := @restate_fresh w tc id input history.keyed original found free
    refine ⟨serve_keyed w _ history.keyed,?_,?_,?_⟩
    · rw [restateStep,recorded,List.map_append,List.nodup_append]
      refine ⟨history.distinct,by simp,?_⟩
      intro earlier member later newest same
      obtain ⟨a,saved,rfl⟩ := List.mem_map.mp member
      obtain ⟨row,there,_⟩ := history.stored a saved
      have next : later = nextVersionId original := by simpa [adjustmentRecord] using newest
      rw [same,next,free] at there
      cases there
    · intro a member
      rw [restateStep,recorded,List.mem_append] at member
      rcases member with old | new
      · obtain ⟨row,there,total⟩ := history.stored a old
        obtain ⟨kept,now,_,same,_⟩ := @restate_keeps w tc id input history.keyed original found free _ _ there
        exact ⟨kept,now,same.trans total⟩
      · rw [List.mem_singleton.mp new]
        exact ⟨_,emitted,rfl⟩
    · intro key row stored
      by_cases next : key = nextVersionId original
      · subst next
        rw [restateStep,emitted] at stored
        cases stored
        have self : original.statementId = id := history.keyed id _ found
        have positive := previous_positive history found
        exact Or.inr ⟨id,_,congrArg some self,source,rfl,positive⟩
      · by_cases here : key = id
        · subst here
          rw [restateStep,source] at stored
          cases stored
          exact restate_previous history found free found rfl rfl
        · rw [restateStep,others key here next] at stored
          exact restate_previous history found free stored rfl rfl
  · have same : restateStep w ⟨tc,id,input⟩ = w := restate_missing (fun original found => present ⟨original,found⟩)
    rw [same]
    exact history

private theorem history_chain {start w : World} (history : History start w) (steps : ℕ) :
    ∀ id row, w.statements.lookup id = some row → row.entity.version = steps + 1 →
      ∃ root, superseding w steps row.entity = some root ∧ root.version = 1 ∧ root.supersedesStatementId = none ∧
        (start.statements.lookup root.statementId).isSome := by
  induction steps with
  | zero =>
    intro id row found version
    rcases history.previous id row found with ⟨first,none,initial⟩ | ⟨_,_,_,_,next,positive⟩
    · refine ⟨row.entity,rfl,first,none,?_⟩
      rw [history.keyed id row found]
      exact initial
    · omega
  | succ steps ih =>
    intro id row found version
    rcases history.previous id row found with ⟨first,_,_⟩ | ⟨origin,before,named,there,next,_⟩
    · omega
    · obtain ⟨root,reached,rest⟩ := ih origin before there (by omega)
      refine ⟨root,?_,rest⟩
      rw [superseding,named]
      simp only [there,reached]

/-- In every run of restatements, over a store of first versions, whose calls all
find the next version's identifier free, the identifiers stored are distinct,
every adjustment's statement is still stored with its total, and every chain of
superseded statements reaches an original in one step less than its version. -/
theorem restatement_versions_intact (start : World) (originals : Originals start) (calls : List RestateCall)
    (fresh : Along restateStep FreshVersion start calls) :
    VersionsIntact start (run restateStep start calls) := by
  obtain ⟨keyed,none,first⟩ := originals
  have opening : History start start := by
    refine ⟨keyed,by simp [none],by simp [none],?_⟩
    intro id row found
    exact Or.inl ⟨(first id row found).1,(first id row found).2,by rw [found]; rfl⟩
  have history : History start (run restateStep start calls) := run_preserves restateStep_history opening fresh
  refine ⟨history.distinct,history.stored,?_⟩
  intro id row found
  have positive := previous_positive history found
  exact history_chain history (row.entity.version - 1) id row found (by omega)

def retailStore : World := run serve World.empty [⟨⟨"t-1","finance",none⟩,.generate (retailInput 100 120 90)⟩]

def retailRestatement (id : String) (delta : ℚ) (token : String) : RestateCall :=
  ⟨⟨"t-1","finance",none⟩,id,⟨[⟨none,none,none,some delta,none⟩],"correction",1,token,fun _ => "0"⟩⟩

private theorem retailStore_originals : Originals retailStore := by
  have entries : ∀ entry ∈ retailStore.statements.entries,
      entry.2.entity.version = 1 ∧ entry.2.entity.supersedesStatementId = none := by decide +kernel
  have unadjusted : retailStore.adjustments.isEmpty = true := by decide +kernel
  refine ⟨reachable_keyed _,List.isEmpty_iff.mp unadjusted,?_⟩
  intro id stored found
  exact entries _ (Table.lookup_eq_some_iff.mp found)

/-- Restating the first version twice stores both adjusted statements under one
identifier, and the first adjustment's statement is lost. -/
theorem second_restatement_overwrites_first :
    Originals retailStore ∧
      ¬ VersionsIntact retailStore (run restateStep retailStore
        [retailRestatement retailId 10 "a", retailRestatement retailId 25 "b"]) := by
  refine ⟨retailStore_originals,?_⟩
  intro intact
  exact absurd intact.distinct (by decide +kernel)

private theorem freshVersion_of_check {w : World} {c : RestateCall}
    (check : (w.statements.lookup c.id).all (fun row => (w.statements.lookup (nextVersionId row.entity)).isNone) = true) :
    FreshVersion w c := by
  intro original found
  rw [found,Option.all_some,Option.isNone_iff_eq_none] at check
  exact check

theorem restatement_versions_intact_retail :
    VersionsIntact retailStore (run restateStep retailStore
      [retailRestatement retailId 10 "a", retailRestatement "stmt-t-1-2026-03-bu-retail-v2" 25 "b"]) :=
  restatement_versions_intact retailStore retailStore_originals _
    ⟨freshVersion_of_check (by decide +kernel),freshVersion_of_check (by decide +kernel),trivial⟩

end CloudLens.Statements
