import CloudLens.Statements.Service
import CloudLens.Library.Runs

/-! What a request of the statement service does to the stored statement of one
identifier: it changes it in one of seven ways or leaves it as it is. Every
property of whole runs below is derived from this one case analysis. -/
namespace CloudLens.Statements
open Library
open Library.Calendar (Instant)
open Library.Runs

inductive StatementChange (w : World) (r : Request) (id : String) : ShowbackStatement → Prop
  | generated {input : GenerateInput} {statement : ShowbackStatement} (asked : r.op = .generate input)
      (built : generateStatement r.tc.tenantId input = .ok statement) (named : statement.statementId = id)
      (owned : ∀ stored, w.statements.lookup id = some stored → stored.tenantId = r.tc.tenantId) :
      StatementChange w r id statement
  | circulated {statement : ShowbackStatement} {days : ℤ} {now : Instant} (asked : r.op = .circulate id days now)
      (stored : w.statements.lookup id = some ⟨r.tc.tenantId,statement⟩) :
      StatementChange w r id (circulateForReview statement days now)
  | finalised {statement : ShowbackStatement} {now : Instant} (asked : r.op = .finalise id now)
      (stored : w.statements.lookup id = some ⟨r.tc.tenantId,statement⟩) (unlocked : statement.status ≠ .finalised) :
      StatementChange w r id (finalisedStatement statement now)
  | superseded {statement : ShowbackStatement} {input : RestateInput} (asked : r.op = .restate id input)
      (stored : w.statements.lookup id = some ⟨r.tc.tenantId,statement⟩) (apart : nextVersionId statement ≠ id) :
      StatementChange w r id (supersededStatement statement)
  | emitted {source : String} {statement : ShowbackStatement} {input : RestateInput} (asked : r.op = .restate source input)
      (stored : w.statements.lookup source = some ⟨r.tc.tenantId,statement⟩) (named : nextVersionId statement = id)
      (owned : ∀ stored, w.statements.lookup id = some stored → stored.tenantId = r.tc.tenantId) :
      StatementChange w r id (adjustedStatement statement input)
  | disputed {statement : ShowbackStatement} {input : DisputeInput} (asked : r.op = .raise id input)
      (stored : w.statements.lookup id = some ⟨r.tc.tenantId,statement⟩) (valid : validateDispute input = .ok ()) :
      StatementChange w r id (disputedStatement statement)
  | accepted {statement : ShowbackStatement} {notes : Option String} {now : Instant} (asked : r.op = .accept id notes now)
      (stored : w.statements.lookup id = some ⟨r.tc.tenantId,statement⟩) :
      StatementChange w r id (acceptedStatement r.tc statement notes now)

def Keyed (w : World) : Prop :=
  ∀ id stored, w.statements.lookup id = some stored → stored.entity.statementId = id

section Store

variable {tc : TenantContext} {w : World} {target : String} {statement updated : ShowbackStatement}

private theorem getStatement_stored (stored : w.statements.lookup target = some ⟨tc.tenantId,statement⟩) :
    getStatement tc target w = .ok statement := by
  unfold getStatement
  rw [getOwned_eq_some_iff.mpr stored]

theorem saveStatement_at (same : updated.statementId = target)
    (owned : ∀ stored, w.statements.lookup target = some stored → stored.tenantId = tc.tenantId) :
    ∃ after, saveStatement tc updated w = .ok after ∧ after.statements.lookup target = some ⟨tc.tenantId,updated⟩ ∧
      (∀ other, other ≠ target → after.statements.lookup other = w.statements.lookup other) ∧
      after = { w with statements := after.statements } := by
  subst same
  obtain ⟨after,saved⟩ := saveStatement_own owned
  obtain ⟨here,elsewhere,_,rest⟩ := saveStatement_ok saved
  exact ⟨after,saved,here,elsewhere,rest⟩

theorem owned_of_stored (stored : w.statements.lookup target = some ⟨tc.tenantId,statement⟩) :
    ∀ row, w.statements.lookup target = some row → row.tenantId = tc.tenantId := by
  intro row found
  rw [stored] at found
  cases found
  rfl

private theorem storeStatement_at (same : updated.statementId = target)
    (owned : ∀ stored, w.statements.lookup target = some stored → stored.tenantId = tc.tenantId) :
    (storeStatement tc updated w).1.statements.lookup target = some ⟨tc.tenantId,updated⟩ ∧
      ∀ other, other ≠ target → (storeStatement tc updated w).1.statements.lookup other = w.statements.lookup other := by
  obtain ⟨after,saved,here,elsewhere,_⟩ := saveStatement_at same owned
  simp only [storeStatement,saved]
  exact ⟨here,elsewhere⟩

private theorem storeStatement_other {other : String} (distinct : updated.statementId ≠ other) :
    (storeStatement tc updated w).1.statements.lookup other = w.statements.lookup other := by
  unfold storeStatement
  split
  · rfl
  · rename_i after saved
    exact (saveStatement_ok saved).2.1 other (Ne.symm distinct)

private theorem storeStatement_own (keyed : Keyed w) (stored : w.statements.lookup target = some ⟨tc.tenantId,statement⟩)
    (same : updated.statementId = statement.statementId) :
    (storeStatement tc updated w).1.statements.lookup target = some ⟨tc.tenantId,updated⟩ :=
  (storeStatement_at (same.trans (keyed target _ stored)) (owned_of_stored stored)).1

private theorem storeStatement_elsewhere {id : String} (keyed : Keyed w)
    (stored : w.statements.lookup target = some ⟨tc.tenantId,statement⟩)
    (same : updated.statementId = statement.statementId) (apart : target ≠ id) :
    (storeStatement tc updated w).1.statements.lookup id = w.statements.lookup id := by
  apply storeStatement_other
  intro named
  exact apart ((keyed target _ stored).symm.trans (same.symm.trans named))

theorem raise_statements (input : DisputeInput) :
    (raiseDispute tc target input w).1.statements = (match getStatement tc target w with
      | .ok found => match validateDispute input with
        | .ok _ => (storeStatement tc (disputedStatement found) w).1.statements
        | .error _ => w.statements
      | .error _ => w.statements) := by
  unfold raiseDispute
  cases getStatement tc target w with
  | error e => rfl
  | ok found =>
    simp only
    cases validateDispute input with
    | error e => rfl
    | ok _ =>
      simp only [storeStatement,saveStatement]
      cases saveOwned tc.tenantId (disputedStatement found).statementId (disputedStatement found) w.statements with
      | none => rfl
      | some statements =>
        simp only
        split
        · rfl
        · rename_i after saved
          rw [(saveDispute_ok saved).2.2.2]

theorem resolve_statements (disputeId : String) (input : ResolveInput) :
    (resolveDispute tc disputeId input w).1.statements = w.statements := by
  unfold resolveDispute
  split
  · rfl
  · split
    · rfl
    · split
      · rfl
      · simp only
        split
        · rfl
        · rename_i after saved
          simp only
          rw [(saveDispute_ok saved).2.2.2]

end Store

theorem serve_applies {w : World} (keyed : Keyed w) {r : Request} {id : String} {result : ShowbackStatement}
    (change : StatementChange w r id result) :
    (serve w r).statements.lookup id = some ⟨r.tc.tenantId,result⟩ := by
  obtain ⟨tc,op⟩ := r
  cases change with
  | generated asked built named owned =>
    cases asked
    simp only [serve,generateAndSave,built]
    exact (storeStatement_at named owned).1
  | circulated asked stored =>
    cases asked
    simp only [serve,circulateStatement,getStatement_stored stored]
    exact storeStatement_own keyed stored rfl
  | finalised asked stored unlocked =>
    cases asked
    simp only [serve,finaliseStatement,getStatement_stored stored,finaliseCycle,unlocked,if_false]
    exact storeStatement_own keyed stored rfl
  | superseded asked stored apart =>
    cases asked
    rename_i statement input
    have self : (supersededStatement statement).statementId = id := keyed id _ stored
    obtain ⟨marked,first,here,_,_⟩ := saveStatement_at self (owned_of_stored stored)
    simp only [serve,processRestatementAdjustment,getStatement_stored stored,first]
    split
    · exact here
    · rename_i after second
      have other : id ≠ (adjustedStatement statement input).statementId := fun same => apart same.symm
      exact ((saveStatement_ok second).2.1 id other).trans here
  | emitted asked stored named owned =>
    cases asked
    rename_i source statement input
    have self : (supersededStatement statement).statementId = source := keyed source _ stored
    obtain ⟨marked,first,here,elsewhere,_⟩ := saveStatement_at self (owned_of_stored stored)
    have allowed : ∀ row, marked.statements.lookup id = some row → row.tenantId = tc.tenantId := by
      intro row found
      by_cases same : id = source
      · subst same
        rw [here] at found
        cases found
        rfl
      · rw [elsewhere id same] at found
        exact owned row found
    have target : (adjustedStatement statement input).statementId = id := named
    obtain ⟨after,second,emitted,_,_⟩ := saveStatement_at target allowed
    simp only [serve,processRestatementAdjustment,getStatement_stored stored,first,second]
    exact emitted
  | disputed asked stored valid =>
    cases asked
    rename_i statement input
    rw [serve,raise_statements]
    simp only [getStatement_stored stored,valid]
    exact storeStatement_own keyed stored rfl
  | accepted asked stored =>
    cases asked
    simp only [serve,acceptStatement,getStatement_stored stored]
    exact storeStatement_own keyed stored rfl

theorem serve_frame {w : World} (keyed : Keyed w) {r : Request} {id : String}
    (unchanged : ∀ result, ¬ StatementChange w r id result) :
    (serve w r).statements.lookup id = w.statements.lookup id := by
  obtain ⟨tc,op⟩ := r
  cases op with
  | generate input =>
    simp only [serve,generateAndSave]
    split
    · rfl
    · rename_i statement built
      by_cases named : statement.statementId = id
      · simp only [storeStatement]
        split
        · rfl
        · rename_i after saved
          have owned := (saveStatement_ok saved).2.2.1
          rw [named] at owned
          exact absurd (.generated rfl built named owned) (unchanged statement)
      · exact storeStatement_other named
  | circulate target days now =>
    simp only [serve,circulateStatement]
    split
    · rfl
    · rename_i statement read
      have stored := getStatement_ok read
      refine storeStatement_elsewhere keyed stored rfl ?_
      intro here
      subst here
      exact unchanged _ (.circulated rfl stored)
  | finalise target now =>
    simp only [serve,finaliseStatement]
    split
    · rfl
    · rename_i statement read
      have stored := getStatement_ok read
      unfold finaliseCycle
      by_cases locked : statement.status = .finalised
      · simp only [locked,if_true]
      · simp only [locked,if_false]
        refine storeStatement_elsewhere keyed stored rfl ?_
        intro here
        subst here
        exact unchanged _ (.finalised rfl stored locked)
  | restate source input =>
    simp only [serve,processRestatementAdjustment]
    split
    · rfl
    · rename_i statement read
      have stored := getStatement_ok read
      have self : (supersededStatement statement).statementId = source := keyed source _ stored
      obtain ⟨marked,first,here,elsewhere,_⟩ := saveStatement_at self (owned_of_stored stored)
      have apart : id ≠ source := by
        intro same
        subst same
        by_cases looped : nextVersionId statement = id
        · exact unchanged _ (.emitted rfl stored looped (owned_of_stored stored))
        · exact unchanged _ (.superseded rfl stored looped)
      simp only [first]
      split
      · exact elsewhere id apart
      · rename_i after second
        obtain ⟨_,others,owned,_⟩ := saveStatement_ok second
        have away : id ≠ (adjustedStatement statement input).statementId := by
          intro same
          rw [← same,elsewhere id apart] at owned
          exact unchanged _ (.emitted rfl stored same.symm owned)
        exact (others id away).trans (elsewhere id apart)
  | raise target input =>
    rw [serve,raise_statements]
    split
    · rename_i statement read
      split
      · rename_i valid
        have stored := getStatement_ok read
        refine storeStatement_elsewhere keyed stored rfl ?_
        intro here
        subst here
        exact unchanged _ (.disputed rfl stored valid)
      · rfl
    · rfl
  | resolve disputeId input =>
    rw [serve,resolve_statements]
  | accept target notes now =>
    simp only [serve,acceptStatement]
    split
    · rfl
    · rename_i statement read
      have stored := getStatement_ok read
      refine storeStatement_elsewhere keyed stored rfl ?_
      intro here
      subst here
      exact unchanged _ (.accepted rfl stored)

theorem serve_cases {w : World} (keyed : Keyed w) (r : Request) (id : String) :
    (∃ result, StatementChange w r id result ∧ (serve w r).statements.lookup id = some ⟨r.tc.tenantId,result⟩) ∨
      ((∀ result, ¬ StatementChange w r id result) ∧ (serve w r).statements.lookup id = w.statements.lookup id) := by
  by_cases changed : ∃ result, StatementChange w r id result
  · obtain ⟨result,change⟩ := changed
    exact Or.inl ⟨result,change,serve_applies keyed change⟩
  · have unchanged : ∀ result, ¬ StatementChange w r id result := fun result change => changed ⟨result,change⟩
    exact Or.inr ⟨unchanged,serve_frame keyed unchanged⟩

theorem serve_keyed (w : World) (r : Request) (keyed : Keyed w) : Keyed (serve w r) := by
  intro id stored found
  rcases serve_cases keyed r id with ⟨result,change,written⟩ | ⟨_,same⟩
  · rw [written] at found
    cases found
    cases change with
    | generated asked built named owned => exact named
    | circulated asked before =>
      have own := keyed id _ before
      exact own
    | finalised asked before unlocked =>
      have own := keyed id _ before
      exact own
    | superseded asked before apart =>
      have own := keyed id _ before
      exact own
    | emitted asked before named owned => exact named
    | disputed asked before valid =>
      have own := keyed id _ before
      exact own
    | accepted asked before =>
      have own := keyed id _ before
      exact own
  · rw [same] at found
    exact keyed id stored found

theorem empty_keyed : Keyed World.empty := by
  intro id stored found
  cases found

theorem reachable_keyed (requests : List Request) : Keyed (run serve World.empty requests) :=
  run_invariant serve_keyed requests empty_keyed

end CloudLens.Statements
