import CloudLens.MasterData.ImportRows
import CloudLens.MasterData.Layers

/-! What an operation for one tenant changes for the others. Publishing and
deactivating store nothing; every other operation writes or removes a record that a
tenant without one of its own may resolve to. -/
namespace CloudLens.MasterData
open Library
open Library.Calendar (Instant)

inductive MasterOp where
  | create (call : Call) (input : NewRecord)
  | update (call : Call) (code : String) (change : RecordChange)
  | publish (call : Call) (code : String)
  | deactivate (call : Call) (code : String)
  | delete (call : Call) (code : String)
  | importing (reading : Reading) (importedBy : String) (calls : ℕ → Call) (format : String) (content : Document)

def masterStep (env : Environment) (masterType : String) (s : MasterDataStore) : MasterOp → MasterDataStore
  | .create call input => (createRecord env call masterType input s).1
  | .update call code change => (updateRecord env call masterType code change s).1
  | .publish call code => (CloudLens.MasterData.publish call masterType code s).1
  | .deactivate call code => (deactivateRecord env call masterType code s).1
  | .delete call code => (deleteRecord env call masterType code s).1
  | .importing reading importedBy calls format content =>
    (importData env reading importedBy calls masterType format content s).1

/-- The operation is one of the tenant, where it takes a tenant at all. -/
def MasterOp.For (tenant : String) : MasterOp → Prop
  | .create _ input => input.tenantId = some tenant
  | .update _ _ change => change.tenantId = some tenant
  | _ => True

/-- The generated identifiers are new, and the clock moves on from row to row. -/
def MasterOp.Fresh (masterType : String) (s : MasterDataStore) : MasterOp → Prop
  | .create call _ | .update call _ _ => recordIdOf call (normalised masterType) ∉ s.rows.map MasterDataRecord.id
  | .importing _ _ calls _ _ =>
    (∀ i, recordIdOf (calls i) (normalised masterType) ∉ s.rows.map MasterDataRecord.id) ∧
      (∀ i j, i ≠ j → recordIdOf (calls i) (normalised masterType) ≠ recordIdOf (calls j) (normalised masterType)) ∧
      ∀ i j, i < j → (calls i).now < (calls j).now
  | _ => True

def OthersUnaffected (env : Environment) (masterType tenant : String) (before after : MasterDataStore) : Prop :=
  ∀ other, other ≠ tenant → other ≠ "" → ∀ first second code asOf,
    getRecord env second masterType code (some asOf) (some other) false after =
      getRecord env first masterType code (some asOf) (some other) false before

/-- The import fails before it writes: of the first row the code is no text, or it is
refused as a new record. -/
def FirstRefused (reading : Reading) (importedBy masterType : String) (t : Instant) (s : MasterDataStore) :
    List Row → Prop
  | [] => True
  | row :: _ => ∀ code, textOf (row.get "code") = some code → isInForce masterType code t s = false ∧
      (newRecordOf reading importedBy code row = none ∨ isHeld masterType code s = true)

/-- What keeps the operation from the other tenants. -/
def Harmless (env : Environment) (entry : MasterRegistryEntry) (masterType : String) (s : MasterDataStore) :
    MasterOp → Prop
  | .create call input =>
    isTaken call.listing (normalised masterType) input.code input.tenantId s = true ∨
      (entry.requiresApproval && !input.forcePublish) = true ∨
      ∀ t, call.now ≤ t → isInForce masterType input.code t s = true
  | .update call code change =>
    ∀ current, resolve call.listing (normalised masterType) code call.now change.tenantId false s = some current →
      (entry.requiresApproval && !change.forcePublish) = true ∨
        (current.tenantId = change.tenantId ∨ closed (transitionTime call change) current = current) ∧
          ∀ t, (current.effectiveFrom ≤ t ∧ t < transitionTime call change ∨ transitionTime call change ≤ t) →
            isInForce masterType code t s = true
  | .publish _ _ | .deactivate _ _ => True
  | .delete call code =>
    ∀ current, resolve call.listing (normalised masterType) code call.now none true s = some current →
      current.isSystem = true ∨ isInUse (env.references (normalised masterType) (normalised code)) = true ∨
        current.lifecycleStatus ≠ .published
  | .importing reading importedBy calls format content =>
    entry.requiresApproval = true ∨ ∀ held rows, readRows format content = .ok (.ok held) → held.allSome = some rows →
      (∀ row ∈ rows, errorsOf reading row = []) → FirstRefused reading importedBy masterType (calls 0).now s rows

section Moves

variable {masterType tenant : String} {t : Instant} {s after : MasterDataStore} {r record current : MasterDataRecord}

def Unmoved (masterType tenant : String) (before after : MasterDataStore) : Prop :=
  ∀ other, other ≠ tenant → other ≠ "" → ∀ first second code t,
    resolve second (normalised masterType) code t (some other) false after =
      resolve first (normalised masterType) code t (some other) false before

theorem othersUnaffected_iff {env : Environment} {entry : MasterRegistryEntry}
    (declared : env.manifest (normalised masterType) = some entry) :
    OthersUnaffected env masterType tenant s after ↔ Unmoved masterType tenant s after := by
  constructor
  · intro unaffected other different named first second code t
    have same := unaffected other different named ⟨t,"",first⟩ ⟨t,"",second⟩ code ⟨t,none⟩
    simpa [getRecord,registered_of_manifest declared,targetTimeOf] using same
  · intro unmoved other different named first second code asOf
    simp only [getRecord,registered_of_manifest declared,targetTimeOf]
    exact congrArg Except.ok (unmoved other different named first.listing second.listing code asOf.reading)

theorem isInForce_iff {code : String} : isInForce masterType code t s = true ↔
    ∃ a, Shown masterType t s a ∧ Text.upper a.code = normalised code := by
  simp only [isInForce,List.any_eq_true,mem_versionsOf,Shown]
  refine exists_congr (fun a => ?_)
  tauto

/-- Where the records of the other tenants and the global ones are the same and no
code comes into force, the others resolve as before. -/
theorem unmoved_of_front (layered : Layered masterType s)
    (owned : ∀ t r other, other ≠ tenant → r.tenantId = some other → (Shown masterType t after r ↔ Shown masterType t s r))
    (global : ∀ t r, r.tenantId = none → (Shown masterType t after r ↔ Shown masterType t s r))
    (occupied : ∀ t a, Shown masterType t after a → ∃ b, Shown masterType t s b ∧ Text.upper b.code = Text.upper a.code) :
    Unmoved masterType tenant s after := by
  intro other different named first second code t
  cases before : resolve first (normalised masterType) code t (some other) false s with
  | none =>
    refine resolve_none ?_ _
    intro a shown spelled
    obtain ⟨b,seen,same⟩ := occupied t a shown
    have inForce := isInForce_iff.mpr ⟨b,seen,same.trans spelled⟩
    rw [← resolve_isSome first t (some other),before] at inForce
    cases inForce
  | some r =>
    obtain ⟨shown,spelled,own | ⟨isGlobal,ahead⟩⟩ := (layered.resolve_iff named).mp before
    · refine resolve_own named ((owned t r other different own).mpr shown) spelled own ?_
      intro o seen same holder
      have present := (owned t o other different holder).mp seen
      exact layered.single t o r other present shown (layered.alike present shown same spelled) named holder own
    · refine resolve_global named ((global t r isGlobal).mpr shown) spelled isGlobal ?_ ?_
      · intro o seen same holder
        exact (ahead o ((owned t o other different holder).mp seen) same).1 holder
      · intro o seen same sameKind
        exact (ahead o ((global t o sameKind).mp seen) same).2

theorem unmoved_of_shown (layered : Layered masterType s)
    (same : ∀ t r, Shown masterType t after r ↔ Shown masterType t s r) : Unmoved masterType tenant s after := by
  refine unmoved_of_front layered (fun t r _ _ _ => same t r) (fun t r _ => same t r) ?_
  intro t a shown
  exact ⟨a,(same t a).mp shown,rfl⟩

theorem moved_of_new {code : String} (absent : isInForce masterType code t s = false)
    (present : isInForce masterType code t after = true) : ¬ Unmoved masterType tenant s after := by
  intro unmoved
  obtain ⟨other,named,different,_⟩ := unused_tenant s tenant
  have same := unmoved other different named .stable .stable code t
  rw [← resolve_isSome .stable t (some other)] at absent present
  rw [same,absent] at present
  cases present

theorem moved_of_gone {code : String} (layered : Layered masterType s) (shown : Shown masterType t s current)
    (spelled : Text.upper current.code = normalised code) (global : current.tenantId = none)
    (first : ∀ o, Shown masterType t s o → Text.upper o.code = normalised code → o ≠ current → current.sortOrder < o.sortOrder)
    (gone : current ∉ after.rows) : ¬ Unmoved masterType tenant s after := by
  intro unmoved
  obtain ⟨other,named,different,unused⟩ := unused_tenant s tenant
  have picked : Picked masterType t other s code current :=
    ⟨shown,spelled,Or.inr ⟨global,fun o seen same => ⟨unused o seen.1,first o seen same⟩⟩⟩
  have same := unmoved other different named .stable .stable code t
  rw [(layered.resolve_iff named).mpr picked] at same
  exact gone (mem_candidates.mp (preferred_mem same)).1

theorem untenanted_first {listing : Arrangement} {code : String} {includeInactive : Bool} (layered : Layered masterType s)
    (found : resolve listing (normalised masterType) code t none includeInactive s = some current)
    (shown : Shown masterType t s current) : current.tenantId = none ∧
      ∀ o, Shown masterType t s o → Text.upper o.code = normalised code → o ≠ current → current.sortOrder < o.sortOrder := by
  have spelled := (mem_candidates.mp (preferred_mem found)).2.2.1
  obtain ⟨g,seen,same,global,ahead⟩ := layered.base t current shown
  have member : g ∈ candidates listing (normalised masterType) code t includeInactive s := by
    refine mem_candidates.mpr ⟨seen.1,seen.2.1,by rw [same]; exact spelled,?_⟩
    have visible := seen.2.2
    simp only [isVisible,Bool.and_eq_true,Bool.false_or] at visible
    simp [isVisible,visible.1,visible.2]
  have ordered : (candidates listing (normalised masterType) code t includeInactive s).Pairwise
      (fun a b => a.sortOrder ≤ b.sortOrder) := (listing.ordered _).filter _
  unfold resolve preferred at found
  rw [show given none = none from rfl,Option.bind_none] at found
  have first : (candidates listing (normalised masterType) code t includeInactive s).find? (fun r => r.tenantId = none) =
      some current := by
    rcases Option.or_eq_some_iff.mp found with first | ⟨nowhere,_⟩
    · exact first
    · exact absurd (by simpa using global) (List.find?_eq_none.mp nowhere g member)
  have before := found_first ordered first member (by simpa using global)
  have base : current = g := by
    by_contra different
    have later := ahead current shown rfl different
    omega
  rw [base] at ahead ⊢
  refine ⟨global,?_⟩
  intro o present alike
  refine ahead o present (layered.alike present seen alike ?_)
  rw [same]
  exact spelled

theorem shown_saveRecord_fresh (fresh : record.id ∉ s.rows.map MasterDataRecord.id) :
    Shown masterType t (s.saveRecord record) r ↔ Shown masterType t s r ∨
      r = record ∧ record.masterType = normalised masterType ∧ isVisible t false record = true := by
  simp only [Shown,rows_saveRecord_fresh fresh,List.mem_append,List.mem_singleton]
  constructor
  · rintro ⟨old | rfl,kind,visible⟩
    · exact Or.inl ⟨old,kind,visible⟩
    · exact Or.inr ⟨rfl,kind,visible⟩
  · rintro (⟨old,kind,visible⟩ | ⟨rfl,kind,visible⟩)
    · exact ⟨Or.inl old,kind,visible⟩
    · exact ⟨Or.inr rfl,kind,visible⟩

theorem shown_saveRecord_hidden (fresh : record.id ∉ s.rows.map MasterDataRecord.id)
    (draft : record.lifecycleStatus = .draft) :
    Shown masterType t (s.saveRecord record) r ↔ Shown masterType t s r := by
  rw [shown_saveRecord_fresh fresh]
  simp [isVisible,draft]

theorem mem_rows_closed {transition : Instant} (held : current ∈ s.rows) :
    r ∈ (s.saveRecord (closed transition current)).rows ↔ r ∈ s.rows ∧ r ≠ current ∨ r = closed transition current := by
  rw [rows_saveRecord_closed transition held,List.mem_map]
  constructor
  · rintro ⟨o,member,rfl⟩
    unfold superseded
    split
    · exact Or.inr rfl
    · rename_i other
      exact Or.inl ⟨member,fun same => other (congrArg MasterDataRecord.id same)⟩
  · rintro (⟨member,different⟩ | rfl)
    · refine ⟨r,member,?_⟩
      have other : r.id ≠ current.id := fun same => different (List.inj_on_of_nodup_map s.keyed member held same)
      simp [superseded,other]
    · exact ⟨current,held,by simp [superseded]⟩

end Moves

section Writes

variable {env : Environment} {entry : MasterRegistryEntry} {masterType tenant : String} {s : MasterDataStore}

theorem create_unmoved_iff (declared : env.manifest (normalised masterType) = some entry)
    (layered : Layered masterType s) {call : Call} {input : NewRecord} (mine : input.tenantId = some tenant)
    (fresh : recordIdOf call (normalised masterType) ∉ s.rows.map MasterDataRecord.id) :
    Unmoved masterType tenant s (createRecord env call masterType input s).1 ↔
      Harmless env entry masterType s (.create call input) := by
  simp only [createRecord,registered_of_manifest declared,Harmless]
  cases taken : isTaken call.listing (normalised masterType) input.code input.tenantId s with
  | true =>
    simp only [if_true,true_or,iff_true]
    exact unmoved_of_shown layered (fun _ _ => Iff.rfl)
  | false =>
    simp only [Bool.false_eq_true,if_false,false_or]
    obtain ⟨v,made⟩ : ∃ v, v = createdRecord call (normalised masterType) entry.requiresApproval input := ⟨_,rfl⟩
    rw [← made]
    have unused : v.id ∉ s.rows.map MasterDataRecord.id := by
      rw [made]
      exact fresh
    have spelled : Text.upper v.code = normalised input.code := by
      rw [made]
      exact upper_stripped _
    cases approval : entry.requiresApproval && !input.forcePublish with
    | true =>
      simp only [true_or,iff_true]
      have draft : v.lifecycleStatus = .draft := by
        rw [made]
        simp [createdRecord,approval]
      exact unmoved_of_shown layered (fun _ _ => shown_saveRecord_hidden unused draft)
    | false =>
      have visible : ∀ t, isVisible t false v = true ↔ call.now ≤ t := by
        intro t
        rw [made]
        simp [isVisible,isRecordEffective,createdRecord,approval,Validity.Covers,MasterDataRecord.validity]
      have kind : v.masterType = normalised masterType := by
        rw [made]
        rfl
      have owner : v.tenantId = some tenant := by
        rw [made]
        exact mine
      simp only [Bool.false_eq_true,false_or]
      constructor
      · intro unmoved t begun
        by_contra absent
        refine moved_of_new (by simpa using absent) ?_ unmoved
        exact isInForce_iff.mpr ⟨v,(shown_saveRecord_fresh unused).mpr (Or.inr ⟨rfl,kind,(visible t).mpr begun⟩),spelled⟩
      · intro covered
        refine unmoved_of_front layered ?_ ?_ ?_
        · intro t r other different holder
          rw [shown_saveRecord_fresh unused]
          refine or_iff_left ?_
          rintro ⟨rfl,_⟩
          rw [owner] at holder
          exact different (Option.some.inj holder).symm
        · intro t r global
          rw [shown_saveRecord_fresh unused]
          refine or_iff_left ?_
          rintro ⟨rfl,_⟩
          rw [owner] at global
          cases global
        · intro t a shown
          rcases (shown_saveRecord_fresh unused).mp shown with old | ⟨rfl,_,begun⟩
          · exact ⟨a,old,rfl⟩
          · obtain ⟨b,seen,same⟩ := isInForce_iff.mp (covered t ((visible t).mp begun))
            exact ⟨b,seen,same.trans spelled.symm⟩

theorem isVisible_closed {current : MasterDataRecord} (published : current.lifecycleStatus = .published) (transition t : Instant) :
    isVisible t false (closed transition current) = true ↔ current.effectiveFrom ≤ t ∧ t < transition := by
  simp [isVisible,isRecordEffective,closed,published,Validity.Covers,MasterDataRecord.validity]

theorem Shown.published {t : Instant} {r : MasterDataRecord} (shown : Shown masterType t s r) : r.lifecycleStatus = .published := by
  have seen := shown.2.2
  simp only [isVisible,Bool.and_eq_true,Bool.false_or,decide_eq_true_eq] at seen
  exact seen.2

theorem shown_replaced {t₀ transition : Instant} {current v : MasterDataRecord} (shown : Shown masterType t₀ s current)
    (unused : v.id ∉ s.rows.map MasterDataRecord.id) (kind : v.masterType = normalised masterType)
    (visible : ∀ t, isVisible t false v = true ↔ transition ≤ t) (t : Instant) (r : MasterDataRecord) :
    Shown masterType t ((s.saveRecord (closed transition current)).saveRecord v) r ↔
      (Shown masterType t s r ∧ r ≠ current) ∨
        (r = closed transition current ∧ current.effectiveFrom ≤ t ∧ t < transition) ∨ (r = v ∧ transition ≤ t) := by
  have fresh : v.id ∉ (s.saveRecord (closed transition current)).rows.map MasterDataRecord.id := by
    rw [ids_saveRecord_closed transition shown.1]
    exact unused
  rw [shown_saveRecord_fresh fresh]
  simp only [Shown,mem_rows_closed shown.1,kind,visible]
  constructor
  · rintro (⟨⟨old,different⟩ | rfl,sort,seen⟩ | ⟨rfl,_,begun⟩)
    · exact Or.inl ⟨⟨old,sort,seen⟩,different⟩
    · exact Or.inr (Or.inl ⟨rfl,(isVisible_closed shown.published transition t).mp seen⟩)
    · exact Or.inr (Or.inr ⟨rfl,begun⟩)
  · rintro (⟨⟨old,sort,seen⟩,different⟩ | ⟨rfl,covered⟩ | ⟨rfl,begun⟩)
    · exact Or.inl ⟨Or.inl ⟨old,different⟩,sort,seen⟩
    · exact Or.inl ⟨Or.inr rfl,shown.2.1,(isVisible_closed shown.published transition t).mpr covered⟩
    · exact Or.inr ⟨rfl,trivial,begun⟩

theorem shown_replaced_foreign {t₀ transition : Instant} {current v : MasterDataRecord} (shown : Shown masterType t₀ s current)
    (unused : v.id ∉ s.rows.map MasterDataRecord.id) (owner : v.tenantId = some tenant) (kind : v.masterType = normalised masterType)
    (visible : ∀ t, isVisible t false v = true ↔ transition ≤ t)
    (own : current.tenantId = some tenant ∨ closed transition current = current)
    (t : Instant) {r : MasterDataRecord} (foreign : r.tenantId ≠ some tenant) :
    Shown masterType t ((s.saveRecord (closed transition current)).saveRecord v) r ↔ Shown masterType t s r := by
  rw [shown_replaced shown unused kind visible]
  rcases own with mine | same
  · constructor
    · rintro (⟨old,_⟩ | ⟨rfl,_⟩ | ⟨rfl,_⟩)
      · exact old
      · exact absurd mine foreign
      · exact absurd owner foreign
    · intro old
      refine Or.inl ⟨old,?_⟩
      rintro rfl
      exact foreign mine
  · constructor
    · rintro (⟨old,_⟩ | ⟨rfl,seen⟩ | ⟨rfl,_⟩)
      · exact old
      · rw [same]
        refine ⟨shown.1,shown.2.1,?_⟩
        rw [← same]
        exact (isVisible_closed shown.published transition t).mpr seen
      · exact absurd owner foreign
    · intro old
      by_cases equal : r = current
      · rw [equal] at old ⊢
        refine Or.inr (Or.inl ⟨same.symm,(isVisible_closed shown.published transition t).mp ?_⟩)
        rw [same]
        exact old.2.2
      · exact Or.inl ⟨old,equal⟩

theorem replaced_unmoved_iff (layered : Layered masterType s) {code : String} {t₀ transition : Instant}
    {current v : MasterDataRecord} (picked : Picked masterType t₀ tenant s code current)
    (unused : v.id ∉ s.rows.map MasterDataRecord.id) (owner : v.tenantId = some tenant)
    (spelled : Text.upper v.code = normalised code) (kind : v.masterType = normalised masterType)
    (visible : ∀ t, isVisible t false v = true ↔ transition ≤ t) :
    Unmoved masterType tenant s ((s.saveRecord (closed transition current)).saveRecord v) ↔
      (current.tenantId = some tenant ∨ closed transition current = current) ∧
        ∀ t, (current.effectiveFrom ≤ t ∧ t < transition ∨ transition ≤ t) → isInForce masterType code t s = true := by
  obtain ⟨shown,currentSpelled,pick⟩ := picked
  have fresh : v.id ∉ (s.saveRecord (closed transition current)).rows.map MasterDataRecord.id := by
    rw [ids_saveRecord_closed transition shown.1]
    exact unused
  have shownAfter := shown_replaced shown unused kind visible
  constructor
  · intro unmoved
    refine ⟨?_,?_⟩
    · by_contra neither
      obtain ⟨foreign,unclosed⟩ := not_or.mp neither
      obtain ⟨global,ahead⟩ := pick.resolve_left foreign
      refine moved_of_gone layered shown currentSpelled global (fun o seen same => (ahead o seen same).2) ?_ unmoved
      rw [rows_saveRecord_fresh fresh,List.mem_append,List.mem_singleton,mem_rows_closed shown.1]
      rintro ((⟨_,different⟩ | same) | same)
      · exact different rfl
      · exact unclosed same.symm
      · exact unused (same ▸ List.mem_map_of_mem shown.1)
    · intro t touched
      by_contra absent
      refine moved_of_new (by simpa using absent) (isInForce_iff.mpr ?_) unmoved
      rcases touched with covered | begun
      · exact ⟨closed transition current,(shownAfter t _).mpr (Or.inr (Or.inl ⟨rfl,covered⟩)),currentSpelled⟩
      · exact ⟨v,(shownAfter t v).mpr (Or.inr (Or.inr ⟨rfl,begun⟩)),spelled⟩
  · rintro ⟨own,covered⟩
    have kept : ∀ t r, r.tenantId ≠ some tenant →
        (Shown masterType t ((s.saveRecord (closed transition current)).saveRecord v) r ↔ Shown masterType t s r) :=
      fun t _ foreign => shown_replaced_foreign shown unused owner kind visible own t foreign
    refine unmoved_of_front layered ?_ ?_ ?_
    · intro t r other different holder
      refine kept t r ?_
      rw [holder]
      exact fun same => different (Option.some.inj same)
    · intro t r global
      refine kept t r ?_
      rw [global]
      exact (Option.some_ne_none tenant).symm
    · intro t a seen
      have inForce : Text.upper a.code = normalised code → (current.effectiveFrom ≤ t ∧ t < transition ∨ transition ≤ t) →
          ∃ b, Shown masterType t s b ∧ Text.upper b.code = Text.upper a.code := by
        intro same touched
        obtain ⟨b,present,alike⟩ := isInForce_iff.mp (covered t touched)
        exact ⟨b,present,alike.trans same.symm⟩
      rcases (shownAfter t a).mp seen with ⟨old,_⟩ | ⟨rfl,within⟩ | ⟨rfl,begun⟩
      · exact ⟨a,old,rfl⟩
      · exact inForce currentSpelled (Or.inl within)
      · exact inForce spelled (Or.inr begun)

theorem delete_unmoved_iff (declared : env.manifest (normalised masterType) = some entry)
    (layered : Layered masterType s) {call : Call} {code : String} :
    Unmoved masterType tenant s (deleteRecord env call masterType code s).1 ↔
      Harmless env entry masterType s (.delete call code) := by
  have idle : Unmoved masterType tenant s s := unmoved_of_shown layered (fun _ _ => Iff.rfl)
  simp only [deleteRecord,getRecord,registered_of_manifest declared,targetTimeOf,Harmless]
  cases found : resolve call.listing (normalised masterType) code call.now none true s with
  | none => simpa using idle
  | some current =>
    simp only [Option.some.injEq,forall_eq']
    cases guarded : current.isSystem with
    | true => simpa using idle
    | false =>
      cases used : isInUse (env.references (normalised masterType) (normalised code)) with
      | true => simpa using idle
      | false =>
        simp only [Bool.false_eq_true,if_false,false_or]
        obtain ⟨held,kind,spelled,visible⟩ := mem_candidates.mp (preferred_mem found)
        have gone : current ∉ (s.deleteRecord current.id).rows := by
          simp [MasterDataStore.deleteRecord]
        constructor
        · intro unmoved published
          have shown : Shown masterType call.now s current := by
            refine ⟨held,kind,?_⟩
            simp only [isVisible,Bool.true_or,Bool.and_true] at visible
            simp [isVisible,visible,published]
          obtain ⟨global,first⟩ := untenanted_first layered found shown
          exact moved_of_gone layered shown spelled global first gone unmoved
        · intro unpublished
          refine unmoved_of_shown layered ?_
          intro t r
          simp only [Shown,MasterDataStore.deleteRecord,List.mem_filter]
          constructor
          · rintro ⟨⟨member,_⟩,rest⟩
            exact ⟨member,rest⟩
          · rintro ⟨member,kind,present⟩
            refine ⟨⟨member,?_⟩,kind,present⟩
            simp only [decide_not,Bool.not_eq_true',decide_eq_false_iff_not]
            intro same
            obtain rfl := List.inj_on_of_nodup_map s.keyed member held same
            simp only [isVisible,Bool.and_eq_true,Bool.false_or,decide_eq_true_eq] at present
            exact unpublished present.2

theorem update_unmoved_iff (declared : env.manifest (normalised masterType) = some entry)
    (layered : Layered masterType s) (named : tenant ≠ "") {call : Call} {code : String} {change : RecordChange}
    (mine : change.tenantId = some tenant)
    (fresh : recordIdOf call (normalised masterType) ∉ s.rows.map MasterDataRecord.id) :
    Unmoved masterType tenant s (updateRecord env call masterType code change s).1 ↔
      Harmless env entry masterType s (.update call code change) := by
  have idle : Unmoved masterType tenant s s := unmoved_of_shown layered (fun _ _ => Iff.rfl)
  simp only [updateRecord,registered_of_manifest declared,Harmless]
  cases found : resolve call.listing (normalised masterType) code call.now change.tenantId false s with
  | none => simpa using idle
  | some current =>
    simp only [Option.some.injEq,forall_eq']
    rw [mine] at found
    have picked := (layered.resolve_iff named).mp found
    obtain ⟨v,made⟩ : ∃ v, v = nextVersion call (normalised masterType) entry.requiresApproval change current := ⟨_,rfl⟩
    have unused : v.id ∉ s.rows.map MasterDataRecord.id := by
      rw [made]
      exact fresh
    cases approval : entry.requiresApproval && !change.forcePublish with
    | true =>
      simp only [if_true,true_or,iff_true]
      have draft : v.lifecycleStatus = .draft := by
        rw [made]
        simp [nextVersion,approval]
      rw [← made]
      exact unmoved_of_shown layered (fun _ _ => shown_saveRecord_hidden unused draft)
    | false =>
      simp only [Bool.false_eq_true,if_false,false_or]
      rw [← made]
      have owner : v.tenantId = some tenant := by
        rw [made]
        simp [nextVersion,mine,given_named named]
      have kind : v.masterType = normalised masterType := by
        rw [made]
        rfl
      have alike : Text.upper v.code = normalised code := by
        rw [made]
        exact picked.2.1
      have visible : ∀ t, isVisible t false v = true ↔ transitionTime call change ≤ t := by
        intro t
        rw [made]
        simp [isVisible,isRecordEffective,nextVersion,approval,Validity.Covers,MasterDataRecord.validity]
      rw [mine]
      exact replaced_unmoved_iff layered picked unused owner alike kind visible

end Writes

section Imports

variable {env : Environment} {entry : MasterRegistryEntry} {reading : Reading} {importedBy masterType tenant : String}
  {calls : ℕ → Call} {s now : MasterDataStore} {call : Call} {row : Row}

/-- What a row stores, carried out or not: nothing, a record, the current one closed,
or both. -/
inductive RowStored (entry : MasterRegistryEntry) (call : Call) (masterType : String) (now : MasterDataStore) :
    MasterDataStore → Prop where
  | idle : RowStored entry call masterType now now
  | saved (v : MasterDataRecord) (named : v.id = recordIdOf call (normalised masterType))
      (draft : entry.requiresApproval = true → v.lifecycleStatus = .draft) :
      RowStored entry call masterType now (now.saveRecord v)
  | ended (current : MasterDataRecord) (direct : entry.requiresApproval = false) (held : current ∈ now.rows)
      (inForce : isVisible call.now false current = true) :
      RowStored entry call masterType now (now.saveRecord (closed call.now current))
  | replaced (current v : MasterDataRecord) (direct : entry.requiresApproval = false) (held : current ∈ now.rows)
      (inForce : isVisible call.now false current = true) (named : v.id = recordIdOf call (normalised masterType)) :
      RowStored entry call masterType now ((now.saveRecord (closed call.now current)).saveRecord v)

theorem importRow_stored (declared : env.manifest (normalised masterType) = some entry) :
    RowStored entry call masterType now (importRow env reading importedBy call masterType row now).1 := by
  cases named : textOf (row.get "code") with
  | none =>
    simp only [importRow,named]
    exact .idle
  | some code =>
    cases found : resolve call.listing (normalised masterType) code call.now none false now with
    | some current =>
      obtain ⟨held,_,_,visible⟩ := mem_candidates.mp (preferred_mem found)
      cases read : changeOf reading importedBy row with
      | some change =>
        rw [importRow_updated declared named found read]
        cases approval : entry.requiresApproval with
        | true =>
          refine .saved _ rfl (fun _ => ?_)
          simp [nextVersion,(changeOf_untenanted read).2.2]
        | false => exact .replaced current _ approval held visible rfl
      | none =>
        cases approval : entry.requiresApproval with
        | true =>
          simp only [importRow,named,getRecord,registered_of_manifest declared,targetTimeOf,found,read,refusedUpdate,
            approval,if_true]
          exact .idle
        | false =>
          simp only [importRow,named,getRecord,registered_of_manifest declared,targetTimeOf,found,read,refusedUpdate,
            approval,Bool.false_eq_true,if_false]
          exact .ended current approval held visible
    | none =>
      cases read : newRecordOf reading importedBy code row with
      | none =>
        simp only [importRow,named,getRecord,registered_of_manifest declared,targetTimeOf,found,read]
        exact .idle
      | some input =>
        cases free : isHeld masterType code now with
        | true =>
          obtain ⟨spelled,untenanted,_⟩ := newRecordOf_untenanted read
          simp only [importRow,named,getRecord,registered_of_manifest declared,targetTimeOf,found,read,lifted,createRecord,
            untenanted,spelled,isTaken_eq_isHeld,free,if_true]
          exact .idle
        | false =>
          rw [importRow_created declared named found read free]
          refine .saved _ rfl (fun approval => ?_)
          simp [createdRecord,approval,(newRecordOf_untenanted read).2.2]

theorem importRows_keeps (kept : ℕ → MasterDataStore → Prop) (rows : List Row) :
    ∀ (i : ℕ) (now : MasterDataStore), (∀ j, i ≤ j → ∀ row now, kept j now →
      kept (j + 1) (importRow env reading importedBy (calls j) masterType row now).1) → kept i now →
      ∃ j, i ≤ j ∧ kept j (importRows env reading importedBy calls masterType i rows now).1 := by
  induction rows with
  | nil =>
    intro i now _ start
    exact ⟨i,le_rfl,start⟩
  | cons row rest restKeeps =>
    intro i now step start
    have next := step i le_rfl row now start
    cases served : importRow env reading importedBy (calls i) masterType row now with
    | mk after answer =>
      rw [served] at next
      cases answer with
      | error e =>
        refine ⟨i + 1,Nat.le_succ i,?_⟩
        simp only [importRows,served]
        exact next
      | ok updated =>
        rw [importRows_served served]
        obtain ⟨j,bound,last⟩ := restKeeps (i + 1) after (fun j later => step j (Nat.le_of_succ_le later)) next
        exact ⟨j,Nat.le_of_succ_le bound,last⟩

def Unspent (masterType : String) (calls : ℕ → Call) (i : ℕ) (now : MasterDataStore) : Prop :=
  ∀ j, i ≤ j → recordIdOf (calls j) (normalised masterType) ∉ now.rows.map MasterDataRecord.id

theorem RowStored.unspent {i : ℕ} {after : MasterDataStore}
    (distinct : ∀ i j, i ≠ j → recordIdOf (calls i) (normalised masterType) ≠ recordIdOf (calls j) (normalised masterType))
    (stored : RowStored entry (calls i) masterType now after) (unspent : Unspent masterType calls i now) :
    Unspent masterType calls (i + 1) after := by
  intro j bound
  have old := unspent j (Nat.le_of_succ_le bound)
  have other := distinct j i (Nat.ne_of_gt bound)
  cases stored with
  | idle => exact old
  | saved v named draft =>
    rw [ids_saveRecord_fresh (by rw [named]; exact unspent i le_rfl),List.mem_append,List.mem_singleton,named]
    exact not_or.mpr ⟨old,other⟩
  | ended current direct held inForce =>
    rw [ids_saveRecord_closed _ held]
    exact old
  | replaced current v direct held inForce named =>
    have fresh : v.id ∉ (now.saveRecord (closed (calls i).now current)).rows.map MasterDataRecord.id := by
      rw [ids_saveRecord_closed _ held,named]
      exact unspent i le_rfl
    rw [ids_saveRecord_fresh fresh,ids_saveRecord_closed _ held,List.mem_append,List.mem_singleton,named]
    exact not_or.mpr ⟨old,other⟩

theorem RowStored.drafts {after : MasterDataStore} (stored : RowStored entry call masterType now after)
    (approval : entry.requiresApproval = true)
    (fresh : recordIdOf call (normalised masterType) ∉ now.rows.map MasterDataRecord.id) (t : Instant)
    (r : MasterDataRecord) : Shown masterType t after r ↔ Shown masterType t now r := by
  cases stored with
  | idle => rfl
  | saved v named draft => exact shown_saveRecord_hidden (by rw [named]; exact fresh) (draft approval)
  | ended current direct held inForce =>
    rw [approval] at direct
    cases direct
  | replaced current v direct held inForce named =>
    rw [approval] at direct
    cases direct

theorem closed_hidden {t later : Instant} {current : MasterDataRecord} (bound : t ≤ later) :
    isVisible later false (closed t current) = false := by
  simp [isVisible,isRecordEffective,closed,Validity.Covers,MasterDataRecord.validity,bound]

theorem RowStored.keeps_ended {after : MasterDataStore} {r : MasterDataRecord}
    (stored : RowStored entry call masterType now after)
    (fresh : recordIdOf call (normalised masterType) ∉ now.rows.map MasterDataRecord.id)
    (hidden : isVisible call.now false r = false) (member : r ∈ now.rows) : r ∈ after.rows := by
  have other : ∀ current, isVisible call.now false current = true → r ≠ current := by
    rintro current inForce rfl
    rw [inForce] at hidden
    cases hidden
  cases stored with
  | idle => exact member
  | saved v named draft =>
    rw [rows_saveRecord_fresh (by rw [named]; exact fresh)]
    exact List.mem_append_left _ member
  | ended current direct held inForce => exact (mem_rows_closed held).mpr (Or.inl ⟨member,other current inForce⟩)
  | replaced current v direct held inForce named =>
    have unused : v.id ∉ (now.saveRecord (closed call.now current)).rows.map MasterDataRecord.id := by
      rw [ids_saveRecord_closed _ held,named]
      exact fresh
    rw [rows_saveRecord_fresh unused]
    exact List.mem_append_left _ ((mem_rows_closed held).mpr (Or.inl ⟨member,other current inForce⟩))

theorem RowStored.keeps_past {after : MasterDataStore} {code : String} {t : Instant}
    (stored : RowStored entry call masterType now after)
    (fresh : recordIdOf call (normalised masterType) ∉ now.rows.map MasterDataRecord.id) (past : t < call.now)
    (inForce : isInForce masterType code t now = true) : isInForce masterType code t after = true := by
  obtain ⟨a,shown,spelled⟩ := isInForce_iff.mp inForce
  have ended : ∀ current ∈ now.rows, ∃ b, Shown masterType t (now.saveRecord (closed call.now current)) b ∧
      Text.upper b.code = normalised code := by
    intro current held
    by_cases same : a = current
    · refine ⟨closed call.now current,⟨(mem_rows_closed held).mpr (Or.inr rfl),?_,?_⟩,?_⟩
      · rw [← same]
        exact shown.2.1
      · have visible := shown.2.2
        rw [same] at visible
        simp only [isVisible,isRecordEffective,MasterDataRecord.validity,Validity.Covers,Bool.and_eq_true,
          decide_eq_true_eq,Bool.false_or] at visible
        obtain ⟨covered,published⟩ := visible
        have begun := (of_decide_eq_true covered).1
        simp [isVisible,isRecordEffective,closed,Validity.Covers,MasterDataRecord.validity,begun,published,past]
      · rw [← same]
        exact spelled
    · exact ⟨a,⟨(mem_rows_closed held).mpr (Or.inl ⟨shown.1,same⟩),shown.2⟩,spelled⟩
  cases stored with
  | idle => exact inForce
  | saved v named draft =>
    exact isInForce_iff.mpr ⟨a,(shown_saveRecord_fresh (by rw [named]; exact fresh)).mpr (Or.inl shown),spelled⟩
  | ended current direct held _ => exact isInForce_iff.mpr (ended current held)
  | replaced current v direct held _ named =>
    have unused : v.id ∉ (now.saveRecord (closed call.now current)).rows.map MasterDataRecord.id := by
      rw [ids_saveRecord_closed _ held,named]
      exact fresh
    obtain ⟨b,present,alike⟩ := ended current held
    exact isInForce_iff.mpr ⟨b,(shown_saveRecord_fresh unused).mpr (Or.inl present),alike⟩

theorem importRows_after_first (kept : MasterDataStore → Prop) (rest : List Row)
    (distinct : ∀ i j, i ≠ j → recordIdOf (calls i) (normalised masterType) ≠ recordIdOf (calls j) (normalised masterType))
    (declared : env.manifest (normalised masterType) = some entry) (unspent : Unspent masterType calls 0 s)
    (step : ∀ j, 1 ≤ j → ∀ now after, RowStored entry (calls j) masterType now after →
      recordIdOf (calls j) (normalised masterType) ∉ now.rows.map MasterDataRecord.id → kept now → kept after)
    (first : kept (importRow env reading importedBy (calls 0) masterType row s).1) :
    kept (importRows env reading importedBy calls masterType 0 (row :: rest) s).1 := by
  have stored : RowStored entry (calls 0) masterType s (importRow env reading importedBy (calls 0) masterType row s).1 :=
    importRow_stored declared
  have left := stored.unspent distinct unspent
  cases served : importRow env reading importedBy (calls 0) masterType row s with
  | mk after answer =>
    rw [served] at first left
    cases answer with
    | error e =>
      simp only [importRows,served]
      exact first
    | ok updated =>
      rw [importRows_served served]
      obtain ⟨_,_,_,_,last⟩ := importRows_keeps (fun i now => 1 ≤ i ∧ Unspent masterType calls i now ∧ kept now) rest 1 after
        (fun j later row now before => by
          have rowStored : RowStored entry (calls j) masterType now
            (importRow env reading importedBy (calls j) masterType row now).1 := importRow_stored declared
          exact ⟨Nat.le_succ_of_le later,rowStored.unspent distinct before.2.1,
            step j later now _ rowStored (before.2.1 j le_rfl) before.2.2⟩) ⟨le_rfl,left,first⟩
      exact last

theorem import_moves (declared : env.manifest (normalised masterType) = some entry)
    (direct : entry.requiresApproval = false) (layered : Layered masterType s) (unspent : Unspent masterType calls 0 s)
    (distinct : ∀ i j, i ≠ j → recordIdOf (calls i) (normalised masterType) ≠ recordIdOf (calls j) (normalised masterType))
    (clock : ∀ i j, i < j → (calls i).now < (calls j).now) (row : Row) (rest : List Row)
    (effective : ¬ FirstRefused reading importedBy masterType (calls 0).now s (row :: rest)) :
    ¬ Unmoved masterType tenant s (importRows env reading importedBy calls masterType 0 (row :: rest) s).1 := by
  simp only [FirstRefused,not_forall] at effective
  obtain ⟨code,named,effective⟩ := effective
  cases found : resolve (calls 0).listing (normalised masterType) code (calls 0).now none false s with
  | some current =>
    obtain ⟨held,kind,spelled,visible⟩ := mem_candidates.mp (preferred_mem found)
    have shown : Shown masterType (calls 0).now s current := ⟨held,kind,visible⟩
    obtain ⟨global,ahead⟩ := untenanted_first layered found shown
    have ended : closed (calls 0).now current ∈
        (importRow env reading importedBy (calls 0) masterType row s).1.rows := by
      have closing : closed (calls 0).now current ∈ (s.saveRecord (closed (calls 0).now current)).rows :=
        (mem_rows_closed held).mpr (Or.inr rfl)
      cases read : changeOf reading importedBy row with
      | some change =>
        rw [importRow_updated declared named found read,direct,if_neg Bool.false_ne_true]
        have fresh : (nextVersion (calls 0) (normalised masterType) false change current).id ∉
            (s.saveRecord (closed (calls 0).now current)).rows.map MasterDataRecord.id := by
          rw [ids_saveRecord_closed _ held]
          exact unspent 0 le_rfl
        rw [rows_saveRecord_fresh fresh]
        exact List.mem_append_left _ closing
      | none =>
        simp only [importRow,named,getRecord,registered_of_manifest declared,targetTimeOf,found,read,refusedUpdate,direct,
          Bool.false_eq_true,if_false]
        exact closing
    have kept := importRows_after_first (fun now => closed (calls 0).now current ∈ now.rows) rest distinct declared unspent
      (fun j later now after stored fresh member =>
        stored.keeps_ended fresh (closed_hidden (clock 0 j later).le) member) ended
    refine moved_of_gone layered shown spelled global ahead ?_
    intro stays
    have same := List.inj_on_of_nodup_map (importRows env reading importedBy calls masterType 0 (row :: rest) s).1.keyed stays
      kept rfl
    have gone : isVisible (calls 0).now false (closed (calls 0).now current) = false := closed_hidden le_rfl
    rw [← same,visible] at gone
    cases gone
  | none =>
    have absent : isInForce masterType code (calls 0).now s = false := by
      rw [← resolve_isSome (calls 0).listing (calls 0).now none,found]
      rfl
    obtain ⟨readable,free⟩ := not_or.mp (fun refused => effective ⟨absent,refused⟩)
    obtain ⟨input,read⟩ := Option.ne_none_iff_exists'.mp readable
    have served := importRow_created declared named found read (by simpa using free)
    have appeared : isInForce masterType code (calls 0).now
        (importRow env reading importedBy (calls 0) masterType row s).1 = true := by
      rw [served,direct]
      obtain ⟨spelled,_,_⟩ := newRecordOf_untenanted read
      refine isInForce_iff.mpr ⟨createdRecord (calls 0) (normalised masterType) false input,?_,?_⟩
      · refine (shown_saveRecord_fresh (unspent 0 le_rfl)).mpr (Or.inr ⟨rfl,rfl,?_⟩)
        exact isVisible_endless rfl rfl le_rfl
      · rw [← spelled]
        exact upper_stripped _
    exact moved_of_new absent (importRows_after_first (fun now => isInForce masterType code (calls 0).now now = true) rest
      distinct declared unspent (fun j later now after stored fresh inForce =>
        stored.keeps_past fresh (clock 0 j later) inForce) appeared)

theorem importRows_refused (declared : env.manifest (normalised masterType) = some entry) (rows : List Row)
    (refused : FirstRefused reading importedBy masterType (calls 0).now s rows) :
    (importRows env reading importedBy calls masterType 0 rows s).1 = s := by
  cases rows with
  | nil => rfl
  | cons row rest =>
    simp only [importRows]
    cases named : textOf (row.get "code") with
    | none => simp [importRow,named]
    | some code =>
      obtain ⟨absent,refusal⟩ := refused code named
      have found : resolve (calls 0).listing (normalised masterType) code (calls 0).now none false s = none := by
        rw [← Option.isNone_iff_eq_none,← Option.not_isSome,resolve_isSome,absent]
        rfl
      cases read : newRecordOf reading importedBy code row with
      | none => simp [importRow,named,getRecord,registered_of_manifest declared,targetTimeOf,found,read]
      | some input =>
        obtain ⟨spelled,untenanted,_⟩ := newRecordOf_untenanted read
        have taken : isHeld masterType code s = true := refusal.resolve_left (by simp [read])
        simp [importRow,named,getRecord,registered_of_manifest declared,targetTimeOf,found,read,lifted,createRecord,
          untenanted,spelled,isTaken_eq_isHeld,taken]

theorem import_unmoved_iff (declared : env.manifest (normalised masterType) = some entry)
    (layered : Layered masterType s) {format : String} {content : Document}
    (fresh : (MasterOp.importing reading importedBy calls format content).Fresh masterType s) :
    Unmoved masterType tenant s (importData env reading importedBy calls masterType format content s).1 ↔
      Harmless env entry masterType s (.importing reading importedBy calls format content) := by
  obtain ⟨unspent,distinct,clock⟩ := fresh
  have idle : Unmoved masterType tenant s s := unmoved_of_shown layered (fun _ _ => Iff.rfl)
  simp only [Harmless]
  by_cases valid : ∃ held rows, readRows format content = .ok (.ok held) ∧ held.allSome = some rows ∧
      ∀ row ∈ rows, errorsOf reading row = []
  · obtain ⟨held,rows,read,all,valid⟩ := valid
    rw [(validated importedBy calls s declared read all valid).2]
    have only : (∀ held rows, readRows format content = .ok (.ok held) → held.allSome = some rows →
        (∀ row ∈ rows, errorsOf reading row = []) → FirstRefused reading importedBy masterType (calls 0).now s rows) ↔
          FirstRefused reading importedBy masterType (calls 0).now s rows := by
      refine ⟨fun each => each held rows read all valid,?_⟩
      intro refused held' rows' read' all' _
      rw [read] at read'
      cases read'
      rw [all] at all'
      cases all'
      exact refused
    rw [only]
    cases approval : entry.requiresApproval with
    | true =>
      simp only [true_or,iff_true]
      refine unmoved_of_shown layered ?_
      obtain ⟨_,_,_,same⟩ := importRows_keeps (fun i now => Unspent masterType calls i now ∧
        ∀ t r, Shown masterType t now r ↔ Shown masterType t s r) rows 0 s
        (fun j _ row now before => by
          have stored : RowStored entry (calls j) masterType now
            (importRow env reading importedBy (calls j) masterType row now).1 := importRow_stored declared
          exact ⟨stored.unspent distinct before.1,
            fun t r => (stored.drafts approval (before.1 j le_rfl) t r).trans (before.2 t r)⟩)
        ⟨fun j _ => unspent j,fun _ _ => Iff.rfl⟩
      exact same
    | false =>
      simp only [Bool.false_eq_true,false_or]
      constructor
      · intro unmoved
        by_contra effective
        cases rows with
        | nil => exact effective trivial
        | cons row rest =>
          exact import_moves declared approval layered (fun j _ => unspent j) distinct clock row rest effective unmoved
      · intro refused
        rw [importRows_refused declared rows refused]
        exact idle
  · have invalid : ∀ entry held rows, env.manifest (normalised masterType) = some entry →
        readRows format content = .ok (.ok held) → held.allSome = some rows → ∃ row ∈ rows, errorsOf reading row ≠ [] := by
      intro other held rows _ read all
      by_contra clean
      push Not at clean
      exact valid ⟨held,rows,read,all,clean⟩
    obtain ⟨_,e,failed⟩ := unvalidated importedBy calls s invalid
    rw [failed]
    refine iff_of_true idle (Or.inr ?_)
    intro held rows read all clean
    exact absurd ⟨held,rows,read,all,clean⟩ valid

end Imports

/-- For every store and every operation for a tenant: resolution isolates the tenants
and the operation leaves the others alone if and only if every code in force has a
global record before all others and the operation is harmless. -/
theorem tenants_isolated_iff (env : Environment) (entry : MasterRegistryEntry) (masterType : String)
    (declared : env.manifest (normalised masterType) = some entry) (s : MasterDataStore) (tenant : String)
    (named : tenant ≠ "") (op : MasterOp) (mine : op.For tenant) (fresh : op.Fresh masterType s) :
    Isolated env masterType s ∧ OthersUnaffected env masterType tenant s (masterStep env masterType s op) ↔
      Layered masterType s ∧ Harmless env entry masterType s op := by
  rw [isolated_iff_layered declared,othersUnaffected_iff declared]
  refine and_congr_right (fun layered => ?_)
  have idle : Unmoved masterType tenant s s := unmoved_of_shown layered (fun _ _ => Iff.rfl)
  cases op with
  | create call input => exact create_unmoved_iff declared layered mine fresh
  | update call code change => exact update_unmoved_iff declared layered named mine fresh
  | publish call code => exact iff_of_true idle trivial
  | deactivate call code =>
    have same : (deactivateRecord env call masterType code s).1 = s := by
      unfold deactivateRecord
      split
      · rfl
      · rfl
      · simp only
        split <;> rfl
    simp only [masterStep,same]
    exact iff_of_true idle trivial
  | delete call code => exact delete_unmoved_iff declared layered
  | importing reading importedBy calls format content => exact import_unmoved_iff declared layered fresh

def bandMasters : Environment where
  manifest := fun masterType => if masterType = "THRESHOLD_BAND" then some ⟨"THRESHOLD_BAND",false⟩ else none
  references := fun _ _ => []

def band (code : String) (tenantId : Option String) : NewRecord where
  code := code
  displayName := code
  description := none
  sortOrder := 0
  parentCode := none
  attributes := []
  tenantId := tenantId
  createdBy := "editor"
  isSystem := false
  forcePublish := false

def globalBand : MasterDataRecord := createdRecord (callAt 0 "a") "THRESHOLD_BAND" false (band "WARN" none)

def bandStore : MasterDataStore := ⟨[globalBand],List.nodup_singleton _⟩

def localBand : MasterOp := .create (callAt 10 "b") (band "LOCAL" (some "t1"))

def bandOverride : MasterOp :=
  .update (callAt 10 "b") "WARN" ⟨"Warning",none,none,none,none,"editor",none,some "t1",false⟩

theorem band_declared : bandMasters.manifest (normalised "THRESHOLD_BAND") = some ⟨"THRESHOLD_BAND",false⟩ := by
  decide +kernel

def bandOf (tenant : String) : NewRecord := { band "WARN" (some tenant) with sortOrder := 1 }

def otherBand : MasterDataRecord := createdRecord (callAt 5 "d") "THRESHOLD_BAND" false (bandOf "t2")

/-- The global record and the one of t2 over it. -/
def layeredBands : MasterDataStore := ⟨[globalBand, otherBand],by decide +kernel⟩

def ownBand : MasterOp := .create (callAt 10 "b") (bandOf "t1")

theorem shown_layeredBands {t : Instant} {r : MasterDataRecord} :
    Shown "THRESHOLD_BAND" t layeredBands r ↔ r = globalBand ∧ 0 ≤ t ∨ r = otherBand ∧ 5 ≤ t := by
  have upper : normalised "THRESHOLD_BAND" = "THRESHOLD_BAND" := by decide +kernel
  have visible : isVisible t false globalBand = decide ((0 : ℤ) ≤ t) ∧ isVisible t false otherBand = decide ((5 : ℤ) ≤ t) := by
    constructor <;>
      simp [isVisible,isRecordEffective,Validity.Covers,MasterDataRecord.validity,globalBand,otherBand,bandOf,createdRecord,band,callAt]
  unfold Shown layeredBands
  rw [upper]
  simp only [List.mem_cons,List.not_mem_nil,or_false]
  constructor
  · rintro ⟨rfl | rfl,-,seen⟩
    · exact Or.inl ⟨rfl,of_decide_eq_true (visible.1.symm.trans seen)⟩
    · exact Or.inr ⟨rfl,of_decide_eq_true (visible.2.symm.trans seen)⟩
  · rintro (⟨rfl,begun⟩ | ⟨rfl,begun⟩)
    · exact ⟨Or.inl rfl,rfl,visible.1.trans (decide_eq_true begun)⟩
    · exact ⟨Or.inr rfl,rfl,visible.2.trans (decide_eq_true begun)⟩

theorem layeredBands_layered : Layered "THRESHOLD_BAND" layeredBands := by
  have codes : globalBand.code = "WARN" ∧ otherBand.code = "WARN" := by decide +kernel
  constructor
  · intro t a shown
    rcases shown_layeredBands.mp shown with ⟨rfl,_⟩ | ⟨rfl,_⟩ <;> decide +kernel
  · intro t a b shown other _
    rcases shown_layeredBands.mp shown with ⟨rfl,_⟩ | ⟨rfl,_⟩ <;> rcases shown_layeredBands.mp other with ⟨rfl,_⟩ | ⟨rfl,_⟩ <;>
      simp only [codes]
  · intro t a shown
    refine ⟨globalBand,?_,?_,rfl,?_⟩
    · refine shown_layeredBands.mpr (Or.inl ⟨rfl,?_⟩)
      rcases shown_layeredBands.mp shown with ⟨_,begun⟩ | ⟨_,begun⟩
      · exact begun
      · exact le_trans (by norm_num) begun
    · rcases shown_layeredBands.mp shown with ⟨rfl,_⟩ | ⟨rfl,_⟩ <;> simp only [codes]
    · intro b other _ apart
      rcases shown_layeredBands.mp other with ⟨rfl,_⟩ | ⟨rfl,_⟩
      · exact absurd rfl apart
      · decide
  · intro t a b tenant shown other _ _ mine also
    rcases shown_layeredBands.mp shown with ⟨rfl,_⟩ | ⟨rfl,_⟩
    · cases mine
    · rcases shown_layeredBands.mp other with ⟨rfl,_⟩ | ⟨rfl,_⟩
      · cases also
      · rfl

/-- A second tenant gets its own record over the global one. -/
theorem tenants_isolated_over_band :
    Isolated bandMasters "THRESHOLD_BAND" layeredBands ∧ OthersUnaffected bandMasters "THRESHOLD_BAND" "t1" layeredBands
      (masterStep bandMasters "THRESHOLD_BAND" layeredBands ownBand) := by
  refine (tenants_isolated_iff bandMasters ⟨"THRESHOLD_BAND",false⟩ "THRESHOLD_BAND" band_declared layeredBands "t1" (by decide)
    ownBand rfl (by unfold ownBand MasterOp.Fresh; decide +kernel)).mpr ⟨layeredBands_layered,Or.inr (Or.inr ?_)⟩
  intro t begun
  have each : ∀ r ∈ layeredBands.rows, isVersion "THRESHOLD_BAND" "WARN" r = true := by decide +kernel
  have versions : versionsOf "THRESHOLD_BAND" "WARN" layeredBands = [globalBand, otherBand] := List.filter_eq_self.mpr each
  have shown := shown_layeredBands.mpr (Or.inl ⟨rfl,le_trans (show (0 : ℤ) ≤ 10 by norm_num) begun⟩)
  rw [show (bandOf "t1").code = "WARN" from rfl,isInForce,versions,List.any_cons,shown.2.2,Bool.true_or]

def ownerResolved (masterType code tenant : String) (s : MasterDataStore) : Option (Option String) :=
  (resolve .stable masterType code 20 (some tenant) false s).map MasterDataRecord.tenantId

/-- A record of one tenant alone is shown to every other; a tenant's update of the
global record closes it for all. -/
theorem tenant_records_leak :
    ¬ Isolated bandMasters "THRESHOLD_BAND" (masterStep bandMasters "THRESHOLD_BAND" bandStore localBand) ∧
      ¬ OthersUnaffected bandMasters "THRESHOLD_BAND" "t1" bandStore
        (masterStep bandMasters "THRESHOLD_BAND" bandStore bandOverride) := by
  have leaked : ownerResolved (normalised "THRESHOLD_BAND") "LOCAL" "t2"
      (masterStep bandMasters "THRESHOLD_BAND" bandStore localBand) = some (some "t1") := by
    decide +kernel
  have before : ownerResolved (normalised "THRESHOLD_BAND") "WARN" "t2" bandStore = some none := by
    decide +kernel
  have after : ownerResolved (normalised "THRESHOLD_BAND") "WARN" "t2"
      (masterStep bandMasters "THRESHOLD_BAND" bandStore bandOverride) = some (some "t1") := by
    decide +kernel
  refine ⟨?_,?_⟩
  · intro isolated
    obtain ⟨r,found,owner⟩ := Option.map_eq_some_iff.mp leaked
    have shown := isolated.got (callAt 20 "c") "LOCAL" none "t2" r (by decide)
      (by simp only [getRecord,registered_of_manifest band_declared,targetTimeOf]; exact congrArg Except.ok found)
    rw [owner] at shown
    exact absurd shown (by decide)
  · intro unaffected
    have unmoved := (othersUnaffected_iff band_declared).mp unaffected
    have same := unmoved "t2" (by decide) (by decide) .stable .stable "WARN" 20
    unfold ownerResolved at before after
    rw [same,before] at after
    cases after

end CloudLens.MasterData
