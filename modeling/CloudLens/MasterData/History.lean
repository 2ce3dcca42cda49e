import CloudLens.Library.Runs
import CloudLens.MasterData.Approval

/-! The history of one code. An update closes the version that is in force now and
appends one that starts at the time of the transition, which may lie before, after
or inside the other versions. -/
namespace CloudLens.MasterData
open Library Library.Runs
open Library.Calendar (Instant)

inductive HistoryOp where
  | create (call : Call) (input : NewRecord)
  | update (call : Call) (code : String) (change : RecordChange)

def HistoryOp.call : HistoryOp → Call
  | .create call _ | .update call _ _ => call

def historyStep (env : Environment) (masterType : String) (s : MasterDataStore) : HistoryOp → MasterDataStore
  | .create call input => (createRecord env call masterType input s).1
  | .update call code change => (updateRecord env call masterType code change s).1

def Addressed (masterType code : String) (tenantId : Option String) (s : MasterDataStore) (op : HistoryOp) : Prop :=
  (match op with
    | .create _ input => normalised input.code = normalised code ∧ input.tenantId = tenantId
    | .update _ other change => normalised other = normalised code ∧ change.tenantId = tenantId) ∧
    recordIdOf op.call (normalised masterType) ∉ s.rows.map MasterDataRecord.id

/-- The versions are numbered from one without gaps, their periods are apart, and
at every instant there is at most one candidate. -/
structure HistoryIsFunction (masterType code : String) (s : MasterDataStore) : Prop where
  numbered : ((versionsOf masterType code s).map MasterDataRecord.version).Perm
    (List.range' 1 (versionsOf masterType code s).length)
  apart : (versionsOf masterType code s).Pairwise (fun a b => a.validity.Apart b.validity)
  single : ∀ listing other t, normalised other = normalised code →
    (candidates listing (normalised masterType) other t false s).length ≤ 1

def SameAnswer (env : Environment) (masterType code : String) (tenantId : Option String) (first second : DateTime)
    (s : MasterDataStore) : Prop :=
  first.instant = second.instant → ∀ call other, normalised other = normalised code →
    getRecord env call masterType other (some first) tenantId false s =
      getRecord env call masterType other (some second) tenantId false s

/-- The version in force now is the newest, and every other one that is not empty
has ended by the transition. -/
def WellPlaced (masterType code : String) (s : MasterDataStore) : HistoryOp → Prop
  | .create _ _ => True
  | .update call other change =>
    ∀ current, resolve call.listing (normalised masterType) other call.now change.tenantId false s = some current →
      (∀ r ∈ versionsOf masterType code s, r.version ≤ current.version) ∧
        ∀ r ∈ versionsOf masterType code s, r.id ≠ current.id →
          r.validity.Vacuous ∨ r.validity.EndedBy (transitionTime call change)

def SameVersion (masterType code : String) (first second : DateTime) (s : MasterDataStore) : Prop :=
  first.instant = second.instant → ∀ r ∈ versionsOf masterType code s,
    r.validity.Covers first.reading ↔ r.validity.Covers second.reading

structure Governed (masterType code : String) (tenantId : Option String) (s : MasterDataStore) : Prop where
  published : ∀ r ∈ versionsOf masterType code s, r.lifecycleStatus = .published
  tenant : ∀ r ∈ versionsOf masterType code s, r.tenantId = tenantId
  active : versionsOf masterType code s ≠ [] → ∃ r ∈ versionsOf masterType code s, r.isActive = true
  newestOpen : ∀ r ∈ versionsOf masterType code s, (∀ o ∈ versionsOf masterType code s, o.version ≤ r.version) →
    r.effectiveTo = none

section Steps

variable {env : Environment} {masterType code : String} {tenantId : Option String} {entry : MasterRegistryEntry}
  {s : MasterDataStore}

structure Appended (tenantId : Option String) (v : MasterDataRecord) : Prop where
  published : v.lifecycleStatus = .published
  tenant : v.tenantId = tenantId
  active : v.isActive = true
  endless : v.effectiveTo = none

theorem create_versions (declared : env.manifest (normalised masterType) = some entry)
    (direct : entry.requiresApproval = false) (governed : Governed masterType code tenantId s) {call : Call}
    {input : NewRecord} (addressed : Addressed masterType code tenantId s (.create call input)) :
    versionsOf masterType code (historyStep env masterType s (.create call input)) = versionsOf masterType code s ∨
      versionsOf masterType code s = [] ∧ ∃ v, v.version = 1 ∧ Appended tenantId v ∧
        versionsOf masterType code (historyStep env masterType s (.create call input)) = [v] := by
  obtain ⟨⟨spelled,owner⟩,fresh⟩ := addressed
  simp only [historyStep,createRecord,registered_of_manifest declared]
  split
  · exact Or.inl rfl
  · rename_i absent
    have none : versionsOf masterType code s = [] := by
      by_contra some
      obtain ⟨r,member,active⟩ := governed.active some
      obtain ⟨held,kind,same⟩ := mem_versionsOf.mp member
      refine absent (List.any_eq_true.mpr ⟨r,?_,?_⟩)
      · exact ((call.listing.permuted _).mem_iff).mpr (List.mem_filter.mpr ⟨held,by simpa using kind⟩)
      · simp [same,spelled,governed.tenant r member,owner,active]
    let record := createdRecord call (normalised masterType) entry.requiresApproval input
    have published : record.lifecycleStatus = .published := by
      simp [record,createdRecord,direct]
    have version : isVersion masterType code record = true := by
      simp [isVersion,record,createdRecord,upper_stripped,spelled]
    refine Or.inr ⟨none,record,rfl,⟨published,owner,rfl,rfl⟩,?_⟩
    rw [versionsOf_saveRecord fresh version,none]
    rfl

theorem update_versions (declared : env.manifest (normalised masterType) = some entry)
    (direct : entry.requiresApproval = false) (governed : Governed masterType code tenantId s) {call : Call}
    {other : String} {change : RecordChange}
    (addressed : Addressed masterType code tenantId s (.update call other change)) {current : MasterDataRecord}
    (found : resolve call.listing (normalised masterType) other call.now change.tenantId false s = some current) :
    ∃ v, v.version = current.version + 1 ∧ v.effectiveFrom = transitionTime call change ∧ Appended tenantId v ∧
      versionsOf masterType code (historyStep env masterType s (.update call other change)) =
        (versionsOf masterType code s).map (superseded (transitionTime call change) current) ++ [v] := by
  obtain ⟨⟨spelled,owner⟩,fresh⟩ := addressed
  have member := mem_of_resolve spelled found
  obtain ⟨held,kind,same⟩ := mem_versionsOf.mp member
  let v := nextVersion call (normalised masterType) false change current
  have tenant : v.tenantId = tenantId := by
    simp only [v,nextVersion,governed.tenant current member,owner]
    cases tenantId with
    | none => rfl
    | some name =>
      unfold given
      cases named : (some name).filter (fun tenant => tenant ≠ "") with
      | none => rfl
      | some kept => rw [Option.filter_eq_some_iff] at named; exact named.1.symm ▸ rfl
  have unused : v.id ∉ (s.saveRecord (closed (transitionTime call change) current)).rows.map MasterDataRecord.id := by
    rw [rows_saveRecord_closed _ held,ids_superseded]
    exact fresh
  refine ⟨v,rfl,rfl,⟨rfl,tenant,rfl,rfl⟩,?_⟩
  simp only [historyStep,updateRecord,registered_of_manifest declared,found,direct,Bool.false_and,Bool.false_eq_true,
    if_false]
  have version : isVersion masterType code v = true := by
    simp [isVersion,v,nextVersion,same]
  rw [versionsOf_saveRecord unused version]
  congr 1
  rw [versionsOf,rows_saveRecord_closed _ held,filter_superseded _ held]

theorem update_nothing {call : Call} {other : String} {change : RecordChange}
    (missing : resolve call.listing (normalised masterType) other call.now change.tenantId false s = none) :
    historyStep env masterType s (.update call other change) = s := by
  simp only [historyStep,updateRecord]
  split
  · rfl
  · simp only [missing]

end Steps

section Numbers

variable {numbers : List ℕ} {n : ℕ}

theorem numbered_append_iff (numbered : numbers.Perm (List.range' 1 numbers.length)) :
    (numbers ++ [n]).Perm (List.range' 1 (numbers ++ [n]).length) ↔ n = numbers.length + 1 := by
  have extended : List.range' 1 (numbers ++ [n]).length = List.range' 1 numbers.length ++ [numbers.length + 1] := by
    rw [List.length_append,List.length_singleton,List.range'_1_concat,Nat.add_comm]
  rw [extended]
  constructor
  · intro permuted
    have moved := (numbered.append_right [n]).symm.trans permuted
    have last := (List.perm_append_left_iff _).mp moved
    exact List.singleton_perm_singleton.mp last
  · rintro rfl
    exact numbered.append_right _

theorem newest_iff (numbered : numbers.Perm (List.range' 1 numbers.length)) (member : n ∈ numbers) :
    (∀ m ∈ numbers, m ≤ n) ↔ n = numbers.length := by
  have bounds : ∀ m, m ∈ numbers ↔ 1 ≤ m ∧ m < 1 + numbers.length := by
    intro m
    rw [numbered.mem_iff,List.mem_range'_1]
  constructor
  · intro newest
    have within := (bounds n).mp member
    have last := newest numbers.length ((bounds _).mpr (by omega))
    omega
  · rintro rfl m held
    have within := (bounds m).mp held
    omega

end Numbers

section Periods

variable {masterType code : String} {tenantId : Option String} {s : MasterDataStore} {current v : MasterDataRecord}
  {transition : Instant}

theorem length_le_one_of_apart {found : List MasterDataRecord} {t : Instant}
    (apart : found.Pairwise (fun a b => a.validity.Apart b.validity)) (covered : ∀ r ∈ found, r.validity.Covers t) :
    found.length ≤ 1 := by
  match found, apart, covered with
  | [], _, _ => simp
  | [_], _, _ => simp
  | first :: second :: rest, apart, covered =>
    have separate := (List.pairwise_cons.mp apart).1 second (by simp)
    exact absurd ⟨covered first (by simp),covered second (by simp)⟩ (separate t)

theorem historyIsFunction_iff : HistoryIsFunction masterType code s ↔
    ((versionsOf masterType code s).map MasterDataRecord.version).Perm
        (List.range' 1 (versionsOf masterType code s).length) ∧
      (versionsOf masterType code s).Pairwise (fun a b => a.validity.Apart b.validity) := by
  constructor
  · intro function
    exact ⟨function.numbered,function.apart⟩
  · rintro ⟨numbered,apart⟩
    refine ⟨numbered,apart,?_⟩
    intro listing other t spelled
    rw [(candidates_perm spelled).length_eq]
    refine length_le_one_of_apart (t := t) (apart.filter _) ?_
    intro r member
    have visible := (List.mem_filter.mp member).2
    simp only [isVisible,isRecordEffective,Bool.and_eq_true,decide_eq_true_eq] at visible
    exact visible.1

theorem superseded_covers (held : current ∈ s.rows) (endless : current.effectiveTo = none) {r : MasterDataRecord}
    (member : r ∈ s.rows) {t : Instant} (covered : (superseded transition current r).validity.Covers t) :
    r.validity.Covers t := by
  unfold superseded at covered
  split at covered
  · rename_i same
    obtain rfl : r = current := List.inj_on_of_nodup_map s.keyed member held same
    exact Validity.closeAt_covers_of_open endless covered
  · exact covered

/-- Where the closed version is the newest, the others are kept apart from the new
one exactly when each of them is empty or has ended. -/
theorem apart_append_iff (held : current ∈ versionsOf masterType code s) (endless : current.effectiveTo = none)
    (start : v.validity = Validity.onward transition)
    (apart : (versionsOf masterType code s).Pairwise (fun a b => a.validity.Apart b.validity)) :
    ((versionsOf masterType code s).map (superseded transition current) ++ [v]).Pairwise
        (fun a b => a.validity.Apart b.validity) ↔
      ∀ r ∈ versionsOf masterType code s, r.id ≠ current.id →
        r.validity.Vacuous ∨ r.validity.EndedBy transition := by
  have stored : ∀ {r}, r ∈ versionsOf masterType code s → r ∈ s.rows := fun member => (mem_versionsOf.mp member).1
  rw [List.pairwise_append]
  constructor
  · rintro ⟨_,_,beside⟩ r member other
    have separate := beside (superseded transition current r) (List.mem_map_of_mem member) v (by simp)
    rw [superseded,if_neg other,start] at separate
    exact Validity.apart_onward_iff.mp separate
  · intro ended
    refine ⟨?_,List.pairwise_singleton _ _,?_⟩
    · rw [List.pairwise_map]
      refine apart.imp_of_mem ?_
      intro a b first second separate t both
      exact separate t ⟨superseded_covers (stored held) endless (stored first) both.1,
        superseded_covers (stored held) endless (stored second) both.2⟩
    · intro r' mapped last single
      obtain ⟨r,member,rfl⟩ := List.mem_map.mp mapped
      rw [List.mem_singleton.mp single,start]
      by_cases same : r.id = current.id
      · have shut : (current.validity.closeAt transition).Apart (Validity.onward transition) :=
          Validity.closeAt_apart_onward
        rw [superseded,if_pos same]
        exact shut
      · rw [superseded,if_neg same]
        exact Validity.apart_onward_iff.mpr (ended r member same)

end Periods

section Runs

variable {env : Environment} {masterType code : String} {tenantId : Option String} {entry : MasterRegistryEntry}

theorem versions_superseded (transition : Instant) {s : MasterDataStore} {current : MasterDataRecord}
    (held : current ∈ s.rows) :
    ((versionsOf masterType code s).map (superseded transition current)).map MasterDataRecord.version =
      (versionsOf masterType code s).map MasterDataRecord.version := by
  rw [List.map_map]
  exact List.map_congr_left (fun r member =>
    superseded_column MasterDataRecord.version transition rfl held (mem_versionsOf.mp member).1)

theorem step_governed (declared : env.manifest (normalised masterType) = some entry)
    (direct : entry.requiresApproval = false) (s : MasterDataStore) (op : HistoryOp)
    (governed : Governed masterType code tenantId s) (addressed : Addressed masterType code tenantId s op) :
    Governed masterType code tenantId (historyStep env masterType s op) := by
  cases op with
  | create call input =>
    rcases create_versions declared direct governed addressed with same | ⟨_,v,_,appended,after⟩
    · refine ⟨?_,?_,?_,?_⟩ <;> rw [same]
      · exact governed.published
      · exact governed.tenant
      · exact governed.active
      · exact governed.newestOpen
    · refine ⟨?_,?_,?_,?_⟩ <;> rw [after]
      · simpa using appended.published
      · simpa using appended.tenant
      · simpa using appended.active
      · simpa using appended.endless
  | update call other change =>
    cases found : resolve call.listing (normalised masterType) other call.now change.tenantId false s with
    | none =>
      rw [update_nothing found]
      exact governed
    | some current =>
      obtain ⟨v,number,_,appended,after⟩ := update_versions declared direct governed addressed found
      have member := mem_of_resolve addressed.1.1 found
      have held := (mem_versionsOf.mp member).1
      refine ⟨?_,?_,?_,?_⟩ <;> rw [after]
      · intro r member
        rcases List.mem_append.mp member with mapped | single
        · obtain ⟨old,inside,rfl⟩ := List.mem_map.mp mapped
          rw [superseded_column MasterDataRecord.lifecycleStatus _ rfl held (mem_versionsOf.mp inside).1]
          exact governed.published old inside
        · rw [List.mem_singleton.mp single]
          exact appended.published
      · intro r member
        rcases List.mem_append.mp member with mapped | single
        · obtain ⟨old,inside,rfl⟩ := List.mem_map.mp mapped
          rw [superseded_column MasterDataRecord.tenantId _ rfl held (mem_versionsOf.mp inside).1]
          exact governed.tenant old inside
        · rw [List.mem_singleton.mp single]
          exact appended.tenant
      · intro _
        exact ⟨v,by simp,appended.active⟩
      · intro r member newest
        rcases List.mem_append.mp member with mapped | single
        · obtain ⟨old,inside,rfl⟩ := List.mem_map.mp mapped
          have number_kept : ∀ o ∈ versionsOf masterType code s,
              (superseded (transitionTime call change) current o).version = o.version := fun o within =>
            superseded_column MasterDataRecord.version _ rfl held (mem_versionsOf.mp within).1
          rw [number_kept old inside] at newest
          have above : current.version + 1 ≤ old.version := number ▸ newest v (by simp)
          have other : old.id ≠ current.id := by
            intro same
            rw [List.inj_on_of_nodup_map s.keyed (mem_versionsOf.mp inside).1 held same] at above
            omega
          rw [superseded,if_neg other]
          refine governed.newestOpen old inside ?_
          intro o within
          have bound := newest _ (List.mem_append_left _ (List.mem_map_of_mem within))
          rwa [number_kept o within] at bound
        · rw [List.mem_singleton.mp single]
          exact appended.endless

theorem step_function_iff (declared : env.manifest (normalised masterType) = some entry)
    (direct : entry.requiresApproval = false) (s : MasterDataStore) (op : HistoryOp)
    (governed : Governed masterType code tenantId s) (function : HistoryIsFunction masterType code s)
    (addressed : Addressed masterType code tenantId s op) :
    HistoryIsFunction masterType code (historyStep env masterType s op) ↔ WellPlaced masterType code s op := by
  obtain ⟨numbered,apart⟩ := historyIsFunction_iff.mp function
  cases op with
  | create call input =>
    refine ⟨fun _ => trivial,fun _ => historyIsFunction_iff.mpr ?_⟩
    rcases create_versions declared direct governed addressed with same | ⟨_,v,number,_,after⟩
    · rw [same]
      exact ⟨numbered,apart⟩
    · rw [after]
      simp [number]
  | update call other change =>
    cases found : resolve call.listing (normalised masterType) other call.now change.tenantId false s with
    | none =>
      rw [update_nothing found]
      refine ⟨?_,fun _ => function⟩
      intro _ current some
      rw [found] at some
      cases some
    | some current =>
      obtain ⟨v,number,start,appended,after⟩ := update_versions declared direct governed addressed found
      have member := mem_of_resolve addressed.1.1 found
      have held := (mem_versionsOf.mp member).1
      have period : v.validity = Validity.onward (transitionTime call change) := by
        simp [MasterDataRecord.validity,Validity.onward,start,appended.endless]
      have length : ((versionsOf masterType code s).map MasterDataRecord.version).length =
          (versionsOf masterType code s).length := List.length_map _
      have newest : (∀ r ∈ versionsOf masterType code s, r.version ≤ current.version) ↔
          current.version = (versionsOf masterType code s).length := by
        have listed := newest_iff (length.symm ▸ numbered) (List.mem_map_of_mem member)
        rw [length] at listed
        exact List.forall_mem_map.symm.trans listed
      have numbered' : ((versionsOf masterType code s).map MasterDataRecord.version ++ [v.version]).Perm
          (List.range' 1 ((versionsOf masterType code s).map MasterDataRecord.version ++ [v.version]).length) ↔
            ∀ r ∈ versionsOf masterType code s, r.version ≤ current.version := by
        rw [numbered_append_iff (length.symm ▸ numbered),newest,length,number]
        omega
      have size : ((versionsOf masterType code s).map (superseded (transitionTime call change) current) ++ [v]).length =
          ((versionsOf masterType code s).map MasterDataRecord.version ++ [v.version]).length := by
        simp
      rw [historyIsFunction_iff,after,List.map_append,versions_superseded _ held,List.map_singleton,size,numbered']
      constructor
      · rintro ⟨last,separate⟩ picked some
        obtain rfl : current = picked := Option.some.inj (found.symm.trans some)
        have endless := governed.newestOpen current member last
        exact ⟨last,(apart_append_iff member endless period apart).mp separate⟩
      · intro well
        obtain ⟨last,ended⟩ := well current found
        have endless := governed.newestOpen current member last
        exact ⟨last,(apart_append_iff member endless period apart).mpr ended⟩

theorem resolve_eq_some_iff {s : MasterDataStore} (governed : Governed masterType code tenantId s)
    (function : HistoryIsFunction masterType code s) {listing : Arrangement} {other : String} {t : Instant}
    (spelled : normalised other = normalised code) {wanted : Option String} {r : MasterDataRecord} :
    resolve listing (normalised masterType) other t wanted false s = some r ↔
      r ∈ versionsOf masterType code s ∧ r.validity.Covers t := by
  have members : ∀ {o}, o ∈ candidates listing (normalised masterType) other t false s ↔
      o ∈ versionsOf masterType code s ∧ o.validity.Covers t := by
    intro o
    rw [(candidates_perm spelled).mem_iff,List.mem_filter]
    refine and_congr_right ?_
    intro inside
    simp [isVisible,isRecordEffective,governed.published o inside]
  constructor
  · intro found
    exact members.mp (preferred_mem found)
  · intro inside
    have short := function.single listing other t spelled
    have present := members.mpr inside
    obtain ⟨only,single⟩ := List.length_eq_one_iff.mp (le_antisymm short (List.length_pos_of_mem present))
    rw [single,List.mem_singleton] at present
    rw [resolve,single,preferred_singleton,present]

theorem sameAnswer_iff (declared : env.manifest (normalised masterType) = some entry) {s : MasterDataStore}
    (governed : Governed masterType code tenantId s) (function : HistoryIsFunction masterType code s)
    (first second : DateTime) :
    SameAnswer env masterType code tenantId first second s ↔ SameVersion masterType code first second s := by
  have answers : ∀ call other d, getRecord env call masterType other (some d) tenantId false s =
      .ok (resolve call.listing (normalised masterType) other d.reading tenantId false s) := by
    intro call other d
    simp [getRecord,registered_of_manifest declared,targetTimeOf]
  unfold SameAnswer SameVersion
  refine imp_congr_right ?_
  intro _
  constructor
  · intro alike r member
    have equal := alike ⟨0,"",.stable⟩ code rfl
    rw [answers,answers] at equal
    have same := Except.ok.inj equal
    have reads : ∀ t, resolve .stable (normalised masterType) code t tenantId false s = some r ↔ r.validity.Covers t :=
      fun t => (resolve_eq_some_iff governed function rfl).trans (and_iff_right member)
    rw [← reads first.reading,← reads second.reading,same]
  · intro together call other spelled
    rw [answers,answers]
    congr 1
    refine Option.ext ?_
    intro r
    rw [resolve_eq_some_iff governed function spelled,resolve_eq_some_iff governed function spelled]
    exact and_congr_right (fun member => together r member)

theorem unused_governed {s : MasterDataStore} (unused : versionsOf masterType code s = []) :
    Governed masterType code tenantId s ∧ HistoryIsFunction masterType code s := by
  refine ⟨⟨?_,?_,?_,?_⟩,historyIsFunction_iff.mpr ?_⟩ <;> simp [unused]

end Runs

def holidayMasters : Environment where
  manifest := fun masterType => if masterType = "HOLIDAY_CALENDAR" then some ⟨"HOLIDAY_CALENDAR",false⟩ else none
  references := fun _ _ => []

def holidayCreated (now : Instant) (token : String) : HistoryOp :=
  .create (callAt now token)
    ⟨"HC_US","United States holidays",none,0,none,[],none,"editor",false,false⟩

def holidayUpdated (now : Instant) (token : String) (effectiveAt : Option DateTime) : HistoryOp :=
  .update (callAt now token) "HC_US" ⟨"Holidays",none,none,none,none,"editor",effectiveAt,none,false⟩

def holidayRun (ops : List HistoryOp) : MasterDataStore :=
  run (historyStep holidayMasters "HOLIDAY_CALENDAR") .blank ops

def holidayVersions (s : MasterDataStore) : List ℕ :=
  (versionsOf "HOLIDAY_CALENDAR" "HC_US" s).map MasterDataRecord.version

def futureThenNow : List HistoryOp :=
  [holidayCreated 0 "a", holidayUpdated 10 "b" (some ⟨100,none⟩), holidayUpdated 20 "c" none]

def backDated : List HistoryOp :=
  [holidayCreated 0 "a", holidayUpdated 10 "b" none, holidayUpdated 20 "c" (some ⟨5,none⟩)]

def inOrder : List HistoryOp := [holidayCreated 0 "a", holidayUpdated 10 "b" none]

/-- The last update takes effect later, at an instant expressed with an offset. -/
def inSequence : List HistoryOp := [holidayCreated 0 "a", holidayUpdated 10 "b" none, holidayUpdated 20 "c" (some ⟨30,some 5⟩)]

/-- `WellPlaced` for an update, as a check of the version that it replaces. -/
theorem wellPlaced_of_all {masterType code other : String} {s : MasterDataStore} {call : Call} {change : RecordChange}
    (checked : (resolve call.listing (normalised masterType) other call.now change.tenantId false s).all (fun current =>
      (versionsOf masterType code s).all (fun r => decide (r.version ≤ current.version) &&
        (decide (r.id = current.id) || r.validity.stop.any (fun stop => decide (stop ≤ transitionTime call change))))) = true) :
    WellPlaced masterType code s (.update call other change) := by
  intro current found
  have each := (Option.all_eq_true _ _).mp checked current found
  simp only [List.all_eq_true,Bool.and_eq_true,Bool.or_eq_true,decide_eq_true_eq,Option.any_eq_true] at each
  refine ⟨fun r member => (each r member).1,fun r member apart => Or.inr ?_⟩
  rcases (each r member).2 with same | ended
  · exact absurd same apart
  · exact ended

def answeredVersion (answer : Except MasterDataError (Option MasterDataRecord)) : Option ℕ :=
  match answer with
  | .ok (some r) => some r.version
  | .ok none | .error _ => none

end CloudLens.MasterData
