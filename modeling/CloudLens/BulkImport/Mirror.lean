import CloudLens.BulkImport.Execution
import CloudLens.MasterData.Versions
import Mathlib.Data.Int.ConditionallyCompleteOrder
import Mathlib.Order.WithBot

/-! What the reflection of applied rows does to the master data: the code under which
a row is reflected, and that each reflection under a code leaves its mark there. -/
namespace CloudLens.BulkImport
open Library
open MasterData (MasterDataStore MasterDataRecord normalised recordIdOf nextVersion closed)
open BulkImportEngine

def codeRows (masterType code : String) (master : MasterDataStore) : List MasterDataRecord :=
  master.rows.filter (fun r => r.masterType = masterType && r.code = code)

section Marks

def ending (r : MasterDataRecord) : WithTop Calendar.Instant :=
  match r.effectiveTo with
  | none => ⊤
  | some time => time

/-- The rows are still there, none of them ending later. -/
def Aged (rows later : List MasterDataRecord) : Prop :=
  rows.length ≤ later.length ∧ ∀ r ∈ rows, ∃ aged ∈ later, aged.id = r.id ∧ ending aged ≤ ending r

/-- There is a row more, or one ends earlier. -/
def Marked (rows later : List MasterDataRecord) : Prop :=
  rows.length < later.length ∨ ∃ r ∈ rows, ∃ marked ∈ later, marked.id = r.id ∧ ending marked < ending r

variable {rows later last : List MasterDataRecord}

theorem Aged.refl (rows : List MasterDataRecord) : Aged rows rows :=
  ⟨le_rfl,fun r member => ⟨r,member,rfl,le_rfl⟩⟩

theorem Aged.trans (first : Aged rows later) (second : Aged later last) : Aged rows last := by
  refine ⟨first.1.trans second.1,?_⟩
  intro r member
  obtain ⟨aged,within,same,ends⟩ := first.2 r member
  obtain ⟨final,inside,alike,stops⟩ := second.2 aged within
  exact ⟨final,inside,alike.trans same,stops.trans ends⟩

theorem Marked.trans_aged (first : Marked rows later) (second : Aged later last) : Marked rows last := by
  rcases first with more | ⟨r,member,marked,within,same,ends⟩
  · exact Or.inl (more.trans_le second.1)
  · obtain ⟨final,inside,alike,stops⟩ := second.2 marked within
    exact Or.inr ⟨r,member,final,inside,alike.trans same,stops.trans_lt ends⟩

theorem Marked.ne (marked : Marked rows later) (distinct : (rows.map MasterDataRecord.id).Nodup) : later ≠ rows := by
  rintro rfl
  rcases marked with more | ⟨r,member,other,within,same,ends⟩
  · exact lt_irrefl _ more
  · rw [List.inj_on_of_nodup_map distinct within member same] at ends
    exact lt_irrefl _ ends

theorem aged_append (rows more : List MasterDataRecord) : Aged rows (rows ++ more) :=
  ⟨by simp,fun r member => ⟨r,List.mem_append_left _ member,rfl,le_rfl⟩⟩

end Marks

section Saving

variable {masterType code : String} {master : MasterDataStore} {current record : MasterDataRecord} (time : Calendar.Instant)

theorem codeRows_nodup (masterType code : String) (master : MasterDataStore) :
    ((codeRows masterType code master).map MasterDataRecord.id).Nodup :=
  master.keyed.sublist (List.filter_sublist.map MasterDataRecord.id)

theorem codeRows_saveRecord (fresh : record.id ∉ master.rows.map MasterDataRecord.id) :
    codeRows masterType code (master.saveRecord record) = codeRows masterType code master ++
      (if record.masterType = masterType ∧ record.code = code then [record] else []) := by
  rw [codeRows,MasterData.rows_saveRecord_fresh fresh,List.filter_append,codeRows]
  congr 1
  split
  · rename_i here
    exact List.filter_cons_of_pos (by simpa using here)
  · rename_i other
    exact List.filter_cons_of_neg (by simpa using other)

theorem codeRows_ended (held : current ∈ master.rows) : codeRows masterType code (master.saveRecord (closed time current)) =
    (codeRows masterType code master).map (MasterData.superseded time current) := by
  have columns : ∀ r ∈ master.rows, ((fun r : MasterDataRecord => decide (r.masterType = masterType) && decide (r.code = code)) ∘
      MasterData.superseded time current) r = (decide (r.masterType = masterType) && decide (r.code = code)) := by
    intro r member
    exact MasterData.superseded_column (fun r => decide (r.masterType = masterType) && decide (r.code = code)) time rfl held member
  rw [codeRows,MasterData.rows_saveRecord_closed time held,List.filter_map,List.filter_congr columns,codeRows]

theorem codeRows_ended_other (held : current ∈ master.rows) (other : ¬(current.masterType = masterType ∧ current.code = code)) :
    codeRows masterType code (master.saveRecord (closed time current)) = codeRows masterType code master := by
  rw [codeRows_ended time held]
  conv_rhs => rw [← List.map_id (codeRows masterType code master)]
  refine List.map_congr_left ?_
  intro r member
  obtain ⟨within,selected⟩ := List.mem_filter.mp member
  unfold MasterData.superseded
  split
  · rename_i same
    rw [List.inj_on_of_nodup_map master.keyed within held same] at selected
    exact absurd (by simpa using selected) other
  · rfl

theorem ids_ended (held : current ∈ master.rows) :
    (master.saveRecord (closed time current)).rows.map MasterDataRecord.id = master.rows.map MasterDataRecord.id := by
  rw [MasterData.rows_saveRecord_closed time held,MasterData.ids_superseded]

theorem fresh_ended (held : current ∈ master.rows) (fresh : record.id ∉ master.rows.map MasterDataRecord.id) :
    record.id ∉ (master.saveRecord (closed time current)).rows.map MasterDataRecord.id := by
  rwa [ids_ended time held]

theorem aged_ended (held : current ∈ master.rows) (before : time < ending current) :
    Aged (codeRows masterType code master) (codeRows masterType code (master.saveRecord (closed time current))) := by
  rw [codeRows_ended time held]
  refine ⟨by simp,?_⟩
  intro r member
  refine ⟨_,List.mem_map_of_mem member,MasterData.superseded_id time current r,?_⟩
  unfold MasterData.superseded
  split
  · rename_i same
    rw [List.inj_on_of_nodup_map master.keyed (List.mem_of_mem_filter member) held same]
    exact before.le
  · exact le_rfl

theorem marked_ended (held : current ∈ master.rows) (before : time < ending current) :
    Marked (codeRows current.masterType current.code master)
      (codeRows current.masterType current.code (master.saveRecord (closed time current))) := by
  have listed : current ∈ codeRows current.masterType current.code master := List.mem_filter.mpr ⟨held,by simp⟩
  rw [codeRows_ended time held]
  refine Or.inr ⟨current,listed,_,List.mem_map_of_mem listed,MasterData.superseded_id time current current,?_⟩
  rw [MasterData.superseded,if_pos rfl]
  exact before

end Saving

namespace BulkImportEngine

variable (engine : BulkImportEngine)

def requiresApproval (entityType : String) : Bool :=
  match MasterData.registered engine.environment entityType with
  | .error _ => false
  | .ok entry => entry.requiresApproval

/-- The code under which a record is reflected: that of the master record found for its
key, or the key, if the record is taken over at all. -/
def reflectedCode (call : MasterData.Call) (entityType naturalKey : String) (data : Record) (master : MasterDataStore) : Option String :=
  match MasterData.getRecord engine.environment call entityType naturalKey none (some engine.tenantId) false master with
  | .error _ => none
  | .ok (some current) =>
    if (mirroredTexts naturalKey data).isSome || !engine.requiresApproval entityType then some current.code else none
  | .ok none =>
    if (mirroredTexts naturalKey data).isSome &&
        !MasterData.isTaken call.listing (normalised entityType) naturalKey (some engine.tenantId) master then
      some (Text.stripped naturalKey)
    else none

/-- The record that the application of a row saves. -/
def savedRecord (context : RunContext) (row : DryRunRowResult) (state : EngineState) : Option Record :=
  let existing := existingRecord state context.dryRun.entityType row.naturalKey
  match row.outcome with
  | .created => some (engine.createdRecord context row)
  | .updated => some (engine.updatedRecord context (existing.getD Dict.empty) row)
  | .deactivated => existing.map (fun record => record.assign "is_active" (.bool false))
  | .skipped => none
  | .rejected => none

def reflectedAt (context : RunContext) (call : MasterData.Call) (row : DryRunRowResult) (state : EngineState) : Option String :=
  (engine.savedRecord context row state).bind
    (fun data => engine.reflectedCode call context.dryRun.entityType row.naturalKey data state.master)

/-- Every row is reflected under one of the keys, in the master data as the rows before it left them. -/
def Spelled (context : RunContext) (calls : ℕ → MasterData.Call) (keys : List String) :
    ℕ → List DryRunRowResult → ApplyProgress → Prop
  | _, [], _ => True
  | index, row :: rest, progress =>
    (∀ code ∈ engine.reflectedAt context (calls index) row progress.state, code ∈ keys) ∧
      Spelled context calls keys (index + 1) rest (engine.applyRow context (calls index) row progress)

instance (context : RunContext) (calls : ℕ → MasterData.Call) (keys : List String) :
    ∀ (index : ℕ) (rows : List DryRunRowResult) (progress : ApplyProgress), Decidable (engine.Spelled context calls keys index rows progress)
  | _, [], _ => .isTrue trivial
  | index, row :: rest, progress =>
    have : Decidable (engine.Spelled context calls keys (index + 1) rest (engine.applyRow context (calls index) row progress)) :=
      instDecidableSpelled context calls keys (index + 1) rest _
    inferInstanceAs (Decidable (_ ∧ _))

end BulkImportEngine

section Reflection

/-- A record of the code is closed before its end, written anew, or both. -/
inductive Reflected (masterType code id : String) (master : MasterDataStore) : MasterDataStore → Prop
  | ended (time : Calendar.Instant) (current : MasterDataRecord) (held : current ∈ master.rows)
      (named : current.masterType = masterType ∧ current.code = code) (before : time < ending current) :
      Reflected masterType code id master (master.saveRecord (closed time current))
  | written (record : MasterDataRecord) (drawn : record.id = id) (named : record.masterType = masterType ∧ record.code = code) :
      Reflected masterType code id master (master.saveRecord record)
  | replaced (time : Calendar.Instant) (current record : MasterDataRecord) (held : current ∈ master.rows)
      (named : current.masterType = masterType ∧ current.code = code) (before : time < ending current) (drawn : record.id = id)
      (renamed : record.masterType = masterType ∧ record.code = code) :
      Reflected masterType code id master ((master.saveRecord (closed time current)).saveRecord record)

variable {engine : BulkImportEngine} {call : MasterData.Call} {entityType naturalKey : String} {data : Record}
  {master after : MasterDataStore} {masterType code id : String}

theorem inForce_of_resolve {current : MasterDataRecord} {time : Calendar.Instant} {tenantId : Option String}
    (found : MasterData.resolve call.listing masterType naturalKey time tenantId false master = some current) :
    current ∈ master.rows ∧ current.masterType = masterType ∧ time < ending current := by
  obtain ⟨held,kind,_,visible⟩ := MasterData.mem_candidates.mp (MasterData.preferred_mem found)
  refine ⟨held,kind,?_⟩
  simp only [MasterData.isVisible,MasterData.isRecordEffective,Bool.and_eq_true,decide_eq_true_eq] at visible
  unfold ending
  cases stop : current.effectiveTo with
  | none => exact WithTop.coe_lt_top time
  | some last => exact WithTop.coe_lt_coe.mpr (visible.1.2 last stop)

theorem mirror_reflected : match engine.reflectedCode call entityType naturalKey data master with
    | none => engine.mirror call entityType naturalKey data master = master
    | some code => Reflected (normalised entityType) code (recordIdOf call (normalised entityType)) master
        (engine.mirror call entityType naturalKey data master) := by
  unfold reflectedCode mirror MasterData.getRecord
  cases known : MasterData.registered engine.environment entityType with
  | error fault => rfl
  | ok entry =>
    dsimp only
    cases found : MasterData.resolve call.listing (normalised entityType) naturalKey (MasterData.targetTimeOf none call.now)
        (some engine.tenantId) false master with
    | none =>
      dsimp only
      cases texts : mirroredTexts naturalKey data with
      | none => rfl
      | some words =>
        unfold MasterData.createRecord
        rw [known]
        dsimp only
        cases taken : MasterData.isTaken call.listing (normalised entityType) naturalKey (some engine.tenantId) master with
        | true => rfl
        | false => exact .written _ rfl ⟨rfl,rfl⟩
    | some current =>
      obtain ⟨held,kind,before⟩ := inForce_of_resolve found
      have again : MasterData.resolve call.listing (normalised entityType) naturalKey call.now (some engine.tenantId) false master =
        some current := found
      dsimp only
      cases texts : mirroredTexts naturalKey data with
      | none =>
        unfold requiresApproval refusedUpdate
        rw [known]
        dsimp only
        by_cases approval : entry.requiresApproval = true
        · simp [approval]
        · simpa [approval] using Reflected.ended call.now current held ⟨kind,rfl⟩ before
      | some words =>
        unfold MasterData.updateRecord
        rw [known]
        dsimp only
        rw [again]
        change Reflected (normalised entityType) current.code _ master _
        dsimp only
        split
        · exact .written _ rfl ⟨rfl,rfl⟩
        · exact .replaced _ current _ held ⟨kind,rfl⟩ before rfl ⟨rfl,rfl⟩

theorem Reflected.ids (reflected : Reflected masterType code id master after) (fresh : id ∉ master.rows.map MasterDataRecord.id)
    {other : String} (member : other ∈ after.rows.map MasterDataRecord.id) : other = id ∨ other ∈ master.rows.map MasterDataRecord.id := by
  cases reflected with
  | ended time current held =>
    rw [ids_ended time held] at member
    exact Or.inr member
  | written record drawn =>
    rw [MasterData.rows_saveRecord_fresh (drawn ▸ fresh),List.map_append,List.mem_append,List.map_singleton,List.mem_singleton,
      drawn] at member
    exact member.symm
  | replaced time current record held _ _ drawn =>
    have unused := fresh_ended time held (drawn ▸ fresh)
    rw [MasterData.rows_saveRecord_fresh unused,List.map_append,List.mem_append,List.map_singleton,List.mem_singleton,drawn,
      ids_ended time held] at member
    exact member.symm

theorem Reflected.codeRows_other (reflected : Reflected masterType code id master after)
    (fresh : id ∉ master.rows.map MasterDataRecord.id) {otherType otherCode : String}
    (other : ¬(otherType = masterType ∧ otherCode = code)) : codeRows otherType otherCode after = codeRows otherType otherCode master := by
  have apart : ∀ {record : MasterDataRecord}, record.masterType = masterType ∧ record.code = code →
      ¬(record.masterType = otherType ∧ record.code = otherCode) := by
    rintro record ⟨rfl,rfl⟩ ⟨rfl,rfl⟩
    exact other ⟨rfl,rfl⟩
  cases reflected with
  | ended time current held named => exact codeRows_ended_other time held (apart named)
  | written record drawn named =>
    rw [codeRows_saveRecord (drawn ▸ fresh),if_neg (apart named),List.append_nil]
  | replaced time current record held named _ drawn renamed =>
    have unused := fresh_ended time held (drawn ▸ fresh)
    rw [codeRows_saveRecord unused,if_neg (apart renamed),List.append_nil,codeRows_ended_other time held (apart named)]

theorem Reflected.aged (reflected : Reflected masterType code id master after) (fresh : id ∉ master.rows.map MasterDataRecord.id)
    (otherType otherCode : String) : Aged (codeRows otherType otherCode master) (codeRows otherType otherCode after) := by
  cases reflected with
  | ended time current held _ before => exact aged_ended time held before
  | written record drawn =>
    rw [codeRows_saveRecord (drawn ▸ fresh)]
    exact aged_append _ _
  | replaced time current record held _ before drawn =>
    have unused := fresh_ended time held (drawn ▸ fresh)
    rw [codeRows_saveRecord unused]
    exact (aged_ended time held before).trans (aged_append _ _)

theorem Reflected.marked (reflected : Reflected masterType code id master after) (fresh : id ∉ master.rows.map MasterDataRecord.id) :
    Marked (codeRows masterType code master) (codeRows masterType code after) := by
  cases reflected with
  | ended time current held named before =>
    obtain ⟨rfl,rfl⟩ := named
    exact marked_ended time held before
  | written record drawn named =>
    rw [codeRows_saveRecord (drawn ▸ fresh),if_pos named]
    exact Or.inl (by simp)
  | replaced time current record held named before drawn renamed =>
    have unused := fresh_ended time held (drawn ▸ fresh)
    rw [codeRows_saveRecord unused,if_pos renamed]
    have kept := (aged_ended time held before : Aged (codeRows masterType code master) _).1
    exact Or.inl (by rw [List.length_append,List.length_singleton]; omega)

end Reflection

section Rows

variable {engine : BulkImportEngine} {context : RunContext} {calls : ℕ → MasterData.Call}

/-- The identifiers drawn from the index on are distinct and not in use. -/
structure FreshCalls (calls : ℕ → MasterData.Call) (entityType : String) (index : ℕ) (master : MasterDataStore) : Prop where
  unused : ∀ later, index ≤ later → recordIdOf (calls later) (normalised entityType) ∉ master.rows.map MasterDataRecord.id
  distinct : ∀ i j, i ≠ j → recordIdOf (calls i) (normalised entityType) ≠ recordIdOf (calls j) (normalised entityType)

variable (engine context) in
theorem reflected_applyRow (call : MasterData.Call) (row : DryRunRowResult) (progress : ApplyProgress) :
    match engine.reflectedAt context call row progress.state with
    | none => (engine.applyRow context call row progress).state.master = progress.state.master
    | some code => Reflected (normalised context.dryRun.entityType) code (recordIdOf call (normalised context.dryRun.entityType))
        progress.state.master (engine.applyRow context call row progress).state.master := by
  unfold reflectedAt savedRecord applyRow
  cases row.outcome with
  | created => exact mirror_reflected
  | updated => exact mirror_reflected
  | deactivated =>
    dsimp only
    cases existingRecord progress.state context.dryRun.entityType row.naturalKey with
    | none => exact rfl
    | some record => exact mirror_reflected
  | skipped => rfl
  | rejected => rfl

variable {rows : List DryRunRowResult} {index : ℕ} {progress : ApplyProgress}

theorem FreshCalls.applyRow (fresh : FreshCalls calls context.dryRun.entityType index progress.state.master) (row : DryRunRowResult) :
    FreshCalls calls context.dryRun.entityType (index + 1) (engine.applyRow context (calls index) row progress).state.master := by
  refine ⟨?_,fresh.distinct⟩
  have step := reflected_applyRow engine context (calls index) row progress
  intro later bound member
  split at step
  · rw [step] at member
    exact fresh.unused later (by omega) member
  · rcases step.ids (fresh.unused index le_rfl) member with same | before
    · exact fresh.distinct later index (by omega) same
    · exact fresh.unused later (by omega) before

variable (engine rows) in
theorem aged_applyRows (fresh : FreshCalls calls context.dryRun.entityType index progress.state.master) (masterType code : String) :
    Aged (codeRows masterType code progress.state.master)
      (codeRows masterType code (engine.applyRows context calls index rows progress).state.master) := by
  induction rows generalizing index progress with
  | nil => exact .refl _
  | cons row rest ih =>
    refine .trans ?_ (ih (fresh.applyRow row))
    have step := reflected_applyRow engine context (calls index) row progress
    split at step
    · rw [step]
      exact .refl _
    · exact step.aged (fresh.unused index le_rfl) masterType code

/-- The master data keeps its records outside the keys exactly where every row is
reflected under one of them: what is reflected elsewhere leaves a mark. -/
theorem codeRows_applyRows_iff {keys : List String} (fresh : FreshCalls calls context.dryRun.entityType index progress.state.master) :
    (∀ masterType code, ¬(masterType = normalised context.dryRun.entityType ∧ code ∈ keys) →
      codeRows masterType code (engine.applyRows context calls index rows progress).state.master =
        codeRows masterType code progress.state.master) ↔
      engine.Spelled context calls keys index rows progress := by
  induction rows generalizing index progress with
  | nil => exact ⟨fun _ => trivial,fun _ _ _ _ => rfl⟩
  | cons row rest ih =>
    have later : FreshCalls calls context.dryRun.entityType (index + 1)
        (engine.applyRow context (calls index) row progress).state.master := fresh.applyRow row
    have unused := fresh.unused index le_rfl
    have step := reflected_applyRow engine context (calls index) row progress
    rw [Spelled,applyRows,← ih later]
    split at step
    · rename_i idle
      rw [idle,step]
      simp
    · rename_i code acts
      rw [acts]
      have others : code ∈ keys → ∀ masterType other, ¬(masterType = normalised context.dryRun.entityType ∧ other ∈ keys) →
          codeRows masterType other (engine.applyRow context (calls index) row progress).state.master =
            codeRows masterType other progress.state.master := by
        intro listed masterType other outside
        refine step.codeRows_other unused ?_
        rintro ⟨kind,rfl⟩
        exact outside ⟨kind,listed⟩
      constructor
      · intro kept
        have listed : code ∈ keys := by
          by_contra unlisted
          have marked := (step.marked unused).trans_aged (aged_applyRows engine rest later _ code)
          exact marked.ne (codeRows_nodup _ _ _) (kept _ code (fun both => unlisted both.2))
        refine ⟨fun other same => Option.mem_some_iff.mp same ▸ listed,?_⟩
        intro masterType other outside
        rw [kept masterType other outside,others listed masterType other outside]
      · rintro ⟨listed,kept⟩ masterType other outside
        rw [kept masterType other outside,others (listed code rfl) masterType other outside]

end Rows

end CloudLens.BulkImport
