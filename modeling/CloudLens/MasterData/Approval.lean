import CloudLens.MasterData.Versions

/-! The approval lifecycle over a store of values. Submission, approval,
publication and deactivation change the copies they have read and save none of
them, so that a draft stays a draft and a deactivated record stays effective. -/
namespace CloudLens.MasterData
open Library
open Library.Calendar (Instant)

theorem mem_saveRecord {record r : MasterDataRecord} {s : MasterDataStore} (member : r ∈ (s.saveRecord record).rows) :
    r ∈ s.rows ∧ r.id ≠ record.id ∨ r.id = record.id ∧ r.lifecycleStatus = record.lifecycleStatus := by
  unfold MasterDataStore.saveRecord at member
  split at member
  · rename_i fresh
    rcases List.mem_append.mp member with held | new
    · refine Or.inl ⟨held,?_⟩
      intro same
      exact fresh (same ▸ List.mem_map_of_mem held)
    · rw [List.mem_singleton.mp new]
      exact Or.inr ⟨rfl,rfl⟩
  · obtain ⟨stored,held,rfl⟩ := List.mem_map.mp member
    by_cases same : stored.id = record.id
    · simp [MasterDataStore.overwrite,same]
    · simp [MasterDataStore.overwrite,same,held]

inductive DraftMade (env : Environment) (masterType : String) (s : MasterDataStore) (draft : MasterDataRecord) : Prop where
  | created (call : Call) (input : NewRecord) (before : MasterDataStore)
      (ok : createRecord env call masterType input before = (s, .ok draft)) (status : draft.lifecycleStatus = .draft)
  | updated (call : Call) (code : String) (change : RecordChange) (before : MasterDataStore)
      (ok : updateRecord env call masterType code change before = (s, .ok draft)) (status : draft.lifecycleStatus = .draft)

def SameKey (a b : MasterDataRecord) : Prop :=
  a.masterType = b.masterType ∧ a.code = b.code ∧ a.tenantId = b.tenantId

def InForce (now : Instant) (r : MasterDataRecord) : Prop :=
  r.lifecycleStatus = .published ∧ isRecordEffective r now = true

instance (now : Instant) (r : MasterDataRecord) : Decidable (InForce now r) :=
  inferInstanceAs (Decidable (r.lifecycleStatus = .published ∧ isRecordEffective r now = true))

/-- What the lifecycle promises for a draft: it is the one version of its key in
force at the publication, the one that was in force is closed then, and no other
version has changed. -/
structure TookEffect (draft : MasterDataRecord) (now : Instant) (before after : MasterDataStore) : Prop where
  published : ∃ r ∈ after.rows, r.id = draft.id ∧ InForce now r
  single : ∀ r ∈ after.rows, SameKey r draft → InForce now r → r.id = draft.id
  previous : ∀ r ∈ before.rows, r.id ≠ draft.id → SameKey r draft → InForce now r → closed now r ∈ after.rows
  untouched : ∀ r ∈ before.rows, r.id ≠ draft.id → ¬ (SameKey r draft ∧ InForce now r) → r ∈ after.rows

def lifecycle (submitting approving publishing : Call) (masterType code approverId : String) (s : MasterDataStore) :
    MasterDataStore :=
  (publish publishing masterType code (approve approving masterType code approverId
    (submitForReview submitting masterType code s).1).1).1

/-- What deactivation promises: no record of the code is in force. -/
def Retired (masterType code : String) (now : Instant) (s : MasterDataStore) : Prop :=
  ∀ r ∈ s.rows, r.masterType = normalised masterType → Text.upper r.code = normalised code → ¬ InForce now r

theorem draft_stored {env : Environment} {masterType : String} {s : MasterDataStore} {draft : MasterDataRecord}
    (made : DraftMade env masterType s draft) : ∀ r ∈ s.rows, r.id = draft.id → r.lifecycleStatus = .draft := by
  have saved : ∀ {before : MasterDataStore}, draft.lifecycleStatus = .draft →
      ∀ r ∈ (before.saveRecord draft).rows, r.id = draft.id → r.lifecycleStatus = .draft := by
    intro before status r member same
    rcases mem_saveRecord member with ⟨_,other⟩ | ⟨_,equal⟩
    · exact absurd same other
    · exact equal.trans status
  cases made with
  | created call input before ok status =>
    unfold createRecord at ok
    split at ok
    · cases ok
    · split at ok
      · cases ok
      · cases ok
        exact saved status
  | updated call code change before ok status =>
    unfold updateRecord at ok
    split at ok
    · cases ok
    · split at ok
      · cases ok
      · simp only at ok
        split at ok
        · cases ok
          exact saved status
        · cases ok
          exact saved status

/-- For every draft the lifecycle fails, and every deactivation leaves the record
it read in force. -/
theorem approval_never_takes_effect (env : Environment) (masterType : String) :
    (∀ s draft, DraftMade env masterType s draft → ∀ submitting approving publishing code approverId,
      ¬ TookEffect draft publishing.now s (lifecycle submitting approving publishing masterType code approverId s)) ∧
      ∀ call code s after current, deactivateRecord env call masterType code s = (after, .ok current) →
        ¬ Retired masterType code call.now after := by
  refine ⟨?_,?_⟩
  · intro s draft made submitting approving publishing code approverId effect
    obtain ⟨r,member,same,published,_⟩ := effect.published
    rw [draft_stored made r member same] at published
    cases published
  · intro call code s after current ok retired
    unfold deactivateRecord at ok
    split at ok
    · cases ok
    · cases ok
    · rename_i record read
      simp only at ok
      split at ok
      · cases ok
      · cases ok
        unfold getRecord at read
        split at read
        · cases read
        · have picked := preferred_mem (Except.ok.inj read)
          obtain ⟨member,kind,spelled,visible⟩ := mem_candidates.mp picked
          simp only [isVisible,Bool.false_or,Bool.and_eq_true,decide_eq_true_eq] at visible
          exact retired record member kind spelled ⟨visible.2,visible.1⟩

def unitMasters : Environment where
  manifest := fun masterType => if masterType = "UNIT" then some ⟨"UNIT",true⟩ else none
  references := fun _ _ => []

def callAt (now : Instant) (token : String) : Call := ⟨now,token,.stable⟩

def gigabyte (forcePublish : Bool) : NewRecord where
  code := "GB"
  displayName := "Gigabyte"
  description := none
  sortOrder := 0
  parentCode := none
  attributes := []
  tenantId := none
  createdBy := "editor"
  isSystem := false
  forcePublish := forcePublish

def gigabyteDraft : MasterDataRecord := createdRecord (callAt 1 "a") "UNIT" true (gigabyte false)

def draftStore : MasterDataStore := (createRecord unitMasters (callAt 1 "a") "UNIT" (gigabyte false) .blank).1

def publishedStore : MasterDataStore := (createRecord unitMasters (callAt 1 "a") "UNIT" (gigabyte true) .blank).1

theorem gigabyte_created :
    createRecord unitMasters (callAt 1 "a") "UNIT" (gigabyte false) .blank = (draftStore, .ok gigabyteDraft) := by
  have name : normalised "UNIT" = "UNIT" := by decide +kernel
  have declared : registered unitMasters "UNIT" = .ok ⟨"UNIT",true⟩ := by
    simp [registered,name,unitMasters]
  refine Prod.ext rfl ?_
  simp only [createRecord,declared,name]
  rfl

theorem approval_never_takes_effect_gigabyte :
    ¬ TookEffect gigabyteDraft 4 draftStore
      (lifecycle (callAt 2 "b") (callAt 3 "c") (callAt 4 "d") "UNIT" "GB" "reviewer" draftStore) :=
  (approval_never_takes_effect unitMasters "UNIT").1 draftStore gigabyteDraft
    (.created (callAt 1 "a") (gigabyte false) .blank gigabyte_created rfl) (callAt 2 "b") (callAt 3 "c") (callAt 4 "d")
    "GB" "reviewer"

def succeeded {Answer : Type} (served : MasterDataStore × Except MasterDataError Answer) : Bool :=
  match served.2 with
  | .ok _ => true
  | .error _ => false

/-- A new unit of measurement is submitted; its approval finds no version in
review, and the stored draft has not moved. A deactivated unit is still in force. -/
theorem submitted_draft_stays_draft :
    succeeded (submitForReview (callAt 2 "b") "UNIT" "GB" draftStore) = true ∧
      succeeded (approve (callAt 3 "c") "UNIT" "GB" "reviewer"
        (submitForReview (callAt 2 "b") "UNIT" "GB" draftStore).1) = false ∧
      ¬ TookEffect gigabyteDraft 4 draftStore
        (lifecycle (callAt 2 "b") (callAt 3 "c") (callAt 4 "d") "UNIT" "GB" "reviewer" draftStore) ∧
      succeeded (deactivateRecord unitMasters (callAt 2 "b") "UNIT" "GB" publishedStore) = true ∧
      ¬ Retired "UNIT" "GB" 2 (deactivateRecord unitMasters (callAt 2 "b") "UNIT" "GB" publishedStore).1 := by
  refine ⟨by decide +kernel,by decide +kernel,?_,by decide +kernel,?_⟩
  · intro effect
    exact absurd effect.published (by decide +kernel)
  · intro retired
    exact absurd retired (by unfold Retired; decide +kernel)

end CloudLens.MasterData
