import CloudLens.MasterData.Model

/-! The versions of a code, the candidates among which a resolution chooses, and
what saving a new or a closed record does to the rows. -/
namespace CloudLens.MasterData
open Library
open Library.Calendar (Instant)

def isVersion (masterType code : String) (r : MasterDataRecord) : Bool :=
  r.masterType = normalised masterType && Text.upper r.code = normalised code

def versionsOf (masterType code : String) (s : MasterDataStore) : List MasterDataRecord :=
  s.rows.filter (isVersion masterType code)

section Candidates

variable {env : Environment} {masterType code : String} {entry : MasterRegistryEntry} {s : MasterDataStore}

theorem registered_of_manifest (declared : env.manifest (normalised masterType) = some entry) :
    registered env masterType = .ok entry := by
  simp [registered,declared]

theorem upper_stripped (word : String) : Text.upper (Text.stripped word) = normalised word := by
  rw [normalised]

theorem mem_versionsOf {r : MasterDataRecord} :
    r ∈ versionsOf masterType code s ↔ r ∈ s.rows ∧ r.masterType = normalised masterType ∧
      Text.upper r.code = normalised code := by
  simp [versionsOf,isVersion]

theorem mem_candidates {listing : Arrangement} {masterType code : String} {targetTime : Instant} {includeInactive : Bool}
    {s : MasterDataStore} {r : MasterDataRecord} :
    r ∈ candidates listing masterType code targetTime includeInactive s ↔ r ∈ s.rows ∧ r.masterType = masterType ∧
      Text.upper r.code = normalised code ∧ isVisible targetTime includeInactive r = true := by
  simp [candidates,listRecordsOf,(listing.permuted _).mem_iff,and_assoc]

theorem preferred_mem {tenantId : Option String} {found : List MasterDataRecord} {r : MasterDataRecord}
    (picked : preferred tenantId found = some r) : r ∈ found := by
  unfold preferred at picked
  split at picked
  · rename_i own held
    cases picked
    obtain ⟨tenant,_,first⟩ := Option.bind_eq_some_iff.mp held
    exact List.mem_of_find?_eq_some first
  · rcases Option.or_eq_some_iff.mp picked with global | ⟨_,last⟩
    · exact List.mem_of_find?_eq_some global
    · exact List.mem_of_getLast? last

theorem preferred_singleton (wanted : Option String) (r : MasterDataRecord) : preferred wanted [r] = some r := by
  unfold preferred
  split
  · rename_i own held
    obtain ⟨tenant,_,first⟩ := Option.bind_eq_some_iff.mp held
    exact congrArg some (List.mem_singleton.mp (List.mem_of_find?_eq_some first))
  · cases global : List.find? (fun r : MasterDataRecord => r.tenantId = none) [r] with
    | none => rfl
    | some found => exact congrArg some (List.mem_singleton.mp (List.mem_of_find?_eq_some global))

theorem mem_of_resolve {listing : Arrangement} {other : String} {t : Instant} {wanted : Option String}
    {current : MasterDataRecord} (spelled : normalised other = normalised code)
    (found : resolve listing (normalised masterType) other t wanted false s = some current) :
    current ∈ versionsOf masterType code s := by
  obtain ⟨held,kind,same,_⟩ := mem_candidates.mp (preferred_mem found)
  exact mem_versionsOf.mpr ⟨held,kind,same.trans spelled⟩

theorem candidates_perm {listing : Arrangement} {other : String} {t : Instant}
    (spelled : normalised other = normalised code) :
    (candidates listing (normalised masterType) other t false s).Perm
      ((versionsOf masterType code s).filter (isVisible t false)) := by
  have same : ∀ r ∈ s.rows, (isVisible t false r && isVersion masterType code r) =
      ((Text.upper r.code = normalised other && isVisible t false r) && decide (r.masterType = normalised masterType)) := by
    intro r _
    simp only [isVersion,spelled]
    rw [Bool.and_comm,Bool.and_assoc,Bool.and_comm]
  have merged : (s.rows.filter (isVersion masterType code)).filter (isVisible t false) =
      (s.rows.filter (fun r => r.masterType = normalised masterType)).filter
        (fun r => Text.upper r.code = normalised other && isVisible t false r) := by
    rw [List.filter_filter,List.filter_filter,List.filter_congr same]
  unfold candidates listRecordsOf versionsOf
  rw [merged]
  exact (listing.permuted _).filter _

end Candidates

section Rows

variable {s : MasterDataStore} {record current : MasterDataRecord}

theorem rows_saveRecord_fresh (fresh : record.id ∉ s.rows.map MasterDataRecord.id) :
    (s.saveRecord record).rows = s.rows ++ [record] := by
  simp only [MasterDataStore.saveRecord,dif_pos fresh]

def superseded (transition : Instant) (current r : MasterDataRecord) : MasterDataRecord :=
  if r.id = current.id then closed transition current else r

theorem rows_saveRecord_closed (transition : Instant) (held : current ∈ s.rows) :
    (s.saveRecord (closed transition current)).rows = s.rows.map (superseded transition current) := by
  have present : current.id ∈ s.rows.map MasterDataRecord.id := List.mem_map_of_mem held
  have stored : ¬ (closed transition current).id ∉ s.rows.map MasterDataRecord.id := not_not.mpr present
  simp only [MasterDataStore.saveRecord,dif_neg stored]
  refine List.map_congr_left ?_
  intro r member
  by_cases same : r.id = current.id
  · obtain rfl : r = current := List.inj_on_of_nodup_map s.keyed member held same
    simp [superseded,MasterDataStore.overwrite,closed]
  · simp [superseded,MasterDataStore.overwrite,closed,same]

theorem superseded_id (transition : Instant) (current r : MasterDataRecord) :
    (superseded transition current r).id = r.id := by
  unfold superseded
  split
  · rename_i same
    exact same.symm
  · rfl

theorem ids_superseded (transition : Instant) (current : MasterDataRecord) (rows : List MasterDataRecord) :
    (rows.map (superseded transition current)).map MasterDataRecord.id = rows.map MasterDataRecord.id := by
  rw [List.map_map]
  exact List.map_congr_left (fun r _ => superseded_id transition current r)

theorem superseded_column {Column : Type} (column : MasterDataRecord → Column) (transition : Instant)
    (kept : column (closed transition current) = column current) (held : current ∈ s.rows) {r : MasterDataRecord}
    (member : r ∈ s.rows) : column (superseded transition current r) = column r := by
  unfold superseded
  split
  · rename_i same
    rw [List.inj_on_of_nodup_map s.keyed member held same]
    exact kept
  · rfl

theorem filter_superseded {masterType code : String} (transition : Instant) (held : current ∈ s.rows) :
    (s.rows.map (superseded transition current)).filter (isVersion masterType code) =
      (versionsOf masterType code s).map (superseded transition current) := by
  have same : ∀ r ∈ s.rows, (isVersion masterType code ∘ superseded transition current) r =
      isVersion masterType code r := by
    intro r member
    rw [Function.comp_apply]
    exact superseded_column (isVersion masterType code) transition rfl held member
  rw [List.filter_map,List.filter_congr same]
  rfl

theorem versionsOf_saveRecord {masterType code : String} (fresh : record.id ∉ s.rows.map MasterDataRecord.id)
    (version : isVersion masterType code record = true) :
    versionsOf masterType code (s.saveRecord record) = versionsOf masterType code s ++ [record] := by
  rw [versionsOf,rows_saveRecord_fresh fresh,List.filter_append,List.filter_cons_of_pos version]
  rfl

end Rows

end CloudLens.MasterData
