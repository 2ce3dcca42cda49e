import CloudLens.Library.Runs
import CloudLens.Pricing.Catalogue

/-! The history of one rate under a sequence of updates. A new version can never
be stored, since the change record that goes with it is refused for its keyword
arguments; the history is a partition of time exactly when the first record can
be stored and no later call changes the price, the tiers or the allowance. -/
namespace CloudLens.Pricing
open Library
open Library.Runs
open Library.Calendar

def callStep (db : PricingDb) (record : PricingRecord) : PricingDb :=
  match addOrUpdate db record with
  | .ok outcome => outcome.db
  | .error _ => db

def dbAfter (start : PricingDb) (calls : List PricingRecord) : PricingDb := run callStep start calls

def storedRecords (db : PricingDb) (key : PriceKey) : List PricingRecord :=
  (db.records.selectWhere (fun _ row => row.key = key)).filterMap (fun entry => entry.2.attributes)

def repricedBy (db : PricingDb) (call : PricingRecord) : Prop :=
  ∃ record ∈ storedRecords db (keyOf call), record.isActive = true ∧ record.unitPrice ≠ call.unitPrice

structure PartitionsTime (history : List PricingRecord) : Prop where
  versions : history.map PricingRecord.version = List.range' 1 history.length
  ordered : history.Pairwise (fun earlier later => earlier.effectiveFrom ≤ later.effectiveFrom)
  adjacent : history.IsChain (fun earlier later => earlier.effectiveTo = some later.effectiveFrom)
  disjoint : history.Pairwise (fun earlier later => ∀ t, ¬ (isEffectiveOn earlier t = true ∧ isEffectiveOn later t = true))

structure HistoryCorrect (start : PricingDb) (first : PricingRecord) (rest : List PricingRecord) : Prop where
  succeeds : ∀ before call after, first :: rest = before ++ call :: after →
    ∃ outcome, addOrUpdate (dbAfter start before) call = .ok outcome
  oneActive : ((storedRecords (dbAfter start (first :: rest)) (keyOf first)).filter PricingRecord.isActive).length = 1
  partition : ∃ history, history.Perm (storedRecords (dbAfter start (first :: rest)) (keyOf first)) ∧ PartitionsTime history
  changes : ∀ before call after outcome, first :: rest = before ++ call :: after →
    addOrUpdate (dbAfter start before) call = .ok outcome → repricedBy (dbAfter start before) call →
      ∃ change, outcome.change = some change ∧ outcome.db.changes = (dbAfter start before).changes ++ [change]
  lookup : ∀ t, first.effectiveFrom ≤ t → ∃ record ∈ storedRecords (dbAfter start (first :: rest)) (keyOf first),
    isEffectiveOn record t = true ∧
    (∀ other ∈ storedRecords (dbAfter start (first :: rest)) (keyOf first), isEffectiveOn other t = true → other = record) ∧
    getRateAtTimestamp (dbAfter start (first :: rest)) first.provider first.serviceSku first.region first.pricingDimension t
      first.rateType first.tenantId = .ok (some record)

structure NeverRepriced (start : PricingDb) (first : PricingRecord) (rest : List PricingRecord) : Prop where
  storable : fitsColumns first.id (rowFor (firstVersion first)) = true
  realTenant : first.tenantId ≠ some "anonymous"
  freshId : start.records.lookup first.id = none
  unchanged : ∀ record ∈ rest, pricingChanged first record = false

def heldRecord (first : PricingRecord) (retrievedAt : Instant) : PricingRecord :=
  { firstVersion first with retrievedAt := retrievedAt }

def heldRow (first : PricingRecord) (retrievedAt : Instant) : PriceRow :=
  { rowFor (firstVersion first) with attributes := some (heldRecord first retrievedAt) }

structure Holds (start : PricingDb) (first : PricingRecord) (retrievedAt : Instant) (db : PricingDb) : Prop where
  records : ∀ id, db.records.lookup id = if id = first.id then some (heldRow first retrievedAt) else start.records.lookup id
  changes : db.changes = start.changes

section Step

variable {start db : PricingDb} {first record : PricingRecord} {retrievedAt : Instant}

theorem supersede_fails (db : PricingDb) (active record : PricingRecord) (outcome : UpdateOutcome) :
    supersede db active record ≠ .ok outcome := by
  have refused : ∀ new, ∃ problems, PricingChangeRecord.construct (changeArguments active new) = .error (.invalidChange problems) := by
    intro new
    have named : (changeArguments active new).map Prod.fst = ["tenant_id", "provider", "sku", "region", "dimension", "rate_type",
        "old_version", "new_version", "old_unit_price", "new_unit_price", "price_delta", "percentage_change", "effective_date",
        "change_type"] := rfl
    have problems : keywordProblems ((changeArguments active new).map Prod.fst) ≠ [] := by
      rw [named]
      decide
    exact ⟨_,dif_neg problems⟩
  unfold supersede
  intro done
  split at done
  · cases done
  · obtain ⟨problems,refusal⟩ := refused (nextVersion active record)
    cases inserted : insertRow record.tenantId (nextVersion active record).id (rowFor (nextVersion active record))
        (updateRow record.tenantId active.id
          (fun row => { row with isActive := false, effectiveTo := some record.effectiveFrom }) db.records) with
    | error failed =>
      simp only [inserted,bind,Except.bind] at done
      cases done
    | ok records =>
      simp only [inserted,refusal,bind,Except.bind] at done
      cases done

theorem passesPolicy_self {tenantId : Option String} : passesPolicy tenantId tenantId = true ↔ tenantId ≠ some "anonymous" := by
  cases tenantId with
  | none => simp [passesPolicy]
  | some tenant =>
    by_cases placeholder : tenant = "anonymous"
    · subst placeholder
      simp [passesPolicy,sessionTenant]
    · simp [passesPolicy,sessionTenant,placeholder]

theorem keyOf_tenant (record : PricingRecord) : (keyOf record).tenantId = record.tenantId := rfl

theorem heldRow_key (first : PricingRecord) (retrievedAt : Instant) : (heldRow first retrievedAt).key = keyOf first := rfl

theorem insertRow_ok_iff {session : Option String} {id : String} {row : PriceRow} {records after : Table String PriceRow} :
    insertRow session id row records = .ok after ↔
      fitsColumns id row = true ∧ passesPolicy session row.key.tenantId = true ∧ records.lookup id = none ∧
        after = records.upsert (fun _ proposed => proposed) id row := by
  unfold insertRow
  cases fits : fitsColumns id row with
  | false => simp
  | true =>
    cases passes : passesPolicy session row.key.tenantId with
    | false => simp
    | true =>
      cases found : records.lookup id with
      | none => simp [eq_comm]
      | some stored => simp

theorem updateRow_found {session : Option String} {id : String} {row : PriceRow} {records : Table String PriceRow}
    {change : PriceRow → PriceRow} (found : records.lookup id = some row) (passes : passesPolicy session row.key.tenantId = true) :
    updateRow session id change records = records.upsert (fun _ proposed => proposed) id (change row) := by
  rw [updateRow,found]
  exact if_pos passes

theorem addOrUpdate_absent (absent : ∀ id row, start.records.lookup id = some row → row.key ≠ keyOf first) :
    addOrUpdate start first = addFirst start first := by
  have none : activeRows first.tenantId (keyOf first) start.records = [] := by
    rw [activeRows,Table.selectWhere_eq_nil_iff]
    intro id row found
    simp [absent id row found]
  rw [addOrUpdate,none]

theorem addFirst_ok_iff {outcome : UpdateOutcome} :
    addFirst start first = .ok outcome ↔
      fitsColumns first.id (rowFor (firstVersion first)) = true ∧ first.tenantId ≠ some "anonymous" ∧
        start.records.lookup first.id = none ∧
        outcome = ⟨{ start with records := start.records.upsert (fun _ proposed => proposed) first.id (rowFor (firstVersion first)) },
          firstVersion first,none⟩ := by
  unfold addFirst
  have tenant : (rowFor (firstVersion first)).key.tenantId = first.tenantId := rfl
  constructor
  · intro done
    cases inserted : insertRow first.tenantId first.id (rowFor (firstVersion first)) start.records with
    | error failed =>
      rw [inserted] at done
      cases done
    | ok records =>
      rw [inserted] at done
      cases done
      obtain ⟨fits,passes,fresh,rfl⟩ := insertRow_ok_iff.mp inserted
      rw [tenant] at passes
      exact ⟨fits,passesPolicy_self.mp passes,fresh,rfl⟩
  · rintro ⟨fits,real,fresh,rfl⟩
    have passes : passesPolicy first.tenantId (rowFor (firstVersion first)).key.tenantId = true := passesPolicy_self.mpr real
    have inserted := insertRow_ok_iff.mpr ⟨fits,passes,fresh,rfl⟩
    rw [inserted]
    rfl

theorem addFirst_holds :
    Holds start first first.retrievedAt
      { start with records := start.records.upsert (fun _ proposed => proposed) first.id (rowFor (firstVersion first)) } where
  records := fun id => Table.lookup_overwrite start.records first.id id (rowFor (firstVersion first))
  changes := rfl

theorem selected_held (held : Holds start first retrievedAt db)
    (absent : ∀ id row, start.records.lookup id = some row → row.key ≠ keyOf first) {p : String → PriceRow → Bool}
    (selected : p first.id (heldRow first retrievedAt) = true)
    (keyed : ∀ id row, p id row = true → row.key = keyOf first) :
    db.records.selectWhere p = [⟨first.id,heldRow first retrievedAt⟩] := by
  apply Table.selectWhere_eq_singleton _ selected
  · intro other kept found chosen
    by_contra different
    rw [held.records,if_neg different] at found
    exact absent other kept found (keyed other kept chosen)
  · rw [held.records,if_pos rfl]

theorem addOrUpdate_held (held : Holds start first retrievedAt db)
    (absent : ∀ id row, start.records.lookup id = some row → row.key ≠ keyOf first)
    (real : first.tenantId ≠ some "anonymous") (sameKey : keyOf record = keyOf first) :
    addOrUpdate db record =
      if pricingChanged first record then supersede db (heldRecord first retrievedAt) record
      else .ok (refresh db (heldRecord first retrievedAt) record) := by
  have tenant : record.tenantId = first.tenantId := congrArg PriceKey.tenantId sameKey
  have active : activeRows record.tenantId (keyOf record) db.records = [⟨first.id,heldRow first retrievedAt⟩] := by
    rw [tenant,sameKey]
    apply selected_held held absent
    · have passes := passesPolicy_self.mpr real
      simp only [heldRow_key,keyOf_tenant,passes]
      rfl
    · intro id row chosen
      simp only [Bool.and_eq_true,decide_eq_true_eq] at chosen
      exact chosen.1.2
  rw [addOrUpdate,active]
  rfl

theorem refresh_holds (held : Holds start first retrievedAt db) (real : first.tenantId ≠ some "anonymous")
    (sameKey : keyOf record = keyOf first) :
    Holds start first record.retrievedAt (refresh db (heldRecord first retrievedAt) record).db := by
  have tenant : record.tenantId = first.tenantId := congrArg PriceKey.tenantId sameKey
  have stored : db.records.lookup first.id = some (heldRow first retrievedAt) := by rw [held.records,if_pos rfl]
  have written : (refresh db (heldRecord first retrievedAt) record).db.records =
      db.records.upsert (fun _ proposed => proposed) first.id (heldRow first record.retrievedAt) := by
    have passes : passesPolicy record.tenantId (heldRow first retrievedAt).key.tenantId = true := by
      rw [tenant]
      exact passesPolicy_self.mpr real
    have updated : updateRow record.tenantId first.id
        (fun row => { row with attributes := some (refreshed (heldRecord first retrievedAt) record) }) db.records = _ :=
      updateRow_found stored passes
    exact updated
  refine ⟨?_,held.changes⟩
  intro id
  rw [written,Table.lookup_overwrite]
  split
  · rfl
  · rename_i different
    rw [held.records,if_neg different]

end Step

section Sequence

variable {start : PricingDb} {first : PricingRecord} {rest : List PricingRecord}

theorem callStep_ok {db : PricingDb} {record : PricingRecord} {outcome : UpdateOutcome}
    (done : addOrUpdate db record = .ok outcome) : callStep db record = outcome.db := by
  rw [callStep,done]

theorem dbAfter_concat (calls : List PricingRecord) (record : PricingRecord) :
    dbAfter start (calls ++ [record]) = callStep (dbAfter start calls) record := by
  rw [dbAfter,run_append]
  rfl

theorem dbAfter_holds (absent : ∀ id row, start.records.lookup id = some row → row.key ≠ keyOf first)
    (storable : fitsColumns first.id (rowFor (firstVersion first)) = true) (real : first.tenantId ≠ some "anonymous")
    (fresh : start.records.lookup first.id = none) (calls : List PricingRecord)
    (oneKey : ∀ record ∈ calls, keyOf record = keyOf first) (unchanged : ∀ record ∈ calls, pricingChanged first record = false) :
    ∃ retrievedAt, Holds start first retrievedAt (dbAfter start (first :: calls)) := by
  induction calls using List.reverseRecOn with
  | nil =>
    have stored := addFirst_ok_iff.mpr ⟨storable,real,fresh,rfl⟩
    rw [← addOrUpdate_absent absent] at stored
    refine ⟨first.retrievedAt,?_⟩
    rw [dbAfter,run_cons,run_nil,callStep_ok stored]
    exact addFirst_holds
  | append_singleton calls record ih =>
    obtain ⟨retrievedAt,held⟩ := ih (fun other member => oneKey other (by simp [member]))
      (fun other member => unchanged other (by simp [member]))
    have sameKey := oneKey record (by simp)
    have step := addOrUpdate_held held absent real sameKey
    rw [if_neg (by rw [unchanged record (by simp)]; exact Bool.false_ne_true)] at step
    refine ⟨record.retrievedAt,?_⟩
    rw [← List.cons_append,dbAfter_concat,callStep_ok step]
    exact refresh_holds held real sameKey

theorem storedRecords_held {retrievedAt : Instant} {db : PricingDb} (held : Holds start first retrievedAt db)
    (absent : ∀ id row, start.records.lookup id = some row → row.key ≠ keyOf first) :
    storedRecords db (keyOf first) = [heldRecord first retrievedAt] := by
  have selected : db.records.selectWhere (fun _ row => row.key = keyOf first) = [⟨first.id,heldRow first retrievedAt⟩] := by
    apply selected_held held absent
    · simp [heldRow_key]
    · intro id row chosen
      simpa using chosen
  rw [storedRecords,selected]
  rfl

theorem head_of_ranked {α : Type} {r : α → α → Prop} [DecidableRel r] [Std.Total r] [IsTrans α r] {xs : List α} {x : α}
    (member : x ∈ xs) (best : ∀ y ∈ xs, y ≠ x → ¬ r y x) : (xs.insertionSort r).head? = some x := by
  have sorted := List.pairwise_insertionSort r xs
  have inside : x ∈ xs.insertionSort r := (List.mem_insertionSort r).mpr member
  cases shape : xs.insertionSort r with
  | nil =>
    rw [shape] at inside
    cases inside
  | cons y rest =>
    have listed : y ∈ xs := (List.mem_insertionSort r).mp (by rw [shape]; exact List.mem_cons_self)
    rw [shape] at sorted inside
    rcases List.mem_cons.mp inside with rfl | later
    · rfl
    · by_cases same : y = x
      · rw [same]
        rfl
      · exact absurd ((List.pairwise_cons.mp sorted).1 x later) (best y listed same)

instance : Std.Total RanksBefore where
  total := by
    intro a b
    unfold RanksBefore
    cases a.key.tenantId.isSome <;> cases b.key.tenantId.isSome <;> simp [le_total]

instance : IsTrans PriceRow RanksBefore where
  trans := by
    intro a b c first second
    unfold RanksBefore at first second ⊢
    rcases first with ⟨own,published⟩ | ⟨same,later⟩ <;> rcases second with ⟨own',published'⟩ | ⟨same',later'⟩
    · rw [published] at own'
      cases own'
    · exact Or.inl ⟨own,same' ▸ published⟩
    · exact Or.inl ⟨same ▸ own',published'⟩
    · exact Or.inr ⟨same.trans same',later'.trans later⟩

theorem coversTimestamp_held {retrievedAt t : Instant} (real : first.tenantId ≠ some "anonymous")
    (started : first.effectiveFrom ≤ t) : coversTimestamp (keyOf first) t (heldRow first retrievedAt) = true := by
  have passes := passesPolicy_self.mpr real
  have begun : (heldRow first retrievedAt).effectiveFrom ≤ t := started
  have endless : (heldRow first retrievedAt).effectiveTo = none := rfl
  simp [coversTimestamp,heldRow_key,keyOf_tenant,passes,begun,endless]

-- A covering row of another key is the published one, which ranks behind a tenant's own.
theorem published_ranks_behind {retrievedAt t : Instant} {row : PriceRow} (apart : row.key ≠ keyOf first)
    (covering : coversTimestamp (keyOf first) t row = true) : ¬ RanksBefore row (heldRow first retrievedAt) := by
  simp only [coversTimestamp,Bool.and_eq_true,Bool.or_eq_true,decide_eq_true_eq,apart,false_or] at covering
  have published : row.key = { keyOf first with tenantId := none } := covering.1.1.2
  have tenanted : (keyOf first).tenantId.isSome = true := by
    cases tenant : (keyOf first).tenantId with
    | some name => rfl
    | none =>
      rw [← tenant] at published
      exact absurd published apart
  rintro (⟨own,_⟩ | ⟨same,_⟩)
  · rw [published] at own
    cases own
  · rw [published,heldRow_key,tenanted] at same
    cases same

theorem rateAt_held {retrievedAt t : Instant} {db : PricingDb} (held : Holds start first retrievedAt db)
    (absent : ∀ id row, start.records.lookup id = some row → row.key ≠ keyOf first) (real : first.tenantId ≠ some "anonymous")
    (started : first.effectiveFrom ≤ t) : rateAt db (keyOf first) t = .ok (some (heldRecord first retrievedAt)) := by
  have stored : db.records.lookup first.id = some (heldRow first retrievedAt) := by rw [held.records,if_pos rfl]
  have member : heldRow first retrievedAt ∈
      (db.records.selectWhere (fun _ row => coversTimestamp (keyOf first) t row)).map Sigma.snd :=
    List.mem_map_of_mem (Table.mem_selectWhere.mpr ⟨stored,coversTimestamp_held real started⟩)
  have best : ∀ row ∈ (db.records.selectWhere (fun _ row => coversTimestamp (keyOf first) t row)).map Sigma.snd,
      row ≠ heldRow first retrievedAt → ¬ RanksBefore row (heldRow first retrievedAt) := by
    intro row chosen different
    obtain ⟨⟨id,kept⟩,entry,rfl⟩ := List.mem_map.mp chosen
    obtain ⟨found,covering⟩ := Table.mem_selectWhere.mp entry
    have other : start.records.lookup id = some kept := by
      rw [held.records] at found
      split at found
      · cases found
        exact absurd rfl different
      · exact found
    exact published_ranks_behind (absent id kept other) covering
  rw [rateAt,head_of_ranked member best]
  rfl

theorem unchanged_price {record : PricingRecord} (unchanged : pricingChanged first record = false) :
    first.unitPrice = record.unitPrice := by
  simp only [pricingChanged,Bool.or_eq_false_iff,decide_eq_false_iff_not,not_not] at unchanged
  exact unchanged.1.1

theorem call_refreshes (absent : ∀ id row, start.records.lookup id = some row → row.key ≠ keyOf first)
    (oneKey : ∀ record ∈ rest, keyOf record = keyOf first) (never : NeverRepriced start first rest)
    {before after : List PricingRecord} {call : PricingRecord} (place : first :: rest = before ++ call :: after) :
    (∃ outcome, addOrUpdate (dbAfter start before) call = .ok outcome) ∧ ¬ repricedBy (dbAfter start before) call := by
  cases before with
  | nil =>
    obtain ⟨rfl,_⟩ := List.cons.inj place
    refine ⟨⟨_,(addOrUpdate_absent absent).trans (addFirst_ok_iff.mpr ⟨never.storable,never.realTenant,never.freshId,rfl⟩)⟩,?_⟩
    rintro ⟨record,member,_⟩
    have none : start.records.selectWhere (fun _ row => row.key = keyOf first) = [] := by
      rw [Table.selectWhere_eq_nil_iff]
      intro id row found
      simp [absent id row found]
    rw [dbAfter,run_nil,storedRecords,none] at member
    cases member
  | cons head before =>
    obtain ⟨rfl,split⟩ := List.cons.inj place
    have inside : ∀ record ∈ before, record ∈ rest := fun record member => by simp [split,member]
    have called : call ∈ rest := by simp [split]
    obtain ⟨retrievedAt,held⟩ := dbAfter_holds absent never.storable never.realTenant never.freshId before
      (fun record member => oneKey record (inside record member)) (fun record member => never.unchanged record (inside record member))
    have step := addOrUpdate_held held absent never.realTenant (oneKey call called)
    rw [if_neg (by rw [never.unchanged call called]; exact Bool.false_ne_true)] at step
    refine ⟨⟨_,step⟩,?_⟩
    rintro ⟨record,member,_,different⟩
    rw [oneKey call called,storedRecords_held held absent,List.mem_singleton] at member
    subst member
    exact different (unchanged_price (never.unchanged call called))

theorem unchanged_of_succeeds (absent : ∀ id row, start.records.lookup id = some row → row.key ≠ keyOf first)
    (oneKey : ∀ record ∈ rest, keyOf record = keyOf first)
    (storable : fitsColumns first.id (rowFor (firstVersion first)) = true) (real : first.tenantId ≠ some "anonymous")
    (fresh : start.records.lookup first.id = none)
    (succeeds : ∀ before call after, first :: rest = before ++ call :: after →
      ∃ outcome, addOrUpdate (dbAfter start before) call = .ok outcome) :
    ∀ calls more, rest = calls ++ more → ∀ record ∈ calls, pricingChanged first record = false := by
  intro calls
  induction calls using List.reverseRecOn with
  | nil =>
    intro more _ record member
    cases member
  | append_singleton calls last ih =>
    intro more split
    have earlier : rest = calls ++ last :: more := by simpa using split
    have unchanged := ih (last :: more) earlier
    have inside : ∀ record ∈ calls, keyOf record = keyOf first := fun record member => oneKey record (by simp [earlier,member])
    obtain ⟨retrievedAt,held⟩ := dbAfter_holds absent storable real fresh calls inside unchanged
    have sameKey := oneKey last (by simp [earlier])
    obtain ⟨outcome,done⟩ := succeeds (first :: calls) last more (by rw [earlier]; rfl)
    rw [addOrUpdate_held held absent real sameKey] at done
    intro record member
    rcases List.mem_append.mp member with old | new
    · exact unchanged record old
    · rw [List.mem_singleton.mp new]
      cases changed : pricingChanged first last with
      | false => rfl
      | true =>
        rw [changed] at done
        exact absurd done (supersede_fails _ _ _ _)

theorem partitionsTime_single {record : PricingRecord} (initial : record.version = 1) : PartitionsTime [record] where
  versions := by simp [initial]
  ordered := List.pairwise_singleton _ _
  adjacent := List.isChain_singleton _
  disjoint := List.pairwise_singleton _ _

end Sequence

/-- For every sequence of updates of one key on a store without rows of that
key, the history partitions time exactly when the first record can be stored and
no later call changes the price, the tiers or the free allowance. -/
theorem price_history_partitions_iff (start : PricingDb) (first : PricingRecord) (rest : List PricingRecord)
    (absent : ∀ id row, start.records.lookup id = some row → row.key ≠ keyOf first)
    (oneKey : ∀ record ∈ rest, keyOf record = keyOf first) :
    HistoryCorrect start first rest ↔ NeverRepriced start first rest := by
  constructor
  · intro correct
    obtain ⟨outcome,done⟩ := correct.succeeds [] first rest rfl
    rw [dbAfter,run_nil,addOrUpdate_absent absent] at done
    obtain ⟨storable,real,fresh,_⟩ := addFirst_ok_iff.mp done
    refine ⟨storable,real,fresh,?_⟩
    exact unchanged_of_succeeds absent oneKey storable real fresh correct.succeeds rest [] (List.append_nil rest).symm
  · intro never
    obtain ⟨retrievedAt,held⟩ := dbAfter_holds absent never.storable never.realTenant never.freshId rest oneKey never.unchanged
    have stored := storedRecords_held held absent
    refine ⟨?_,?_,?_,?_,?_⟩
    · intro before call after place
      exact (call_refreshes absent oneKey never place).1
    · rw [stored]
      rfl
    · rw [stored]
      exact ⟨_,List.Perm.refl _,partitionsTime_single rfl⟩
    · intro before call after outcome place _ repriced
      exact absurd repriced (call_refreshes absent oneKey never place).2
    · intro t started
      rw [stored]
      refine ⟨heldRecord first retrievedAt,List.mem_singleton_self _,?_,?_,rateAt_held held absent never.realTenant started⟩
      · have begun : (heldRecord first retrievedAt).effectiveFrom ≤ t := started
        have endless : (heldRecord first retrievedAt).effectiveTo = none := rfl
        simp [isEffectiveOn,begun,endless]
      · intro other member _
        exact List.mem_singleton.mp member

def emptyCatalogue : PricingDb := ⟨∅,[]⟩

theorem two_nonneg : (0:ℚ) ≤ 2 := by norm_num

def hourlyRate (id : String) (unitPrice : ℚ) (effectiveFrom : Instant) (nonneg : 0 ≤ unitPrice) : PricingRecord where
  id := id
  tenantId := none
  provider := "aws"
  service := "AmazonEC2"
  serviceSku := some "sku"
  resourceType := "vm"
  region := "us-east-1"
  pricingDimension := "DIM-03"
  unit := "hours"
  unitPrice := unitPrice
  currency := "USD"
  freeAllowance := none
  tier := none
  minimumCharge := 0
  effectiveFrom := effectiveFrom
  effectiveTo := none
  discountInfo := none
  commitmentInfo := none
  source := "aws_price_list_bulk"
  sourceUrl := none
  retrievedAt := effectiveFrom
  rateType := .list
  isActive := true
  version := 1
  priceNonneg := nonneg
  minimumNonneg := free_nonneg
  versionPositive := firstVersion_positive

theorem emptyCatalogue_absent (key : PriceKey) :
    ∀ id row, emptyCatalogue.records.lookup id = some row → row.key ≠ key := by
  intro id row found
  have none : emptyCatalogue.records.lookup id = none := rfl
  rw [none] at found
  cases found

theorem refreshed_rate_partitions_time :
    HistoryCorrect emptyCatalogue (hourlyRate "v1" 1 0 one_nonneg) [hourlyRate "v2" 1 Calendar.day one_nonneg] := by
  apply (price_history_partitions_iff emptyCatalogue (hourlyRate "v1" 1 0 one_nonneg) [hourlyRate "v2" 1 Calendar.day one_nonneg]
    (emptyCatalogue_absent _) ?_).mpr
  · refine ⟨by decide +kernel,by decide,rfl,?_⟩
    intro record member
    rw [List.mem_singleton.mp member]
    rfl
  · intro record member
    rw [List.mem_singleton.mp member]
    rfl

/-- A rate of one dollar followed a day later by two dollars: the second call
fails on its change record, so the history is not what it should be. -/
theorem repriced_rate_fails :
    ¬ HistoryCorrect emptyCatalogue (hourlyRate "v1" 1 0 one_nonneg) [hourlyRate "v2" 2 Calendar.day two_nonneg] := by
  intro correct
  obtain ⟨outcome,done⟩ := correct.succeeds [hourlyRate "v1" 1 0 one_nonneg] (hourlyRate "v2" 2 Calendar.day two_nonneg) [] rfl
  obtain ⟨retrievedAt,held⟩ := dbAfter_holds (emptyCatalogue_absent (keyOf (hourlyRate "v1" 1 0 one_nonneg))) (by decide +kernel)
    (by decide) rfl [] (by simp) (by simp)
  have sameKey : keyOf (hourlyRate "v2" 2 Calendar.day two_nonneg) = keyOf (hourlyRate "v1" 1 0 one_nonneg) := rfl
  have changed : pricingChanged (hourlyRate "v1" 1 0 one_nonneg) (hourlyRate "v2" 2 Calendar.day two_nonneg) = true := by
    decide +kernel
  rw [addOrUpdate_held held (emptyCatalogue_absent _) (by decide) sameKey,if_pos changed] at done
  exact absurd done (supersede_fails _ _ _ _)

end CloudLens.Pricing
