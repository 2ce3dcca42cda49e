import CloudLens.Attribution.Conservation

/-! The visibility of unallocated cost. A bucket is flagged by the first row of
its key, so unallocated cost stays apart, and the buckets do not depend on the
order of the rows, exactly when no key mixes allocated and unallocated rows. -/
namespace CloudLens.Attribution
open Library Cost

def CountedIn (dimension : Dimension) (rows : List AllocatedCostRow) (otherThreshold : Option ℚ) (row : AllocatedCostRow)
    (bucket : CostBucket) : Prop :=
  roundCurrency (spend rows) ≠ 0 ∧ ∃ data ∈ (tally dimension rows).bucketData, data.key = dimension.key row ∧
    bucket = if isBelow (roundCurrency (spend rows)) otherThreshold data then
        otherBucket (roundCurrency (spend rows))
          ((tally dimension rows).bucketData.foldl (rollupBucket (roundCurrency (spend rows)) otherThreshold) ⟨[],0,0⟩)
      else costBucket (roundCurrency (spend rows)) data

def unallocatedBuckets (summary : AggregationSummary) : List CostBucket := summary.buckets.filter CostBucket.isUnallocated

structure NeverAbsorbed (dimension : Dimension) (rows : List AllocatedCostRow) (otherThreshold : Option ℚ) : Prop where
  separate : ∀ row ∈ rows, isUnalloc dimension row → ∀ bucket, CountedIn dimension rows otherThreshold row bucket →
    bucket.isUnallocated = true
  visible : |((unallocatedBuckets (aggregate dimension rows otherThreshold)).map CostBucket.totalAmount).sum -
      (aggregate dimension rows otherThreshold).unallocatedSpend| ≤
    (unallocatedBuckets (aggregate dimension rows otherThreshold)).length * (1/200)
  orderFree : ∀ shuffled : List AllocatedCostRow, shuffled.Perm rows → ∀ bucket,
    bucket ∈ (aggregate dimension shuffled otherThreshold).buckets ↔ bucket ∈ (aggregate dimension rows otherThreshold).buckets

def Unmixed (dimension : Dimension) (rows : List AllocatedCostRow) : Prop :=
  ∀ a ∈ rows, ∀ b ∈ rows, dimension.key a = dimension.key b → isUnalloc dimension a = isUnalloc dimension b

def KeptApart (dimension : Dimension) (rows : List AllocatedCostRow) : Prop :=
  roundCurrency (spend rows) = 0 ∨ (Unmixed dimension rows ∧
    ¬ Decimal.TiesApart 2 (groupSpends (groups dimension (rows.filter (isUnalloc dimension)))))

section Flags

variable {dimension : Dimension} {rows : List AllocatedCostRow} {otherThreshold : Option ℚ}

theorem spend_perm {shuffled : List AllocatedCostRow} (same : shuffled.Perm rows) : spend shuffled = spend rows :=
  (same.map AllocatedCostRow.allocatedAmount).sum_eq

theorem isBelow_of_unallocated (totalSpend : ℚ) (otherThreshold : Option ℚ) {data : BucketData}
    (flagged : data.isUnallocated = true) : isBelow totalSpend otherThreshold data = false := by
  simp [isBelow,flagged]

theorem group_flag (unmixed : Unmixed dimension rows) {row : AllocatedCostRow} (inside : row ∈ rows) {group : Group}
    (member : group ∈ groups dimension rows) (same : group.1 = dimension.key row) :
    (groupData dimension group).isUnallocated = isUnalloc dimension row := by
  have collected := (Grouping.mem_groupInto_iff.mp member).2
  have nonempty := Grouping.group_ne_nil member
  obtain ⟨first,rest,shape⟩ := List.exists_cons_of_ne_nil nonempty
  have found : first ∈ rows.filter (fun item => dimension.key item = group.1) := by
    rw [← collected,shape]
    simp
  obtain ⟨firstInside,firstKey⟩ := List.mem_filter.mp found
  simp only [decide_eq_true_eq] at firstKey
  simp only [groupData,shape,List.head?_cons,Option.any_some]
  exact unmixed first firstInside row inside (firstKey.trans same)

theorem mem_withOther_flagged {totalSpend : ℚ} {data : List BucketData} {bucket : CostBucket} (flagged : bucket.isUnallocated = true) :
    bucket ∈ withOther totalSpend (rollupOf totalSpend otherThreshold data) ↔
      ∃ d ∈ data, d.isUnallocated = true ∧ bucket = costBucket totalSpend d := by
  have notOther : bucket ≠ otherBucket totalSpend (rollupOf totalSpend otherThreshold data) := by
    rintro rfl
    cases flagged
  have kept : bucket ∈ (rollupOf totalSpend otherThreshold data).buckets ↔
      ∃ d ∈ data, d.isUnallocated = true ∧ bucket = costBucket totalSpend d := by
    simp only [rollupOf,List.mem_map,List.mem_filter]
    constructor
    · rintro ⟨d,⟨member,_⟩,rfl⟩
      exact ⟨d,member,flagged,rfl⟩
    · rintro ⟨d,member,own,rfl⟩
      exact ⟨d,⟨member,by simp [isBelow_of_unallocated totalSpend otherThreshold own]⟩,rfl⟩
  rw [withOther]
  split
  · rw [List.mem_append,List.mem_singleton,kept]
    simp [notOther]
  · exact kept

theorem mem_buckets_flagged (nonzero : roundCurrency (spend rows) ≠ 0) {bucket : CostBucket} (flagged : bucket.isUnallocated = true) :
    bucket ∈ (aggregate dimension rows otherThreshold).buckets ↔
      ∃ group ∈ groups dimension rows, (groupData dimension group).isUnallocated = true ∧
        bucket = costBucket (roundCurrency (spend rows)) (groupData dimension group) := by
  rw [aggregate_nonzero otherThreshold nonzero]
  rw [(sortBuckets_perm _).mem_iff,rolled,mem_withOther_flagged flagged]
  simp [dataOf]

theorem unallocatedBuckets_perm (nonzero : roundCurrency (spend rows) ≠ 0) :
    (unallocatedBuckets (aggregate dimension rows otherThreshold)).Perm
      (((groups dimension rows).filter (fun group => (groupData dimension group).isUnallocated)).map
        (fun group => costBucket (roundCurrency (spend rows)) (groupData dimension group))) := by
  rw [aggregate_nonzero otherThreshold nonzero]
  refine ((sortBuckets_perm _).filter _).trans ?_
  have flags : (withOther (roundCurrency (spend rows)) (rolled dimension rows otherThreshold)).filter CostBucket.isUnallocated =
      ((dataOf dimension rows).filter BucketData.isUnallocated).map (costBucket (roundCurrency (spend rows))) := by
    have own : (rolled dimension rows otherThreshold).buckets.filter CostBucket.isUnallocated =
        ((dataOf dimension rows).filter BucketData.isUnallocated).map (costBucket (roundCurrency (spend rows))) := by
      simp only [rolled,rollupOf]
      rw [List.filter_map,List.filter_filter]
      congr 1
      apply List.filter_congr
      intro d _
      cases flagged : d.isUnallocated with
      | true => simp [costBucket,flagged,isBelow]
      | false => simp [costBucket,flagged]
    rw [withOther]
    split
    · rw [List.filter_append,own]
      simp [otherBucket]
    · exact own
  rw [flags,dataOf,List.filter_map,List.map_map]
  rfl

theorem flagged_groups_perm (unmixed : Unmixed dimension rows) :
    ((groups dimension rows).filter (fun group => (groupData dimension group).isUnallocated)).Perm
      (groups dimension (rows.filter (isUnalloc dimension))) := by
  have distinct : ∀ taken : List AllocatedCostRow, (groups dimension taken).Nodup :=
    fun taken => Grouping.groupInto_nodup dimension.key taken
  rw [List.perm_ext_iff_of_nodup ((distinct rows).filter _) (distinct _)]
  intro group
  have narrowed : ∀ row ∈ rows, isUnalloc dimension row = true → dimension.key row = group.1 →
      (rows.filter (isUnalloc dimension)).filter (fun item => dimension.key item = group.1) =
        rows.filter (fun item => dimension.key item = group.1) := by
    intro row inside flagged same
    rw [List.filter_filter]
    apply List.filter_congr
    intro item member
    by_cases shared : dimension.key item = group.1
    · have equal := unmixed item member row inside (shared.trans same.symm)
      simp [shared,equal,flagged]
    · simp [shared]
  have inUnallocated : group ∈ groups dimension (rows.filter (isUnalloc dimension)) ↔ _ := Grouping.mem_groupInto_iff
  rw [List.mem_filter,inUnallocated]
  constructor
  · rintro ⟨member,flagged⟩
    obtain ⟨⟨row,inside,same⟩,collected⟩ := Grouping.mem_groupInto_iff.mp member
    rw [group_flag unmixed inside member same.symm] at flagged
    refine ⟨⟨row,List.mem_filter.mpr ⟨inside,flagged⟩,same⟩,?_⟩
    rw [narrowed row inside flagged same,collected]
  · rintro ⟨⟨row,found,same⟩,collected⟩
    obtain ⟨inside,flagged⟩ := List.mem_filter.mp found
    rw [narrowed row inside flagged same] at collected
    have member : group ∈ groups dimension rows := Grouping.mem_groupInto_iff.mpr ⟨⟨row,inside,same⟩,collected⟩
    exact ⟨member,(group_flag unmixed inside member same.symm).trans flagged⟩

theorem unallocated_close (nonzero : roundCurrency (spend rows) ≠ 0) (unmixed : Unmixed dimension rows) :
    |((unallocatedBuckets (aggregate dimension rows otherThreshold)).map CostBucket.totalAmount).sum -
        (aggregate dimension rows otherThreshold).unallocatedSpend| ≤
      (unallocatedBuckets (aggregate dimension rows otherThreshold)).length * (1/200) ↔
    ¬ Decimal.TiesApart 2 (groupSpends (groups dimension (rows.filter (isUnalloc dimension)))) := by
  have flagged := @unallocatedBuckets_perm dimension rows otherThreshold nonzero
  have grouped := flagged_groups_perm unmixed
  have total : ((unallocatedBuckets (aggregate dimension rows otherThreshold)).map CostBucket.totalAmount).sum =
      ((groupSpends (groups dimension (rows.filter (isUnalloc dimension)))).map roundCurrency).sum := by
    rw [(flagged.map _).sum_eq,List.map_map,(grouped.map _).sum_eq,groupSpends,List.map_map]
    rfl
  have counted : (unallocatedBuckets (aggregate dimension rows otherThreshold)).length =
      ((rows.filter (isUnalloc dimension)).map dimension.key).dedup.length := by
    rw [flagged.length_eq,List.length_map,grouped.length_eq,length_groups]
  have spent : (aggregate dimension rows otherThreshold).unallocatedSpend = roundCurrency (spend (rows.filter (isUnalloc dimension))) := by
    rw [aggregate_nonzero otherThreshold nonzero]
  rw [total,counted,spent]
  exact rounded_groups_close

theorem dataOf_shuffled (unmixed : Unmixed dimension rows) {shuffled : List AllocatedCostRow} (same : shuffled.Perm rows) :
    dataOf dimension shuffled = ((groups dimension shuffled).map Prod.fst).map
      (fun k => groupData dimension (k, rows.filter (fun row => dimension.key row = k))) := by
  rw [dataOf,List.map_map]
  apply List.map_congr_left
  intro group member
  obtain ⟨⟨row,inside,key⟩,collected⟩ := Grouping.mem_groupInto_iff.mp member
  have unmixedShuffled : Unmixed dimension shuffled :=
    fun a first b second => unmixed a (same.mem_iff.mp first) b (same.mem_iff.mp second)
  have rowsGroup : (group.1, rows.filter (fun item => dimension.key item = group.1)) ∈ groups dimension rows :=
    Grouping.mem_groupInto_iff.mpr ⟨⟨row,same.mem_iff.mp inside,key⟩,rfl⟩
  have permuted : group.2.Perm (rows.filter (fun item => dimension.key item = group.1)) := by
    rw [collected]
    exact same.filter _
  have flag := (group_flag unmixedShuffled inside member key.symm).trans
    (group_flag unmixed (same.mem_iff.mp inside) rowsGroup key.symm).symm
  simp only [groupData,Function.comp_apply] at flag ⊢
  rw [spend_perm permuted,permuted.length_eq,flag]

theorem dataOf_perm (unmixed : Unmixed dimension rows) {shuffled : List AllocatedCostRow} (same : shuffled.Perm rows) :
    (dataOf dimension shuffled).Perm (dataOf dimension rows) := by
  rw [dataOf_shuffled unmixed same,dataOf_shuffled unmixed (List.Perm.refl rows)]
  exact (Grouping.groupInto_keys_perm dimension.key same).map _

theorem withOther_perm {totalSpend : ℚ} {data other : List BucketData} (same : data.Perm other) :
    (withOther totalSpend (rollupOf totalSpend otherThreshold data)).Perm
      (withOther totalSpend (rollupOf totalSpend otherThreshold other)) := by
  have amount : (rollupOf totalSpend otherThreshold data).otherAmount = (rollupOf totalSpend otherThreshold other).otherAmount :=
    ((same.filter _).map _).sum_eq
  have count : (rollupOf totalSpend otherThreshold data).otherCount = (rollupOf totalSpend otherThreshold other).otherCount :=
    ((same.filter _).map _).sum_eq
  have bucket : otherBucket totalSpend (rollupOf totalSpend otherThreshold data) =
      otherBucket totalSpend (rollupOf totalSpend otherThreshold other) := by
    simp only [otherBucket,amount,count]
  have buckets : (rollupOf totalSpend otherThreshold data).buckets.Perm (rollupOf totalSpend otherThreshold other).buckets :=
    (same.filter _).map _
  rw [withOther,withOther,amount,bucket]
  split
  · exact buckets.append_right _
  · exact buckets

theorem buckets_perm (unmixed : Unmixed dimension rows) {shuffled : List AllocatedCostRow} (same : shuffled.Perm rows) :
    (aggregate dimension shuffled otherThreshold).buckets.Perm (aggregate dimension rows otherThreshold).buckets := by
  have total := spend_perm same
  by_cases zero : roundCurrency (spend rows) = 0
  · rw [aggregate_zero otherThreshold zero,aggregate_zero otherThreshold (by rw [total]; exact zero)]
  · rw [aggregate_nonzero otherThreshold zero,aggregate_nonzero otherThreshold (by rw [total]; exact zero)]
    refine (sortBuckets_perm _).trans (List.Perm.trans ?_ (sortBuckets_perm _).symm)
    rw [rolled,rolled,total]
    exact withOther_perm (dataOf_perm unmixed same)

theorem countedIn_flag (unmixed : Unmixed dimension rows) {row : AllocatedCostRow} (inside : row ∈ rows)
    (flagged : isUnalloc dimension row = true) {bucket : CostBucket} (counted : CountedIn dimension rows otherThreshold row bucket) :
    bucket.isUnallocated = true := by
  obtain ⟨_,data,collected,key,rfl⟩ := counted
  rw [tally_eq] at collected
  obtain ⟨group,member,rfl⟩ := List.mem_map.mp collected
  have flag := (group_flag unmixed inside member key).trans flagged
  rw [isBelow_of_unallocated _ _ flag]
  exact flag

theorem front_flag {row : AllocatedCostRow} {rest : List AllocatedCostRow} {group : Group}
    (member : group ∈ groups dimension (row :: rest)) (same : group.1 = dimension.key row) :
    (groupData dimension group).isUnallocated = isUnalloc dimension row := by
  have collected := (Grouping.mem_groupInto_iff.mp member).2
  rw [List.filter_cons_of_pos (by simp [same])] at collected
  simp [groupData,collected]

theorem unmixed_of_orderFree (nonzero : roundCurrency (spend rows) ≠ 0)
    (orderFree : ∀ shuffled : List AllocatedCostRow, shuffled.Perm rows → ∀ bucket,
      bucket ∈ (aggregate dimension shuffled otherThreshold).buckets ↔ bucket ∈ (aggregate dimension rows otherThreshold).buckets) :
    Unmixed dimension rows := by
  have forward : ∀ a ∈ rows, ∀ b ∈ rows, dimension.key a = dimension.key b → isUnalloc dimension a = true → isUnalloc dimension b = true := by
    intro a first b second same flagged
    have aFront := (List.perm_cons_erase first).symm
    have bFront := (List.perm_cons_erase second).symm
    have aNonzero : roundCurrency (spend (a :: rows.erase a)) ≠ 0 := by rwa [spend_perm aFront]
    have bNonzero : roundCurrency (spend (b :: rows.erase b)) ≠ 0 := by rwa [spend_perm bFront]
    let group : Group := (dimension.key a, (a :: rows.erase a).filter (fun row => dimension.key row = dimension.key a))
    have member : group ∈ groups dimension (a :: rows.erase a) := Grouping.mem_groupInto_iff.mpr ⟨⟨a,by simp,rfl⟩,rfl⟩
    have flag := (front_flag member rfl).trans flagged
    have present : costBucket _ (groupData dimension group) ∈ (aggregate dimension (a :: rows.erase a) otherThreshold).buckets :=
      (mem_buckets_flagged aNonzero flag).mpr ⟨group,member,flag,rfl⟩
    have moved := (orderFree _ bFront _).mpr ((orderFree _ aFront _).mp present)
    obtain ⟨other,otherMember,otherFlag,equal⟩ := (mem_buckets_flagged bNonzero flag).mp moved
    have key : other.1 = dimension.key b := (congrArg CostBucket.bucketKey equal).symm.trans same
    rw [front_flag otherMember key] at otherFlag
    exact otherFlag
  intro a first b second same
  rw [Bool.eq_iff_iff]
  exact ⟨forward a first b second same,forward b second a first same.symm⟩

end Flags

/-- For every dimension, threshold and list of rows, unallocated cost is never
absorbed exactly when the total rounds to zero, or no key mixes allocated and
unallocated rows and the ties of the unallocated keys are not rounded apart. -/
theorem unallocated_never_absorbed_iff (dimension : Dimension) (rows : List AllocatedCostRow) (otherThreshold : Option ℚ) :
    NeverAbsorbed dimension rows otherThreshold ↔ KeptApart dimension rows := by
  by_cases zero : roundCurrency (spend rows) = 0
  · refine ⟨fun _ => Or.inl zero,fun _ => ⟨?_,?_,?_⟩⟩
    · rintro row _ _ bucket ⟨nonzero,_⟩
      exact absurd zero nonzero
    · simp [aggregate_zero otherThreshold zero,unallocatedBuckets]
    · intro shuffled same bucket
      rw [aggregate_zero otherThreshold zero,aggregate_zero otherThreshold (by rw [spend_perm same]; exact zero)]
  · constructor
    · intro kept
      have unmixed := unmixed_of_orderFree zero kept.orderFree
      exact Or.inr ⟨unmixed,(unallocated_close zero unmixed).mp kept.visible⟩
    · intro apart
      rcases apart with none | ⟨unmixed,together⟩
      · exact absurd none zero
      · refine ⟨?_,(unallocated_close zero unmixed).mpr together,?_⟩
        · intro row inside flagged bucket counted
          exact countedIn_flag unmixed inside flagged counted
        · intro shuffled same bucket
          exact (buckets_perm unmixed same).mem_iff

/-- One scope with an allocated row first and an unallocated one after it: the
unallocated cost ends in a bucket that is not flagged. -/
theorem mixed_scope_absorbs :
    ¬ NeverAbsorbed .scope [directRow "CC-1" "scope" 60, directRow "UNALLOCATED" "scope" 40] none := by
  intro kept
  have visible := kept.visible
  revert visible
  decide +kernel

end CloudLens.Attribution
