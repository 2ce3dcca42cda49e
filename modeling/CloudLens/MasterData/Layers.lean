import CloudLens.MasterData.Versions
import Mathlib.Data.Fintype.EquivFin

/-! Records of tenants over global ones. Resolving a code and listing a master agree,
and show a tenant its own and the global records alone, in the stores where every
code has a global record that is listed before all others. -/
namespace CloudLens.MasterData
open Library
open Library.Calendar (Instant)

/-- The published records of a master in force at an instant. -/
def Shown (masterType : String) (t : Instant) (s : MasterDataStore) (r : MasterDataRecord) : Prop :=
  r ∈ s.rows ∧ r.masterType = normalised masterType ∧ isVisible t false r = true

/-- A tenant is shown its own and the global records, and the listing has exactly the
records to which the codes in force resolve. -/
structure Isolated (env : Environment) (masterType : String) (s : MasterDataStore) : Prop where
  got : ∀ call code asOf tenant r, tenant ≠ "" →
    getRecord env call masterType code asOf (some tenant) false s = .ok (some r) → r.tenantId = some tenant ∨ r.tenantId = none
  lists : ∀ call asOf tenant records, tenant ≠ "" →
    listRecords env call masterType asOf (some tenant) false s = .ok records →
      ∀ r ∈ records, r.tenantId = some tenant ∨ r.tenantId = none
  agree : ∀ getting listing asOf tenant records, tenant ≠ "" →
    listRecords env listing masterType (some asOf) (some tenant) false s = .ok records →
      ∀ r, r ∈ records ↔ ∃ o, Shown masterType asOf.reading s o ∧
        getRecord env getting masterType o.code (some asOf) (some tenant) false s = .ok (some r)

/-- Among the records in force of one code all are spelled alike and without blanks
around, a global one comes before all others in the sort order, and no tenant has two. -/
structure Layered (masterType : String) (s : MasterDataStore) : Prop where
  trimmed : ∀ t a, Shown masterType t s a → normalised a.code = Text.upper a.code
  spelled : ∀ t a b, Shown masterType t s a → Shown masterType t s b → Text.upper a.code = Text.upper b.code → a.code = b.code
  base : ∀ t a, Shown masterType t s a → ∃ g, Shown masterType t s g ∧ g.code = a.code ∧ g.tenantId = none ∧
    ∀ b, Shown masterType t s b → b.code = a.code → b ≠ g → g.sortOrder < b.sortOrder
  single : ∀ t a b tenant, Shown masterType t s a → Shown masterType t s b → a.code = b.code → tenant ≠ "" →
    a.tenantId = some tenant → b.tenantId = some tenant → a = b

def favours (id : String) (a b : MasterDataRecord) : Prop :=
  a.sortOrder < b.sortOrder ∨ a.sortOrder = b.sortOrder ∧ (b.id = id → a.id = id)

instance (id : String) : DecidableRel (favours id) := fun a b =>
  inferInstanceAs (Decidable (a.sortOrder < b.sortOrder ∨ a.sortOrder = b.sortOrder ∧ (b.id = id → a.id = id)))

theorem favours_total (id : String) (a b : MasterDataRecord) : favours id a b ∨ favours id b a := by
  unfold favours
  by_cases first : a.id = id
  · rcases lt_trichotomy a.sortOrder b.sortOrder with less | same | more
    · exact Or.inl (Or.inl less)
    · exact Or.inl (Or.inr ⟨same,fun _ => first⟩)
    · exact Or.inr (Or.inl more)
  · rcases lt_trichotomy a.sortOrder b.sortOrder with less | same | more
    · exact Or.inl (Or.inl less)
    · exact Or.inr (Or.inr ⟨same.symm,fun other => absurd other first⟩)
    · exact Or.inr (Or.inl more)

theorem favours_trans (id : String) (a b c : MasterDataRecord) (first : favours id a b) (second : favours id b c) :
    favours id a c := by
  unfold favours at *
  rcases first with less | ⟨same,kept⟩
  · rcases second with lessToo | ⟨sameToo,_⟩
    · exact Or.inl (less.trans lessToo)
    · exact Or.inl (sameToo ▸ less)
  · rcases second with less | ⟨sameToo,keptToo⟩
    · exact Or.inl (same ▸ less)
    · exact Or.inr ⟨same.trans sameToo,kept ∘ keptToo⟩

instance (id : String) : Std.Total (favours id) := ⟨favours_total id⟩

instance (id : String) : IsTrans MasterDataRecord (favours id) := ⟨favours_trans id⟩

theorem favours_ordered (id : String) (rows : List MasterDataRecord) :
    (rows.insertionSort (favours id)).Pairwise (fun a b => a.sortOrder ≤ b.sortOrder) := by
  refine (List.pairwise_insertionSort (favours id) rows).imp ?_
  intro a b before
  exact before.elim le_of_lt (fun same => same.1.le)

def Arrangement.favouring (id : String) : Arrangement where
  arrange := List.insertionSort (favours id)
  permuted := List.perm_insertionSort (favours id)
  ordered := favours_ordered id

section Spelling

theorem normalised_eq (word : String) : normalised word = Text.stripped (Text.upper word) := by
  rw [normalised,Text.stripped_upper]

theorem normalised_of_upper {word code : String} (spelled : Text.upper word = normalised code) :
    normalised word = Text.upper word := by
  rw [normalised_eq,spelled,normalised_eq,Text.stripped_stripped]

end Spelling

section Listing

variable {listing : Arrangement} {masterType code : String} {t : Instant} {tenant : String} {s : MasterDataStore}
  {r : MasterDataRecord}

theorem found_before {rows : List MasterDataRecord} {before : MasterDataRecord → MasterDataRecord → Prop}
    {test : MasterDataRecord → Bool} {first : MasterDataRecord} (ordered : rows.Pairwise before)
    (found : rows.find? test = some first) (member : r ∈ rows) (passes : test r = true) : r = first ∨ before first r := by
  obtain ⟨_,front,rest,split,unseen⟩ := List.find?_eq_some_iff_append.mp found
  rw [split] at member ordered
  rcases List.mem_append.mp member with early | late
  · exact absurd passes (by simpa using unseen r early)
  · rcases List.mem_cons.mp late with same | behind
    · exact Or.inl same
    · exact Or.inr ((List.pairwise_cons.mp (List.pairwise_append.mp ordered).2.1).1 r behind)

theorem found_first {rows : List MasterDataRecord} {test : MasterDataRecord → Bool} {first : MasterDataRecord}
    (ordered : rows.Pairwise (fun a b => a.sortOrder ≤ b.sortOrder)) (found : rows.find? test = some first)
    (member : r ∈ rows) (passes : test r = true) : first.sortOrder ≤ r.sortOrder := by
  rcases found_before ordered found member passes with same | before
  · rw [same]
  · exact before

def shownRows (listing : Arrangement) (masterType : String) (t : Instant) (s : MasterDataStore) : List MasterDataRecord :=
  (listRecordsOf listing (normalised masterType) s).filter (isVisible t false)

theorem mem_shownRows : r ∈ shownRows listing masterType t s ↔ Shown masterType t s r := by
  simp [shownRows,listRecordsOf,(listing.permuted _).mem_iff,Shown,and_assoc]

theorem shownRows_ordered : (shownRows listing masterType t s).Pairwise (fun a b => a.sortOrder ≤ b.sortOrder) :=
  (listing.ordered _).filter _

theorem get_listStep (named : tenant ≠ "") (rows : List MasterDataRecord) (code : String) :
    (rows.foldl (listStep (some tenant)) Dict.empty).get code =
      (rows.reverse.find? (fun r => r.tenantId = some tenant && r.code = code)).or (rows.find? (fun r => r.code = code)) := by
  have present : given (some tenant) ≠ none := by
    simp [given,Option.filter,named]
  induction rows using List.reverseRecOn with
  | nil => rfl
  | append_singleton rows r ih =>
    rw [List.foldl_append,List.foldl_cons,List.foldl_nil,List.reverse_append,List.reverse_singleton,List.singleton_append,
      List.find?_cons,List.find?_append]
    by_cases own : r.tenantId = some tenant
    · by_cases same : r.code = code
      · simp [listStep,present,own,same,Dict.get_assign]
      · simp [listStep,present,own,same,Ne.symm same,Dict.get_assign,ih]
    · by_cases same : r.code = code
      · cases found : (rows.foldl (listStep (some tenant)) Dict.empty).get code with
        | none =>
          rw [found] at ih
          obtain ⟨noOwn,none⟩ := Option.or_eq_none_iff.mp ih.symm
          simp [listStep,present,own,same,found,noOwn,none,Dict.get_assign]
        | some first =>
          rw [found] at ih
          rcases Option.or_eq_some_iff.mp ih.symm with last | ⟨noOwn,early⟩
          · simp [listStep,present,own,same,found,last]
          · simp [listStep,present,own,same,found,noOwn,early]
      · by_cases known : (rows.foldl (listStep (some tenant)) Dict.empty).get r.code = none
        · simp [listStep,present,own,same,Ne.symm same,known,Dict.get_assign,ih]
        · simp [listStep,present,own,same,known,ih]

theorem mem_listed_iff (named : tenant ≠ "") :
    r ∈ listed listing (normalised masterType) t (some tenant) false s ↔
      ((shownRows listing masterType t s).reverse.find? (fun o => o.tenantId = some tenant && o.code = r.code)).or
        ((shownRows listing masterType t s).find? (fun o => o.code = r.code)) = some r := by
  have kept := get_listStep named (shownRows listing masterType t s)
  rw [← kept r.code]
  unfold listed
  rw [List.mem_insertionSort]
  change r ∈ ((shownRows listing masterType t s).foldl (listStep (some tenant)) Dict.empty).values ↔ _
  rw [Dict.values,List.mem_map]
  constructor
  · rintro ⟨⟨code,value⟩,member,rfl⟩
    have held := Dict.get_eq_some_iff.mpr member
    have spelled : value.code = code := by
      rw [kept code] at held
      rcases Option.or_eq_some_iff.mp held with last | ⟨_,first⟩
      · have found := List.find?_some last
        simp only [Bool.and_eq_true,decide_eq_true_eq] at found
        exact found.2
      · simpa using List.find?_some first
    rw [spelled]
    exact held
  · intro held
    exact ⟨(r.code, r),Dict.get_eq_some_iff.mp held,rfl⟩

theorem mem_candidates_shown : r ∈ candidates listing (normalised masterType) code t false s ↔
    Shown masterType t s r ∧ Text.upper r.code = normalised code := by
  rw [mem_candidates,Shown]
  tauto

theorem candidates_ordered : (candidates listing (normalised masterType) code t false s).Pairwise
    (fun a b => a.sortOrder ≤ b.sortOrder) :=
  (listing.ordered _).filter _

theorem given_named (named : tenant ≠ "") : given (some tenant) = some tenant := by
  simp [given,Option.filter,named]

theorem resolve_own (named : tenant ≠ "") (shown : Shown masterType t s r) (spelled : Text.upper r.code = normalised code)
    (own : r.tenantId = some tenant)
    (single : ∀ o, Shown masterType t s o → Text.upper o.code = normalised code → o.tenantId = some tenant → o = r) :
    resolve listing (normalised masterType) code t (some tenant) false s = some r := by
  have member : r ∈ candidates listing (normalised masterType) code t false s := mem_candidates_shown.mpr ⟨shown,spelled⟩
  unfold resolve preferred
  rw [given_named named,Option.bind_some]
  cases found : (candidates listing (normalised masterType) code t false s).find? (fun o => o.tenantId = some tenant) with
  | none => exact absurd (by simpa using own) (List.find?_eq_none.mp found r member)
  | some o =>
    obtain ⟨seen,same⟩ := mem_candidates_shown.mp (List.mem_of_find?_eq_some found)
    exact congrArg some (single o seen same (by simpa using List.find?_some found))

theorem resolve_global (named : tenant ≠ "") (shown : Shown masterType t s r) (spelled : Text.upper r.code = normalised code)
    (global : r.tenantId = none)
    (unowned : ∀ o, Shown masterType t s o → Text.upper o.code = normalised code → o.tenantId ≠ some tenant)
    (first : ∀ o, Shown masterType t s o → Text.upper o.code = normalised code → o.tenantId = none → o ≠ r →
      r.sortOrder < o.sortOrder) :
    resolve listing (normalised masterType) code t (some tenant) false s = some r := by
  have member : r ∈ candidates listing (normalised masterType) code t false s := mem_candidates_shown.mpr ⟨shown,spelled⟩
  have none : (candidates listing (normalised masterType) code t false s).find? (fun o => o.tenantId = some tenant) =
      none := by
    rw [List.find?_eq_none]
    intro o held
    obtain ⟨seen,same⟩ := mem_candidates_shown.mp held
    simpa using unowned o seen same
  unfold resolve preferred
  rw [given_named named,Option.bind_some,none]
  cases found : (candidates listing (normalised masterType) code t false s).find? (fun o => o.tenantId = Option.none) with
  | none => exact absurd (by simpa using global) (List.find?_eq_none.mp found r member)
  | some o =>
    have foundGlobal := List.find?_some found
    obtain ⟨seen,same⟩ := mem_candidates_shown.mp (List.mem_of_find?_eq_some found)
    by_cases equal : o = r
    · rw [equal]
      rfl
    · have later := first o seen same (by simpa using foundGlobal) equal
      have before := found_first candidates_ordered found member (by simpa using global)
      omega

theorem resolve_none (absent : ∀ o, Shown masterType t s o → Text.upper o.code ≠ normalised code) (wanted : Option String) :
    resolve listing (normalised masterType) code t wanted false s = none := by
  have empty : candidates listing (normalised masterType) code t false s = [] := by
    rw [List.eq_nil_iff_forall_not_mem]
    intro o member
    obtain ⟨seen,same⟩ := mem_candidates_shown.mp member
    exact absent o seen same
  rw [resolve,empty]
  unfold preferred
  cases given wanted <;> rfl

end Listing

section Layers

variable {listing : Arrangement} {masterType code tenant : String} {t : Instant} {s : MasterDataStore}
  {r : MasterDataRecord}

/-- The record of the tenant, or the global one before all others. -/
def Picked (masterType : String) (t : Instant) (tenant : String) (s : MasterDataStore) (code : String)
    (r : MasterDataRecord) : Prop :=
  Shown masterType t s r ∧ Text.upper r.code = normalised code ∧ (r.tenantId = some tenant ∨ r.tenantId = none ∧
    ∀ o, Shown masterType t s o → Text.upper o.code = normalised code → o.tenantId ≠ some tenant ∧
      (o ≠ r → r.sortOrder < o.sortOrder))

theorem Layered.alike (layered : Layered masterType s) {a b : MasterDataRecord} (first : Shown masterType t s a)
    (second : Shown masterType t s b) (spelled : Text.upper a.code = normalised code) (same : Text.upper b.code = normalised code) :
    a.code = b.code :=
  layered.spelled t a b first second (spelled.trans same.symm)

theorem Layered.resolve_iff (layered : Layered masterType s) (named : tenant ≠ "") :
    resolve listing (normalised masterType) code t (some tenant) false s = some r ↔ Picked masterType t tenant s code r := by
  by_cases occupied : ∃ a, Shown masterType t s a ∧ Text.upper a.code = normalised code
  · obtain ⟨a,shown,spelled⟩ := occupied
    by_cases owned : ∃ o, Shown masterType t s o ∧ Text.upper o.code = normalised code ∧ o.tenantId = some tenant
    · obtain ⟨o,seen,same,own⟩ := owned
      have single : ∀ x, Shown masterType t s x → Text.upper x.code = normalised code → x.tenantId = some tenant → x = o := by
        intro x present alike holder
        exact layered.single t x o tenant present seen (layered.alike present seen alike same) named holder own
      rw [resolve_own named seen same own single,Option.some_inj]
      constructor
      · rintro rfl
        exact ⟨seen,same,Or.inl own⟩
      · rintro ⟨present,alike,holder | ⟨_,unowned⟩⟩
        · exact (single r present alike holder).symm
        · exact absurd own (unowned o seen same).1
    · have unowned : ∀ x, Shown masterType t s x → Text.upper x.code = normalised code → x.tenantId ≠ some tenant := by
        intro x present alike holder
        exact owned ⟨x,present,alike,holder⟩
      obtain ⟨g,seen,same,global,first⟩ := layered.base t a shown
      have spelledBase : Text.upper g.code = normalised code := by
        rw [same]
        exact spelled
      have firstBase : ∀ x, Shown masterType t s x → Text.upper x.code = normalised code → x ≠ g → g.sortOrder < x.sortOrder := by
        intro x present alike
        exact first x present (layered.alike present shown alike spelled)
      rw [resolve_global named seen spelledBase global unowned (fun x present alike _ => firstBase x present alike),
        Option.some_inj]
      constructor
      · rintro rfl
        exact ⟨seen,spelledBase,Or.inr ⟨global,fun x present alike => ⟨unowned x present alike,firstBase x present alike⟩⟩⟩
      · rintro ⟨present,alike,holder | ⟨_,ahead⟩⟩
        · exact absurd holder (unowned r present alike)
        · by_contra different
          have before := (ahead g seen spelledBase).2 different
          have after := firstBase r present alike (Ne.symm different)
          omega
  · have absent : ∀ o, Shown masterType t s o → Text.upper o.code ≠ normalised code := by
      intro o shown spelled
      exact occupied ⟨o,shown,spelled⟩
    rw [resolve_none absent]
    refine iff_of_false (by simp) ?_
    rintro ⟨shown,spelled,_⟩
    exact absent r shown spelled

theorem Layered.listed_iff (layered : Layered masterType s) (named : tenant ≠ "") :
    r ∈ listed listing (normalised masterType) t (some tenant) false s ↔ Picked masterType t tenant s r.code r := by
  rw [mem_listed_iff named]
  constructor
  · intro kept
    rcases Option.or_eq_some_iff.mp kept with last | ⟨noOwn,first⟩
    · have shown := mem_shownRows.mp (List.mem_reverse.mp (List.mem_of_find?_eq_some last))
      have own := List.find?_some last
      simp only [Bool.and_eq_true,decide_eq_true_eq] at own
      exact ⟨shown,(layered.trimmed t r shown).symm,Or.inl own.1⟩
    · have shown := mem_shownRows.mp (List.mem_of_find?_eq_some first)
      obtain ⟨g,seen,same,global,ahead⟩ := layered.base t r shown
      have trimmed := (layered.trimmed t r shown).symm
      have base : g = r := by
        by_contra different
        have later := ahead r shown rfl (Ne.symm different)
        have before := found_first shownRows_ordered first (mem_shownRows.mpr seen) (by simpa using same)
        omega
      rw [base] at global ahead
      refine ⟨shown,trimmed,Or.inr ⟨global,?_⟩⟩
      intro o present alike
      have code := layered.alike present shown alike trimmed
      refine ⟨?_,ahead o present code⟩
      intro own
      have absent := List.find?_eq_none.mp noOwn o (List.mem_reverse.mpr (mem_shownRows.mpr present))
      simp [own,code] at absent
  · rintro ⟨shown,trimmed,own | ⟨global,ahead⟩⟩
    · have member : r ∈ (shownRows listing masterType t s).reverse := List.mem_reverse.mpr (mem_shownRows.mpr shown)
      cases last : (shownRows listing masterType t s).reverse.find? (fun o => o.tenantId = some tenant && o.code = r.code) with
      | none =>
        have absent := List.find?_eq_none.mp last r member
        simp [own] at absent
      | some o =>
        have found := List.find?_some last
        simp only [Bool.and_eq_true,decide_eq_true_eq] at found
        have seen := mem_shownRows.mp (List.mem_reverse.mp (List.mem_of_find?_eq_some last))
        rw [layered.single t o r tenant seen shown found.2 named found.1 own]
        rfl
    · have none : (shownRows listing masterType t s).reverse.find? (fun o => o.tenantId = some tenant && o.code = r.code) =
          none := by
        rw [List.find?_eq_none]
        intro o member
        have seen := mem_shownRows.mp (List.mem_reverse.mp member)
        simp only [Bool.and_eq_true,decide_eq_true_eq,not_and]
        intro own code
        exact absurd own (ahead o seen (by rw [code]; exact trimmed)).1
      rw [none,Option.none_or]
      have member : r ∈ shownRows listing masterType t s := mem_shownRows.mpr shown
      cases first : (shownRows listing masterType t s).find? (fun o => o.code = r.code) with
      | none =>
        have absent := List.find?_eq_none.mp first r member
        simp at absent
      | some o =>
        have code : o.code = r.code := by simpa using List.find?_some first
        have seen := mem_shownRows.mp (List.mem_of_find?_eq_some first)
        by_cases equal : o = r
        · rw [equal]
        · have later := (ahead o seen (by rw [code]; exact trimmed)).2 equal
          have before := found_first shownRows_ordered first member (by simp)
          omega

end Layers

section Necessity

variable {env : Environment} {entry : MasterRegistryEntry} {masterType : String} {s : MasterDataStore}

theorem unused_tenant (s : MasterDataStore) (other : String) :
    ∃ tenant, tenant ≠ "" ∧ tenant ≠ other ∧ ∀ r ∈ s.rows, r.tenantId ≠ some tenant := by
  obtain ⟨tenant,fresh⟩ := Infinite.exists_notMem_finset
    (insert "" (insert other (s.rows.filterMap MasterDataRecord.tenantId).toFinset))
  simp only [Finset.mem_insert,List.mem_toFinset,List.mem_filterMap,not_or,not_exists,not_and] at fresh
  exact ⟨tenant,fresh.1,fresh.2.1,fresh.2.2⟩

theorem resolve_congr {listing : Arrangement} {code other : String} {t : Instant} {wanted : Option String}
    (same : normalised code = normalised other) : resolve listing (normalised masterType) code t wanted false s =
      resolve listing (normalised masterType) other t wanted false s := by
  simp only [resolve,candidates,same]

/-- The two halves of the isolation without the clock and the requested time. -/
structure Separated (masterType : String) (s : MasterDataStore) : Prop where
  owner : ∀ listing t tenant r, tenant ≠ "" → r ∈ listed listing (normalised masterType) t (some tenant) false s →
    r.tenantId = some tenant ∨ r.tenantId = none
  agree : ∀ getting listing t tenant r, tenant ≠ "" → (r ∈ listed listing (normalised masterType) t (some tenant) false s ↔
    ∃ o, Shown masterType t s o ∧ resolve getting (normalised masterType) o.code t (some tenant) false s = some r)

theorem Isolated.separated (declared : env.manifest (normalised masterType) = some entry)
    (isolated : Isolated env masterType s) : Separated masterType s where
  owner := by
    intro listing t tenant r named member
    refine isolated.lists ⟨t,"",listing⟩ none tenant _ named ?_ r member
    simp [listRecords,registered_of_manifest declared,targetTimeOf]
  agree := by
    intro getting listing t tenant r named
    have both := isolated.agree ⟨t,"",getting⟩ ⟨t,"",listing⟩ ⟨t,none⟩ tenant
      (listed listing (normalised masterType) t (some tenant) false s) named
      (by simp [listRecords,registered_of_manifest declared,targetTimeOf]) r
    simpa [getRecord,registered_of_manifest declared,targetTimeOf] using both

variable {t : Instant} {a b : MasterDataRecord}

theorem listed_first (listing : Arrangement) {tenant : String} (named : tenant ≠ "")
    (unused : ∀ r ∈ s.rows, r.tenantId ≠ some tenant) (shown : Shown masterType t s a) :
    ∃ first, Shown masterType t s first ∧ first.code = a.code ∧
      (shownRows listing masterType t s).find? (fun o => o.code = a.code) = some first ∧
      first ∈ listed listing (normalised masterType) t (some tenant) false s := by
  cases found : (shownRows listing masterType t s).find? (fun o => o.code = a.code) with
  | none =>
    have absent := List.find?_eq_none.mp found a (mem_shownRows.mpr shown)
    simp at absent
  | some first =>
    have code : first.code = a.code := by simpa using List.find?_some found
    have seen := mem_shownRows.mp (List.mem_of_find?_eq_some found)
    refine ⟨first,seen,code,rfl,?_⟩
    have noOwn : (shownRows listing masterType t s).reverse.find?
        (fun o => o.tenantId = some tenant && o.code = first.code) = none := by
      rw [List.find?_eq_none]
      intro o member
      simp [unused o (mem_shownRows.mp (List.mem_reverse.mp member)).1]
    rw [mem_listed_iff named,noOwn,Option.none_or,code]
    exact found

theorem Separated.spelled_as_resolved (separated : Separated masterType s) {listing : Arrangement} {tenant : String}
    (named : tenant ≠ "") {r : MasterDataRecord}
    (member : r ∈ listed listing (normalised masterType) t (some tenant) false s) (getting : Arrangement) :
    normalised r.code = Text.upper r.code ∧
      resolve getting (normalised masterType) r.code t (some tenant) false s = some r := by
  obtain ⟨o,_,found⟩ := (separated.agree getting listing t tenant r named).mp member
  have spelled := (mem_candidates_shown.mp (preferred_mem found)).2
  have trimmed := normalised_of_upper spelled
  refine ⟨trimmed,?_⟩
  rw [resolve_congr (trimmed.trans spelled)]
  exact found

theorem Separated.layered (separated : Separated masterType s) : Layered masterType s := by
  obtain ⟨tenant,named,_,unused⟩ := unused_tenant s ""
  have trimmed : ∀ t a, Shown masterType t s a → normalised a.code = Text.upper a.code := by
    intro t a shown
    obtain ⟨first,_,code,_,member⟩ := listed_first .stable named unused shown
    rw [← code]
    exact (separated.spelled_as_resolved named member .stable).1
  have constant : ∀ t a b (one two : Arrangement), Shown masterType t s a → Shown masterType t s b →
      Text.upper a.code = Text.upper b.code → ∀ first second,
        (shownRows one masterType t s).find? (fun o => o.code = a.code) = some first →
        (shownRows two masterType t s).find? (fun o => o.code = b.code) = some second → first = second := by
    intro t a b one two shown seen same first second found foundToo
    obtain ⟨first',_,code,foundAgain,member⟩ := listed_first one named unused shown
    obtain ⟨second',_,codeToo,foundTooAgain,memberToo⟩ := listed_first two named unused seen
    cases found.symm.trans foundAgain
    cases foundToo.symm.trans foundTooAgain
    have resolved := (separated.spelled_as_resolved named member .stable).2
    have resolvedToo := (separated.spelled_as_resolved named memberToo .stable).2
    have spelled : normalised first.code = normalised second.code := by
      rw [code,codeToo,trimmed t a shown,trimmed t b seen,same]
    rw [resolve_congr spelled,resolvedToo] at resolved
    exact (Option.some.inj resolved).symm
  refine ⟨trimmed,?_,?_,?_⟩
  · intro t a b shown seen same
    obtain ⟨first,_,code,found,_⟩ := listed_first .stable named unused shown
    obtain ⟨second,_,codeToo,foundToo,_⟩ := listed_first .stable named unused seen
    rw [← code,constant t a b .stable .stable shown seen same first second found foundToo,codeToo]
  · intro t a shown
    obtain ⟨g,seen,code,found,member⟩ := listed_first .stable named unused shown
    have global := (separated.owner .stable t tenant g named member).resolve_left (unused g seen.1)
    refine ⟨g,seen,code,global,?_⟩
    intro b present sameCode different
    obtain ⟨first,_,_,foundThere,_⟩ := listed_first (.favouring b.id) named unused shown
    obtain rfl := constant t a a .stable (.favouring b.id) shown shown rfl g first found foundThere
    have ordered : (shownRows (.favouring b.id) masterType t s).Pairwise (favours b.id) :=
      (List.pairwise_insertionSort (favours b.id) _).filter _
    rcases found_before ordered foundThere (mem_shownRows.mpr present) (by simpa using sameCode) with same | before
    · exact absurd same different
    · rcases before with less | ⟨_,kept⟩
      · exact less
      · exact absurd (List.inj_on_of_nodup_map s.keyed present.1 seen.1 (kept rfl).symm) different
  · intro t a b owner shown seen same namedOwner own ownToo
    cases last : (shownRows .stable masterType t s).reverse.find? (fun o => o.tenantId = some owner && o.code = a.code) with
    | none =>
      have absent := List.find?_eq_none.mp last a (List.mem_reverse.mpr (mem_shownRows.mpr shown))
      simp [own] at absent
    | some x =>
      have found := List.find?_some last
      simp only [Bool.and_eq_true,decide_eq_true_eq] at found
      have member : x ∈ listed .stable (normalised masterType) t (some owner) false s := by
        rw [mem_listed_iff namedOwner,found.2,last]
        rfl
      have equal : ∀ o, Shown masterType t s o → o.code = a.code → o.tenantId = some owner → o = x := by
        intro o present sameCode holder
        have trimmed := (separated.spelled_as_resolved namedOwner member (.favouring o.id)).1
        have resolved := (separated.spelled_as_resolved namedOwner member (.favouring o.id)).2
        have candidate : o ∈ candidates (.favouring o.id) (normalised masterType) x.code t false s := by
          refine mem_candidates_shown.mpr ⟨present,?_⟩
          rw [trimmed,found.2,sameCode]
        have ordered : (candidates (.favouring o.id) (normalised masterType) x.code t false s).Pairwise (favours o.id) :=
          (List.pairwise_insertionSort (favours o.id) _).filter _
        have backward : (shownRows .stable masterType t s).reverse.Pairwise (fun p q => q.sortOrder ≤ p.sortOrder) :=
          List.pairwise_reverse.mpr shownRows_ordered
        rcases found_before backward last (List.mem_reverse.mpr (mem_shownRows.mpr present))
          (by simp [holder,sameCode]) with same | after
        · exact same
        · unfold resolve preferred at resolved
          rw [given_named namedOwner,Option.bind_some] at resolved
          cases first : (candidates (.favouring o.id) (normalised masterType) x.code t false s).find?
              (fun r => r.tenantId = some owner) with
          | none => exact absurd (by simpa using holder) (List.find?_eq_none.mp first o candidate)
          | some y =>
            rw [first] at resolved
            cases resolved
            rcases found_before ordered first candidate (by simpa using holder) with same | less | ⟨_,kept⟩
            · exact same
            · omega
            · have seenRow := (mem_candidates_shown.mp (List.mem_of_find?_eq_some first)).1.1
              exact List.inj_on_of_nodup_map s.keyed present.1 seenRow (kept rfl).symm
      rw [equal a shown rfl own,equal b seen same.symm ownToo]

theorem Layered.isolated (declared : env.manifest (normalised masterType) = some entry)
    (layered : Layered masterType s) : Isolated env masterType s where
  got := by
    intro call code asOf tenant r named found
    simp only [getRecord,registered_of_manifest declared,Except.ok.injEq] at found
    obtain ⟨_,_,own | ⟨global,_⟩⟩ := (layered.resolve_iff named).mp found
    · exact Or.inl own
    · exact Or.inr global
  lists := by
    intro call asOf tenant records named made r member
    simp only [listRecords,registered_of_manifest declared,Except.ok.injEq] at made
    rw [← made] at member
    obtain ⟨_,_,own | ⟨global,_⟩⟩ := (layered.listed_iff named).mp member
    · exact Or.inl own
    · exact Or.inr global
  agree := by
    intro getting listing asOf tenant records named made r
    simp only [listRecords,registered_of_manifest declared,Except.ok.injEq,targetTimeOf] at made
    simp only [getRecord,registered_of_manifest declared,Except.ok.injEq,targetTimeOf]
    rw [← made,layered.listed_iff named]
    constructor
    · intro picked
      exact ⟨r,picked.1,(layered.resolve_iff named).mpr picked⟩
    · rintro ⟨o,shown,found⟩
      have picked := (layered.resolve_iff named).mp found
      have spelled : normalised r.code = normalised o.code := (layered.trimmed _ r picked.1).trans picked.2.1
      have own : resolve getting.listing (normalised masterType) r.code asOf.reading (some tenant) false s = some r := by
        rw [resolve_congr spelled]
        exact found
      exact (layered.resolve_iff named).mp own

theorem isolated_iff_layered (declared : env.manifest (normalised masterType) = some entry) :
    Isolated env masterType s ↔ Layered masterType s :=
  ⟨fun isolated => (isolated.separated declared).layered,fun layered => layered.isolated declared⟩

end Necessity

end CloudLens.MasterData
