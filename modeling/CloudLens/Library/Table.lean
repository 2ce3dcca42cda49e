import Mathlib.Data.List.AList
import Mathlib.Data.List.Dedup
import Mathlib.Data.List.Induction
import Mathlib.Algebra.BigOperators.Group.List.Basic

/-! Tables with a primary key, over the association lists that carry the
distinctness of their keys. The operations are those of a relational store:
deletion by predicate, insertion under a conflict rule that combines the stored
row with the proposed one, insertion of grouped totals, and sums over the rows a
predicate selects. Row order carries no meaning. -/
namespace CloudLens.Library

abbrev Table (Key Row : Type) : Type := AList (fun _ : Key => Row)

namespace Table

variable {Key Row : Type}

def selectWhere (p : Key → Row → Bool) (table : Table Key Row) : List (Σ _ : Key, Row) :=
  table.entries.filter (fun entry => p entry.1 entry.2)

def deleteWhere (p : Key → Row → Bool) (table : Table Key Row) : Table Key Row :=
  ⟨table.entries.filter (fun entry => !p entry.1 entry.2),
    table.nodupKeys.sublist List.filter_sublist⟩

def sumWhere {M : Type} [AddMonoid M] (p : Key → Row → Bool) (column : Key → Row → M)
    (table : Table Key Row) : M :=
  ((table.selectWhere p).map (fun entry => column entry.1 entry.2)).sum

def countWhere (p : Key → Row → Bool) (table : Table Key Row) : ℕ :=
  (table.selectWhere p).length

def upsert [DecidableEq Key] (conflict : Row → Row → Row) (key : Key) (row : Row)
    (table : Table Key Row) : Table Key Row :=
  table.insert key (match table.lookup key with
    | some stored => conflict stored row
    | none => row)

def upsertAll [DecidableEq Key] {Item : Type} (conflict : Row → Row → Row) (key : Item → Key) (row : Item → Row)
    (items : List Item) (table : Table Key Row) : Table Key Row :=
  items.foldl (fun current item => current.upsert conflict (key item) (row item)) table

def insertGroups [DecidableEq Key] {Entry : Type} (group : Entry → Key) (total : List Entry → Row)
    (entries : List Entry) (table : Table Key Row) : Table Key Row :=
  table.upsertAll (fun _ proposed => proposed) id
    (fun key => total (entries.filter (fun entry => group entry = key))) (entries.map group).dedup

def summary {Entry : Type} (total : List Entry → Row) : List Entry → Option Row
  | [] => none
  | entry :: rest => some (total (entry :: rest))

variable [DecidableEq Key]

theorem lookup_eq_some_iff {table : Table Key Row} {key : Key} {row : Row} :
    table.lookup key = some row ↔ (⟨key,row⟩ : Σ _ : Key, Row) ∈ table.entries :=
  AList.mem_lookup_iff

theorem mem_selectWhere {p : Key → Row → Bool} {table : Table Key Row} {key : Key} {row : Row} :
    (⟨key,row⟩ : Σ _ : Key, Row) ∈ table.selectWhere p ↔
      table.lookup key = some row ∧ p key row = true := by
  simp [selectWhere,lookup_eq_some_iff]

theorem lookup_deleteWhere (p : Key → Row → Bool) (table : Table Key Row) (key : Key) :
    (table.deleteWhere p).lookup key = (table.lookup key).filter (fun row => !p key row) := by
  ext row
  simp only [lookup_eq_some_iff,Option.filter_eq_some_iff,deleteWhere,List.mem_filter]

theorem lookup_upsert_self (conflict : Row → Row → Row) (key : Key) (row : Row)
    (table : Table Key Row) :
    (table.upsert conflict key row).lookup key = some (match table.lookup key with
      | some stored => conflict stored row
      | none => row) := by
  simp [upsert]

theorem lookup_upsert_ne (conflict : Row → Row → Row) {key other : Key} (row : Row)
    (table : Table Key Row) (distinct : other ≠ key) :
    (table.upsert conflict key row).lookup other = table.lookup other := by
  simp [upsert,AList.lookup_insert_ne distinct]

theorem lookup_overwrite (table : Table Key Row) (key other : Key) (row : Row) :
    (table.upsert (fun _ proposed => proposed) key row).lookup other = if other = key then some row else table.lookup other := by
  split
  · rename_i same
    subst same
    rw [lookup_upsert_self]
    split <;> rfl
  · rename_i distinct
    exact lookup_upsert_ne _ _ _ distinct

private theorem filter_kerase (q : (Σ _ : Key, Row) → Bool) (key : Key) (rows : List (Σ _ : Key, Row))
    (absent : ∀ row, (⟨key,row⟩ : Σ _ : Key, Row) ∈ rows → q ⟨key,row⟩ = false) :
    (rows.kerase key).filter q = rows.filter q := by
  induction rows with
  | nil => rfl
  | cons entry rest ih =>
    obtain ⟨k,row⟩ := entry
    by_cases same : key = k
    · subst same
      have erased : (⟨key,row⟩ :: rest : List (Σ _ : Key, Row)).kerase key = rest :=
        List.kerase_cons_eq rfl
      rw [erased,List.filter_cons,absent row (by simp)]
      rfl
    · rw [List.kerase_cons_ne same,List.filter_cons,List.filter_cons,
        ih (fun other member => absent other (by simp [member]))]

theorem selectWhere_upsert_other (p : Key → Row → Bool) (conflict : Row → Row → Row)
    (key : Key) (row : Row) (table : Table Key Row)
    (before : ∀ stored, table.lookup key = some stored → p key stored = false)
    (after : ∀ stored, (table.upsert conflict key row).lookup key = some stored → p key stored = false) :
    (table.upsert conflict key row).selectWhere p = table.selectWhere p := by
  rw [lookup_upsert_self] at after
  have fresh := after _ rfl
  simp only [selectWhere,upsert,AList.entries_insert,List.filter_cons,fresh]
  exact filter_kerase _ key _ (fun stored member => before stored (lookup_eq_some_iff.mpr member))

theorem selectWhere_upsert_new (p : Key → Row → Bool) (conflict : Row → Row → Row)
    (key : Key) (row : Row) (table : Table Key Row) (absent : table.lookup key = none) :
    (table.upsert conflict key row).selectWhere p =
      if p key row then ⟨key,row⟩ :: table.selectWhere p else table.selectWhere p := by
  have missing : key ∉ table := AList.lookup_eq_none.mp absent
  simp only [selectWhere,upsert,absent,AList.entries_insert_of_notMem missing,List.filter_cons]

omit [DecidableEq Key] in
theorem selectWhere_deleteWhere (p q : Key → Row → Bool) (table : Table Key Row) :
    (table.deleteWhere q).selectWhere p = table.selectWhere (fun key row => p key row && !q key row) := by
  simp only [selectWhere,deleteWhere,List.filter_filter]

omit [DecidableEq Key] in
theorem filter_selectWhere (p : Key → Row → Bool) (q : (Σ _ : Key, Row) → Bool) (table : Table Key Row) :
    (table.selectWhere p).filter q = table.selectWhere (fun key row => q ⟨key,row⟩ && p key row) := by
  simp only [selectWhere,List.filter_filter]

theorem selectWhere_congr {p q : Key → Row → Bool} {table : Table Key Row}
    (agree : ∀ key row, table.lookup key = some row → p key row = q key row) :
    table.selectWhere p = table.selectWhere q := by
  apply List.filter_congr
  rintro ⟨key,row⟩ member
  exact agree key row (lookup_eq_some_iff.mpr member)

theorem selectWhere_eq_nil_iff {p : Key → Row → Bool} {table : Table Key Row} :
    table.selectWhere p = [] ↔ ∀ key row, table.lookup key = some row → p key row = false := by
  rw [List.eq_nil_iff_forall_not_mem]
  constructor
  · intro none key row found
    have absent := none ⟨key,row⟩
    rw [mem_selectWhere] at absent
    simpa [found] using absent
  · intro rejected entry member
    obtain ⟨key,row⟩ := entry
    obtain ⟨found,selected⟩ := mem_selectWhere.mp member
    rw [rejected key row found] at selected
    cases selected

theorem selectWhere_eq_singleton {p : Key → Row → Bool} {table : Table Key Row} {key : Key} {row : Row}
    (stored : table.lookup key = some row) (selected : p key row = true)
    (only : ∀ other kept, table.lookup other = some kept → p other kept = true → other = key) :
    table.selectWhere p = [⟨key,row⟩] := by
  have distinct : (table.selectWhere p).Nodup := table.nodupKeys.nodup.filter _
  have same : ∀ entry, entry ∈ table.selectWhere p ↔ entry ∈ [(⟨key,row⟩ : Σ _ : Key, Row)] := by
    rintro ⟨other,kept⟩
    rw [mem_selectWhere,List.mem_singleton]
    constructor
    · rintro ⟨found,chosen⟩
      have equal := only other kept found chosen
      subst equal
      rw [stored] at found
      cases found
      rfl
    · intro equal
      cases equal
      exact ⟨stored,selected⟩
  exact List.perm_singleton.mp ((List.perm_ext_iff_of_nodup distinct (List.nodup_singleton _)).mpr same)

section Batches

variable {Item : Type} {conflict : Row → Row → Row} {key : Item → Key} {row : Item → Row}

theorem lookup_upsertAll_of_notMem {items : List Item} {table : Table Key Row} {wanted : Key}
    (absent : ∀ item ∈ items, key item ≠ wanted) :
    (table.upsertAll conflict key row items).lookup wanted = table.lookup wanted := by
  induction items generalizing table with
  | nil => rfl
  | cons item items ih =>
    have first : wanted ≠ key item := (absent item (by simp)).symm
    have rest := @ih (table.upsert conflict (key item) (row item))
      (fun other member => absent other (by simp [member]))
    exact rest.trans (lookup_upsert_ne conflict (row item) table first)

theorem mem_of_lookup_upsertAll {items : List Item} {table : Table Key Row} {wanted : Key} {stored : Row}
    (found : (table.upsertAll conflict key row items).lookup wanted = some stored) :
    table.lookup wanted = some stored ∨ ∃ item ∈ items, wanted = key item ∧
      (stored = row item ∨ ∃ earlier, stored = conflict earlier (row item)) := by
  induction items generalizing table with
  | nil => exact Or.inl found
  | cons item items ih =>
    rcases ih found with previous | ⟨other,member,same,shape⟩
    · by_cases same : wanted = key item
      · subst same
        rw [lookup_upsert_self] at previous
        refine Or.inr ⟨item,by simp,rfl,?_⟩
        split at previous
        · exact Or.inr ⟨_,(Option.some.inj previous).symm⟩
        · exact Or.inl (Option.some.inj previous).symm
      · rw [lookup_upsert_ne conflict (row item) table same] at previous
        exact Or.inl previous
    · exact Or.inr ⟨other,by simp [member],same,shape⟩

theorem lookup_upsertAll_isSome {items : List Item} {table : Table Key Row} {wanted : Key} :
    ((table.upsertAll conflict key row items).lookup wanted).isSome ↔
      (table.lookup wanted).isSome ∨ ∃ item ∈ items, key item = wanted := by
  induction items generalizing table with
  | nil => simp [upsertAll]
  | cons item items ih =>
    have rest := @ih (table.upsert conflict (key item) (row item))
    simp only [upsertAll,List.foldl_cons] at rest ⊢
    rw [rest]
    by_cases same : wanted = key item
    · subst same
      simp [lookup_upsert_self]
    · rw [lookup_upsert_ne conflict (row item) table same]
      simp [Ne.symm same]

theorem selectWhere_upsertAll_other {p : Key → Row → Bool} {items : List Item} {table : Table Key Row}
    (stored : ∀ item ∈ items, ∀ earlier, table.lookup (key item) = some earlier → p (key item) earlier = false)
    (fresh : ∀ item ∈ items, p (key item) (row item) = false)
    (merged : ∀ item ∈ items, ∀ earlier, p (key item) (conflict earlier (row item)) = false) :
    (table.upsertAll conflict key row items).selectWhere p = table.selectWhere p := by
  induction items generalizing table with
  | nil => rfl
  | cons item items ih =>
    have written : ∀ later, (table.upsert conflict (key item) (row item)).lookup (key item) = some later →
        p (key item) later = false := by
      intro later found
      rw [lookup_upsert_self] at found
      split at found
      · cases found
        exact merged item (by simp) _
      · cases found
        exact fresh item (by simp)
    have head := selectWhere_upsert_other p conflict (key item) (row item) table (stored item (by simp)) written
    have tail := @ih (table.upsert conflict (key item) (row item))
      (by
        intro other member earlier found
        by_cases same : key other = key item
        · rw [same] at found ⊢
          exact written earlier found
        · rw [lookup_upsert_ne conflict (row item) table same] at found
          exact stored other (by simp [member]) earlier found)
      (fun other member => fresh other (by simp [member]))
      (fun other member => merged other (by simp [member]))
    exact tail.trans head

theorem selectWhere_upsertAll_new {p : Key → Row → Bool} {items : List Item} {table : Table Key Row}
    (distinct : (items.map key).Nodup) (absent : ∀ item ∈ items, table.lookup (key item) = none)
    (selected : ∀ item ∈ items, p (key item) (row item) = true) :
    (table.upsertAll conflict key row items).selectWhere p =
      (items.map (fun item => (⟨key item,row item⟩ : Σ _ : Key, Row))).reverse ++ table.selectWhere p := by
  induction items generalizing table with
  | nil => rfl
  | cons item items ih =>
    rw [List.map_cons,List.nodup_cons] at distinct
    have head := selectWhere_upsert_new p conflict (key item) (row item) table (absent item (by simp))
    rw [if_pos (selected item (by simp))] at head
    have tail := @ih (table.upsert conflict (key item) (row item)) distinct.2
      (by
        intro other member
        have different : key other ≠ key item := by
          intro same
          exact distinct.1 (same ▸ List.mem_map_of_mem member)
        rw [lookup_upsert_ne conflict (row item) table different]
        exact absent other (by simp [member]))
      (fun other member => selected other (by simp [member]))
    rw [head] at tail
    refine tail.trans ?_
    simp

theorem upsertAll_concat (items : List Item) (item : Item) (table : Table Key Row) :
    table.upsertAll conflict key row (items ++ [item]) =
      (table.upsertAll conflict key row items).upsert conflict (key item) (row item) := by
  rw [upsertAll,List.foldl_append]
  rfl

theorem lookup_upsertAll_congr {items : List Item} {table other : Table Key Row} {wanted : Key}
    (same : other.lookup wanted = table.lookup wanted) :
    (other.upsertAll conflict key row items).lookup wanted = (table.upsertAll conflict key row items).lookup wanted := by
  induction items generalizing table other with
  | nil => exact same
  | cons item items ih =>
    refine ih ?_
    by_cases here : wanted = key item
    · subst here
      rw [lookup_upsert_self,lookup_upsert_self,same]
    · rw [lookup_upsert_ne conflict _ other here,lookup_upsert_ne conflict _ table here]
      exact same

theorem lookup_upsertAll_last {items : List Item} {table : Table Key Row} {item : Item} {wanted : Key}
    (last : items.reverse.find? (fun other => key other = wanted) = some item) :
    ∃ stored, (table.upsertAll conflict key row items).lookup wanted = some stored ∧
      (stored = row item ∨ ∃ earlier, stored = conflict earlier (row item)) := by
  induction items using List.reverseRecOn with
  | nil => cases last
  | append_singleton items final ih =>
    rw [List.reverse_append,List.reverse_singleton,List.singleton_append,List.find?_cons] at last
    rw [upsertAll_concat]
    by_cases same : key final = wanted
    · simp only [same,decide_true] at last
      cases last
      subst same
      rw [lookup_upsert_self]
      refine ⟨_,rfl,?_⟩
      split
      · exact Or.inr ⟨_,rfl⟩
      · exact Or.inl rfl
    · simp only [same,decide_false] at last
      rw [lookup_upsert_ne conflict _ _ (Ne.symm same)]
      exact ih last

end Batches

theorem lookup_insertGroups {Entry : Type} (group : Entry → Key) (total : List Entry → Row)
    (entries : List Entry) (table : Table Key Row) (wanted : Key) :
    (table.insertGroups group total entries).lookup wanted =
      if ∃ entry ∈ entries, group entry = wanted then
        some (total (entries.filter (fun entry => group entry = wanted)))
      else table.lookup wanted := by
  have members : ∀ {keys : List Key} {current : Table Key Row},
      (current.upsertAll (fun _ proposed => proposed) id
        (fun key => total (entries.filter (fun entry => group entry = key))) keys).lookup wanted =
      if wanted ∈ keys then some (total (entries.filter (fun entry => group entry = wanted)))
      else current.lookup wanted := by
    intro keys
    induction keys with
    | nil => intro current; rfl
    | cons key keys ih =>
      intro current
      have rest := @ih (current.upsert (fun _ proposed => proposed) key
        (total (entries.filter (fun entry => group entry = key))))
      simp only [upsertAll,List.foldl_cons,id_eq] at rest ⊢
      rw [rest]
      by_cases same : wanted = key
      · subst same
        simp only [List.mem_cons,true_or,if_true]
        rw [lookup_upsert_self]
        split
        · rfl
        · split <;> rfl
      · rw [lookup_upsert_ne _ _ current same]
        simp [same]
  rw [insertGroups,members]
  simp

/-- Deleting a range of keys and inserting the groups of entries that all fall
into it leaves, at every key of the range, the summary of its group. -/
theorem lookup_refresh {Entry : Type} {range : Key → Bool} {group : Entry → Key} {total : List Entry → Row}
    {entries : List Entry} (table : Table Key Row) (inside : ∀ entry ∈ entries, range (group entry) = true)
    (wanted : Key) :
    ((table.deleteWhere (fun key _ => range key)).insertGroups group total entries).lookup wanted =
      if range wanted then summary total (entries.filter (fun entry => group entry = wanted))
      else table.lookup wanted := by
  rw [lookup_insertGroups,lookup_deleteWhere]
  by_cases present : ∃ entry ∈ entries, group entry = wanted
  · obtain ⟨entry,member,same⟩ := present
    have covered : range wanted = true := same ▸ inside entry member
    have kept : entry ∈ entries.filter (fun entry => group entry = wanted) := by simp [member,same]
    rw [if_pos ⟨entry,member,same⟩,if_pos covered]
    cases selected : entries.filter (fun entry => group entry = wanted) with
    | nil => rw [selected] at kept; cases kept
    | cons first rest => rfl
  · have none : entries.filter (fun entry => group entry = wanted) = [] := by
      rw [List.filter_eq_nil_iff]
      intro entry member
      simpa using fun same => present ⟨entry,member,same⟩
    rw [if_neg present,none]
    cases range wanted with
    | true => cases table.lookup wanted <;> simp [summary,Option.filter]
    | false => cases table.lookup wanted <;> simp [Option.filter]

theorem selectWhere_insertGroups_other {Entry : Type} {p : Key → Row → Bool} {group : Entry → Key}
    {total : List Entry → Row} {entries : List Entry} {table : Table Key Row}
    (outside : ∀ entry ∈ entries, ∀ row, p (group entry) row = false) :
    (table.insertGroups group total entries).selectWhere p = table.selectWhere p := by
  have keys : ∀ key ∈ (entries.map group).dedup, ∀ row, p key row = false := by
    intro key member row
    rw [List.mem_dedup,List.mem_map] at member
    obtain ⟨entry,inside,rfl⟩ := member
    exact outside entry inside row
  exact selectWhere_upsertAll_other (fun key member earlier _ => keys key member earlier)
    (fun key member => keys key member _) (fun key member _ => keys key member _)

theorem selectWhere_refresh_other {Entry : Type} {range : Key → Bool} {p : Key → Row → Bool} {group : Entry → Key}
    {total : List Entry → Row} {entries : List Entry} {table : Table Key Row}
    (inside : ∀ entry ∈ entries, range (group entry) = true) (apart : ∀ key row, range key = true → p key row = false) :
    ((table.deleteWhere (fun key _ => range key)).insertGroups group total entries).selectWhere p =
      table.selectWhere p := by
  rw [selectWhere_insertGroups_other (fun entry member row => apart _ row (inside entry member)),selectWhere_deleteWhere]
  apply selectWhere_congr
  intro key row _
  cases covered : range key with
  | true => simp [apart key row covered]
  | false => simp

end Table

end CloudLens.Library
