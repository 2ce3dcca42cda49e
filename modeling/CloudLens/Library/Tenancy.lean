import CloudLens.Library.Table

/-! Rows that belong to a tenant. Row-level security hides a row from every other
tenant, and an upsert that meets another tenant's row is refused. -/
namespace CloudLens.Library

structure Owned (Entity : Type) where
  tenantId : String
  entity : Entity

variable {Entity : Type}

def saveOwned (tenant id : String) (entity : Entity) (table : Table String (Owned Entity)) :
    Option (Table String (Owned Entity)) :=
  match table.lookup id with
  | some stored =>
    if stored.tenantId = tenant then some (table.upsert (fun _ proposed => proposed) id ⟨tenant,entity⟩) else none
  | none => some (table.upsert (fun _ proposed => proposed) id ⟨tenant,entity⟩)

def getOwned (tenant id : String) (table : Table String (Owned Entity)) : Option Entity :=
  match table.lookup id with
  | some stored => if stored.tenantId = tenant then some stored.entity else none
  | none => none

variable {tenant id : String} {entity : Entity} {table after : Table String (Owned Entity)}

theorem getOwned_eq_some_iff : getOwned tenant id table = some entity ↔ table.lookup id = some ⟨tenant,entity⟩ := by
  unfold getOwned
  cases found : table.lookup id with
  | none => simp
  | some stored =>
    obtain ⟨owner,kept⟩ := stored
    by_cases same : owner = tenant
    · simp [same]
    · simp [same]

theorem saveOwned_ok (saved : saveOwned tenant id entity table = some after) :
    after.lookup id = some ⟨tenant,entity⟩ ∧ (∀ other, other ≠ id → after.lookup other = table.lookup other) ∧
      ∀ stored, table.lookup id = some stored → stored.tenantId = tenant := by
  have written : ∀ {stored : Owned Entity}, (table.upsert (fun _ proposed => proposed) id stored).lookup id = some stored := by
    intro stored
    rw [Table.lookup_overwrite,if_pos rfl]
  unfold saveOwned at saved
  cases found : table.lookup id with
  | none =>
    rw [found] at saved
    cases saved
    refine ⟨written,?_,?_⟩
    · intro other distinct
      exact Table.lookup_upsert_ne _ _ _ distinct
    · intro stored absent
      cases absent
  | some stored =>
    rw [found] at saved
    simp only at saved
    split at saved
    · rename_i owner
      cases saved
      refine ⟨written,?_,?_⟩
      · intro other distinct
        exact Table.lookup_upsert_ne _ _ _ distinct
      · intro row same
        cases same
        exact owner
    · cases saved

theorem saveOwned_own (owned : ∀ stored, table.lookup id = some stored → stored.tenantId = tenant) :
    ∃ after, saveOwned tenant id entity table = some after := by
  unfold saveOwned
  cases found : table.lookup id with
  | none => exact ⟨_,rfl⟩
  | some stored =>
    simp only [owned stored found,if_true]
    exact ⟨_,rfl⟩

end CloudLens.Library
