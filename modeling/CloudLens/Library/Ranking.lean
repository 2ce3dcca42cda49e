import Mathlib.Data.List.Sort

/-! Rows in descending order of one column, as a query returns them. Rows that
agree on the column come in an order of the database's own choice, so what is
proved for every such order does not rest on it. -/
namespace CloudLens.Library

variable {Row Key : Type} [LinearOrder Key]

/-- A way to sort rows by a column, the greatest first. -/
structure Descending (column : Row → Key) where
  sort : List Row → List Row
  perm : ∀ rows, (sort rows).Perm rows
  sorted : ∀ rows, ((sort rows).map column).Pairwise (· ≥ ·)

namespace Descending

variable {column : Row → Key}

def NotBelow (column : Row → Key) (a b : Row) : Prop := column a ≥ column b

instance : DecidableRel (NotBelow column) := fun a b => inferInstanceAs (Decidable (column b ≤ column a))

instance : Std.Total (NotBelow column) := ⟨fun a b => le_total (column b) (column a)⟩

instance : IsTrans Row (NotBelow column) := ⟨fun _ _ _ above below => below.trans above⟩

/-- Rows that agree keep their order. -/
def stable : Descending column where
  sort := List.insertionSort (NotBelow column)
  perm := List.perm_insertionSort (NotBelow column)
  sorted := fun rows => List.pairwise_map.mpr (List.pairwise_insertionSort (NotBelow column) rows)

/-- Rows that agree come the other way round. -/
def turned (order : Descending column) : Descending column where
  sort := fun rows => order.sort rows.reverse
  perm := fun rows => (order.perm rows.reverse).trans (List.reverse_perm rows)
  sorted := fun rows => order.sorted rows.reverse

variable (order : Descending column)

theorem sort_singleton (row : Row) : order.sort [row] = [row] := List.perm_singleton.mp (order.perm [row])

theorem sort_nil : order.sort [] = [] := List.perm_nil.mp (order.perm [])

theorem take_perm {rows : List Row} {limit : ℕ} (short : rows.length ≤ limit) : ((order.sort rows).take limit).Perm rows := by
  rw [List.take_of_length_le ((order.perm rows).length_eq.le.trans short)]
  exact order.perm rows

end Descending

end CloudLens.Library
