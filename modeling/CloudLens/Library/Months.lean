import CloudLens.Library.Calendar
import Mathlib.Tactic.Linarith

/-! Windows of whole months. The months are numbered through the years, and a
calendar that puts a date into the block of months its number falls in, the
blocks being of one length and starting at one offset, tiles the dates. -/
namespace CloudLens.Library.Calendar

/-- The number of the month, counted through the years. -/
def Date.monthIndex (d : Date) : ℕ := 12 * d.year + (d.month - 1)

/-- The first month of the block that month `k` falls in. -/
def blockStart (offset size k : ℕ) : ℕ := offset + size * ((k - offset) / size)

/-- The window reaches from the first day of one month to the last day of another. -/
structure MonthWindow (window : Date × Date) (first last : ℕ) : Prop where
  opens : window.1.day = 1
  opening : window.1.monthIndex = first
  closes : window.2.day = daysInMonth window.2.year window.2.month
  closing : window.2.monthIndex = last

/-- Every date in the range is in its window, two windows are equal or have no date
in common, and the window of the day after a window starts on that day. -/
structure Tiles (inRange : Date → Prop) (windowOf : Date → Option (Date × Date)) : Prop where
  containing : ∀ d, inRange d → ∃ window, windowOf d = some window ∧ window.1 ≤ d ∧ d ≤ window.2
  apart : ∀ d other, inRange d → inRange other → ∀ window second, windowOf d = some window → windowOf other = some second →
    window = second ∨ window.2 < second.1 ∨ second.2 < window.1
  adjacent : ∀ d, inRange d → ∀ window, windowOf d = some window → ∀ next, window.2.nextDay = some next → inRange next →
    ∀ following, windowOf next = some following → following.1 = next

/-- Each date in the range is given the block of months that its month falls in. -/
def Blocked (offset size : ℕ) (inRange : Date → Prop) (windowOf : Date → Option (Date × Date)) : Prop :=
  ∀ d, inRange d → ∃ window, windowOf d = some window ∧
    MonthWindow window (blockStart offset size d.monthIndex) (blockStart offset size d.monthIndex + (size - 1))

variable {window second : Date × Date} {first last offset size : ℕ} {d : Date}

theorem MonthWindow.start_le_iff (months : MonthWindow window first last) : window.1 ≤ d ↔ first ≤ d.monthIndex := by
  have opens := months.opens
  have opening := months.opening
  have valid := d.valid
  have validStart := window.1.valid
  rw [Date.le_iff,Date.lt_iff]
  unfold Date.monthIndex at opening ⊢
  omega

theorem MonthWindow.le_end_iff (months : MonthWindow window first last) : d ≤ window.2 ↔ d.monthIndex ≤ last := by
  have closes := months.closes
  have closing := months.closing
  have valid := d.valid
  have validEnd := window.2.valid
  rw [Date.le_iff,Date.lt_iff]
  unfold Date.monthIndex at closing ⊢
  have same (years : window.2.year = d.year) (month : window.2.month = d.month) : d.day ≤ window.2.day := by
    rw [closes,years,month]
    exact valid.2.2.2
  omega

theorem MonthWindow.unique (months : MonthWindow window first last) (others : MonthWindow second first last) :
    window = second := by
  have opening := months.opening.trans others.opening.symm
  have closing := months.closing.trans others.closing.symm
  have v1 := window.1.valid
  have v2 := window.2.valid
  have v3 := second.1.valid
  have v4 := second.2.valid
  unfold Date.monthIndex at opening closing
  refine Prod.ext (Date.ext_fields (by omega) (by omega) (months.opens.trans others.opens.symm)) ?_
  have year : window.2.year = second.2.year := by omega
  have month : window.2.month = second.2.month := by omega
  refine Date.ext_fields year month ?_
  rw [months.closes,others.closes,year,month]

theorem blockStart_le {k : ℕ} (above : offset ≤ k) : blockStart offset size k ≤ k := by
  have := Nat.mul_div_le (k - offset) size
  unfold blockStart
  omega

theorem lt_blockEnd (positive : 0 < size) (k : ℕ) : k < blockStart offset size k + size := by
  have := Nat.lt_mul_div_succ (k - offset) positive
  unfold blockStart
  rw [Nat.mul_add] at this
  omega

theorem blockStart_apart (offset size k other : ℕ) : blockStart offset size k = blockStart offset size other ∨
    blockStart offset size k + size ≤ blockStart offset size other ∨
    blockStart offset size other + size ≤ blockStart offset size k := by
  unfold blockStart
  have step {a b : ℕ} (less : a < b) : offset + size * a + size ≤ offset + size * b := by
    have := Nat.mul_le_mul_left size (show a + 1 ≤ b from less)
    rw [Nat.mul_add] at this
    omega
  rcases Nat.lt_trichotomy ((k - offset) / size) ((other - offset) / size) with less | same | more
  · exact .inr (.inl (step less))
  · exact .inl (by rw [same])
  · exact .inr (.inr (step more))

theorem blockStart_eq {k start : ℕ} (positive : 0 < size) (above : offset ≤ k)
    (aligned : ∃ turn, start = offset + size * turn) (begun : start ≤ k) (before : k < start + size) :
    blockStart offset size k = start := by
  obtain ⟨turn,rfl⟩ := aligned
  unfold blockStart
  have turns : (k - offset) / size = turn := by
    rw [Nat.div_eq_iff positive]
    rw [Nat.mul_comm turn size]
    omega
  rw [turns]

theorem Date.lt_iff_not_le (a b : Date) : a < b ↔ ¬ b ≤ a := by
  rw [Date.le_iff,not_not]

theorem Date.monthIndex_ge (d : Date) : 12 ≤ d.monthIndex := by
  have := d.valid
  unfold Date.monthIndex
  omega

theorem nextDay_monthEnd {next : Date} (closes : d.day = daysInMonth d.year d.month) (after : d.nextDay = some next) :
    next.day = 1 ∧ next.monthIndex = d.monthIndex + 1 := by
  have valid := d.valid
  unfold Date.nextDay at after
  have beyond : Date.of? d.year d.month (d.day + 1) = none := dif_neg (by omega)
  rw [beyond,Option.none_or] at after
  unfold Date.nextMonth at after
  unfold Date.monthIndex
  split at after
  · obtain ⟨year,month,day⟩ := Date.of?_fields after
    omega
  · obtain ⟨year,month,day⟩ := Date.of?_fields after
    omega

theorem Blocked.tiles {inRange : Date → Prop} {windowOf : Date → Option (Date × Date)} (positive : 0 < size) (low : offset ≤ 12)
    (blocked : Blocked offset size inRange windowOf) : Tiles inRange windowOf := by
  refine ⟨?_,?_,?_⟩
  · intro d member
    obtain ⟨window,found,months⟩ := blocked d member
    have above := low.trans d.monthIndex_ge
    have starts : blockStart offset size d.monthIndex ≤ d.monthIndex := blockStart_le above
    have ends : d.monthIndex < blockStart offset size d.monthIndex + size := lt_blockEnd positive d.monthIndex
    exact ⟨window,found,months.start_le_iff.mpr starts,months.le_end_iff.mpr (by omega)⟩
  · intro d other member memberOther window second found foundSecond
    obtain ⟨_,same,months⟩ := blocked d member
    obtain rfl := Option.some.inj (same.symm.trans found)
    obtain ⟨_,same,monthsOther⟩ := blocked other memberOther
    obtain rfl := Option.some.inj (same.symm.trans foundSecond)
    rcases blockStart_apart offset size d.monthIndex other.monthIndex with equal | before | after
    · rw [equal] at months
      exact .inl (months.unique monthsOther)
    · refine .inr (.inl ((Date.lt_iff_not_le _ _).mpr fun meets => ?_))
      have := monthsOther.start_le_iff.mp meets
      have := months.closing
      omega
    · refine .inr (.inr ((Date.lt_iff_not_le _ _).mpr fun meets => ?_))
      have := months.start_le_iff.mp meets
      have := monthsOther.closing
      omega
  · intro d member window found next after memberNext following foundNext
    obtain ⟨_,same,months⟩ := blocked d member
    obtain rfl := Option.some.inj (same.symm.trans found)
    obtain ⟨_,same,monthsNext⟩ := blocked next memberNext
    rw [Option.some.inj (same.symm.trans foundNext)] at monthsNext
    obtain ⟨day,index⟩ := nextDay_monthEnd months.closes after
    have closing := months.closing
    have start : blockStart offset size next.monthIndex = next.monthIndex := by
      refine blockStart_eq positive (low.trans next.monthIndex_ge) ⟨(d.monthIndex - offset) / size + 1,?_⟩ le_rfl (by omega)
      unfold blockStart at closing
      rw [Nat.mul_add]
      omega
    have opening := monthsNext.opening
    have opens := monthsNext.opens
    rw [start] at opening
    have valid := next.valid
    have validStart := following.1.valid
    unfold Date.monthIndex at opening
    exact Date.ext_fields (by omega) (by omega) (by omega)

end CloudLens.Library.Calendar
