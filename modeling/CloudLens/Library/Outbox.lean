import Mathlib.Logic.Function.Basic

/-! Rows that end once, and a log that reports their ends. A writer saves a row
and publishes an event for it afterwards; in between the event is pending. Saves
and publications of different writers come in any order. Every end is reported
once as long as no end is saved over another one, and exactly then. -/
namespace CloudLens.Library.Outbox

variable {Key Row Event Writer : Type}

structure Scheme (Key Row Event : Type) where
  ended : Row → Bool
  reports : Event → Option Key
  agrees : Event → Row → Prop

structure State (Key Row Event Writer : Type) where
  row : Key → Option Row
  log : List Event
  pending : Writer → Option Event

inductive Move (Key Row Event Writer : Type) where
  | save (writer : Writer) (key : Key) (row : Row) (event : Event)
  | publish (writer : Writer)

def apply [DecidableEq Key] [DecidableEq Writer] (s : State Key Row Event Writer) :
    Move Key Row Event Writer → State Key Row Event Writer
  | .save writer key row event =>
    { s with row := Function.update s.row key (some row), pending := Function.update s.pending writer (some event) }
  | .publish writer =>
    { s with log := s.log ++ (s.pending writer).toList, pending := Function.update s.pending writer none }

section Reports

variable [DecidableEq Key] (scheme : Scheme Key Row Event) (s : State Key Row Event Writer)

def reported (key : Key) : List Event := s.log.filter (fun event => scheme.reports event = some key)

def Awaits (writer : Writer) (key : Key) : Prop := ∃ event, s.pending writer = some event ∧ scheme.reports event = some key

structure Unreported (key : Key) : Prop where
  logged : reported scheme s key = []
  awaited : ∀ writer, ¬ Awaits scheme s writer key

/-- The end of a row is reported by one event, in the log or about to be published. -/
inductive ReportedOnce (key : Key) (row : Row) : Prop
  | logged (event : Event) (only : reported scheme s key = [event]) (agrees : scheme.agrees event row)
      (settled : ∀ writer, ¬ Awaits scheme s writer key)
  | awaited (writer : Writer) (event : Event) (unlogged : reported scheme s key = [])
      (pending : s.pending writer = some event) (reports : scheme.reports event = some key)
      (agrees : scheme.agrees event row) (sole : ∀ other, Awaits scheme s other key → other = writer)

structure EndsOnce : Prop where
  unended : ∀ key, (∀ row, s.row key = some row → scheme.ended row = false) → Unreported scheme s key
  ended : ∀ key row, s.row key = some row → scheme.ended row = true → ReportedOnce scheme s key row

/-- An end is saved over a row, with an event that reports it; a row that has
not ended is saved under a new key, with an event that reports no end. -/
def Proper : Move Key Row Event Writer → Prop
  | .save writer key row event =>
    s.pending writer = none ∧
      (scheme.ended row = true → (s.row key).isSome ∧ scheme.reports event = some key ∧ scheme.agrees event row) ∧
      (scheme.ended row = false → s.row key = none ∧ scheme.reports event = none)
  | .publish _ => True

def FindsUnended : Move Key Row Event Writer → Prop
  | .save _ key row _ => scheme.ended row = true → ∃ stored, s.row key = some stored ∧ scheme.ended stored = false
  | .publish _ => True

end Reports

section Steps

variable [DecidableEq Key] [DecidableEq Writer] {scheme : Scheme Key Row Event} {s : State Key Row Event Writer}
  {writer : Writer} {key other : Key} {row : Row} {event : Event}

@[simp] theorem save_pending_self : (apply s (.save writer key row event)).pending writer = some event :=
  Function.update_self ..

theorem save_pending_other {w : Writer} (distinct : w ≠ writer) :
    (apply s (.save writer key row event)).pending w = s.pending w :=
  Function.update_of_ne distinct ..

@[simp] theorem save_row_self : (apply s (.save writer key row event)).row key = some row := Function.update_self ..

theorem save_row_other (distinct : other ≠ key) : (apply s (.save writer key row event)).row other = s.row other :=
  Function.update_of_ne distinct ..

@[simp] theorem publish_pending_self : (apply s (.publish writer)).pending writer = none := Function.update_self ..

theorem publish_pending_other {w : Writer} (distinct : w ≠ writer) :
    (apply s (.publish writer)).pending w = s.pending w :=
  Function.update_of_ne distinct ..

theorem save_awaits_other (free : s.pending writer = none) (elsewhere : scheme.reports event ≠ some other) (w : Writer) :
    Awaits scheme (apply s (.save writer key row event)) w other ↔ Awaits scheme s w other := by
  by_cases same : w = writer
  · subst same
    constructor
    · rintro ⟨found,pending,reports⟩
      rw [save_pending_self] at pending
      cases pending
      exact absurd reports elsewhere
    · rintro ⟨found,pending,_⟩
      rw [free] at pending
      cases pending
  · unfold Awaits
    rw [save_pending_other same]

theorem save_unreported (free : s.pending writer = none) (elsewhere : scheme.reports event ≠ some other)
    (unreported : Unreported scheme s other) : Unreported scheme (apply s (.save writer key row event)) other := by
  refine ⟨unreported.logged,?_⟩
  intro w awaits
  exact unreported.awaited w ((save_awaits_other free elsewhere w).mp awaits)

theorem save_reportedOnce {stored : Row} (free : s.pending writer = none) (elsewhere : scheme.reports event ≠ some other)
    (once : ReportedOnce scheme s other stored) :
    ReportedOnce scheme (apply s (.save writer key row event)) other stored := by
  cases once with
  | logged found only agrees settled =>
    refine .logged found only agrees ?_
    intro w awaits
    exact settled w ((save_awaits_other free elsewhere w).mp awaits)
  | awaited w found unlogged pending reports agrees sole =>
    have busy : w ≠ writer := by
      rintro rfl
      rw [free] at pending
      cases pending
    refine .awaited w found unlogged ?_ reports agrees ?_
    · rw [save_pending_other busy]
      exact pending
    · intro v awaits
      exact sole v ((save_awaits_other free elsewhere v).mp awaits)

theorem save_first_end (reports : scheme.reports event = some key) (agrees : scheme.agrees event row)
    (unreported : Unreported scheme s key) : ReportedOnce scheme (apply s (.save writer key row event)) key row := by
  refine .awaited writer event unreported.logged save_pending_self reports agrees ?_
  intro other awaits
  by_contra distinct
  obtain ⟨found,pending,about⟩ := awaits
  rw [save_pending_other distinct] at pending
  exact unreported.awaited other ⟨found,pending,about⟩

theorem save_second_end {stored : Row} (free : s.pending writer = none) (reports : scheme.reports event = some key)
    (once : ReportedOnce scheme s key stored) : ¬ ReportedOnce scheme (apply s (.save writer key row event)) key row := by
  intro again
  have awaits : Awaits scheme (apply s (.save writer key row event)) writer key := ⟨event,save_pending_self,reports⟩
  cases again with
  | logged found only agrees settled => exact settled writer awaits
  | awaited w found unlogged pending about agrees sole =>
    have mine := sole writer awaits
    subst mine
    cases once with
    | logged earlier only _ _ =>
      have none : reported scheme s key = [] := unlogged
      rw [only] at none
      cases none
    | awaited v earlier _ waiting tells _ _ =>
      have distinct : v ≠ writer := by
        rintro rfl
        rw [free] at waiting
        cases waiting
      refine distinct (sole v ⟨earlier,?_,tells⟩)
      rw [save_pending_other distinct]
      exact waiting

theorem publish_awaits {w : Writer} (awaits : Awaits scheme (apply s (.publish writer)) w other) :
    w ≠ writer ∧ Awaits scheme s w other := by
  obtain ⟨found,pending,reports⟩ := awaits
  have distinct : w ≠ writer := by
    rintro rfl
    rw [publish_pending_self] at pending
    cases pending
  rw [publish_pending_other distinct] at pending
  exact ⟨distinct,found,pending,reports⟩

theorem publish_reported_other (unawaited : ¬ Awaits scheme s writer other) :
    reported scheme (apply s (.publish writer)) other = reported scheme s other := by
  have silent : (s.pending writer).toList.filter (fun event => scheme.reports event = some other) = [] := by
    apply List.filter_eq_nil_iff.mpr
    intro found member
    rw [decide_eq_true_iff]
    intro reports
    exact unawaited ⟨found,Option.mem_toList.mp member,reports⟩
  unfold reported apply
  rw [List.filter_append,silent,List.append_nil]

theorem publish_unreported (unreported : Unreported scheme s other) :
    Unreported scheme (apply s (.publish writer)) other := by
  obtain ⟨logged,awaited⟩ := unreported
  refine ⟨(publish_reported_other (awaited writer)).trans logged,?_⟩
  intro w awaits
  exact awaited w (publish_awaits awaits).2

theorem publish_reportedOnce (once : ReportedOnce scheme s other row) :
    ReportedOnce scheme (apply s (.publish writer)) other row := by
  cases once with
  | logged found only agrees settled =>
    refine .logged found ((publish_reported_other (settled writer)).trans only) agrees ?_
    intro w awaits
    exact settled w (publish_awaits awaits).2
  | awaited w found unlogged pending reports agrees sole =>
    by_cases same : w = writer
    · subst same
      refine .logged found ?_ agrees ?_
      · unfold reported at unlogged
        unfold reported apply
        rw [List.filter_append,unlogged,pending]
        simp [reports]
      · intro v awaits
        obtain ⟨distinct,still⟩ := publish_awaits awaits
        exact distinct (sole v still)
    · have unawaited : ¬ Awaits scheme s writer other := fun awaits => same (sole writer awaits).symm
      refine .awaited w found ((publish_reported_other unawaited).trans unlogged) ?_ reports agrees ?_
      · rw [publish_pending_other same]
        exact pending
      · intro v awaits
        exact sole v (publish_awaits awaits).2

theorem publish_endsOnce (holds : EndsOnce scheme s) : EndsOnce scheme (apply s (.publish writer)) := by
  refine ⟨?_,?_⟩
  · intro key unended
    exact publish_unreported (holds.unended key unended)
  · intro key row stored ended
    exact publish_reportedOnce (holds.ended key row stored ended)

theorem save_new_endsOnce (holds : EndsOnce scheme s) (free : s.pending writer = none) (unended : scheme.ended row = false)
    (silent : scheme.reports event = none) (fresh : s.row key = none) :
    EndsOnce scheme (apply s (.save writer key row event)) := by
  have elsewhere : ∀ k, scheme.reports event ≠ some k := by
    intro k
    rw [silent]
    exact Option.some_ne_none k |>.symm
  refine ⟨?_,?_⟩
  · intro k stillOpen
    refine save_unreported free (elsewhere k) (holds.unended k ?_)
    intro stored found
    by_cases same : k = key
    · subst same
      rw [fresh] at found
      cases found
    · exact stillOpen stored ((save_row_other same).trans found)
  · intro k stored found ended
    by_cases same : k = key
    · subst same
      rw [save_row_self] at found
      cases found
      rw [unended] at ended
      cases ended
    · rw [save_row_other same] at found
      exact save_reportedOnce free (elsewhere k) (holds.ended k stored found ended)

theorem save_end_endsOnce (holds : EndsOnce scheme s) (free : s.pending writer = none)
    (reports : scheme.reports event = some key) (agrees : scheme.agrees event row) (ended : scheme.ended row = true)
    {stored : Row} (before : s.row key = some stored) (unended : scheme.ended stored = false) :
    EndsOnce scheme (apply s (.save writer key row event)) := by
  have elsewhere : ∀ k, k ≠ key → scheme.reports event ≠ some k := by
    intro k distinct same
    rw [reports] at same
    exact distinct (Option.some.inj same).symm
  refine ⟨?_,?_⟩
  · intro k stillOpen
    by_cases same : k = key
    · subst same
      have now := stillOpen row save_row_self
      rw [ended] at now
      cases now
    · refine save_unreported free (elsewhere k same) (holds.unended k ?_)
      intro other found
      exact stillOpen other ((save_row_other same).trans found)
  · intro k other found closed
    by_cases same : k = key
    · subst same
      rw [save_row_self] at found
      cases found
      refine save_first_end reports agrees (holds.unended k ?_)
      intro earlier held
      rw [before] at held
      cases held
      exact unended
    · rw [save_row_other same] at found
      exact save_reportedOnce free (elsewhere k same) (holds.ended k other found closed)

theorem apply_endsOnce_iff {move : Move Key Row Event Writer} (holds : EndsOnce scheme s) (proper : Proper scheme s move) :
    EndsOnce scheme (apply s move) ↔ FindsUnended scheme s move := by
  cases move with
  | publish writer => exact ⟨fun _ => trivial,fun _ => publish_endsOnce holds⟩
  | save writer key row event =>
    obtain ⟨free,closing,opening⟩ := proper
    cases ended : scheme.ended row with
    | false =>
      obtain ⟨fresh,silent⟩ := opening ended
      constructor
      · intro _ closed
        rw [ended] at closed
        cases closed
      · intro _
        exact save_new_endsOnce holds free ended silent fresh
    | true =>
      obtain ⟨present,reports,agrees⟩ := closing ended
      obtain ⟨stored,before⟩ := Option.isSome_iff_exists.mp present
      constructor
      · intro after _
        refine ⟨stored,before,?_⟩
        by_contra closed
        have once := holds.ended key stored before (by simpa using closed)
        exact save_second_end free reports once (after.ended key row save_row_self ended)
      · intro finds
        obtain ⟨found,held,unended⟩ := finds ended
        exact save_end_endsOnce holds free reports agrees ended held unended

omit [DecidableEq Writer] in
theorem reported_length_le (holds : EndsOnce scheme s) (key : Key) : (reported scheme s key).length ≤ 1 := by
  have none : Unreported scheme s key → (reported scheme s key).length ≤ 1 := by
    intro unreported
    rw [unreported.logged]
    exact Nat.zero_le 1
  cases stored : s.row key with
  | none =>
    refine none (holds.unended key ?_)
    intro row found
    rw [stored] at found
    cases found
  | some row =>
    cases ended : scheme.ended row with
    | false =>
      refine none (holds.unended key ?_)
      intro other found
      rw [stored] at found
      cases found
      exact ended
    | true =>
      cases holds.ended key row stored ended with
      | logged event only _ _ =>
        rw [only]
        exact Nat.le_refl 1
      | awaited writer event unlogged _ _ _ _ =>
        rw [unlogged]
        exact Nat.zero_le 1

theorem apply_keeps_ended {move : Move Key Row Event Writer} (proper : Proper scheme s move)
    (finds : FindsUnended scheme s move) (stored : s.row other = some row) (ended : scheme.ended row = true) :
    (apply s move).row other = some row := by
  cases move with
  | publish writer => exact stored
  | save writer key saved event =>
    have distinct : other ≠ key := by
      rintro rfl
      obtain ⟨_,closing,opening⟩ := proper
      cases closed : scheme.ended saved with
      | false =>
        rw [(opening closed).1] at stored
        cases stored
      | true =>
        obtain ⟨found,held,unended⟩ := finds closed
        rw [stored] at held
        cases held
        rw [ended] at unended
        cases unended
    rw [save_row_other distinct]
    exact stored

end Steps

end CloudLens.Library.Outbox
