import CloudLens.Overrides.Refinement

/-! How an override ends. A manual reversion decides on a copy it has read
before it takes the lock, and a sweep on the copies it has listed; both save
over whatever is stored then. An override ends once, with one event for it,
exactly when every such save still finds the stored override active. A sweep
ends what was due when it began in any case. -/
namespace CloudLens.Overrides
open Library Library.Runs Library.Outbox
open Audit (Moment)

variable {Client Instance : Type}

structure System.Opening (s : System Client Instance) : Prop where
  empty : s.overrides = ∅
  unaudited : s.trail = []
  idle : ∀ client, s.phase client = .idle

section Property

variable [DecidableEq Client] [DecidableEq Instance]

/-- In every state of the run, every end is reported once and final, completed
sweeps have left nothing that was due, and permanent overrides are approved. -/
structure EndsExactlyOnce (serves : Client → Instance) (start : System Client Instance) (actions : List (Action Client)) :
    Prop where
  reported : ∀ done, done <+: actions → EndsOnce scheme (run (System.step serves) start done).outbox
  final : ∀ done later, done ++ later <+: actions → ∀ id record,
    (run (System.step serves) start done).overrides.lookup id = some record → record.status ≠ .active →
      (run (System.step serves) start (done ++ later)).overrides.lookup id = some record
  swept : ∀ done client tc now later, done ++ .call client (.revertExpiredOverrides tc now) :: later <+: actions →
    (run (System.step serves) start done).phase client = .idle →
    (run (System.step serves) start (done ++ .call client (.revertExpiredOverrides tc now) :: later)).phase client = .idle →
    ∀ id record, (run (System.step serves) start done).overrides.lookup id = some record → record.tenantId = tc.tenantId →
      record.dueAt now = true → ∃ ended, ended.status ≠ .active ∧ (run (System.step serves) start
        (done ++ .call client (.revertExpiredOverrides tc now) :: later)).overrides.lookup id = some ended
  approved : ∀ done, done <+: actions → ∀ id record,
    (run (System.step serves) start done).overrides.lookup id = some record → record.Approved

end Property

/-- A sweep that has yet to end the override, because it has not listed it or has not come to it. -/
def Phase.Pursuing (record : OverrideRecord) (now : Moment) : Phase → Prop
  | .waiting tc time => tc.tenantId = record.tenantId ∧ time = now
  | .sweeping _ time rest | .recording _ time _ rest => time = now ∧ record ∈ rest
  | .idle | .saving _ _ _ | .appending _ => False

def EndedAt (overrides : OverrideTable) (id : String) : Prop :=
  ∃ ended, ended.status ≠ .active ∧ overrides.lookup id = some ended

def System.Pursues (s : System Client Instance) (client : Client) (id : String) (record : OverrideRecord) (now : Moment) :
    Prop :=
  EndedAt s.overrides id ∨ (s.overrides.lookup id = some record ∧ (s.phase client).Pursuing record now)

section Sweeps

variable [DecidableEq Client] [DecidableEq Instance] {serves : Client → Instance} {s : System Client Instance}
  {client : Client} {record : OverrideRecord} {now : Moment} {id : String}

theorem step_ended {action : Action Client} (orderly : s.Orderly) (fresh : s.FreshIdentifier action)
    (ended : EndedAt s.overrides id) : EndedAt (s.step serves action).overrides id := by
  obtain ⟨stored,closed,found⟩ := ended
  rcases @step_row _ _ serves s _ _ id orderly action fresh with same | ⟨saved,written,closed' | absent⟩
  · exact ⟨stored,closed,same.trans found⟩
  · exact ⟨saved,closed',written⟩
  · rw [found] at absent
    cases absent

theorem step_phase_other {action : Action Client} (others : ∀ c, action = .call client c → False)
    (distinct : action ≠ .proceed client) : (s.step serves action).phase client = s.phase client := by
  have kept : ∀ {t : System Client Instance} {other : Client} {phase : Phase}, other ≠ client → t.phase = s.phase →
      (t.enter other phase).phase client = s.phase client := by
    intro t other phase apart same
    rw [← same]
    exact System.enter_other phase (Ne.symm apart)
  cases action with
  | call other c =>
    have apart : other ≠ client := by
      rintro rfl
      exact others c rfl
    unfold System.step
    simp only
    split
    · split
      · rfl
      · exact kept apart rfl
    · rfl
  | proceed other =>
    have apart : other ≠ client := by
      rintro rfl
      exact distinct rfl
    simp only [System.step,System.proceed]
    split
    · rfl
    · split
      · rfl
      · split
        · exact kept apart rfl
        · exact kept apart rfl
    · exact kept apart rfl
    · split
      · rfl
      · exact kept apart rfl
    · exact kept apart rfl
    · split
      · split
        · exact kept apart rfl
        · exact kept apart rfl
      · exact kept apart rfl
    · exact kept apart rfl

theorem proceed_pursues (orderly : s.Orderly) (due : record.dueAt now = true) (stored : s.overrides.lookup id = some record)
    (active : record.status = .active) (pursuing : (s.phase client).Pursuing record now) :
    EndedAt (s.step serves (.proceed client)).overrides id ∨
      ((s.step serves (.proceed client)).phase client).Pursuing record now := by
  have entered : ∀ {t : System Client Instance} {phase : Phase}, phase.Pursuing record now →
      ((t.enter client phase).phase client).Pursuing record now := by
    intro t phase held
    rw [System.enter_self]
    exact held
  cases standing : s.phase client with
  | idle =>
    rw [standing] at pursuing
    exact False.elim pursuing
  | saving tc saved event =>
    rw [standing] at pursuing
    exact False.elim pursuing
  | appending event =>
    rw [standing] at pursuing
    exact False.elim pursuing
  | waiting tc time =>
    rw [standing] at pursuing
    obtain ⟨tenant,rfl⟩ := pursuing
    right
    cases free : s.lock (serves client) with
    | some other =>
      simp only [System.step,System.proceed,standing,free]
      exact ⟨tenant,rfl⟩
    | none =>
      simp only [System.step,System.proceed,standing,free]
      exact entered ⟨rfl,mem_listActive.mpr ⟨id,stored,tenant.symm,active⟩⟩
  | recording tc time event rest =>
    rw [standing] at pursuing
    right
    simp only [System.step,System.proceed,standing]
    exact entered pursuing
  | sweeping tc time rest =>
    rw [standing] at pursuing
    obtain ⟨rfl,member⟩ := pursuing
    cases rest with
    | nil => cases member
    | cons first rest =>
      cases expired : first.dueAt time with
      | false =>
        have later : record ∈ rest := by
          rcases List.mem_cons.mp member with same | later
          · rw [same,expired] at due
            cases due
          · exact later
        right
        simp only [System.step,System.proceed,standing,expired]
        exact entered ⟨rfl,later⟩
      | true =>
        obtain ⟨overrides,saved,next⟩ := @sweep_saves _ _ serves s _ _ _ _ _ time rest orderly standing expired
        rw [next]
        rcases List.mem_cons.mp member with same | later
        · left
          subst same
          have here : id = (record.expire time).id := (orderly.keyed id record stored).symm
          have row := (save_ok saved).2 id
          rw [if_pos here] at row
          refine ⟨record.expire time,?_,row⟩
          intro stillActive
          cases stillActive
        · right
          exact entered ⟨rfl,later⟩

theorem step_pursues (orderly : s.Orderly) (due : record.dueAt now = true) (action : Action Client)
    (fresh : s.FreshIdentifier action) (pursues : s.Pursues client id record now) :
    (s.step serves action).Pursues client id record now := by
  rcases pursues with ended | ⟨stored,pursuing⟩
  · exact Or.inl (step_ended orderly fresh ended)
  · by_cases active : record.status = .active
    · rcases @step_row _ _ serves s _ _ id orderly action fresh with same | ⟨saved,written,closed | absent⟩
      · have kept := same.trans stored
        by_cases mine : action = .proceed client
        · subst mine
          rcases @proceed_pursues _ _ _ _ serves s _ _ _ _ orderly due stored active pursuing with ended | onwards
          · exact Or.inl ended
          · exact Or.inr ⟨kept,onwards⟩
        · refine Or.inr ⟨kept,?_⟩
          by_cases calls : ∃ c, action = .call client c
          · obtain ⟨c,rfl⟩ := calls
            have stay : s.step serves (.call client c) = s := by
              unfold System.step
              simp only
              split
              · rename_i idle
                rw [idle] at pursuing
                exact False.elim pursuing
              · rfl
            rw [stay]
            exact pursuing
          · rw [step_phase_other (fun c same => calls ⟨c,same⟩) mine]
            exact pursuing
      · exact Or.inl ⟨saved,closed,written⟩
      · rw [stored] at absent
        cases absent
    · exact Or.inl (step_ended orderly fresh ⟨record,active,stored⟩)

end Sweeps

section Runs

variable {start : System Client Instance}

theorem opening_orderly (opening : start.Opening) : start.Orderly := by
  obtain ⟨empty,_,idle⟩ := opening
  refine ⟨?_,?_,?_⟩
  · intro id record found
    rw [empty] at found
    cases found
  · intro id record found
    rw [empty] at found
    cases found
  · intro client
    rw [idle client]
    trivial

theorem opening_endsOnce (opening : start.Opening) : EndsOnce scheme start.outbox := by
  obtain ⟨empty,unaudited,idle⟩ := opening
  refine ⟨?_,?_⟩
  · intro id _
    refine ⟨?_,?_⟩
    · unfold reported System.outbox
      rw [unaudited]
      rfl
    · rintro client ⟨event,pending,_⟩
      have quiet : (start.phase client).pending = some event := pending
      rw [idle client] at quiet
      cases quiet
  · intro id record stored
    have found : start.overrides.lookup id = some record := stored
    rw [empty] at found
    cases found

variable [DecidableEq Client] [DecidableEq Instance] {serves : Client → Instance}

theorem run_orderly {s : System Client Instance} (orderly : s.Orderly) {actions : List (Action Client)}
    (fresh : Along (System.step serves) System.FreshIdentifier s actions) :
    (run (System.step serves) s actions).Orderly := by
  have keeps : ∀ (t : System Client Instance) (action : Action Client), t.Orderly → t.FreshIdentifier action →
      (t.step serves action).Orderly := fun t action orderly fresh => step_orderly orderly action fresh
  exact run_preserves keeps orderly fresh

theorem run_swept {s : System Client Instance} (orderly : s.Orderly) {client : Client} {tc : TenantContext} {now : Moment}
    {later : List (Action Client)} (idle : s.phase client = .idle)
    (fresh : Along (System.step serves) System.FreshIdentifier s (.call client (.revertExpiredOverrides tc now) :: later))
    (completed : (run (System.step serves) s (.call client (.revertExpiredOverrides tc now) :: later)).phase client =
      .idle) {id : String} {record : OverrideRecord} (stored : s.overrides.lookup id = some record)
    (own : record.tenantId = tc.tenantId) (due : record.dueAt now = true) :
    EndedAt (run (System.step serves) s (.call client (.revertExpiredOverrides tc now) :: later)).overrides id := by
  obtain ⟨first,rest⟩ := fresh
  rw [run_cons] at completed ⊢
  have begun : s.step serves (.call client (.revertExpiredOverrides tc now)) = s.enter client (.waiting tc now) := by
    simp only [System.step,idle,prepare]
  rw [begun] at completed rest ⊢
  have waiting : (s.enter client (.waiting tc now)).Pursues client id record now := by
    refine Or.inr ⟨stored,?_⟩
    rw [System.enter_self]
    exact ⟨own.symm,rfl⟩
  have next : (s.enter client (.waiting tc now)).Orderly := orderly_shift orderly rfl rfl trivial
  have keeps : ∀ (t : System Client Instance) (action : Action Client), t.Orderly ∧ t.Pursues client id record now →
      t.FreshIdentifier action → (t.step serves action).Orderly ∧ (t.step serves action).Pursues client id record now := by
    intro t action holds fresh
    exact ⟨step_orderly holds.1 action fresh,step_pursues holds.1 due action fresh holds.2⟩
  rcases (run_preserves keeps ⟨next,waiting⟩ rest).2 with ended | ⟨_,pursuing⟩
  · exact ended
  · rw [completed] at pursuing
    exact False.elim pursuing

theorem run_final {s : System Client Instance} (orderly : s.Orderly) {actions : List (Action Client)}
    (fresh : Along (System.step serves) System.FreshIdentifier s actions)
    (finds : Along (System.step serves) (System.FindsActive serves) s actions) {id : String} {record : OverrideRecord}
    (stored : s.overrides.lookup id = some record) (ended : record.status ≠ .active) :
    (run (System.step serves) s actions).overrides.lookup id = some record := by
  have keeps : ∀ (t : System Client Instance) (action : Action Client), t.Orderly ∧ t.overrides.lookup id = some record →
      t.FreshIdentifier action ∧ t.FindsActive serves action →
        (t.step serves action).Orderly ∧ (t.step serves action).overrides.lookup id = some record := by
    intro t action holds good
    exact ⟨step_orderly holds.1 action good.1,step_keeps_ended holds.1 good.1 good.2 holds.2 ended⟩
  exact (run_preserves keeps ⟨orderly,stored⟩ (along_and.mpr ⟨fresh,finds⟩)).2

end Runs

def clock (microseconds : ℕ) (within : microseconds < 86400 * 10^6) : Moment :=
  ⟨⟨2026,3,9,by decide⟩,microseconds,within⟩

def alertBypass : OverrideCreateRequest where
  overrideClass := .alertDeliveryFailure
  who := "ops-lead"
  what := "connector-setup"
  why := "mail relay is being replaced this week"
  previousValue := .bool true
  newValue := .bool false
  expiry := some (clock 60 (by decide))
  isPermanent := false
  approval := none
  accountable := by decide
  targeted := by decide
  explained := by decide

def acme : TenantContext := ⟨"acme",["TENANT_ADMIN"],none⟩

def quietSystem : System Bool Unit := ⟨∅,[],fun _ => none,fun _ => .idle⟩

def create : Call := .createOverride acme (clock 0 (by decide)) "ovr-1" alertBypass

def revertBy (actorId : String) (microseconds : ℕ) (within : microseconds < 86400 * 10^6) : Call :=
  .revertOverride acme "ovr-1" "relay is back" actorId (clock microseconds within)

def revertThenSweep : List (Action Bool) :=
  [.call true create, .proceed true, .proceed true, .call true (revertBy "ops-lead" 10 (by decide)), .proceed true, .proceed true,
    .call false (.revertExpiredOverrides acme (clock 70 (by decide))), .proceed false, .proceed false]

def racingReversions : List (Action Bool) :=
  [.call true create, .proceed true, .proceed true, .call true (revertBy "ops-lead" 10 (by decide)),
    .call false (revertBy "auditor" 11 (by decide)), .proceed true, .proceed true, .proceed false, .proceed false]

def oneInstance : Bool → Unit := fun _ => ()

theorem quietSystem_opening : quietSystem.Opening := ⟨rfl,rfl,fun _ => rfl⟩

def statusOf (s : System Bool Unit) (id : String) : Option OverrideStatus :=
  (s.overrides.lookup id).map OverrideRecord.status

end CloudLens.Overrides
