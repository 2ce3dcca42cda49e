import CloudLens.Overrides.Service
import CloudLens.Library.Outbox

/-! The steps of the override service as moves of an outbox, whose rows are the
overrides and whose log is the audit trail. A call carries a copy of what it has
read; whatever the other calls save meanwhile, the copy is of an override that is
still stored, and the event to be appended reports its end. -/
namespace CloudLens.Overrides
open Library Library.Outbox
open Audit (Moment)

/-- The override that an event reports the end of. -/
def AuditEvent.reversionOf (event : AuditEvent) : Option String :=
  match event.eventType with
  | .overrideCreated => none
  | .overrideReverted | .overrideExpired => some event.overrideId

structure AuditEvent.Agrees (event : AuditEvent) (record : OverrideRecord) : Prop where
  status : (event.eventType = .overrideReverted ∧ record.status = .reverted) ∨
    (event.eventType = .overrideExpired ∧ record.status = .expired)
  actor : record.revertedBy = some event.actorId

def scheme : Scheme String OverrideRecord AuditEvent where
  ended record := record.status ≠ .active
  reports := AuditEvent.reversionOf
  agrees := AuditEvent.Agrees

def Phase.pending : Phase → Option AuditEvent
  | .appending event => some event
  | .recording _ _ event _ => some event
  | .idle | .saving _ _ _ | .waiting _ _ | .sweeping _ _ _ => none

def ActiveAt (overrides : OverrideTable) (id : String) : Prop :=
  ∃ stored, overrides.lookup id = some stored ∧ stored.status = .active

def OverrideRecord.Approved (record : OverrideRecord) : Prop :=
  record.isPermanent = true → record.approval.any OverrideApproval.permanentApproved = true

variable {Client Instance : Type}

namespace System

def outbox (s : System Client Instance) : State String OverrideRecord AuditEvent Client :=
  ⟨fun id => s.overrides.lookup id,s.trail,fun client => (s.phase client).pending⟩

def FreshIdentifier (s : System Client Instance) : Action Client → Prop
  | .call _ _ => True
  | .proceed client =>
    match s.phase client with
    | .saving _ record _ => record.status = .active → s.overrides.lookup record.id = none
    | _ => True

def FindsActive (serves : Client → Instance) (s : System Client Instance) : Action Client → Prop
  | .call _ _ => True
  | .proceed client =>
    match s.phase client with
    | .saving _ record _ => s.lock (serves client) = none → record.status ≠ .active → ActiveAt s.overrides record.id
    | .sweeping _ now (record :: _) => record.dueAt now = true → ActiveAt s.overrides record.id
    | _ => True

end System

section Saves

variable {tc : TenantContext} {record : OverrideRecord} {overrides after : OverrideTable}

theorem save_ok (saved : save tc record overrides = .ok after) :
    record.tenantId = tc.tenantId ∧
      ∀ id, after.lookup id = if id = record.id then some record else overrides.lookup id := by
  unfold save at saved
  split at saved
  · cases saved
  · rename_i own
    refine ⟨by simpa using own,?_⟩
    intro id
    split at saved
    · split at saved
      · cases saved
        exact Table.lookup_overwrite overrides record.id id record
      · cases saved
    · cases saved
      exact Table.lookup_overwrite overrides record.id id record

theorem save_accepts (own : record.tenantId = tc.tenantId)
    (visible : ∀ stored, overrides.lookup record.id = some stored → stored.tenantId = tc.tenantId) :
    ∃ after, save tc record overrides = .ok after := by
  unfold save
  rw [if_neg (by simpa using own)]
  cases found : overrides.lookup record.id with
  | none => exact ⟨_,rfl⟩
  | some stored =>
    simp only [visible stored found,if_true]
    exact ⟨_,rfl⟩

theorem get_some {overrideId : String} (read : get tc overrideId overrides = some record) :
    overrides.lookup overrideId = some record ∧ record.tenantId = tc.tenantId := by
  obtain ⟨found,own⟩ := Option.filter_eq_some_iff.mp read
  exact ⟨found,by simpa using own⟩

theorem mem_listActive : record ∈ listActive tc overrides ↔
    ∃ id, overrides.lookup id = some record ∧ record.tenantId = tc.tenantId ∧ record.status = .active := by
  unfold listActive
  rw [List.mem_insertionSort,List.mem_map]
  constructor
  · rintro ⟨⟨id,row⟩,selected,rfl⟩
    obtain ⟨found,matched⟩ := Table.mem_selectWhere.mp selected
    exact ⟨id,found,by simpa using matched⟩
  · rintro ⟨id,found,matched⟩
    exact ⟨⟨id,record⟩,Table.mem_selectWhere.mpr ⟨found,by simpa using matched⟩,rfl⟩

theorem permitted_approved {now : Moment} {overrideId : String} {req : OverrideCreateRequest}
    (accepted : permitted now req = .ok ()) : (createdRecord tc now overrideId req).Approved := by
  intro permanent
  have asked : req.isPermanent = true := permanent
  unfold permitted at accepted
  rw [if_pos asked] at accepted
  split at accepted
  · assumption
  · cases accepted

end Saves

def Held (overrides : OverrideTable) (tenantId id : String) : Prop :=
  ∃ stored, overrides.lookup id = some stored ∧ stored.tenantId = tenantId

structure Copied (overrides : OverrideTable) (tc : TenantContext) (record : OverrideRecord) : Prop where
  own : record.tenantId = tc.tenantId
  approved : record.Approved
  held : Held overrides tc.tenantId record.id

structure AuditEvent.Announces (event : AuditEvent) (record : OverrideRecord) : Prop where
  created : record.status = .active → event.reversionOf = none
  ended : record.status ≠ .active → event.reversionOf = some record.id ∧ event.Agrees record

/-- What is true of a call under way, whatever the other calls have saved since it read. -/
def Phase.Sane (overrides : OverrideTable) : Phase → Prop
  | .saving tc record event => record.tenantId = tc.tenantId ∧ record.Approved ∧ event.Announces record ∧
      (record.status ≠ .active → Held overrides tc.tenantId record.id)
  | .sweeping tc _ rest | .recording tc _ _ rest => ∀ record ∈ rest, Copied overrides tc record
  | .idle | .appending _ | .waiting _ _ => True

structure System.Orderly (s : System Client Instance) : Prop where
  keyed : ∀ id record, s.overrides.lookup id = some record → record.id = id
  approved : ∀ id record, s.overrides.lookup id = some record → record.Approved
  sane : ∀ client, (s.phase client).Sane s.overrides

section Copies

variable {tc : TenantContext} {record : OverrideRecord} {overrides after : OverrideTable} {now : Moment}

theorem created_announced (overrideId : String) (req : OverrideCreateRequest) :
    (createdEvent tc (createdRecord tc now overrideId req)).Announces (createdRecord tc now overrideId req) :=
  ⟨fun _ => rfl,fun ended => absurd rfl ended⟩

theorem reverted_announced (actorId reason : String) :
    (revertedEvent tc record actorId reason).Announces (record.revert now actorId reason) := by
  refine ⟨?_,fun _ => ⟨rfl,Or.inl ⟨rfl,rfl⟩,rfl⟩⟩
  intro active
  cases active

theorem expired_announced : (expiredEvent tc record now).Announces (record.expire now) := by
  refine ⟨?_,fun _ => ⟨rfl,Or.inr ⟨rfl,rfl⟩,rfl⟩⟩
  intro active
  cases active

theorem held_after_save {tenantId id : String} (saved : save tc record overrides = .ok after)
    (visible : Held overrides tc.tenantId record.id ∨ overrides.lookup record.id = none) (held : Held overrides tenantId id) :
    Held after tenantId id := by
  obtain ⟨own,rows⟩ := save_ok saved
  obtain ⟨stored,found,owner⟩ := held
  by_cases same : id = record.id
  · refine ⟨record,by rw [rows,if_pos same],?_⟩
    rw [same] at found
    rcases visible with ⟨other,present,theirs⟩ | absent
    · rw [found] at present
      cases present
      exact own.trans (theirs.symm.trans owner)
    · rw [absent] at found
      cases found
  · exact ⟨stored,by rw [rows,if_neg same,found],owner⟩

theorem sane_after_save (saved : save tc record overrides = .ok after)
    (visible : Held overrides tc.tenantId record.id ∨ overrides.lookup record.id = none) {phase : Phase}
    (sane : phase.Sane overrides) : phase.Sane after := by
  have copies : ∀ {context : TenantContext} {rest : List OverrideRecord}, (∀ copy ∈ rest, Copied overrides context copy) →
      ∀ copy ∈ rest, Copied after context copy := by
    intro context rest copied copy member
    obtain ⟨own,approved,held⟩ := copied copy member
    exact ⟨own,approved,held_after_save saved visible held⟩
  cases phase with
  | saving context copy event =>
    obtain ⟨own,approved,announces,held⟩ := sane
    exact ⟨own,approved,announces,fun ended => held_after_save saved visible (held ended)⟩
  | sweeping context time rest => exact copies sane
  | recording context time event rest => exact copies sane
  | idle => trivial
  | appending event => trivial
  | waiting context time => trivial

theorem prepare_sane {call : Call} {phase : Phase} (keyed : ∀ id record, overrides.lookup id = some record → record.id = id)
    (approved : ∀ id record, overrides.lookup id = some record → record.Approved)
    (prepared : prepare overrides call = .ok phase) : phase.pending = none ∧ phase.Sane overrides := by
  cases call with
  | createOverride tc now overrideId req =>
    simp only [prepare] at prepared
    split at prepared
    · cases prepared
    · rename_i accepted
      cases prepared
      exact ⟨rfl,rfl,permitted_approved accepted,created_announced overrideId req,fun ended => absurd rfl ended⟩
  | revertOverride tc overrideId reason actorId now =>
    simp only [prepare] at prepared
    split at prepared
    · cases prepared
    · rename_i record read
      obtain ⟨found,own⟩ := get_some read
      split at prepared
      · cases prepared
      · cases prepared
        have here : record.id = overrideId := keyed overrideId record found
        refine ⟨rfl,own,approved overrideId record found,reverted_announced actorId reason,?_⟩
        intro _
        exact ⟨record,by rw [← found,← here]; rfl,own⟩
  | revertExpiredOverrides tc now =>
    cases prepared
    exact ⟨rfl,trivial⟩

end Copies

section Steps

variable {serves : Client → Instance} {s after : System Client Instance} {client : Client} {phase : Phase}
  {tc : TenantContext} {record : OverrideRecord} {event : AuditEvent}

theorem save_proper (before : (s.phase client).pending = none) (announces : event.Announces record)
    (held : record.status ≠ .active → Held s.overrides tc.tenantId record.id)
    (fresh : record.status = .active → s.overrides.lookup record.id = none) :
    Proper scheme s.outbox (.save client record.id record event) := by
  refine ⟨before,?_,?_⟩
  · intro ended
    have closed : record.status ≠ .active := of_decide_eq_true ended
    obtain ⟨stored,found,_⟩ := held closed
    obtain ⟨reports,agrees⟩ := announces.ended closed
    exact ⟨Option.isSome_iff_exists.mpr ⟨stored,found⟩,reports,agrees⟩
  · intro unended
    have stillActive : record.status = .active := by simpa [scheme] using unended
    exact ⟨fresh stillActive,announces.created stillActive⟩

theorem finds_iff : (record.status ≠ .active → ActiveAt s.overrides record.id) ↔
    FindsUnended scheme s.outbox (.save client record.id record event) := by
  simp [FindsUnended,ActiveAt,scheme,System.outbox]

variable [DecidableEq Client]

theorem orderly_shift (orderly : s.Orderly) (rows : after.overrides = s.overrides)
    (moved : after.phase = Function.update s.phase client phase) (sane : phase.Sane s.overrides) : after.Orderly := by
  obtain ⟨keyed,approved,sanes⟩ := orderly
  refine ⟨?_,?_,?_⟩
  · rw [rows]
    exact keyed
  · rw [rows]
    exact approved
  · intro other
    rw [rows,moved]
    by_cases same : other = client
    · rw [same,Function.update_self]
      exact sane
    · rw [Function.update_of_ne same]
      exact sanes other

theorem orderly_save (orderly : s.Orderly) (saved : save tc record s.overrides = .ok after.overrides)
    (visible : Held s.overrides tc.tenantId record.id ∨ s.overrides.lookup record.id = none) (approved : record.Approved)
    (moved : after.phase = Function.update s.phase client phase) (sane : phase.Sane after.overrides) : after.Orderly := by
  obtain ⟨own,rows⟩ := save_ok saved
  refine ⟨?_,?_,?_⟩
  · intro id stored found
    rw [rows] at found
    split at found
    · rename_i same
      cases found
      exact same.symm
    · exact orderly.keyed id stored found
  · intro id stored found
    rw [rows] at found
    split at found
    · cases found
      exact approved
    · exact orderly.approved id stored found
  · intro other
    rw [moved]
    by_cases same : other = client
    · rw [same,Function.update_self]
      exact sane
    · rw [Function.update_of_ne same]
      exact sane_after_save saved visible (orderly.sane other)

theorem pending_update (phases : Client → Phase) (client : Client) (phase : Phase) :
    (fun other => (Function.update phases client phase other).pending) =
      Function.update (fun other => (phases other).pending) client phase.pending := by
  funext other
  by_cases same : other = client
  · subst same
    rw [Function.update_self,Function.update_self]
  · rw [Function.update_of_ne same,Function.update_of_ne same]

theorem outbox_shift (rows : after.overrides = s.overrides) (trail : after.trail = s.trail)
    (moved : after.phase = Function.update s.phase client phase) (before : (s.phase client).pending = none)
    (quiet : phase.pending = none) : after.outbox = s.outbox := by
  unfold System.outbox
  rw [rows,trail,moved,pending_update,quiet,← before]
  congr 1
  exact Function.update_eq_self client (fun other => (s.phase other).pending)

theorem outbox_save (saved : save tc record s.overrides = .ok after.overrides) (trail : after.trail = s.trail)
    (moved : after.phase = Function.update s.phase client phase) (pending : phase.pending = some event) :
    after.outbox = apply s.outbox (.save client record.id record event) := by
  obtain ⟨own,rows⟩ := save_ok saved
  have written : (fun id => after.overrides.lookup id) =
      Function.update (fun id => s.overrides.lookup id) record.id (some record) := by
    funext id
    rw [rows]
    by_cases same : id = record.id
    · subst same
      rw [if_pos rfl,Function.update_self]
    · rw [if_neg same,Function.update_of_ne same]
  unfold System.outbox
  rw [written,trail,moved,pending_update,pending]
  rfl

theorem outbox_publish (rows : after.overrides = s.overrides) (trail : after.trail = s.trail ++ [event])
    (moved : after.phase = Function.update s.phase client phase) (before : (s.phase client).pending = some event)
    (quiet : phase.pending = none) : after.outbox = apply s.outbox (.publish client) := by
  unfold System.outbox
  rw [rows,trail,moved,pending_update,quiet]
  simp only [apply,before,Option.toList_some]

variable [DecidableEq Instance]

/-- A step changes nothing that the ends of overrides depend on, or it is a move of the outbox. -/
inductive Outcome (serves : Client → Instance) (s : System Client Instance) (action : Action Client) : Prop
  | quiet (orderly : (s.step serves action).Orderly) (same : (s.step serves action).outbox = s.outbox)
      (finds : s.FindsActive serves action)
  | moved (move : Move String OverrideRecord AuditEvent Client) (orderly : (s.step serves action).Orderly)
      (applied : (s.step serves action).outbox = apply s.outbox move) (proper : Proper scheme s.outbox move)
      (finds : s.FindsActive serves action ↔ FindsUnended scheme s.outbox move)

theorem unmoved_outcome {action : Action Client} (orderly : s.Orderly) (same : s.step serves action = s)
    (finds : s.FindsActive serves action) : Outcome serves s action := by
  refine .quiet ?_ ?_ finds
  · rw [same]
    exact orderly
  · rw [same]

theorem shifted_outcome {action : Action Client} (orderly : s.Orderly) (next : s.step serves action = after)
    (rows : after.overrides = s.overrides) (trail : after.trail = s.trail)
    (moved : after.phase = Function.update s.phase client phase) (before : (s.phase client).pending = none)
    (quiet : phase.pending = none) (sane : phase.Sane s.overrides) (finds : s.FindsActive serves action) :
    Outcome serves s action := by
  refine .quiet ?_ ?_ finds
  · rw [next]
    exact orderly_shift orderly rows moved sane
  · rw [next]
    exact outbox_shift rows trail moved before quiet

theorem published_outcome {action : Action Client} (orderly : s.Orderly) (next : s.step serves action = after)
    (rows : after.overrides = s.overrides) (trail : after.trail = s.trail ++ [event])
    (moved : after.phase = Function.update s.phase client phase) (before : (s.phase client).pending = some event)
    (quiet : phase.pending = none) (sane : phase.Sane s.overrides) (finds : s.FindsActive serves action) :
    Outcome serves s action := by
  refine .moved (.publish client) ?_ ?_ trivial ⟨fun _ => trivial,fun _ => finds⟩
  · rw [next]
    exact orderly_shift orderly rows moved sane
  · rw [next]
    exact outbox_publish rows trail moved before quiet

theorem saved_outcome {action : Action Client} (orderly : s.Orderly) (next : s.step serves action = after)
    (saved : save tc record s.overrides = .ok after.overrides) (trail : after.trail = s.trail)
    (moved : after.phase = Function.update s.phase client phase) (before : (s.phase client).pending = none)
    (pending : phase.pending = some event) (sane : phase.Sane s.overrides) (approved : record.Approved)
    (announces : event.Announces record) (held : record.status ≠ .active → Held s.overrides tc.tenantId record.id)
    (fresh : record.status = .active → s.overrides.lookup record.id = none)
    (finds : s.FindsActive serves action ↔ (record.status ≠ .active → ActiveAt s.overrides record.id)) :
    Outcome serves s action := by
  have visible : Held s.overrides tc.tenantId record.id ∨ s.overrides.lookup record.id = none := by
    by_cases stillActive : record.status = .active
    · exact Or.inr (fresh stillActive)
    · exact Or.inl (held stillActive)
  refine .moved (.save client record.id record event) ?_ ?_ (save_proper before announces held fresh) (finds.trans finds_iff)
  · rw [next]
    exact orderly_save orderly saved visible approved moved (sane_after_save saved visible sane)
  · rw [next]
    exact outbox_save saved trail moved pending

theorem call_outcome (orderly : s.Orderly) (client : Client) (call : Call) : Outcome serves s (.call client call) := by
  have stay : s.step serves (.call client call) = s → Outcome serves s (.call client call) :=
    fun same => unmoved_outcome orderly same trivial
  cases standing : s.phase client with
  | idle =>
    cases prepared : prepare s.overrides call with
    | error e => exact stay (by simp only [System.step,standing,prepared])
    | ok phase =>
      obtain ⟨quiet,sane⟩ := prepare_sane orderly.keyed orderly.approved prepared
      have next : s.step serves (.call client call) = s.enter client phase := by simp only [System.step,standing,prepared]
      have before : (s.phase client).pending = none := by rw [standing]; rfl
      exact shifted_outcome orderly next rfl rfl rfl before quiet sane trivial
  | saving tc record event => exact stay (by simp only [System.step,standing])
  | appending event => exact stay (by simp only [System.step,standing])
  | waiting tc now => exact stay (by simp only [System.step,standing])
  | sweeping tc now rest => exact stay (by simp only [System.step,standing])
  | recording tc now event rest => exact stay (by simp only [System.step,standing])

theorem saving_outcome (orderly : s.Orderly) (standing : s.phase client = .saving tc record event)
    (fresh : record.status = .active → s.overrides.lookup record.id = none) : Outcome serves s (.proceed client) := by
  have sane := orderly.sane client
  rw [standing] at sane
  obtain ⟨own,approved,announces,held⟩ := sane
  have before : (s.phase client).pending = none := by rw [standing]; rfl
  cases free : s.lock (serves client) with
  | some other =>
    refine unmoved_outcome orderly ?_ ?_
    · simp only [System.step,System.proceed,standing,free]
    · simp only [System.FindsActive,standing,free]
      intro blocked
      cases blocked
  | none =>
    have theirs : ∀ stored, s.overrides.lookup record.id = some stored → stored.tenantId = tc.tenantId := by
      intro stored found
      by_cases stillActive : record.status = .active
      · rw [fresh stillActive] at found
        cases found
      · obtain ⟨other,present,tenant⟩ := held stillActive
        rw [found] at present
        cases present
        exact tenant
    obtain ⟨overrides,saved⟩ := save_accepts own theirs
    have next : s.step serves (.proceed client) =
        ({ s with overrides := overrides }.hold (serves client) client).enter client (.appending event) := by
      simp only [System.step,System.proceed,standing,free,saved]
    refine saved_outcome orderly next saved rfl rfl before rfl trivial approved announces held fresh ?_
    simp only [System.FindsActive,standing,free]
    exact ⟨fun finds => finds trivial,fun finds _ => finds⟩

theorem sweep_saves {now : Moment} {rest : List OverrideRecord} (orderly : s.Orderly)
    (standing : s.phase client = .sweeping tc now (record :: rest)) (due : record.dueAt now = true) :
    ∃ overrides, save tc (record.expire now) s.overrides = .ok overrides ∧ s.step serves (.proceed client) =
      { s with overrides := overrides }.enter client (.recording tc now (expiredEvent tc record now) rest) := by
  have sane := orderly.sane client
  rw [standing] at sane
  obtain ⟨own,approved,other,present,tenant⟩ := sane record List.mem_cons_self
  have theirs : ∀ stored, s.overrides.lookup record.id = some stored → stored.tenantId = tc.tenantId := by
    intro stored found
    rw [found] at present
    cases present
    exact tenant
  obtain ⟨overrides,saved⟩ := @save_accepts tc (record.expire now) s.overrides own theirs
  refine ⟨overrides,saved,?_⟩
  simp only [System.step,System.proceed,standing,due,saved,if_true]

theorem sweeping_outcome {now : Moment} {rest : List OverrideRecord} (orderly : s.Orderly)
    (standing : s.phase client = .sweeping tc now (record :: rest)) : Outcome serves s (.proceed client) := by
  have sane := orderly.sane client
  rw [standing] at sane
  obtain ⟨own,approved,held⟩ := sane record List.mem_cons_self
  have later : ∀ copy ∈ rest, Copied s.overrides tc copy := fun copy member => sane copy (List.mem_cons_of_mem _ member)
  have before : (s.phase client).pending = none := by rw [standing]; rfl
  cases due : record.dueAt now with
  | false =>
    have next : s.step serves (.proceed client) = s.enter client (.sweeping tc now rest) := by
      simp [System.step,System.proceed,standing,due]
    refine shifted_outcome orderly next rfl rfl rfl before rfl later ?_
    simp [System.FindsActive,standing,due]
  | true =>
    obtain ⟨overrides,saved,next⟩ := @sweep_saves _ _ serves _ _ _ _ _ _ now rest orderly standing due
    have ended : (record.expire now).status ≠ .active := fun stillActive => by cases stillActive
    refine saved_outcome orderly next saved rfl rfl before rfl later approved expired_announced (fun _ => held)
      (fun stillActive => absurd stillActive ended) ?_
    simp only [System.FindsActive,standing,due]
    exact ⟨fun finds _ => finds trivial,fun finds _ => finds ended⟩

theorem step_outcome (orderly : s.Orderly) (action : Action Client) (fresh : s.FreshIdentifier action) :
    Outcome serves s action := by
  cases action with
  | call client call => exact call_outcome orderly client call
  | proceed client =>
    have sane := orderly.sane client
    cases standing : s.phase client with
    | idle =>
      refine unmoved_outcome orderly ?_ ?_
      · simp only [System.step,System.proceed,standing]
      · simp only [System.FindsActive,standing]
    | saving tc record event =>
      simp only [System.FreshIdentifier,standing] at fresh
      exact saving_outcome orderly standing fresh
    | appending event =>
      have before : (s.phase client).pending = some event := by rw [standing]; rfl
      have next : s.step serves (.proceed client) =
          ({ s with trail := s.trail ++ [event] }.release (serves client)).enter client .idle := by
        simp only [System.step,System.proceed,standing]
      refine published_outcome orderly next rfl rfl rfl before rfl trivial ?_
      simp only [System.FindsActive,standing]
    | waiting tc now =>
      have finds : s.FindsActive serves (.proceed client) := by simp only [System.FindsActive,standing]
      cases free : s.lock (serves client) with
      | some other => exact unmoved_outcome orderly (by simp only [System.step,System.proceed,standing,free]) finds
      | none =>
        have before : (s.phase client).pending = none := by rw [standing]; rfl
        have next : s.step serves (.proceed client) =
            (s.hold (serves client) client).enter client (.sweeping tc now (listActive tc s.overrides)) := by
          simp only [System.step,System.proceed,standing,free]
        refine shifted_outcome orderly next rfl rfl rfl before rfl ?_ finds
        intro record member
        obtain ⟨id,found,own,_⟩ := mem_listActive.mp member
        have here := orderly.keyed id record found
        subst here
        exact ⟨own,orderly.approved _ record found,record,found,own⟩
    | sweeping tc now rest =>
      cases rest with
      | cons record rest => exact sweeping_outcome orderly standing
      | nil =>
        have before : (s.phase client).pending = none := by rw [standing]; rfl
        have next : s.step serves (.proceed client) = (s.release (serves client)).enter client .idle := by
          simp only [System.step,System.proceed,standing]
        refine shifted_outcome orderly next rfl rfl rfl before rfl trivial ?_
        simp only [System.FindsActive,standing]
    | recording tc now event rest =>
      rw [standing] at sane
      have before : (s.phase client).pending = some event := by rw [standing]; rfl
      have next : s.step serves (.proceed client) =
          { s with trail := s.trail ++ [event] }.enter client (.sweeping tc now rest) := by
        simp only [System.step,System.proceed,standing]
      have copies : (Phase.sweeping tc now rest).Sane s.overrides := sane
      refine published_outcome orderly next rfl rfl rfl before rfl copies ?_
      simp only [System.FindsActive,standing]

theorem step_orderly (orderly : s.Orderly) (action : Action Client) (fresh : s.FreshIdentifier action) :
    (s.step serves action).Orderly := by
  cases @step_outcome _ _ serves s _ _ orderly action fresh with
  | quiet next same finds => exact next
  | moved move next applied proper finds => exact next

theorem step_endsOnce_iff (orderly : s.Orderly) (holds : EndsOnce scheme s.outbox) {action : Action Client}
    (fresh : s.FreshIdentifier action) : EndsOnce scheme (s.step serves action).outbox ↔ s.FindsActive serves action := by
  cases @step_outcome _ _ serves s _ _ orderly action fresh with
  | quiet next same finds =>
    rw [same]
    exact ⟨fun _ => finds,fun _ => holds⟩
  | moved move next applied proper finds =>
    rw [applied,finds]
    exact apply_endsOnce_iff holds proper

theorem step_keeps_ended {id : String} {action : Action Client} (orderly : s.Orderly) (fresh : s.FreshIdentifier action)
    (finds : s.FindsActive serves action) (stored : s.overrides.lookup id = some record) (ended : record.status ≠ .active) :
    (s.step serves action).overrides.lookup id = some record := by
  have row : s.outbox.row id = some record := stored
  have goal : (s.step serves action).outbox.row id = some record := by
    cases @step_outcome _ _ serves s _ _ orderly action fresh with
    | quiet next same _ =>
      rw [same]
      exact row
    | moved move next applied proper iff =>
      rw [applied]
      exact apply_keeps_ended proper (iff.mp finds) row (decide_eq_true ended)
  exact goal

theorem step_row {id : String} (orderly : s.Orderly) (action : Action Client) (fresh : s.FreshIdentifier action) :
    (s.step serves action).overrides.lookup id = s.overrides.lookup id ∨
      ∃ saved, (s.step serves action).overrides.lookup id = some saved ∧
        (saved.status ≠ .active ∨ s.overrides.lookup id = none) := by
  cases @step_outcome _ _ serves s _ _ orderly action fresh with
  | quiet next same _ => exact Or.inl (congrFun (congrArg State.row same) id)
  | moved move next applied proper _ =>
    have row : (s.step serves action).overrides.lookup id = (apply s.outbox move).row id :=
      congrFun (congrArg State.row applied) id
    cases move with
    | publish client => exact Or.inl row
    | save client key saved event =>
      by_cases same : id = key
      · subst same
        refine Or.inr ⟨saved,row.trans save_row_self,?_⟩
        by_cases stillActive : saved.status = .active
        · exact Or.inr (proper.2.2 (by simp [scheme,stillActive])).1
        · exact Or.inl stillActive
      · exact Or.inl (row.trans (save_row_other same))

end Steps

end CloudLens.Overrides
