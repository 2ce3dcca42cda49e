import CloudLens.Overrides.Model
import CloudLens.Library.Runs
import Mathlib.Logic.Function.Basic

/-! The override service as its instances run it. A client calls the instance it
runs in; a call is a row of steps, each of which reads the table, saves a row or
appends to the audit trail. The lock of an instance is taken for the save and
the append, not for the read that precedes a manual reversion, and it does not
hold back the clients of another instance. -/
namespace CloudLens.Overrides
open Library
open Audit (Moment isoformat)

namespace OverrideRecord

def dueAt (record : OverrideRecord) (now : Moment) : Bool :=
  !record.isPermanent && record.expiry.any (fun expiry => ¬ now.Before expiry)

def resourceType (record : OverrideRecord) : String := "OVERRIDE_" ++ record.overrideClass.value

def revert (record : OverrideRecord) (now : Moment) (actorId reason : String) : OverrideRecord :=
  { record with
    status := .reverted
    revertedAt := some now
    revertedBy := some actorId
    reversionReason := some reason }

def expiryText (record : OverrideRecord) : String := String.ofList ((record.expiry.map isoformat).getD [])

def expire (record : OverrideRecord) (now : Moment) : OverrideRecord :=
  { record with
    status := .expired
    revertedAt := some now
    revertedBy := some "system:automatic_reversion"
    reversionReason := some ("Automatic expiration: configured expiry '" ++ record.expiryText ++ "' reached.") }

end OverrideRecord

abbrev OverrideTable : Type := Table String OverrideRecord

def get (tc : TenantContext) (overrideId : String) (overrides : OverrideTable) : Option OverrideRecord :=
  (overrides.lookup overrideId).filter (fun record => record.tenantId = tc.tenantId)

def listActive (tc : TenantContext) (overrides : OverrideTable) : List OverrideRecord :=
  ((overrides.selectWhere (fun _ record => record.tenantId = tc.tenantId && record.status = .active)).map
    (fun entry => entry.2)).insertionSort (fun a b => ¬ a.when.Before b.when)

def save (tc : TenantContext) (record : OverrideRecord) (overrides : OverrideTable) : Except OverrideError OverrideTable :=
  if record.tenantId ≠ tc.tenantId then .error (.crossTenant record.tenantId tc.tenantId)
  else
    match overrides.lookup record.id with
    | some stored =>
      if stored.tenantId = tc.tenantId then .ok (overrides.upsert (fun _ proposed => proposed) record.id record)
      else .error .rowLevelSecurity
    | none => .ok (overrides.upsert (fun _ proposed => proposed) record.id record)

def permitted (now : Moment) (req : OverrideCreateRequest) : Except OverrideError Unit :=
  if req.isPermanent then
    if req.approval.any OverrideApproval.permanentApproved then .ok () else .error .permanentNotAllowed
  else
    match req.expiry with
    | none => .error .expiryMissing
    | some expiry => if now.Before expiry then .ok () else .error (.expiryPast expiry)

def createdRecord (tc : TenantContext) (now : Moment) (overrideId : String) (req : OverrideCreateRequest) :
    OverrideRecord where
  id := overrideId
  tenantId := tc.tenantId
  overrideClass := req.overrideClass
  who := req.who
  what := req.what
  why := req.why
  when := now
  previousValue := req.previousValue
  newValue := req.newValue
  expiry := req.expiry
  isPermanent := req.isPermanent
  approval := req.approval
  status := .active
  revertedAt := none
  revertedBy := none
  reversionReason := none
  correlationId := tc.correlationId

def createdEvent (tc : TenantContext) (record : OverrideRecord) : AuditEvent where
  eventType := .overrideCreated
  actorId := record.who
  actorRoles := tc.roles
  action := "APPLY_OVERRIDE"
  resourceType := record.resourceType
  resourceId := record.what
  overrideId := record.id
  details := .applied record.what record.why record.previousValue record.newValue record.isPermanent record.expiry
    record.approval
  correlationId := tc.correlationId

def revertedEvent (tc : TenantContext) (record : OverrideRecord) (actorId reason : String) : AuditEvent where
  eventType := .overrideReverted
  actorId := actorId
  actorRoles := tc.roles
  action := "REVERT_OVERRIDE"
  resourceType := record.resourceType
  resourceId := record.what
  overrideId := record.id
  details := .reverted record.what reason record.previousValue record.newValue
  correlationId := tc.correlationId

def expiredEvent (tc : TenantContext) (record : OverrideRecord) (now : Moment) : AuditEvent where
  eventType := .overrideExpired
  actorId := "system:automatic_reversion"
  actorRoles := ["SYSTEM"]
  action := "EXPIRE_OVERRIDE"
  resourceType := record.resourceType
  resourceId := record.what
  overrideId := record.id
  details := .expired record.what (record.expiry.getD now) now record.previousValue record.newValue
  correlationId := tc.correlationId

inductive Call where
  | createOverride (tc : TenantContext) (now : Moment) (overrideId : String) (req : OverrideCreateRequest)
  | revertOverride (tc : TenantContext) (overrideId reason actorId : String) (now : Moment)
  | revertExpiredOverrides (tc : TenantContext) (now : Moment)

/-- Where a call stands. It holds the lock of its instance from the save to the
append, a sweep from the listing to the last append. -/
inductive Phase where
  | idle
  | saving (tc : TenantContext) (record : OverrideRecord) (event : AuditEvent)
  | appending (event : AuditEvent)
  | waiting (tc : TenantContext) (now : Moment)
  | sweeping (tc : TenantContext) (now : Moment) (rest : List OverrideRecord)
  | recording (tc : TenantContext) (now : Moment) (event : AuditEvent) (rest : List OverrideRecord)

def prepare (overrides : OverrideTable) : Call → Except OverrideError Phase
  | .createOverride tc now overrideId req =>
    match permitted now req with
    | .error e => .error e
    | .ok () =>
      let record := createdRecord tc now overrideId req
      .ok (.saving tc record (createdEvent tc record))
  | .revertOverride tc overrideId reason actorId now =>
    match get tc overrideId overrides with
    | none => .error (.notFound overrideId)
    | some record =>
      if record.status ≠ .active then .error (.notActive overrideId record.status)
      else .ok (.saving tc (record.revert now actorId reason) (revertedEvent tc record actorId reason))
  | .revertExpiredOverrides tc now => .ok (.waiting tc now)

variable {Client Instance : Type}

structure System (Client Instance : Type) where
  overrides : OverrideTable
  trail : List AuditEvent
  lock : Instance → Option Client
  phase : Client → Phase

inductive Action (Client : Type) where
  | call (client : Client) (call : Call)
  | proceed (client : Client)

namespace System

variable [DecidableEq Client] [DecidableEq Instance]

def enter (s : System Client Instance) (client : Client) (phase : Phase) : System Client Instance :=
  { s with phase := Function.update s.phase client phase }

def hold (s : System Client Instance) (service : Instance) (client : Client) : System Client Instance :=
  { s with lock := Function.update s.lock service (some client) }

def release (s : System Client Instance) (service : Instance) : System Client Instance :=
  { s with lock := Function.update s.lock service none }

def proceed (serves : Client → Instance) (s : System Client Instance) (client : Client) : System Client Instance :=
  match s.phase client with
  | .idle => s
  | .saving tc record event =>
    match s.lock (serves client) with
    | some _ => s
    | none =>
      match save tc record s.overrides with
      | .error _ => s.enter client .idle
      | .ok overrides => ({ s with overrides := overrides }.hold (serves client) client).enter client (.appending event)
  | .appending event => ({ s with trail := s.trail ++ [event] }.release (serves client)).enter client .idle
  | .waiting tc now =>
    match s.lock (serves client) with
    | some _ => s
    | none => (s.hold (serves client) client).enter client (.sweeping tc now (listActive tc s.overrides))
  | .sweeping _ _ [] => (s.release (serves client)).enter client .idle
  | .sweeping tc now (record :: rest) =>
    if record.dueAt now then
      match save tc (record.expire now) s.overrides with
      | .error _ => (s.release (serves client)).enter client .idle
      | .ok overrides => { s with overrides := overrides }.enter client (.recording tc now (expiredEvent tc record now) rest)
    else s.enter client (.sweeping tc now rest)
  | .recording tc now event rest => { s with trail := s.trail ++ [event] }.enter client (.sweeping tc now rest)

def step (serves : Client → Instance) (s : System Client Instance) : Action Client → System Client Instance
  | .call client call =>
    match s.phase client with
    | .idle =>
      match prepare s.overrides call with
      | .error _ => s
      | .ok phase => s.enter client phase
    | _ => s
  | .proceed client => s.proceed serves client

omit [DecidableEq Instance]

@[simp] theorem enter_self (s : System Client Instance) (client : Client) (phase : Phase) :
    (s.enter client phase).phase client = phase :=
  Function.update_self ..

theorem enter_other {s : System Client Instance} {client other : Client} (phase : Phase) (distinct : other ≠ client) :
    (s.enter client phase).phase other = s.phase other :=
  Function.update_of_ne distinct ..

end System

end CloudLens.Overrides
