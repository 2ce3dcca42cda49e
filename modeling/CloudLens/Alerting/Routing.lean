import CloudLens.Alerting.Model
import CloudLens.Library.Dict
import CloudLens.Library.FirstMatch
import CloudLens.Library.Casing

/-! Who an alert is sent to: the contacts of its roles, else the owner of the entity or
of the scope, then the subscriptions, and the administrator where there is nobody.
Candidates in quiet hours are left out, and a recipient is kept once. -/
namespace CloudLens.Alerting
open Library

inductive NotificationChannel
  | email
  | slack
  | webhook
  | pagerduty
  | teams
  | inApp
  | jira
  | servicenow
  deriving DecidableEq

structure DayTime where
  hour : Fin 24
  minute : Fin 60
  deriving DecidableEq

/-- The time zone of the configuration is read by nothing. -/
structure QuietHoursConfig where
  enabled : Bool := true
  startTime : String := "22:00"
  endTime : String := "08:00"
  suppressedSeverities : List AlertSeverity := [.info, .warning]
  deriving DecidableEq

structure RecipientSubscription where
  recipient : String
  channel : NotificationChannel
  scopeId : Option String := none
  alertTypes : List AlertType := []
  severities : List AlertSeverity := []
  quietHours : Option QuietHoursConfig := none
  deriving DecidableEq

structure RecipientResolutionResult where
  recipients : List String
  channels : List NotificationChannel
  resolutionSource : String
  governanceExceptionRaised : Bool
  fallbackReason : Option String
  deriving DecidableEq

/-- A value of the metadata: the items of a list as their texts, and of any other value
only whether it counts as true. -/
inductive MetaValue
  | null
  | text (value : String)
  | items (texts : List String)
  | other (truth : Bool)
  deriving DecidableEq

structure Metadata where
  fields : Dict String MetaValue
  tags : Dict String MetaValue

structure Candidate where
  recipient : String
  channel : NotificationChannel
  quietHours : Option QuietHoursConfig := none
  deriving DecidableEq

structure RecipientRouter where
  defaultScopeAdmin : String
  defaultAdminChannel : NotificationChannel := .email

section QuietHours

def twoDigits (n : ℕ) : List Char := [Text.digitChar (n / 10), Text.digitChar n]

def DayTime.hourMinute (time : DayTime) : List Char := twoDigits time.hour ++ ':' :: twoDigits time.minute

def AlertSeverity.highOrCritical (severity : AlertSeverity) : Bool :=
  severity = .critical || severity = .high || severity = .error

/-- Times are compared as texts. -/
def QuietHoursConfig.isInQuietHours (quiet : QuietHoursConfig) (time : DayTime) (severity : AlertSeverity) : Bool :=
  if !quiet.enabled then false
  else if severity.highOrCritical then false
  else if severity ∉ quiet.suppressedSeverities then false
  else if quiet.startTime.toList ≤ quiet.endTime.toList then
    quiet.startTime.toList ≤ time.hourMinute && time.hourMinute < quiet.endTime.toList
  else quiet.startTime.toList ≤ time.hourMinute || time.hourMinute < quiet.endTime.toList

end QuietHours

section Contacts

def MetaValue.truthy : MetaValue → Bool
  | .null => false
  | .text value => value ≠ ""
  | .items texts => texts ≠ []
  | .other truth => truth

def MetaValue.contacts : MetaValue → List String
  | .text value => if Text.stripped value ≠ "" then [Text.stripped value] else []
  | .items texts => (texts.map Text.stripped).filter (· ≠ "")
  | _ => []

def replaceChar (old new : Char) (word : String) : String := word.map (fun c => if c = old then new else c)

def lookupKeys (role : String) : List String :=
  [role, Text.lower role, replaceChar '_' '-' role, replaceChar '-' '_' role, Text.title role,
    String.ofList ((Text.title (replaceChar '_' ' ' role)).toList.filter (· ≠ ' '))]

/-- A field hides the tag of its name, also where it is null. -/
def Metadata.read (metadata : Metadata) (key : String) : Option MetaValue := (metadata.fields.get key).or (metadata.tags.get key)

def Metadata.lookupContacts (metadata : Metadata) : List String → List String
  | [] => []
  | key :: rest =>
    match metadata.read key with
    | none | some .null => metadata.lookupContacts rest
    | some value => value.contacts

def extractRoleContacts (metadata : Option Metadata) (role : String) : List String :=
  match metadata with
  | none => []
  | some metadata => metadata.lookupContacts (lookupKeys role)

/-- The roles of the catalogue; four alert types are not in it, one of them an alias. -/
def defaultRoutingRoles : AlertType → List String
  | .budgetThreshold | .forecastBudgetBreach => ["owner", "budget_owner"]
  | .runtimeBreach | .usageThreshold => ["owner", "technical_owner"]
  | .unexpectedCostIncrease => ["owner", "finops_lead"]
  | .missingData => ["cloud_administrator", "platform_administrator"]
  | .staleConnector | .connectorFailure | .deletedService | .credentialExpiring => ["cloud_administrator"]
  | .resourceWithoutOwner => ["cloud_administrator", "scope_owner"]
  | .resourceWithoutMandatoryTags => ["owner", "scope_owner"]
  | .dependencyChange => ["technical_owner"]
  | .newServiceDetected => ["cloud_administrator", "procurement"]
  | .unexpectedResourceCreation => ["cloud_administrator", "security_lead"]
  | .reconciliationFailed => ["finops_lead", "procurement"]
  | .quotaHeadroomLow | .quotaHeadroomBreach => ["technical_owner", "cloud_administrator"]
  | .commitmentExpiring => ["commitment_owner", "procurement"]
  | .provisioningRequestDecided => ["requester"]
  | .analyticalExtractLateOrEmpty => ["platform_administrator"]
  | .scopeStormGrouped | .credentialExpired | .securityAlert => []

def channelOf (contact : String) : NotificationChannel := if '@' ∈ contact.toList then .email else .inApp

def roleContacts (resource scope : Option Metadata) (role : String) : List String :=
  match extractRoleContacts resource role with
  | [] => extractRoleContacts scope role
  | contacts => contacts

def roleCandidates (alertType : AlertType) (resource scope : Option Metadata) : List Candidate :=
  (Firsts.firsts id ((defaultRoutingRoles alertType).flatMap (roleContacts resource scope))).map
    (fun contact => ⟨contact,channelOf contact,none⟩)

def firstTruthy (values : List (Option MetaValue)) : Option MetaValue := values.reduceOption.find? MetaValue.truthy

def MetaValue.owner : MetaValue → Option Candidate
  | .text value => if Text.stripped value ≠ "" then some ⟨Text.stripped value,channelOf value,none⟩ else none
  | _ => none

def Metadata.entityOwners (metadata : Metadata) : List (Option MetaValue) :=
  [metadata.tags.get "owner", metadata.tags.get "Owner", metadata.tags.get "contact", metadata.tags.get "team", metadata.fields.get "owner"]

def Metadata.scopeOwners (metadata : Metadata) : List (Option MetaValue) :=
  [metadata.fields.get "owner", metadata.fields.get "administrator", metadata.fields.get "contact"]

def ownerAmong (named : Metadata → List (Option MetaValue)) (metadata : Option Metadata) : Option Candidate :=
  metadata.bind (fun metadata => (firstTruthy (named metadata)).bind MetaValue.owner)

def owners (alertType : AlertType) (resource scope : Option Metadata) : List Candidate × String :=
  match roleCandidates alertType resource scope with
  | first :: rest => (first :: rest, "master_data_role_routing")
  | [] =>
    match ownerAmong Metadata.entityOwners resource with
    | some owner => ([owner], "entity_owner")
    | none =>
      match ownerAmong Metadata.scopeOwners scope with
      | some owner => ([owner], "scope_owner")
      | none => ([], "")

end Contacts

section Resolution

def RecipientSubscription.accepts (sub : RecipientSubscription) (alert : AlertEntity) : Bool :=
  !((sub.scopeId.filter (· ≠ "")).isSome && (alert.scopeId.filter (· ≠ "")).isSome && decide (sub.scopeId ≠ alert.scopeId)) &&
    (sub.alertTypes = [] || alert.alertType ∈ sub.alertTypes) && (sub.severities = [] || alert.severity ∈ sub.severities)

def RecipientSubscription.candidate (sub : RecipientSubscription) : Candidate := ⟨sub.recipient,sub.channel,sub.quietHours⟩

def contenders (alert : AlertEntity) (resource scope : Option Metadata) (subscriptions : List RecipientSubscription) : List Candidate :=
  (owners alert.alertType resource scope).1 ++ (subscriptions.filter (·.accepts alert)).map RecipientSubscription.candidate

def Candidate.suppressed (severity : AlertSeverity) (now : DayTime) (candidate : Candidate) : Bool :=
  candidate.quietHours.any (fun quiet => !severity.highOrCritical && quiet.isInQuietHours now severity)

structure Delivery where
  recipients : List String := []
  channels : List NotificationChannel := []
  digestBuffered : Bool := false

def Delivery.offer (severity : AlertSeverity) (now : DayTime) (delivery : Delivery) (candidate : Candidate) : Delivery :=
  if candidate.suppressed severity now then { delivery with digestBuffered := true }
  else if candidate.recipient ∈ delivery.recipients then delivery
  else
    { delivery with
      recipients := delivery.recipients ++ [candidate.recipient]
      channels := delivery.channels ++ [candidate.channel] }

def noneFound (alert : AlertEntity) : String :=
  "No resource owner, scope owner, or explicit subscriptions found for alert '" ++ alert.id ++ "' (scope=" ++ alert.scopeId.getD "None" ++
    ", resource=" ++ alert.affectedResourceId.getD "None" ++ "). Routed to default administrator and flagged governance exception."

/-- The administrator stands in where there is no candidate. -/
def RecipientRouter.candidates (router : RecipientRouter) (found : List Candidate) : List Candidate :=
  if found.isEmpty then [⟨router.defaultScopeAdmin,router.defaultAdminChannel,none⟩] else found

/-- The result, and whether the alert is marked as held back for a digest. -/
def RecipientRouter.resolveRecipients (router : RecipientRouter) (alert : AlertEntity) (resource scope : Option Metadata)
    (subscriptions : List RecipientSubscription) (now : DayTime) : RecipientResolutionResult × Bool :=
  let found := contenders alert resource scope subscriptions
  let missing := found.isEmpty
  let source := if missing then "scope_default_administrator_fallback"
    else orElse (some (owners alert.alertType resource scope).2) "explicit_subscription"
  let delivery := (router.candidates found).foldl (Delivery.offer alert.severity now) {}
  if delivery.recipients.isEmpty then
    (⟨[],[],source,missing,some "Recipients suppressed during quiet hours (digest buffered)"⟩, delivery.digestBuffered)
  else
    (⟨delivery.recipients,delivery.channels,source,missing,if missing then some (noneFound alert) else none⟩, delivery.digestBuffered)

end Resolution

end CloudLens.Alerting
