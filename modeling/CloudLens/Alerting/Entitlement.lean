import CloudLens.Alerting.Routing
import Mathlib.Data.List.ReduceOption
import Mathlib.Data.List.Zip

/-! Whether an alert reaches everyone who is entitled to it, and nobody else. -/
namespace CloudLens.Alerting
open Library

namespace RecipientSubscription

def InScope (sub : RecipientSubscription) (alert : AlertEntity) : Prop :=
  ∀ scope, sub.scopeId = some scope → scope ≠ "" → alert.scopeId = some scope

def Matches (sub : RecipientSubscription) (alert : AlertEntity) : Prop :=
  sub.InScope alert ∧ (sub.alertTypes = [] ∨ alert.alertType ∈ sub.alertTypes) ∧ (sub.severities = [] ∨ alert.severity ∈ sub.severities)

def InQuietHours (sub : RecipientSubscription) (alert : AlertEntity) (now : DayTime) : Prop :=
  ∃ quiet, sub.quietHours = some quiet ∧ quiet.isInQuietHours now alert.severity = true

def pair (sub : RecipientSubscription) : String × NotificationChannel := (sub.recipient, sub.channel)

end RecipientSubscription

def Candidate.pair (candidate : Candidate) : String × NotificationChannel := (candidate.recipient, candidate.channel)

def Metadata.Names (metadata : Metadata) (keys : List String) : Prop :=
  ∃ key ∈ keys, ∃ value, (metadata.fields.get key = some value ∨ metadata.tags.get key = some value) ∧ value.contacts ≠ []

def NamesOwner (alertType : AlertType) (resource scope : Option Metadata) : Prop :=
  (∃ role ∈ defaultRoutingRoles alertType, ∃ metadata, (resource = some metadata ∨ scope = some metadata) ∧ metadata.Names (lookupKeys role)) ∨
    (∃ metadata, resource = some metadata ∧ ∃ value, some value ∈ metadata.entityOwners ∧ value.owner ≠ none) ∨
    ∃ metadata, scope = some metadata ∧ ∃ value, some value ∈ metadata.scopeOwners ∧ value.owner ≠ none

section Recipients

variable (router : RecipientRouter) (alert : AlertEntity) (resource scope : Option Metadata)
  (subscriptions : List RecipientSubscription) (now : DayTime)

def routed : RecipientResolutionResult := (router.resolveRecipients alert resource scope subscriptions now).1

def reached : List (String × NotificationChannel) :=
  (routed router alert resource scope subscriptions now).recipients.zip (routed router alert resource scope subscriptions now).channels

def Entitled (sub : RecipientSubscription) : Prop := sub ∈ subscriptions ∧ sub.Matches alert ∧ ¬ sub.InQuietHours alert now

structure ReachesEntitled : Prop where
  entitled : ∀ sub, Entitled alert subscriptions now sub → sub.pair ∈ reached router alert resource scope subscriptions now
  /-- What is sent to a subscription of another scope is sent for someone else's sake. -/
  restricted : ∀ sub ∈ subscriptions, ¬ sub.InScope alert → sub.pair ∈ reached router alert resource scope subscriptions now →
    sub.pair ∈ (owners alert.alertType resource scope).1.map Candidate.pair ∨
      (∃ other, Entitled alert subscriptions now other ∧ other.pair = sub.pair) ∨
      (routed router alert resource scope subscriptions now).governanceExceptionRaised = true ∧
        sub.pair = (router.defaultScopeAdmin, router.defaultAdminChannel)
  silent : (routed router alert resource scope subscriptions now).recipients = [] → alert.severity < .high ∧
    ∀ candidate ∈ router.candidates (contenders alert resource scope subscriptions), ∃ quiet, candidate.quietHours = some quiet ∧
      quiet.isInQuietHours now alert.severity = true
  governed : (routed router alert resource scope subscriptions now).governanceExceptionRaised = true ↔
    ¬ NamesOwner alert.alertType resource scope ∧ ∀ sub ∈ subscriptions, ¬ sub.Matches alert

def foremost (recipient : String) : Option Candidate :=
  ((contenders alert resource scope subscriptions).filter (fun candidate => !candidate.suppressed alert.severity now)).find?
    (fun candidate => candidate.recipient = recipient)

/-- A subscription with a scope that is accepted for an alert without one. -/
def Stray (sub : RecipientSubscription) : Prop := sub ∈ subscriptions ∧ sub.accepts alert = true ∧ ¬ sub.InScope alert

structure RoutedWell : Prop where
  channels : ∀ sub, Entitled alert subscriptions now sub →
    (foremost alert resource scope subscriptions now sub.recipient).map Candidate.channel = some sub.channel
  strays : ∀ sub, Stray alert subscriptions sub → ¬ sub.InQuietHours alert now →
    sub.recipient ∈ (owners alert.alertType resource scope).1.map Candidate.recipient ∨
      ∃ other, Entitled alert subscriptions now other ∧ other.recipient = sub.recipient
  found : (owners alert.alertType resource scope).1 = [] → (∀ sub ∈ subscriptions, ¬ sub.Matches alert) →
    (NamesOwner alert.alertType resource scope ↔ ∃ sub, Stray alert subscriptions sub)

end Recipients

section Windows

theorem AlertSeverity.highOrCritical_iff (severity : AlertSeverity) : severity.highOrCritical = true ↔ .high ≤ severity := by
  cases severity <;> decide

theorem QuietHoursConfig.isInQuietHours_high {quiet : QuietHoursConfig} {severity : AlertSeverity} {now : DayTime}
    (high : severity.highOrCritical = true) : quiet.isInQuietHours now severity = false := by
  unfold QuietHoursConfig.isInQuietHours
  simp [high]

example : ({} : QuietHoursConfig).isInQuietHours ⟨7,59⟩ .warning = true := by decide

end Windows

section Accepting

variable {alert : AlertEntity} {sub : RecipientSubscription} {now : DayTime}

theorem matches_iff : sub.Matches alert ↔ sub.accepts alert = true ∧ sub.InScope alert := by
  unfold RecipientSubscription.Matches RecipientSubscription.accepts
  simp only [Bool.and_eq_true,Bool.or_eq_true,decide_eq_true_eq]
  constructor
  · intro met
    obtain ⟨inScope,types,severities⟩ := met
    refine ⟨⟨⟨?_,types⟩,severities⟩,inScope⟩
    rw [Bool.not_eq_true',Bool.and_eq_false_iff,Bool.and_eq_false_iff,decide_eq_false_iff_not,not_not]
    cases named : sub.scopeId with
    | none => exact Or.inl (Or.inl rfl)
    | some scope =>
      by_cases blank : scope = ""
      · exact Or.inl (Or.inl (by simp [blank]))
      · exact Or.inr (inScope scope named blank).symm
  · intro met
    exact ⟨met.2,met.1.1.2,met.1.2⟩

theorem suppressed_candidate_iff : sub.candidate.suppressed alert.severity now = true ↔ sub.InQuietHours alert now := by
  unfold Candidate.suppressed RecipientSubscription.InQuietHours RecipientSubscription.candidate
  simp only [Option.any_eq_true,Bool.and_eq_true,Bool.not_eq_true']
  refine exists_congr fun quiet => and_congr_right fun _ => and_iff_right_of_imp fun inside => ?_
  by_contra high
  rw [QuietHoursConfig.isInQuietHours_high (Bool.not_eq_false _ ▸ high)] at inside
  cases inside

end Accepting

section Owners

variable {alertType : AlertType} {resource scope : Option Metadata}

theorem MetaValue.owner_awake {value : MetaValue} {candidate : Candidate} (named : value.owner = some candidate) :
    candidate.quietHours = none := by
  unfold MetaValue.owner at named
  split at named
  · split at named
    · cases named
      rfl
    · cases named
  · cases named

theorem ownerAmong_some {named : Metadata → List (Option MetaValue)} {metadata : Option Metadata} {candidate : Candidate}
    (found : ownerAmong named metadata = some candidate) :
    ∃ m, metadata = some m ∧ ∃ value, some value ∈ named m ∧ value.owner = some candidate := by
  obtain ⟨m,given,first⟩ := Option.bind_eq_some_iff.mp found
  obtain ⟨value,truthy,owner⟩ := Option.bind_eq_some_iff.mp first
  have member := List.mem_of_find?_eq_some truthy
  rw [List.reduceOption_mem_iff] at member
  exact ⟨m,given,value,member,owner⟩

theorem owners_awake {candidate : Candidate} (owner : candidate ∈ (owners alertType resource scope).1) : candidate.quietHours = none := by
  unfold owners at owner
  split at owner
  · rename_i first rest found
    rw [← found,roleCandidates] at owner
    obtain ⟨contact,_,rfl⟩ := List.mem_map.mp owner
    rfl
  · split at owner
    · rename_i entity found
      cases List.mem_singleton.mp owner
      obtain ⟨_,_,value,_,named⟩ := ownerAmong_some found
      exact MetaValue.owner_awake named
    · split at owner
      · rename_i entity found
        cases List.mem_singleton.mp owner
        obtain ⟨_,_,value,_,named⟩ := ownerAmong_some found
        exact MetaValue.owner_awake named
      · cases owner

theorem Metadata.names_of_lookupContacts {metadata : Metadata} {keys : List String} (found : metadata.lookupContacts keys ≠ []) :
    metadata.Names keys := by
  induction keys with
  | nil => exact absurd rfl found
  | cons key keys ih =>
    unfold Metadata.lookupContacts at found
    split at found
    · obtain ⟨other,member,value,held,named⟩ := ih found
      exact ⟨other,List.mem_cons_of_mem _ member,value,held,named⟩
    · obtain ⟨other,member,value,held,named⟩ := ih found
      exact ⟨other,List.mem_cons_of_mem _ member,value,held,named⟩
    · rename_i value _ read
      refine ⟨key,List.mem_cons_self,value,?_,found⟩
      unfold Metadata.read at read
      rcases Option.or_eq_some_iff.mp read with field | ⟨_,tag⟩
      · exact Or.inl field
      · exact Or.inr tag

theorem namesOwner_of_owners (found : (owners alertType resource scope).1 ≠ []) : NamesOwner alertType resource scope := by
  unfold owners at found
  split at found
  · rename_i first rest contacted
    have member : first ∈ roleCandidates alertType resource scope := by
      rw [contacted]
      exact List.mem_cons_self
    obtain ⟨contact,within,_⟩ := List.mem_map.mp member
    have among := List.mem_of_find?_eq_some (Firsts.mem_firsts.mp within)
    obtain ⟨role,listed,named⟩ := List.mem_flatMap.mp among
    have nonempty : roleContacts resource scope role ≠ [] := List.ne_nil_of_mem named
    refine Or.inl ⟨role,listed,?_⟩
    unfold roleContacts at nonempty
    split at nonempty
    · cases scope with
      | none => exact absurd rfl nonempty
      | some metadata => exact ⟨metadata,Or.inr rfl,Metadata.names_of_lookupContacts nonempty⟩
    · rename_i contacts filled
      cases resource with
      | none => exact absurd rfl filled
      | some metadata => exact ⟨metadata,Or.inl rfl,Metadata.names_of_lookupContacts filled⟩
  · split at found
    · rename_i entity owner
      obtain ⟨m,given,value,member,named⟩ := ownerAmong_some owner
      exact Or.inr (Or.inl ⟨m,given,value,member,by rw [named]; exact Option.some_ne_none _⟩)
    · split at found
      · rename_i entity owner
        obtain ⟨m,given,value,member,named⟩ := ownerAmong_some owner
        exact Or.inr (Or.inr ⟨m,given,value,member,by rw [named]; exact Option.some_ne_none _⟩)
      · exact absurd rfl found

end Owners

section Delivering

variable {severity : AlertSeverity} {now : DayTime}

def Delivery.Holds (delivery : Delivery) (kept : List Candidate) : Prop :=
  delivery.recipients = kept.map Candidate.recipient ∧ delivery.channels = kept.map Candidate.channel

theorem Delivery.holds_foldl (candidates : List Candidate) {delivery : Delivery} {kept : List Candidate} (holds : delivery.Holds kept) :
    (candidates.foldl (Delivery.offer severity now) delivery).Holds
      ((candidates.filter (fun candidate => !candidate.suppressed severity now)).foldl (Firsts.keep Candidate.recipient) kept) := by
  induction candidates generalizing delivery kept with
  | nil => exact holds
  | cons candidate rest ih =>
    rw [List.foldl_cons]
    cases quiet : candidate.suppressed severity now with
    | true =>
      rw [List.filter_cons_of_neg (by simp [quiet])]
      refine ih ?_
      rw [Delivery.offer,if_pos quiet]
      exact holds
    | false =>
      rw [List.filter_cons_of_pos (by simp [quiet]),List.foldl_cons]
      refine ih ?_
      rw [Delivery.offer,if_neg (by simp [quiet]),Firsts.keep,holds.1]
      split
      · exact holds
      · exact ⟨by rw [List.map_append]; rfl,by rw [holds.2,List.map_append]; rfl⟩

end Delivering

section Reading

variable {router : RecipientRouter} {alert : AlertEntity} {resource scope : Option Metadata}
  {subscriptions : List RecipientSubscription} {now : DayTime}

def delivered (router : RecipientRouter) (alert : AlertEntity) (resource scope : Option Metadata)
    (subscriptions : List RecipientSubscription) (now : DayTime) : List Candidate :=
  Firsts.firsts Candidate.recipient ((router.candidates (contenders alert resource scope subscriptions)).filter
    (fun candidate => !candidate.suppressed alert.severity now))

theorem routed_holds : (routed router alert resource scope subscriptions now).recipients =
    (delivered router alert resource scope subscriptions now).map Candidate.recipient ∧
      (routed router alert resource scope subscriptions now).channels =
        (delivered router alert resource scope subscriptions now).map Candidate.channel := by
  have holds : ((router.candidates (contenders alert resource scope subscriptions)).foldl (Delivery.offer alert.severity now) {}).Holds
      (delivered router alert resource scope subscriptions now) :=
    Delivery.holds_foldl (router.candidates (contenders alert resource scope subscriptions)) ⟨rfl,rfl⟩
  unfold routed RecipientRouter.resolveRecipients
  dsimp only
  split
  · rename_i none
    have empty := List.isEmpty_iff.mp none
    rw [holds.1,List.map_eq_nil_iff] at empty
    rw [empty]
    exact ⟨rfl,rfl⟩
  · exact holds

theorem reached_eq : reached router alert resource scope subscriptions now =
    (delivered router alert resource scope subscriptions now).map Candidate.pair := by
  unfold reached
  rw [routed_holds.1,routed_holds.2,List.zip_map']
  rfl

theorem governanceException_iff : (routed router alert resource scope subscriptions now).governanceExceptionRaised = true ↔
    contenders alert resource scope subscriptions = [] := by
  unfold routed RecipientRouter.resolveRecipients
  dsimp only
  split <;> exact List.isEmpty_iff

theorem mem_reached {recipient : String} {channel : NotificationChannel} :
    (recipient, channel) ∈ reached router alert resource scope subscriptions now ↔
      ∃ candidate, ((router.candidates (contenders alert resource scope subscriptions)).filter
        (fun candidate => !candidate.suppressed alert.severity now)).find? (fun candidate => candidate.recipient = recipient) = some candidate ∧
        candidate.channel = channel := by
  rw [reached_eq,List.mem_map]
  constructor
  · intro met
    obtain ⟨candidate,first,same⟩ := met
    cases same
    exact ⟨candidate,Firsts.mem_firsts.mp first,rfl⟩
  · intro met
    obtain ⟨candidate,first,rfl⟩ := met
    have same : candidate.recipient = recipient := by simpa using List.find?_some first
    cases same
    exact ⟨candidate,Firsts.mem_firsts.mpr first,rfl⟩

theorem candidates_of_found {found : List Candidate} (nonempty : found ≠ []) : router.candidates found = found := by
  unfold RecipientRouter.candidates
  rw [if_neg]
  simpa using nonempty

theorem mem_reached_iff (found : contenders alert resource scope subscriptions ≠ []) {recipient : String} {channel : NotificationChannel} :
    (recipient, channel) ∈ reached router alert resource scope subscriptions now ↔
      (foremost alert resource scope subscriptions now recipient).map Candidate.channel = some channel := by
  rw [mem_reached,candidates_of_found found,Option.map_eq_some_iff]
  rfl

theorem accepted_contends {sub : RecipientSubscription} (member : sub ∈ subscriptions) (accepted : sub.accepts alert = true) :
    sub.candidate ∈ contenders alert resource scope subscriptions :=
  List.mem_append_right _ (List.mem_map_of_mem (List.mem_filter.mpr ⟨member,accepted⟩))

theorem foremost_cases {recipient : String} {candidate : Candidate}
    (first : foremost alert resource scope subscriptions now recipient = some candidate) :
    candidate.recipient = recipient ∧ (candidate ∈ (owners alert.alertType resource scope).1 ∨
      ∃ sub, sub.candidate = candidate ∧ ¬ sub.InQuietHours alert now ∧ (Entitled alert subscriptions now sub ∨ Stray alert subscriptions sub)) := by
  refine ⟨by simpa using List.find?_some first,?_⟩
  obtain ⟨contends,awake⟩ := List.mem_filter.mp (List.mem_of_find?_eq_some first)
  rcases List.mem_append.mp contends with owner | subscribed
  · exact Or.inl owner
  · obtain ⟨sub,within,rfl⟩ := List.mem_map.mp subscribed
    obtain ⟨member,accepted⟩ := List.mem_filter.mp within
    have loud : ¬ sub.InQuietHours alert now := by
      rw [← suppressed_candidate_iff]
      simpa using awake
    refine Or.inr ⟨sub,rfl,loud,?_⟩
    by_cases inScope : sub.InScope alert
    · exact Or.inl ⟨member,matches_iff.mpr ⟨accepted,inScope⟩,loud⟩
    · exact Or.inr ⟨member,accepted,inScope⟩

theorem exists_foremost {candidate : Candidate} (contends : candidate ∈ contenders alert resource scope subscriptions)
    (awake : candidate.suppressed alert.severity now = false) :
    ∃ first, foremost alert resource scope subscriptions now candidate.recipient = some first := by
  apply Option.isSome_iff_exists.mp
  unfold foremost
  rw [List.find?_isSome]
  exact ⟨candidate,List.mem_filter.mpr ⟨contends,by rw [awake]; rfl⟩,by simp⟩

theorem foremost_owner {recipient : String} {candidate : Candidate}
    (owner : recipient ∈ (owners alert.alertType resource scope).1.map Candidate.recipient)
    (first : foremost alert resource scope subscriptions now recipient = some candidate) :
    candidate ∈ (owners alert.alertType resource scope).1 := by
  obtain ⟨named,member,rfl⟩ := List.mem_map.mp owner
  have awake : named.suppressed alert.severity now = false := by
    rw [Candidate.suppressed,owners_awake member]
    rfl
  have leads : (((owners alert.alertType resource scope).1.filter (fun candidate => !candidate.suppressed alert.severity now)).find?
      (fun candidate => candidate.recipient = named.recipient)).isSome := by
    rw [List.find?_isSome]
    exact ⟨named,List.mem_filter.mpr ⟨member,by rw [awake]; rfl⟩,by simp⟩
  obtain ⟨leader,found⟩ := Option.isSome_iff_exists.mp leads
  rw [foremost,contenders,List.filter_append,List.find?_append,found,Option.some_or] at first
  cases first
  exact (List.mem_filter.mp (List.mem_of_find?_eq_some found)).1

end Reading

section Settling

variable {router : RecipientRouter} {alert : AlertEntity} {resource scope : Option Metadata}
  {subscriptions : List RecipientSubscription} {now : DayTime}

theorem Entitled.contends {sub : RecipientSubscription} (entitled : Entitled alert subscriptions now sub) :
    sub.candidate ∈ contenders alert resource scope subscriptions :=
  accepted_contends entitled.1 (matches_iff.mp entitled.2.1).1

theorem silent_of_unreached (unreached : (routed router alert resource scope subscriptions now).recipients = []) : alert.severity < .high ∧
    ∀ candidate ∈ router.candidates (contenders alert resource scope subscriptions), ∃ quiet, candidate.quietHours = some quiet ∧
      quiet.isInQuietHours now alert.severity = true := by
  rw [routed_holds.1,List.map_eq_nil_iff,delivered,Firsts.firsts_eq_nil_iff,List.filter_eq_nil_iff] at unreached
  have quiet : ∀ candidate ∈ router.candidates (contenders alert resource scope subscriptions), ∃ quiet, candidate.quietHours = some quiet ∧
      alert.severity.highOrCritical = false ∧ quiet.isInQuietHours now alert.severity = true := by
    intro candidate member
    have held : candidate.suppressed alert.severity now = true := by simpa using unreached candidate member
    simpa only [Candidate.suppressed,Option.any_eq_true,Bool.and_eq_true,Bool.not_eq_true'] using held
  refine ⟨?_,fun candidate member => ?_⟩
  · obtain ⟨candidate,member⟩ : ∃ candidate, candidate ∈ router.candidates (contenders alert resource scope subscriptions) := by
      apply List.exists_mem_of_ne_nil
      unfold RecipientRouter.candidates
      split
      · exact List.cons_ne_nil _ _
      · rename_i filled
        simpa using filled
    obtain ⟨_,_,low,_⟩ := quiet candidate member
    rw [← not_le,← AlertSeverity.highOrCritical_iff,low]
    exact Bool.false_ne_true
  · obtain ⟨config,given,_,inside⟩ := quiet candidate member
    exact ⟨config,given,inside⟩

theorem entitled_reached_iff : (∀ sub, Entitled alert subscriptions now sub → sub.pair ∈ reached router alert resource scope subscriptions now) ↔
    ∀ sub, Entitled alert subscriptions now sub →
      (foremost alert resource scope subscriptions now sub.recipient).map Candidate.channel = some sub.channel :=
  forall₂_congr fun _ entitled => mem_reached_iff (List.ne_nil_of_mem entitled.contends)

theorem strays_of_restricted (restricted : ∀ sub ∈ subscriptions, ¬ sub.InScope alert →
      sub.pair ∈ reached router alert resource scope subscriptions now →
      sub.pair ∈ (owners alert.alertType resource scope).1.map Candidate.pair ∨
        (∃ other, Entitled alert subscriptions now other ∧ other.pair = sub.pair) ∨
        (routed router alert resource scope subscriptions now).governanceExceptionRaised = true ∧
          sub.pair = (router.defaultScopeAdmin, router.defaultAdminChannel))
    {sub : RecipientSubscription} (stray : Stray alert subscriptions sub) (loud : ¬ sub.InQuietHours alert now) :
    sub.recipient ∈ (owners alert.alertType resource scope).1.map Candidate.recipient ∨
      ∃ other, Entitled alert subscriptions now other ∧ other.recipient = sub.recipient := by
  have contends : sub.candidate ∈ contenders alert resource scope subscriptions := accepted_contends stray.1 stray.2.1
  have filled : contenders alert resource scope subscriptions ≠ [] := List.ne_nil_of_mem contends
  obtain ⟨first,leads⟩ := exists_foremost contends (Bool.eq_false_iff.mpr (mt suppressed_candidate_iff.mp loud))
  obtain ⟨same,kind⟩ := foremost_cases leads
  rcases kind with owner | ⟨leader,rfl,_,entitled | other⟩
  · exact Or.inl (List.mem_map.mpr ⟨first,owner,same⟩)
  · exact Or.inr ⟨leader,entitled,same⟩
  · -- the foremost stray is reached, so its pair is somebody's by right
    change leader.recipient = sub.recipient at same
    have hit : leader.pair ∈ reached router alert resource scope subscriptions now := by
      refine (mem_reached_iff filled).mpr ?_
      rw [same]
      change foremost alert resource scope subscriptions now sub.recipient = some leader.candidate at leads
      rw [leads]
      rfl
    rcases restricted leader other.1 other.2.2 hit with owned | ⟨right,entitled,equal⟩ | ⟨raised,_⟩
    · obtain ⟨owner,member,equal⟩ := List.mem_map.mp owned
      exact Or.inl (List.mem_map.mpr ⟨owner,member,(congrArg Prod.fst equal).trans same⟩)
    · exact Or.inr ⟨right,entitled,(congrArg Prod.fst equal).trans same⟩
    · exact absurd (governanceException_iff.mp raised) filled

theorem restricted_of_strays (well : RoutedWell alert resource scope subscriptions now) {sub : RecipientSubscription}
    (hit : sub.pair ∈ reached router alert resource scope subscriptions now) :
    sub.pair ∈ (owners alert.alertType resource scope).1.map Candidate.pair ∨
      (∃ other, Entitled alert subscriptions now other ∧ other.pair = sub.pair) ∨
      (routed router alert resource scope subscriptions now).governanceExceptionRaised = true ∧
        sub.pair = (router.defaultScopeAdmin, router.defaultAdminChannel) := by
  by_cases filled : contenders alert resource scope subscriptions = []
  · refine Or.inr (Or.inr ⟨governanceException_iff.mpr filled,?_⟩)
    obtain ⟨candidate,first,channel⟩ := mem_reached.mp hit
    have member := (List.mem_filter.mp (List.mem_of_find?_eq_some first)).1
    rw [filled] at member
    cases List.mem_singleton.mp member
    have recipient : router.defaultScopeAdmin = sub.recipient := by simpa using List.find?_some first
    exact Prod.ext recipient.symm channel.symm
  · obtain ⟨first,leads,channel⟩ := Option.map_eq_some_iff.mp ((mem_reached_iff filled).mp hit)
    obtain ⟨same,kind⟩ := foremost_cases leads
    -- an owner in front is an owner's pair, and an entitled recipient is reached over the entitled channel
    have entitledPair : ∀ other, Entitled alert subscriptions now other → other.recipient = sub.recipient → other.pair = sub.pair := by
      intro other entitled recipient
      have channels := well.channels other entitled
      rw [recipient,leads,Option.map_some,channel,Option.some.injEq] at channels
      exact Prod.ext recipient channels.symm
    have ownerPair : first ∈ (owners alert.alertType resource scope).1 → sub.pair ∈ (owners alert.alertType resource scope).1.map Candidate.pair :=
      fun owner => List.mem_map.mpr ⟨first,owner,Prod.ext same channel⟩
    rcases kind with owner | ⟨leader,rfl,loud,entitled | stray⟩
    · exact Or.inl (ownerPair owner)
    · exact Or.inr (Or.inl ⟨leader,entitled,entitledPair leader entitled same⟩)
    · change leader.recipient = sub.recipient at same
      rcases well.strays leader stray loud with owned | ⟨other,entitled,recipient⟩
      · rw [same] at owned
        exact Or.inl (ownerPair (foremost_owner owned leads))
      · exact Or.inr (Or.inl ⟨other,entitled,entitledPair other entitled (recipient.trans same)⟩)

theorem contenders_eq_nil_iff : contenders alert resource scope subscriptions = [] ↔
    (owners alert.alertType resource scope).1 = [] ∧ (∀ sub ∈ subscriptions, ¬ sub.Matches alert) ∧ ¬ ∃ sub, Stray alert subscriptions sub := by
  rw [contenders,List.append_eq_nil_iff,List.map_eq_nil_iff,List.filter_eq_nil_iff]
  refine and_congr_right fun _ => ⟨fun refused => ⟨?_,?_⟩,fun met sub member accepted => ?_⟩
  · intro sub member met
    exact refused sub member (matches_iff.mp met).1
  · intro stray
    obtain ⟨sub,member,accepted,_⟩ := stray
    exact refused sub member accepted
  · by_cases inScope : sub.InScope alert
    · exact met.1 sub member (matches_iff.mpr ⟨accepted,inScope⟩)
    · exact met.2 ⟨sub,member,accepted,inScope⟩

theorem governed_iff : ((routed router alert resource scope subscriptions now).governanceExceptionRaised = true ↔
      ¬ NamesOwner alert.alertType resource scope ∧ ∀ sub ∈ subscriptions, ¬ sub.Matches alert) ↔
    ((owners alert.alertType resource scope).1 = [] → (∀ sub ∈ subscriptions, ¬ sub.Matches alert) →
      (NamesOwner alert.alertType resource scope ↔ ∃ sub, Stray alert subscriptions sub)) := by
  rw [governanceException_iff,contenders_eq_nil_iff]
  by_cases owned : (owners alert.alertType resource scope).1 = []
  · by_cases unmatched : ∀ sub ∈ subscriptions, ¬ sub.Matches alert
    · rw [and_iff_right owned,and_iff_right unmatched,and_iff_left unmatched,not_iff_not]
      exact ⟨fun same _ _ => same.symm,fun same => (same owned unmatched).symm⟩
    · exact iff_of_true (iff_of_false (fun met => unmatched met.2.1) fun met => unmatched met.2) fun _ allUnmatched => absurd allUnmatched unmatched
  · have named : NamesOwner alert.alertType resource scope := namesOwner_of_owners owned
    exact iff_of_true (iff_of_false (fun met => owned met.1) fun met => met.1 named) fun noOwners => absurd noOwners owned

end Settling

theorem reachesEntitled_iff (router : RecipientRouter) (alert : AlertEntity) (resource scope : Option Metadata)
    (subscriptions : List RecipientSubscription) (now : DayTime) :
    ReachesEntitled router alert resource scope subscriptions now ↔ RoutedWell alert resource scope subscriptions now := by
  constructor
  · intro reaches
    exact ⟨entitled_reached_iff.mp reaches.entitled,fun _ stray loud => strays_of_restricted reaches.restricted stray loud,
      governed_iff.mp reaches.governed⟩
  · intro well
    exact ⟨entitled_reached_iff.mpr well.channels,fun _ _ _ hit => restricted_of_strays well hit,silent_of_unreached,
      governed_iff.mpr well.found⟩

theorem increase_fingerprinted : "5d41402abc4b2a76" ≠ "" := by decide

def increase : AlertEntity where
  id := "alert-cost-7"
  createdAt := 0
  alertType := .unexpectedCostIncrease
  severity := .high
  source := "anomaly_engine"
  scopeId := some "sub-finance"
  fingerprint := "5d41402abc4b2a76"
  fingerprinted := increase_fingerprinted

def onCall (channel : NotificationChannel) : RecipientSubscription where
  recipient := "oncall"
  channel := channel

/-- Of two subscriptions of one recipient the second channel is dropped. -/
theorem second_channel_dropped : ¬ ∀ router alert resource scope subscriptions now,
    ReachesEntitled router alert resource scope subscriptions now := by
  intro always
  have entitled : Entitled increase [onCall .slack, onCall .pagerduty] ⟨9,0⟩ (onCall .pagerduty) := by
    refine ⟨by simp,⟨?_,Or.inl rfl,Or.inl rfl⟩,?_⟩
    · intro scope named
      cases named
    · intro quiet
      obtain ⟨_,given,_⟩ := quiet
      cases given
  have hit := (always ⟨"governance-admin@cloudlens.local",.email⟩ increase none none [onCall .slack, onCall .pagerduty] ⟨9,0⟩).entitled _ entitled
  rw [reached_eq] at hit
  revert hit
  decide +kernel

end CloudLens.Alerting
