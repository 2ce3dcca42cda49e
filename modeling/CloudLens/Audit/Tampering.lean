import CloudLens.Audit.ChainInput
import CloudLens.Audit.Integrity
import Mathlib.Data.List.Forall2

/-! Tamper evidence of the hash chain. The hash covers the event type, the
timestamp, the details and the joined text of actor and resource. A modification
that keeps the stored hashes is detected exactly when it changes one of these in
some event; roles, action and correlation are not covered, and a colon may move
between the joined fields. -/
namespace CloudLens.Audit
open Library

def eventText (e : AuditEvent) : List Char :=
  chainInput e.tenantId e.eventType e.actorId e.resourceType e.resourceId e.timestamp e.previousEventHash e.details

def sealOf (e : AuditEvent) : String := String.ofList (Sha256.textDigest (eventText e))

inductive Honest (tenantId : String) : List AuditEvent → Prop
  | nil : Honest tenantId []
  | append {stream : List AuditEvent} (earlier : Honest tenantId stream) (tc : TenantContext) (own : tc.tenantId = tenantId)
      (input : AuditEventCreate) (now : Moment) (uuid : String) :
      Honest tenantId (stream ++ [buildEvent tc input now uuid stream.getLast?])

/-- The recorded fields of an event; details are compared without the order of
their keys. -/
structure SameRecord (a b : AuditEvent) : Prop where
  eventType : a.eventType.value = b.eventType.value
  actorId : a.actorId = b.actorId
  actorRoles : a.actorRoles = b.actorRoles
  action : a.action = b.action
  resourceType : a.resourceType = b.resourceType
  resourceId : a.resourceId = b.resourceId
  details : JsonText.sortKeys (.dict a.details) = JsonText.sortKeys (.dict b.details)
  timestamp : a.timestamp = b.timestamp
  correlationId : a.correlationId = b.correlationId

structure KeepsSeal (a b : AuditEvent) : Prop where
  tenantId : b.tenantId = a.tenantId
  previousEventHash : b.previousEventHash = a.previousEventHash
  eventHash : b.eventHash = a.eventHash

def TamperEvident (stream modified : List AuditEvent) : Prop :=
  ¬ List.Forall₂ SameRecord stream modified → (verifyAuditHashChain modified).valid = false

structure CoveredSame (a b : AuditEvent) : Prop where
  eventType : a.eventType.value = b.eventType.value
  subject : subject a.actorId a.resourceType a.resourceId = subject b.actorId b.resourceType b.resourceId
  timestamp : a.timestamp = b.timestamp
  details : JsonText.dumps a.details = JsonText.dumps b.details

def LinkedFrom : Option String → List AuditEvent → Prop
  | _, [] => True
  | expected, e :: rest => e.previousEventHash = expected ∧ LinkedFrom (some e.eventHash) rest

theorem linkedFrom_snoc (expected : Option String) (stream : List AuditEvent) (e : AuditEvent) :
    LinkedFrom expected (stream ++ [e]) ↔ LinkedFrom expected stream ∧
      e.previousEventHash = (stream.getLast?.map AuditEvent.eventHash).or expected := by
  induction stream generalizing expected with
  | nil => simp [LinkedFrom]
  | cons first stream ih =>
    simp only [List.cons_append,LinkedFrom,ih,List.getLast?_cons,and_assoc]
    cases stream.getLast? <;> simp

theorem verifyFrom_valid (index : ℕ) (previous : Option AuditEvent) (stream : List AuditEvent) :
    (verifyFrom index previous stream).valid = true ↔
      LinkedFrom (previous.map AuditEvent.eventHash) stream ∧ ∀ e ∈ stream, e.eventHash = sealOf e := by
  induction stream generalizing index previous with
  | nil => cases previous <;> simp [verifyFrom,ChainVerdict.valid,LinkedFrom]
  | cons e rest ih =>
    rw [verifyFrom]
    by_cases linked : e.previousEventHash = previous.map AuditEvent.eventHash
    · rw [if_neg (not_not_intro linked)]
      by_cases digest : e.eventHash = sealOf e
      · have recomputed : e.eventHash = computeHash e.tenantId e.eventType e.actorId e.resourceType e.resourceId
            e.timestamp e.previousEventHash e.details := digest
        simp only
        rw [if_neg (not_not_intro recomputed),ih]
        simp [LinkedFrom,linked,digest]
      · have recomputed : e.eventHash ≠ computeHash e.tenantId e.eventType e.actorId e.resourceType e.resourceId
            e.timestamp e.previousEventHash e.details := digest
        simp only
        rw [if_pos recomputed]
        simp [ChainVerdict.valid,digest]
    · rw [if_pos linked]
      simp [ChainVerdict.valid,LinkedFrom,linked]

section Streams

variable {tenantId : String} {stream modified : List AuditEvent}

theorem honest_sealed (honest : Honest tenantId stream) : ∀ e ∈ stream,
    e.tenantId = tenantId ∧ e.eventHash = sealOf e ∧ Sealed e.previousEventHash := by
  induction honest with
  | nil => simp
  | @append stream earlier tc own input now uuid ih =>
    intro e member
    rcases List.mem_append.mp member with old | new
    · exact ih e old
    · rw [List.mem_singleton] at new
      subst new
      refine ⟨own,rfl,?_⟩
      intro text found
      obtain ⟨last,here,rfl⟩ := Option.map_eq_some_iff.mp found
      exact ⟨eventText last,(ih last (List.mem_of_getLast? here)).2.1⟩

theorem honest_linked (honest : Honest tenantId stream) : LinkedFrom none stream := by
  induction honest with
  | nil => trivial
  | append earlier tc own input now uuid ih =>
    rw [linkedFrom_snoc]
    exact ⟨ih,by simp [buildEvent]⟩

theorem linkedFrom_kept {expected : Option String} (kept : List.Forall₂ KeepsSeal stream modified) :
    LinkedFrom expected modified ↔ LinkedFrom expected stream := by
  induction kept generalizing expected with
  | nil => rfl
  | cons first _ ih => simp [LinkedFrom,first.previousEventHash,first.eventHash,ih]

theorem eventText_iff {a b : AuditEvent} (kept : KeepsSeal a b) (closed : Sealed a.previousEventHash) :
    eventText a = eventText b ↔ CoveredSame a b := by
  unfold eventText
  rw [kept.tenantId,kept.previousEventHash]
  constructor
  · intro same
    obtain ⟨types,subjects,times,-,payload⟩ := chainInput_split closed closed same
    exact ⟨types,subjects,times,payload⟩
  · intro same
    rw [chainInput_eq,chainInput_eq,same.eventType,same.subject,same.timestamp,same.details]

theorem sealOf_iff {a b : AuditEvent} (kept : KeepsSeal a b) (closed : Sealed a.previousEventHash)
    (distinct : ¬ Collides (eventText a) (eventText b)) : sealOf a = sealOf b ↔ CoveredSame a b := by
  rw [← eventText_iff kept closed,sealOf,sealOf,String.ofList_inj]
  constructor
  · intro digests
    by_contra different
    exact distinct ⟨different,digests⟩
  · intro same
    rw [same]

theorem sealed_forall₂ (kept : List.Forall₂ KeepsSeal stream modified)
    (closed : ∀ e ∈ stream, e.tenantId = tenantId ∧ e.eventHash = sealOf e ∧ Sealed e.previousEventHash)
    (distinct : List.Forall₂ (fun a b => ¬ Collides (eventText a) (eventText b)) stream modified) :
    (∀ e ∈ modified, e.eventHash = sealOf e) ↔ List.Forall₂ CoveredSame stream modified := by
  induction kept with
  | nil => simp
  | @cons a b stream modified first _ ih =>
    rw [List.forall_mem_cons] at closed
    rw [List.forall₂_cons] at distinct
    rw [List.forall_mem_cons,List.forall₂_cons,ih closed.2 distinct.2,first.eventHash,closed.1.2.1,
      sealOf_iff first closed.1.2.2 distinct.1]

end Streams

/-- A modification under the stored hashes is detected exactly when it changes
an event type, a timestamp, serialised details or the joined text of actor and
resource. -/
theorem tamper_evident_iff (tenantId : String) (stream : List AuditEvent) (honest : Honest tenantId stream)
    (modified : List AuditEvent) (kept : List.Forall₂ KeepsSeal stream modified)
    (distinct : List.Forall₂ (fun a b => ¬ Collides (eventText a) (eventText b)) stream modified) :
    TamperEvident stream modified ↔
      List.Forall₂ SameRecord stream modified ∨ ¬ List.Forall₂ CoveredSame stream modified := by
  have valid : (verifyAuditHashChain modified).valid = true ↔ List.Forall₂ CoveredSame stream modified := by
    rw [verifyAuditHashChain,verifyFrom_valid,Option.map_none,linkedFrom_kept kept,
      sealed_forall₂ kept (honest_sealed honest) distinct]
    exact and_iff_right (honest_linked honest)
  rw [TamperEvident,← Bool.not_eq_true,valid]
  tauto

def openingEvent (actorId resourceType : String) : AuditEvent :=
  buildEvent ⟨"t1",none⟩ (configChange actorId resourceType "r1") (octoberAt 0) "0a" none

theorem openingEvent_honest (actorId resourceType : String) : Honest "t1" [openingEvent actorId resourceType] :=
  Honest.append Honest.nil ⟨"t1",none⟩ rfl (configChange actorId resourceType "r1") (octoberAt 0) "0a"

/-- Roles and action are rewritten, and a colon moves from the resource type to
the actor; both streams still verify. -/
theorem rewritten_roles_undetected :
    (Honest "t1" [openingEvent "ann" "a:b"] ∧
      List.Forall₂ KeepsSeal [openingEvent "ann" "a:b"]
        [{openingEvent "ann" "a:b" with actorRoles := ["ADMIN"], action := "DELETE"}] ∧
      ¬ TamperEvident [openingEvent "ann" "a:b"]
        [{openingEvent "ann" "a:b" with actorRoles := ["ADMIN"], action := "DELETE"}]) ∧
    List.Forall₂ KeepsSeal [openingEvent "ann" "a:b"] [{openingEvent "ann" "a:b" with actorId := "ann:a", resourceType := "b"}] ∧
    ¬ TamperEvident [openingEvent "ann" "a:b"] [{openingEvent "ann" "a:b" with actorId := "ann:a", resourceType := "b"}] := by
  refine ⟨⟨openingEvent_honest _ _,?_,?_⟩,?_,?_⟩
  · exact List.Forall₂.cons ⟨rfl,rfl,rfl⟩ List.Forall₂.nil
  · intro evident
    have changed : ¬ List.Forall₂ SameRecord [openingEvent "ann" "a:b"]
        [{openingEvent "ann" "a:b" with actorRoles := ["ADMIN"], action := "DELETE"}] := by
      intro same
      have := (List.forall₂_cons.mp same).1.actorRoles
      simp [openingEvent,buildEvent,configChange] at this
    exact absurd (evident changed) (by decide +kernel)
  · exact List.Forall₂.cons ⟨rfl,rfl,rfl⟩ List.Forall₂.nil
  · intro evident
    have changed : ¬ List.Forall₂ SameRecord [openingEvent "ann" "a:b"]
        [{openingEvent "ann" "a:b" with actorId := "ann:a", resourceType := "b"}] := by
      intro same
      have := (List.forall₂_cons.mp same).1.actorId
      simp [openingEvent,buildEvent,configChange] at this
    exact absurd (evident changed) (by decide +kernel)

def ruleEvent (second : ℕ) (uuid : String) (lastEvent : Option AuditEvent) : AuditEvent :=
  buildEvent ⟨"t1",none⟩ (configChange "ann" "RULE" "r1") (octoberAt second) uuid lastEvent

def openingRule : AuditEvent := ruleEvent 0 "0a" none

def secondRule : AuditEvent := ruleEvent 1 "0b" (some openingRule)

def closingRule : AuditEvent := ruleEvent 2 "0c" (some secondRule)

theorem rules_honest : Honest "t1" [openingRule, secondRule, closingRule] :=
  have opened := Honest.append Honest.nil ⟨"t1",none⟩ rfl (configChange "ann" "RULE" "r1") (octoberAt 0) "0a"
  have continued := opened.append ⟨"t1",none⟩ rfl (configChange "ann" "RULE" "r1") (octoberAt 1) "0b"
  continued.append ⟨"t1",none⟩ rfl (configChange "ann" "RULE" "r1") (octoberAt 2) "0c"

theorem keepsSeal_refl (e : AuditEvent) : KeepsSeal e e := ⟨rfl,rfl,rfl⟩

/-- The actor of the second of three events is replaced. -/
theorem renamed_second_actor_detected :
    TamperEvident [openingRule, secondRule, closingRule] [openingRule, { secondRule with actorId := "bob" }, closingRule] := by
  refine (tamper_evident_iff "t1" _ rules_honest _ ?_ ?_).mpr (Or.inr ?_)
  · exact .cons (keepsSeal_refl _) (.cons ⟨rfl,rfl,rfl⟩ (.cons (keepsSeal_refl _) .nil))
  · refine .cons (fun collides => collides.1 rfl) (.cons ?_ (.cons (fun collides => collides.1 rfl) .nil))
    intro collides
    exact absurd collides.2 (by decide +kernel)
  · intro covered
    have second := (List.forall₂_cons.mp (List.forall₂_cons.mp covered).2).1
    exact absurd second.subject (by decide)

end CloudLens.Audit
