import CloudLens.Identity.Model
import CloudLens.Library.Runs
import Mathlib.Data.NNRat.Floor
import Mathlib.Algebra.Order.Floor.Semiring

/-! What a revocation cuts off. A run is a list of timed calls on the registry and the
token engine; the verdict on a token is read from the calls before it, once as the
registry's rows give it and once as the exact moments do. -/
namespace CloudLens.Identity
open Library

/-- The callers draw every id with a prefix, so none is blank. -/
abbrev Identifier : Type := { text : String // text ≠ "" }

inductive Issuance
  | access (hex : String) (userId tenantId sessionId tokenFamilyId : Identifier) (ttlSeconds : ℕ) (isBreakGlass : Bool)
  | refresh (hex : String) (userId tenantId sessionId tokenFamilyId : Identifier) (ttlSeconds : ℕ) (isBreakGlass : Bool)
  | machine (hex : String) (clientId tenantId : Identifier) (ttlSeconds : ℕ)
  | stepUp (hex : String) (userId tenantId : Identifier) (ttlSeconds : ℕ)
  | actAs (hex : String) (userId targetTenantId : Identifier) (ttlSeconds : ℕ)

inductive RegistryCall (Time : Type)
  | issue (token : Issuance)
  | revokeToken (jti : String) (expiresAt : Time)
  | revokeSessionTokens (sessionId : String)
  | revokeUserTokens (userId : String)
  | recordRefreshTokenUse (tokenId familyId : String)
  | verify (token : Issuance) (issued : Time)

/-- A call with the moment it is made at. -/
abbrev Timed (Time : Type) : Type := Time × RegistryCall Time

variable {Time : Type}

section Registry

variable [Semiring Time] [LinearOrder Time] [FloorSemiring Time]

def Issuance.payload (now : Time) : Issuance → Payload
  | access hex user tenant session family ttl bg => issueAccessToken now hex user tenant session family ttl bg
  | refresh hex user tenant session family ttl bg => issueRefreshToken now hex user tenant session family ttl bg
  | machine hex client tenant ttl => issueMachineToken now hex client tenant ttl
  | stepUp hex user tenant ttl => issueStepUpToken now hex user tenant ttl
  | actAs hex user tenant ttl => issueActAsToken now hex user tenant ttl

def Store.perform (s : Store Time) : Timed Time → Store Time
  | (now, .revokeToken jti expiresAt) => s.revokeToken now jti expiresAt
  | (now, .revokeSessionTokens sid) => s.revokeSessionTokens now sid
  | (now, .revokeUserTokens uid) => s.revokeUserTokens now uid
  | (_, .recordRefreshTokenUse tokenId familyId) => (s.recordRefreshTokenUse tokenId familyId).1
  | (_, .issue _) => s
  | (_, .verify _ _) => s

def Store.after (calls : List (Timed Time)) : Store Time := Runs.run Store.perform Store.empty calls

end Registry

section History

variable [Semiring Time] [LinearOrder Time] [FloorSemiring Time]

variable (before : List (Timed Time))

def tokenExpiry? (jti : String) : Timed Time → Option Time
  | (_, .revokeToken revoked expiresAt) => if revoked = jti then some expiresAt else none
  | _ => none

def useIn? (familyId : String) : Timed Time → Option String
  | (_, .recordRefreshTokenUse tokenId used) => if used = familyId then some tokenId else none
  | _ => none

def firstExpiry (jti : String) : Option Time := before.findSome? (tokenExpiry? jti)

def uses (familyId : String) : List String := before.filterMap (useIn? familyId)

def TokenRevoked (jti : String) : Prop := ∃ cutoff expiry, (cutoff, .revokeToken jti expiry) ∈ before

def SessionRevoked (sid : String) : Prop := ∃ cutoff, (cutoff, .revokeSessionTokens sid) ∈ before

def UserRevokedAt (uid : String) (cutoff : Time) : Prop := (cutoff, .revokeUserTokens uid) ∈ before

def FamilyCompromised (familyId : String) : Prop := ¬(uses before familyId).Nodup

def LineRevoked (payload : Payload) : Prop :=
  (∃ sid, payload.sid = some sid ∧ SessionRevoked before sid) ∨ ∃ fid, payload.fid = some fid ∧ FamilyCompromised before fid

/-- Revoked by its id, its session, its family, or its user not before it was issued. -/
def Due (payload : Payload) (issued : Time) : Prop :=
  TokenRevoked before payload.jti ∨ LineRevoked before payload ∨ ∃ cutoff, UserRevokedAt before payload.uid cutoff ∧ issued ≤ cutoff

/-- The same as the rows give it: a revocation of the id lapses at its expiry, and the
user's is compared with the second the token was issued in. -/
def Cut (now : Time) (payload : Payload) : Prop :=
  (∃ expiry, firstExpiry before payload.jti = some expiry ∧ now < expiry) ∨ LineRevoked before payload ∨
    ∃ cutoff, UserRevokedAt before payload.uid cutoff ∧ (payload.iat : Time) ≤ cutoff

/-- Moment `now` of the run verifies an unexpired token that was issued before in it. -/
structure Verifies (calls before : List (Timed Time)) (now : Time) (token : Issuance) (issued : Time) : Prop where
  made : ∃ after, calls = before ++ (now, .verify token issued) :: after
  signed : (issued, .issue token) ∈ before
  unexpired : now ≤ ((token.payload issued).exp : Time)

structure CutsExactly (calls : List (Timed Time)) : Prop where
  exact : ∀ before now token issued, Verifies calls before now token issued →
    ((Store.after before).verifyToken now (token.payload issued) = .error .revoked ↔ Due before (token.payload issued) issued)
  renewed : ∀ before now token issued, Verifies calls before now token issued →
    ¬TokenRevoked before (token.payload issued).jti → ¬LineRevoked before (token.payload issued) →
    (∀ cutoff, UserRevokedAt before (token.payload issued).uid cutoff → cutoff < issued) →
    (Store.after before).verifyToken now (token.payload issued) = .ok (token.payload issued)
  others : ∀ before now uid cutoff payload, before <+: calls → payload.uid ≠ uid →
    ((Store.after before).revokeUserTokens cutoff uid).verifyToken now payload = (Store.after before).verifyToken now payload

/-- No revocation is lost to its expiry, and none reaches back within its second. -/
structure Unblurred (before : List (Timed Time)) (now : Time) (payload : Payload) (issued : Time) : Prop where
  inForce : ∀ expiry, firstExpiry before payload.jti = some expiry → expiry ≤ now →
    LineRevoked before payload ∨ ∃ cutoff, UserRevokedAt before payload.uid cutoff ∧ (payload.iat : Time) ≤ cutoff
  apart : ∀ cutoff, UserRevokedAt before payload.uid cutoff → cutoff < issued → (payload.iat : Time) ≤ cutoff →
    Due before payload issued

end History

section Rows

variable (s : Store Time) (now : Time)

private theorem key_toList {kind other a b : String} (same : kind ++ a = other ++ b) :
    kind.toList ++ a.toList = other.toList ++ b.toList := by
  simpa using congrArg String.toList same

theorem jti_ne_session (a b : String) : "jti:" ++ a ≠ "session:" ++ b := by
  intro same
  simpa using key_toList same

theorem jti_ne_user (a b : String) : "jti:" ++ a ≠ "user:" ++ b := by
  intro same
  simpa using key_toList same

theorem session_ne_user (a b : String) : "session:" ++ a ≠ "user:" ++ b := by
  intro same
  simpa using key_toList same

theorem key_injective {kind a b : String} (same : kind ++ a = kind ++ b) : a = b := by
  have tails := key_toList same
  rw [List.append_cancel_left_eq] at tails
  exact String.toList_inj.mp tails

@[simp] theorem revokeToken_lookup (jti key : String) (expiresAt : Time) :
    (s.revokeToken now jti expiresAt).revocations.lookup key = if key = "jti:" ++ jti then
      some ((s.revocations.lookup key).getD ⟨now,some expiresAt⟩) else s.revocations.lookup key := by
  unfold Store.revokeToken
  split
  · rename_i same
    subst same
    rw [Table.lookup_upsert_self]
    cases s.revocations.lookup ("jti:" ++ jti) <;> rfl
  · rename_i distinct
    exact Table.lookup_upsert_ne _ _ _ distinct

@[simp] theorem renewRevocation_lookup (renewed key : String) :
    (s.renewRevocation now renewed).revocations.lookup key = if key = renewed then
      some ⟨now,(s.revocations.lookup key).bind RevocationRow.expiresAt⟩ else s.revocations.lookup key := by
  unfold Store.renewRevocation
  split
  · rename_i same
    subst same
    rw [Table.lookup_upsert_self]
    cases s.revocations.lookup key <;> rfl
  · rename_i distinct
    exact Table.lookup_upsert_ne _ _ _ distinct

@[simp] theorem revokeToken_families (jti : String) (expiresAt : Time) :
    (s.revokeToken now jti expiresAt).families = s.families := rfl

@[simp] theorem renewRevocation_families (key : String) : (s.renewRevocation now key).families = s.families := rfl

theorem updateFamily_lookup (familyId other : String) (change : TokenFamily → TokenFamily) :
    (s.updateFamily familyId change).families.lookup other =
      if other = familyId then (s.families.lookup familyId).map change else s.families.lookup other := by
  unfold Store.updateFamily
  split
  · rename_i found
    split
    · rename_i same
      rw [same,found]
      rfl
    · rfl
  · rename_i family found
    rw [found]
    exact Table.lookup_overwrite _ _ _ _

@[simp] theorem updateFamily_revocations (familyId : String) (change : TokenFamily → TokenFamily) :
    (s.updateFamily familyId change).revocations = s.revocations := by
  unfold Store.updateFamily
  split <;> rfl

def usedOnce (tokenId : String) : Option TokenFamily → TokenFamily
  | none => ⟨false,[tokenId]⟩
  | some family =>
    if family.isCompromised then family
    else if tokenId ∈ family.usedTokens then { family with isCompromised := true }
    else { family with usedTokens := family.usedTokens ++ [tokenId] }

@[simp] theorem recordRefreshTokenUse_revocations (tokenId familyId : String) :
    (s.recordRefreshTokenUse tokenId familyId).1.revocations = s.revocations := by
  unfold Store.recordRefreshTokenUse
  cases found : s.families.lookup familyId with
  | none => simp [Store.decideUse,Store.writeUse,found]
  | some family =>
    simp only [Store.decideUse]
    split
    · rfl
    · split <;> simp [Store.writeUse]

theorem recordRefreshTokenUse_lookup (tokenId familyId other : String) :
    (s.recordRefreshTokenUse tokenId familyId).1.families.lookup other =
      if other = familyId then some (usedOnce tokenId (s.families.lookup familyId)) else s.families.lookup other := by
  unfold Store.recordRefreshTokenUse
  cases found : s.families.lookup familyId with
  | none =>
    simp only [Store.decideUse,Store.writeUse,found,Option.getD_some]
    exact Table.lookup_overwrite _ _ _ _
  | some family =>
    simp only [Store.decideUse,usedOnce]
    split
    · simp only [Store.writeUse,Option.getD_some]
      split
      · rename_i same
        rw [same,found]
      · rfl
    · split <;> simp [Store.writeUse,updateFamily_lookup,found]

theorem recordRefreshTokenUse_accepted (tokenId familyId : String) :
    (s.recordRefreshTokenUse tokenId familyId).2 = true ↔ ∀ family, s.families.lookup familyId = some family →
      family.isCompromised = false ∧ tokenId ∉ family.usedTokens := by
  unfold Store.recordRefreshTokenUse
  cases found : s.families.lookup familyId with
  | none => simp [Store.decideUse,Store.writeUse,found]
  | some family =>
    simp only [Store.decideUse]
    split
    · simp_all [Store.writeUse]
    · split <;> simp_all [Store.writeUse]

end Rows

def FamilyAs (used : List String) : Option TokenFamily → Prop
  | none => used = []
  | some family => (family.isCompromised = true ↔ ¬used.Nodup) ∧ (used.Nodup → ∀ t, t ∈ family.usedTokens ↔ t ∈ used)

theorem FamilyAs.usedOnce {used : List String} {row : Option TokenFamily} (as : FamilyAs used row) (tokenId : String) :
    FamilyAs (used ++ [tokenId]) (some (usedOnce tokenId row)) := by
  have append : (used ++ [tokenId]).Nodup ↔ used.Nodup ∧ tokenId ∉ used := by
    simp [List.nodup_append]
    grind
  cases row with
  | none =>
    have none : used = [] := as
    subst none
    simp [FamilyAs,Identity.usedOnce]
  | some family =>
    obtain ⟨compromised,members⟩ := as
    simp only [Identity.usedOnce]
    split
    · rename_i flagged
      have broken := compromised.mp flagged
      simp [FamilyAs,append,broken,flagged]
    · rename_i unflagged
      have distinct : used.Nodup := by
        by_contra repeated
        exact unflagged (compromised.mpr repeated)
      split
      · rename_i again
        have member := (members distinct tokenId).mp again
        simp [FamilyAs,append,member]
      · rename_i fresh
        have absent : tokenId ∉ used := fun member => fresh ((members distinct tokenId).mpr member)
        simp [FamilyAs,append,distinct,absent,unflagged,members distinct]

/-- The registry's rows, read from the calls that wrote them. -/
structure Records [LinearOrder Time] (before : List (Timed Time)) (s : Store Time) : Prop where
  token : ∀ jti, (s.revocations.lookup ("jti:" ++ jti)).map RevocationRow.expiresAt = (firstExpiry before jti).map some
  session : ∀ sid row, s.revocations.lookup ("session:" ++ sid) = some row → row.expiresAt = none
  sessionRow : ∀ sid, (s.revocations.lookup ("session:" ++ sid)).isSome = true ↔ SessionRevoked before sid
  user : ∀ uid row, s.revocations.lookup ("user:" ++ uid) = some row →
    UserRevokedAt before uid row.revokedAt ∧ ∀ cutoff, UserRevokedAt before uid cutoff → cutoff ≤ row.revokedAt
  userRow : ∀ uid cutoff, UserRevokedAt before uid cutoff → (s.revocations.lookup ("user:" ++ uid)).isSome = true
  family : ∀ fid, FamilyAs (uses before fid) (s.families.lookup fid)

section Steps

variable {before : List (Timed Time)} {s : Store Time}

theorem records_empty [Semiring Time] [LinearOrder Time] [FloorSemiring Time]
    : Records ([] : List (Timed Time)) (Store.empty : Store Time) := by
  refine ⟨fun _ => rfl,?_,?_,?_,?_,fun _ => rfl⟩
  · intro sid row found
    cases found
  · intro sid
    simp [SessionRevoked,Store.empty]
  · intro uid row found
    cases found
  · intro uid cutoff revoked
    cases revoked

theorem firstExpiry_snoc (call : Timed Time) (jti : String) :
    firstExpiry (before ++ [call]) jti = (firstExpiry before jti).or (tokenExpiry? jti call) := by
  simp only [firstExpiry,List.findSome?_append,List.findSome?_singleton]

theorem uses_snoc (call : Timed Time) (fid : String) :
    uses (before ++ [call]) fid = uses before fid ++ (useIn? fid call).toList := by
  simp only [uses,List.filterMap_append]
  cases shape : useIn? fid call <;> simp [shape]

private theorem records_quiet [LinearOrder Time] (records : Records before s) (call : Timed Time)
    (token : ∀ jti, tokenExpiry? jti call = none) (use : ∀ fid, useIn? fid call = none)
    (session : ∀ sid, call.2 ≠ .revokeSessionTokens sid) (user : ∀ uid, call.2 ≠ .revokeUserTokens uid) :
    Records (before ++ [call]) s := by
  have sessions : ∀ sid, SessionRevoked (before ++ [call]) sid ↔ SessionRevoked before sid := by
    intro sid
    simp only [SessionRevoked,List.mem_append,List.mem_singleton,exists_or,or_iff_left_iff_imp]
    rintro ⟨cutoff,same⟩
    exact absurd (congrArg Prod.snd same).symm (session sid)
  have users : ∀ uid cutoff, UserRevokedAt (before ++ [call]) uid cutoff ↔ UserRevokedAt before uid cutoff := by
    intro uid cutoff
    simp only [UserRevokedAt,List.mem_append,List.mem_singleton,or_iff_left_iff_imp]
    intro same
    exact absurd (congrArg Prod.snd same).symm (user uid)
  refine ⟨?_,records.session,?_,?_,?_,?_⟩
  · intro jti
    rw [firstExpiry_snoc,token,Option.or_none]
    exact records.token jti
  · intro sid
    rw [sessions]
    exact records.sessionRow sid
  · intro uid row found
    simp only [users]
    exact records.user uid row found
  · intro uid cutoff revoked
    exact records.userRow uid cutoff ((users uid cutoff).mp revoked)
  · intro fid
    rw [uses_snoc,use,Option.toList_none,List.append_nil]
    exact records.family fid

theorem records_revokeToken [LinearOrder Time] (records : Records before s) (now : Time) (revoked : String) (expiresAt : Time) :
    Records (before ++ [(now, .revokeToken revoked expiresAt)]) (s.revokeToken now revoked expiresAt) := by
  have sessions : ∀ sid, SessionRevoked (before ++ [(now, .revokeToken revoked expiresAt)]) sid ↔ SessionRevoked before sid := by
    intro sid
    simp [SessionRevoked]
  have users : ∀ uid cutoff, UserRevokedAt (before ++ [(now, .revokeToken revoked expiresAt)]) uid cutoff ↔
      UserRevokedAt before uid cutoff := by
    intro uid cutoff
    simp [UserRevokedAt]
  refine ⟨?_,?_,?_,?_,?_,?_⟩
  · intro jti
    rw [firstExpiry_snoc,revokeToken_lookup,Option.map_or,← records.token jti]
    by_cases same : jti = revoked
    · subst same
      cases s.revocations.lookup ("jti:" ++ jti) <;> simp [tokenExpiry?]
    · have other : ("jti:" ++ jti) ≠ "jti:" ++ revoked := fun equal => same (key_injective equal)
      simp [tokenExpiry?,other,Ne.symm same]
  · intro sid row found
    rw [revokeToken_lookup,if_neg (jti_ne_session _ _).symm] at found
    exact records.session sid row found
  · intro sid
    rw [revokeToken_lookup,if_neg (jti_ne_session _ _).symm,sessions]
    exact records.sessionRow sid
  · intro uid row found
    rw [revokeToken_lookup,if_neg (jti_ne_user _ _).symm] at found
    simp only [users]
    exact records.user uid row found
  · intro uid cutoff cut
    rw [revokeToken_lookup,if_neg (jti_ne_user _ _).symm]
    exact records.userRow uid cutoff ((users uid cutoff).mp cut)
  · intro fid
    rw [uses_snoc,revokeToken_families]
    simpa [useIn?] using records.family fid

theorem records_revokeSessionTokens [LinearOrder Time] (records : Records before s) (now : Time) (revoked : String) :
    Records (before ++ [(now, .revokeSessionTokens revoked)]) (s.revokeSessionTokens now revoked) := by
  have users : ∀ uid cutoff, UserRevokedAt (before ++ [(now, .revokeSessionTokens revoked)]) uid cutoff ↔
      UserRevokedAt before uid cutoff := by
    intro uid cutoff
    simp [UserRevokedAt]
  refine ⟨?_,?_,?_,?_,?_,?_⟩
  · intro jti
    rw [firstExpiry_snoc,Store.revokeSessionTokens,renewRevocation_lookup,if_neg (jti_ne_session _ _)]
    simpa [tokenExpiry?] using records.token jti
  · intro sid row found
    rw [Store.revokeSessionTokens,renewRevocation_lookup] at found
    split at found
    · cases found
      cases stored : s.revocations.lookup ("session:" ++ sid) with
      | none => rfl
      | some row => exact records.session sid row stored
    · exact records.session sid row found
  · intro sid
    rw [Store.revokeSessionTokens,renewRevocation_lookup]
    have earlier := records.sessionRow sid
    by_cases same : sid = revoked
    · subst same
      simp only [reduceIte,Option.isSome_some,true_iff]
      exact ⟨now,by simp⟩
    · have other : ("session:" ++ sid) ≠ "session:" ++ revoked := fun equal => same (key_injective equal)
      simp only [if_neg other,earlier,SessionRevoked,List.mem_append,List.mem_singleton]
      simp [same]
  · intro uid row found
    rw [Store.revokeSessionTokens,renewRevocation_lookup,if_neg (session_ne_user _ _).symm] at found
    simp only [users]
    exact records.user uid row found
  · intro uid cutoff cut
    rw [Store.revokeSessionTokens,renewRevocation_lookup,if_neg (session_ne_user _ _).symm]
    exact records.userRow uid cutoff ((users uid cutoff).mp cut)
  · intro fid
    rw [uses_snoc,Store.revokeSessionTokens,renewRevocation_families]
    simpa [useIn?] using records.family fid

theorem records_revokeUserTokens [LinearOrder Time] (records : Records before s) (now : Time) (revoked : String)
    (latest : ∀ call ∈ before, call.1 ≤ now) :
    Records (before ++ [(now, .revokeUserTokens revoked)]) (s.revokeUserTokens now revoked) := by
  have sessions : ∀ sid, SessionRevoked (before ++ [(now, .revokeUserTokens revoked)]) sid ↔ SessionRevoked before sid := by
    intro sid
    simp [SessionRevoked]
  have users : ∀ uid cutoff, UserRevokedAt (before ++ [(now, .revokeUserTokens revoked)]) uid cutoff ↔
      UserRevokedAt before uid cutoff ∨ cutoff = now ∧ uid = revoked := by
    intro uid cutoff
    simp [UserRevokedAt]
  refine ⟨?_,?_,?_,?_,?_,?_⟩
  · intro jti
    rw [firstExpiry_snoc,Store.revokeUserTokens,renewRevocation_lookup,if_neg (jti_ne_user _ _)]
    simpa [tokenExpiry?] using records.token jti
  · intro sid row found
    rw [Store.revokeUserTokens,renewRevocation_lookup,if_neg (session_ne_user _ _)] at found
    exact records.session sid row found
  · intro sid
    rw [Store.revokeUserTokens,renewRevocation_lookup,if_neg (session_ne_user _ _),sessions]
    exact records.sessionRow sid
  · intro uid row found
    rw [Store.revokeUserTokens,renewRevocation_lookup] at found
    simp only [users]
    split at found
    · rename_i same
      cases found
      refine ⟨Or.inr ⟨rfl,key_injective same⟩,?_⟩
      intro cutoff cut
      rcases cut with earlier | ⟨rfl,_⟩
      · exact latest _ earlier
      · exact le_rfl
    · rename_i distinct
      obtain ⟨made,last⟩ := records.user uid row found
      refine ⟨Or.inl made,?_⟩
      intro cutoff cut
      rcases cut with earlier | ⟨_,rfl⟩
      · exact last cutoff earlier
      · exact absurd rfl distinct
  · intro uid cutoff cut
    rw [Store.revokeUserTokens,renewRevocation_lookup]
    split
    · rfl
    · rename_i distinct
      rcases (users uid cutoff).mp cut with earlier | ⟨_,rfl⟩
      · exact records.userRow uid cutoff earlier
      · exact absurd rfl distinct
  · intro fid
    rw [uses_snoc,Store.revokeUserTokens,renewRevocation_families]
    simpa [useIn?] using records.family fid

theorem records_recordRefreshTokenUse [LinearOrder Time] (records : Records before s) (now : Time) (tokenId familyId : String) :
    Records (before ++ [(now, .recordRefreshTokenUse tokenId familyId)]) (s.recordRefreshTokenUse tokenId familyId).1 := by
  have sessions : ∀ sid, SessionRevoked (before ++ [(now, .recordRefreshTokenUse tokenId familyId)]) sid ↔
      SessionRevoked before sid := by
    intro sid
    simp [SessionRevoked]
  have users : ∀ uid cutoff, UserRevokedAt (before ++ [(now, .recordRefreshTokenUse tokenId familyId)]) uid cutoff ↔
      UserRevokedAt before uid cutoff := by
    intro uid cutoff
    simp [UserRevokedAt]
  refine ⟨?_,?_,?_,?_,?_,?_⟩
  · intro jti
    rw [firstExpiry_snoc,recordRefreshTokenUse_revocations]
    simpa [tokenExpiry?] using records.token jti
  · rw [recordRefreshTokenUse_revocations]
    exact records.session
  · intro sid
    rw [recordRefreshTokenUse_revocations,sessions]
    exact records.sessionRow sid
  · intro uid row found
    rw [recordRefreshTokenUse_revocations] at found
    simp only [users]
    exact records.user uid row found
  · intro uid cutoff cut
    rw [recordRefreshTokenUse_revocations]
    exact records.userRow uid cutoff ((users uid cutoff).mp cut)
  · intro fid
    rw [uses_snoc,recordRefreshTokenUse_lookup]
    by_cases same : fid = familyId
    · subst same
      simpa [useIn?] using (records.family fid).usedOnce tokenId
    · simpa [useIn?,same,Ne.symm same] using records.family fid

theorem records_perform [LinearOrder Time]
    (records : Records before s) (call : Timed Time) (latest : ∀ earlier ∈ before, earlier.1 ≤ call.1) :
    Records (before ++ [call]) (s.perform call) := by
  obtain ⟨now,call⟩ := call
  cases call with
  | revokeToken jti expiresAt => exact records_revokeToken records now jti expiresAt
  | revokeSessionTokens sid => exact records_revokeSessionTokens records now sid
  | revokeUserTokens uid => exact records_revokeUserTokens records now uid latest
  | recordRefreshTokenUse tokenId familyId => exact records_recordRefreshTokenUse records now tokenId familyId
  | issue token => exact records_quiet records _ (fun _ => rfl) (fun _ => rfl) (by simp) (by simp)
  | verify token issued => exact records_quiet records _ (fun _ => rfl) (fun _ => rfl) (by simp) (by simp)

theorem records_after [Semiring Time] [LinearOrder Time] [FloorSemiring Time]
    (calls : List (Timed Time)) (ordered : calls.Pairwise (fun a b => a.1 ≤ b.1)) :
    Records calls (Store.after calls) := by
  induction calls using List.reverseRecOn with
  | nil => exact records_empty
  | append_singleton before call ih =>
    obtain ⟨earlier,_,last⟩ := List.pairwise_append.mp ordered
    have step := records_perform (ih earlier) call (fun c member => last c member call (by simp))
    rwa [Store.after,Runs.run_append]

end Steps

section Verdict

variable {before : List (Timed Time)} {s : Store Time} {now issued : Time}

theorem truthy_some {text : String} (named : text ≠ "") : truthy (some text) = some text := by
  simp [truthy,named]

theorem findSome_expiry {jti : String} : firstExpiry before jti ≠ none ↔ TokenRevoked before jti := by
  simp only [firstExpiry,ne_eq,List.findSome?_eq_none_iff,not_forall,TokenRevoked]
  constructor
  · rintro ⟨⟨cutoff,call⟩,member,found⟩
    cases call with
    | revokeToken revoked expiry =>
      by_cases same : revoked = jti
      · subst same
        exact ⟨cutoff,expiry,member⟩
      · simp [tokenExpiry?,same] at found
    | _ => simp [tokenExpiry?] at found
  · rintro ⟨cutoff,expiry,member⟩
    exact ⟨_,member,by simp [tokenExpiry?]⟩

theorem tokenInForce_iff [Semiring Time] [LinearOrder Time] [FloorSemiring Time] (records : Records before s) (jti : String) :
    s.revocationInForce now ("jti:" ++ jti) = true ↔ ∃ expiry, firstExpiry before jti = some expiry ∧ now < expiry := by
  have row := records.token jti
  unfold Store.revocationInForce
  cases found : s.revocations.lookup ("jti:" ++ jti) with
  | none =>
    rw [found] at row
    cases first : firstExpiry before jti with
    | none => simp
    | some expiry => simp [first] at row
  | some stored =>
    rw [found] at row
    cases first : firstExpiry before jti with
    | none => simp [first] at row
    | some expiry =>
      have same : stored.expiresAt = some expiry := by simpa [first] using row
      simp [same]

theorem sessionInForce_iff [LinearOrder Time] (records : Records before s) (sid : String) :
    s.revocationInForce now ("session:" ++ sid) = true ↔ SessionRevoked before sid := by
  rw [← records.sessionRow sid]
  unfold Store.revocationInForce
  cases found : s.revocations.lookup ("session:" ++ sid) with
  | none => simp
  | some row => simp [records.session sid row found]

theorem userRevoked_iff [Semiring Time] [LinearOrder Time]
    (records : Records before s) (uid : String) (second : ℕ) [IsStrictOrderedRing Time]
    [CanonicallyOrderedAdd Time] :
    s.userRevoked uid (if second = 0 then none else some (second : Time)) = true ↔
      ∃ cutoff, UserRevokedAt before uid cutoff ∧ (second : Time) ≤ cutoff := by
  unfold Store.userRevoked
  cases found : s.revocations.lookup ("user:" ++ uid) with
  | none =>
    simp only [Bool.false_eq_true,false_iff,not_exists,not_and]
    intro cutoff revoked
    have row := records.userRow uid cutoff revoked
    simp [found] at row
  | some row =>
    obtain ⟨made,last⟩ := records.user uid row found
    have renewed : (∃ cutoff, UserRevokedAt before uid cutoff ∧ (second : Time) ≤ cutoff) ↔ (second : Time) ≤ row.revokedAt := by
      constructor
      · rintro ⟨cutoff,revoked,reached⟩
        exact reached.trans (last cutoff revoked)
      · intro reached
        exact ⟨_,made,reached⟩
    rw [renewed]
    split_ifs with zero
    · simp [zero]
    · simp

theorem familyCompromised_iff [LinearOrder Time] (records : Records before s) (fid : String) :
    s.familyCompromised fid = true ↔ FamilyCompromised before fid := by
  have row := records.family fid
  unfold Store.familyCompromised FamilyCompromised
  cases found : s.families.lookup fid with
  | none =>
    rw [found] at row
    have unused : uses before fid = [] := row
    simp [unused]
  | some family =>
    rw [found] at row
    exact row.1

theorem payload_ids [Semiring Time] [LinearOrder Time] [FloorSemiring Time] (token : Issuance) (issued : Time) :
    (token.payload issued).uid ≠ "" ∧ (∀ sid, (token.payload issued).sid = some sid → sid ≠ "") ∧
      ∀ fid, (token.payload issued).fid = some fid → fid ≠ "" := by
  cases token with
  | access hex user tenant session family ttl bg =>
    refine ⟨user.2,?_,?_⟩
    · intro sid given
      cases given
      exact session.2
    · intro fid given
      cases given
      exact family.2
  | refresh hex user tenant session family ttl bg =>
    refine ⟨user.2,?_,?_⟩
    · intro sid given
      cases given
      exact session.2
    · intro fid given
      cases given
      exact family.2
  | machine hex client tenant ttl => exact ⟨client.2,by simp [Issuance.payload,issueMachineToken],
      by simp [Issuance.payload,issueMachineToken]⟩
  | stepUp hex user tenant ttl => exact ⟨user.2,by simp [Issuance.payload,issueStepUpToken],
      by simp [Issuance.payload,issueStepUpToken]⟩
  | actAs hex user tenant ttl => exact ⟨user.2,by simp [Issuance.payload,issueActAsToken],
      by simp [Issuance.payload,issueActAsToken]⟩

theorem payload_iat [Semiring Time] [LinearOrder Time] [FloorSemiring Time]
    (token : Issuance) (issued : Time) : (token.payload issued).iat = ⌊issued⌋₊ := by
  cases token <;> rfl

theorem payload_nbf [Semiring Time] [LinearOrder Time] [FloorSemiring Time]
    (token : Issuance) (issued : Time) (nbf : ℕ) (given : (token.payload issued).nbf = some nbf) :
    nbf = ⌊issued⌋₊ := by
  cases token <;> simp_all [Issuance.payload,issueAccessToken,issueRefreshToken,issueMachineToken,issueStepUpToken,
    issueActAsToken]

theorem any_truthy {value : Option String} (named : ∀ text, value = some text → text ≠ "") (test : String → Bool) :
    (truthy value).any test = true ↔ ∃ text, value = some text ∧ test text = true := by
  cases value with
  | none => simp [truthy]
  | some text => simp [truthy_some (named text rfl)]

theorem isTokenRevoked_iff [Semiring Time] [LinearOrder Time] [FloorSemiring Time]
    (records : Records before s) (token : Issuance) [IsStrictOrderedRing Time]
    [CanonicallyOrderedAdd Time] :
    s.isTokenRevoked now (token.payload issued).jti (some (token.payload issued).uid) (token.payload issued).sid
      (Store.issuedAt (token.payload issued)) (token.payload issued).fid = true ↔ Cut before now (token.payload issued) := by
  obtain ⟨user,session,family⟩ := payload_ids token issued
  have named : ∀ text, some (token.payload issued).uid = some text → text ≠ "" := by
    intro text given
    cases given
    exact user
  simp only [Store.isTokenRevoked,Bool.or_eq_true,any_truthy session,any_truthy family,any_truthy named,
    tokenInForce_iff records,sessionInForce_iff records,familyCompromised_iff records,Store.issuedAt,
    userRevoked_iff records,Cut,LineRevoked,Option.some.injEq,exists_eq_left',or_assoc]
  exact or_congr_right (or_congr_right or_comm)

end Verdict

section Main

theorem Verifies.records [Semiring Time] [LinearOrder Time] [FloorSemiring Time]
    {calls before : List (Timed Time)} {now : Time} {token : Issuance} {issued : Time}
    (verifies : Verifies calls before now token issued) (ordered : calls.Pairwise (fun a b => a.1 ≤ b.1)) :
    Records before (Store.after before) ∧ issued ≤ now := by
  obtain ⟨after,made⟩ := verifies.made
  rw [made] at ordered
  obtain ⟨earlier,_,later⟩ := List.pairwise_append.mp ordered
  exact ⟨records_after before earlier,later _ verifies.signed (now, .verify token issued) (by simp)⟩

theorem verifyToken_of_unexpired [Semiring Time] [LinearOrder Time] [FloorSemiring Time] [CanonicallyOrderedAdd Time]
    (s : Store Time) {now issued : Time} {token : Issuance}
    (unexpired : now ≤ ((token.payload issued).exp : Time)) (later : issued ≤ now) :
    s.verifyToken now (token.payload issued) =
      if s.isTokenRevoked now (token.payload issued).jti (some (token.payload issued).uid) (token.payload issued).sid
        (Store.issuedAt (token.payload issued)) (token.payload issued).fid then .error .revoked
      else .ok (token.payload issued) := by
  have valid : (token.payload issued).nbf.any (fun nbf : ℕ => now < (nbf : Time)) = false := by
    cases given : (token.payload issued).nbf with
    | none => rfl
    | some nbf =>
      have second : ((⌊issued⌋₊ : ℕ) : Time) ≤ now := (Nat.floor_le zero_le).trans later
      rw [payload_nbf token issued nbf given]
      simpa using second
  unfold Store.verifyToken
  simp only [not_lt.mpr unexpired,if_false,valid,Bool.false_eq_true]

theorem verifyToken_revoked_iff [Semiring Time] [LinearOrder Time] [FloorSemiring Time] [IsStrictOrderedRing Time] [CanonicallyOrderedAdd Time]
    {calls before : List (Timed Time)} {now : Time} {token : Issuance} {issued : Time}
    (verifies : Verifies calls before now token issued) (ordered : calls.Pairwise (fun a b => a.1 ≤ b.1)) :
    (Store.after before).verifyToken now (token.payload issued) = .error .revoked ↔ Cut before now (token.payload issued) := by
  obtain ⟨records,later⟩ := verifies.records ordered
  rw [verifyToken_of_unexpired _ verifies.unexpired later,← isTokenRevoked_iff records token]
  split <;> simp_all

theorem verifyToken_accepted [Semiring Time] [LinearOrder Time] [FloorSemiring Time] [IsStrictOrderedRing Time] [CanonicallyOrderedAdd Time]
    {calls before : List (Timed Time)} {now : Time} {token : Issuance} {issued : Time}
    (verifies : Verifies calls before now token issued) (ordered : calls.Pairwise (fun a b => a.1 ≤ b.1))
    (uncut : ¬Cut before now (token.payload issued)) :
    (Store.after before).verifyToken now (token.payload issued) = .ok (token.payload issued) := by
  obtain ⟨records,later⟩ := verifies.records ordered
  rw [← isTokenRevoked_iff records token] at uncut
  rw [verifyToken_of_unexpired _ verifies.unexpired later,if_neg uncut]

theorem iat_le [Semiring Time] [LinearOrder Time] [FloorSemiring Time] [CanonicallyOrderedAdd Time]
    (token : Issuance) (issued : Time) : ((token.payload issued).iat : Time) ≤ issued := by
  rw [payload_iat]
  exact Nat.floor_le zero_le

theorem cut_iff_due [Semiring Time] [LinearOrder Time] [FloorSemiring Time] [CanonicallyOrderedAdd Time]
    {before : List (Timed Time)} {now issued : Time} (token : Issuance) :
    (Cut before now (token.payload issued) ↔ Due before (token.payload issued) issued) ↔
      Unblurred before now (token.payload issued) issued := by
  have second := iat_le token issued
  constructor
  · intro same
    refine ⟨?_,?_⟩
    · intro expiry first lapsed
      have due : Due before (token.payload issued) issued := Or.inl (findSome_expiry.mp (by simp [first]))
      rcases same.mpr due with ⟨other,given,inForce⟩ | rest
      · rw [first] at given
        cases given
        exact absurd inForce (not_lt.mpr lapsed)
      · exact rest
    · intro cutoff revoked _ reached
      exact same.mp (Or.inr (Or.inr ⟨cutoff,revoked,reached⟩))
  · rintro ⟨inForce,apart⟩
    constructor
    · rintro (⟨expiry,first,_⟩ | line | ⟨cutoff,revoked,reached⟩)
      · exact Or.inl (findSome_expiry.mp (by simp [first]))
      · exact Or.inr (Or.inl line)
      · rcases lt_or_ge cutoff issued with earlier | later
        · exact apart cutoff revoked earlier reached
        · exact Or.inr (Or.inr ⟨cutoff,revoked,later⟩)
    · rintro (token | line | ⟨cutoff,revoked,later⟩)
      · obtain ⟨expiry,first⟩ := Option.ne_none_iff_exists'.mp (findSome_expiry.mpr token)
        rcases lt_or_ge now expiry with held | lapsed
        · exact Or.inl ⟨expiry,first,held⟩
        · exact Or.inr (inForce expiry first lapsed)
      · exact Or.inr (Or.inl line)
      · exact Or.inr (Or.inr ⟨cutoff,revoked,second.trans later⟩)

theorem revokeUserTokens_others [Semiring Time] [LinearOrder Time] [FloorSemiring Time]
    (s : Store Time) (now cutoff : Time) {uid : String} {payload : Payload}
    (other : payload.uid ≠ uid) : (s.revokeUserTokens cutoff uid).verifyToken now payload = s.verifyToken now payload := by
  have rows : ∀ key, key ≠ "user:" ++ uid →
      (s.revokeUserTokens cutoff uid).revocations.lookup key = s.revocations.lookup key := by
    intro key distinct
    rw [Store.revokeUserTokens,renewRevocation_lookup,if_neg distinct]
  have inForce : ∀ key, key ≠ "user:" ++ uid →
      (s.revokeUserTokens cutoff uid).revocationInForce now key = s.revocationInForce now key := by
    intro key distinct
    simp only [Store.revocationInForce,rows key distinct]
  have tokens := inForce ("jti:" ++ payload.jti) (jti_ne_user _ _)
  have sessions : ∀ sid, (s.revokeUserTokens cutoff uid).revocationInForce now ("session:" ++ sid) =
      s.revocationInForce now ("session:" ++ sid) := fun sid => inForce _ (session_ne_user sid uid)
  have users : (s.revokeUserTokens cutoff uid).userRevoked payload.uid (Store.issuedAt payload) =
      s.userRevoked payload.uid (Store.issuedAt payload) := by
    simp only [Store.userRevoked,rows _ (fun same => other (key_injective same))]
  have families : ∀ fid, (s.revokeUserTokens cutoff uid).familyCompromised fid = s.familyCompromised fid := fun _ => rfl
  have seen : (truthy (some payload.uid)).any (fun text => (s.revokeUserTokens cutoff uid).userRevoked text (Store.issuedAt payload)) =
      (truthy (some payload.uid)).any (fun text => s.userRevoked text (Store.issuedAt payload)) := by
    by_cases named : payload.uid = ""
    · rw [named]
      rfl
    · rw [truthy_some named]
      exact users
  have verdict : (s.revokeUserTokens cutoff uid).isTokenRevoked now payload.jti (some payload.uid) payload.sid
      (Store.issuedAt payload) payload.fid =
      s.isTokenRevoked now payload.jti (some payload.uid) payload.sid (Store.issuedAt payload) payload.fid := by
    simp only [Store.isTokenRevoked,tokens,sessions,seen,families]
  rw [Store.verifyToken,verdict]
  rfl

/-- Revocation cuts exactly in a run exactly when no verification in it is blurred. -/
theorem revocation_cuts_exactly_iff [Semiring Time] [LinearOrder Time] [FloorSemiring Time] [IsStrictOrderedRing Time] [CanonicallyOrderedAdd Time]
    (calls : List (Timed Time)) (ordered : calls.Pairwise (fun a b => a.1 ≤ b.1)) :
    CutsExactly calls ↔ ∀ before now token issued, Verifies calls before now token issued →
      Unblurred before now (token.payload issued) issued := by
  constructor
  · rintro ⟨sound,_,_⟩ before now token issued verifies
    rw [← cut_iff_due,← verifyToken_revoked_iff verifies ordered]
    exact sound before now token issued verifies
  · intro unblurred
    refine ⟨?_,?_,?_⟩
    · intro before now token issued verifies
      rw [verifyToken_revoked_iff verifies ordered,cut_iff_due]
      exact unblurred before now token issued verifies
    · intro before now token issued verifies kept line earlier
      apply verifyToken_accepted verifies ordered
      intro cut
      rcases ((cut_iff_due token).mpr (unblurred before now token issued verifies)).mp cut with token | revoked | ⟨cutoff,user,later⟩
      · exact kept token
      · exact line revoked
      · exact absurd later (not_le.mpr (earlier cutoff user))
    · intro before now uid cutoff payload _ other
      exact revokeUserTokens_others _ now cutoff other

end Main

section Relogin

def renewal : Issuance :=
  .access "01" ⟨"usr-ada",by decide⟩ ⟨"global",by decide⟩ ⟨"sess-02",by decide⟩ ⟨"fam-02",by decide⟩ 900 false

def signedIn : ℚ≥0 := 43/4

def cutOff : List (Timed ℚ≥0) := [(21/2, .revokeUserTokens "usr-ada"), (signedIn, .issue renewal)]

def relogin : List (Timed ℚ≥0) := cutOff ++ [(12, .verify renewal signedIn)]

theorem relogin_verifies : Verifies relogin cutOff 12 renewal signedIn :=
  ⟨⟨[],rfl⟩,by simp [cutOff],by decide +kernel⟩

theorem cutOff_line : ¬LineRevoked cutOff (renewal.payload signedIn) := by
  rintro (⟨sid,_,cutoff,revoked⟩ | ⟨fid,_,compromised⟩)
  · simp [cutOff] at revoked
  · exact compromised List.nodup_nil

theorem cutOff_moment {cutoff : ℚ≥0} (revoked : UserRevokedAt cutOff (renewal.payload signedIn).uid cutoff) : cutoff < signedIn := by
  simp [UserRevokedAt,cutOff] at revoked
  rw [revoked.1]
  decide +kernel

theorem relogin_refused : ¬∀ calls : List (Timed ℚ≥0), calls.Pairwise (fun a b => a.1 ≤ b.1) → CutsExactly calls := by
  intro always
  have ordered : relogin.Pairwise (fun a b => a.1 ≤ b.1) := by decide +kernel
  have refused : (Store.after cutOff).verifyToken 12 (renewal.payload signedIn) = .error .revoked := by decide +kernel
  have accepted := (always relogin ordered).renewed _ _ _ _ relogin_verifies (by simp [TokenRevoked,cutOff]) cutOff_line
    (fun _ => cutOff_moment)
  cases accepted.symm.trans refused

theorem relogin_not_exact : ¬CutsExactly relogin := by
  rw [revocation_cuts_exactly_iff relogin (by decide +kernel)]
  intro unblurred
  have reached : UserRevokedAt cutOff (renewal.payload signedIn).uid (21/2) := by
    simp [UserRevokedAt,cutOff,renewal,Issuance.payload,issueAccessToken]
  have due := (unblurred _ _ _ _ relogin_verifies).apart (21/2) reached (by decide +kernel) (by decide +kernel)
  rcases due with ⟨cutoff,expiry,token⟩ | line | ⟨cutoff,revoked,later⟩
  · simp [cutOff] at token
  · exact cutOff_line line
  · exact absurd later (not_le.mpr (cutOff_moment revoked))

end Relogin
end CloudLens.Identity
