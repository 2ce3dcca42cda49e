import CloudLens.Library.Table
import Mathlib.Algebra.Order.Floor.Semiring
import Mathlib.Algebra.Order.Ring.Canonical

/-! Tokens, their revocation registry and the sessions behind them. A clock reading is
an element of any ordered semiring with a floor, so that whole seconds and the fractions
between them are told apart. A repository read yields a value: what the service does to it
afterwards reaches the store only through a save. -/
namespace CloudLens.Identity
open Library

inductive TokenType
  | access | refresh | stepUp | machineAccess
  deriving DecidableEq

inductive UserStatus
  | active | disabled | locked
  deriving DecidableEq

/-- The claims that verification and rotation read back from a signed token. -/
structure Payload where
  jti : String
  typ : TokenType
  uid : String
  tid : String
  sid : Option String
  fid : Option String
  bg : Bool
  iat : ℕ
  nbf : Option ℕ
  exp : ℕ
  deriving DecidableEq

structure User where
  id : String
  tenantId : String
  status : UserStatus

structure Settings where
  sessionIdleTimeoutSeconds : ℕ
  sessionAbsoluteLifetimeSeconds : ℕ
  accessTokenTtlSeconds : ℕ
  refreshTokenTtlSeconds : ℕ

structure Session (Time : Type) where
  id : String
  tenantId : String
  userId : String
  tokenFamilyId : String
  createdAt : Time
  lastActivityAt : Time
  expiresAt : Time
  isActive : Bool
  revokedAt : Option Time
  revocationReason : Option String

structure RevocationRow (Time : Type) where
  revokedAt : Time
  expiresAt : Option Time

structure TokenFamily where
  isCompromised : Bool
  usedTokens : List String
  deriving DecidableEq

structure Store (Time : Type) where
  revocations : Table String (RevocationRow Time)
  families : Table String TokenFamily
  sessions : Table String (Session Time)
  users : Table String User

inductive Rejection
  | expired | notYetValid | revoked | notRefreshToken | reuseDetected | sessionNotActive
  | idleTimeout | absoluteLifetimeExceeded | userDisabled
  deriving DecidableEq

variable {Time : Type} [Semiring Time] [LinearOrder Time] [FloorSemiring Time]

section Tokens

def issueAccessToken (now : Time) (hex userId tenantId sessionId tokenFamilyId : String) (ttlSeconds : ℕ)
    (isBreakGlass : Bool) : Payload where
  jti := "tok-acc-" ++ hex
  typ := .access
  uid := userId
  tid := tenantId
  sid := some sessionId
  fid := some tokenFamilyId
  bg := isBreakGlass
  iat := ⌊now⌋₊
  nbf := some ⌊now⌋₊
  exp := ⌊now + ttlSeconds⌋₊

def issueRefreshToken (now : Time) (hex userId tenantId sessionId tokenFamilyId : String) (ttlSeconds : ℕ)
    (isBreakGlass : Bool) : Payload where
  jti := "tok-ref-" ++ hex
  typ := .refresh
  uid := userId
  tid := tenantId
  sid := some sessionId
  fid := some tokenFamilyId
  bg := isBreakGlass
  iat := ⌊now⌋₊
  nbf := none
  exp := ⌊now + ttlSeconds⌋₊

def issueMachineToken (now : Time) (hex clientId tenantId : String) (ttlSeconds : ℕ) : Payload where
  jti := "tok-mach-" ++ hex
  typ := .machineAccess
  uid := clientId
  tid := tenantId
  sid := none
  fid := none
  bg := false
  iat := ⌊now⌋₊
  nbf := none
  exp := ⌊now + ttlSeconds⌋₊

def issueStepUpToken (now : Time) (hex userId tenantId : String) (ttlSeconds : ℕ) : Payload where
  jti := "tok-step-" ++ hex
  typ := .stepUp
  uid := userId
  tid := tenantId
  sid := none
  fid := none
  bg := false
  iat := ⌊now⌋₊
  nbf := none
  exp := ⌊now + ttlSeconds⌋₊

def issueActAsToken (now : Time) (hex userId targetTenantId : String) (ttlSeconds : ℕ) : Payload where
  jti := "tok-act-" ++ hex
  typ := .access
  uid := userId
  tid := targetTenantId
  sid := none
  fid := none
  bg := false
  iat := ⌊now⌋₊
  nbf := none
  exp := ⌊now + ttlSeconds⌋₊

end Tokens

def truthy (value : Option String) : Option String := value.filter (fun text => !text.isEmpty)

namespace Store

section Registry

variable (s : Store Time) (now : Time)

def empty : Store Time := ⟨∅,∅,∅,∅⟩

def revokeToken (jti : String) (expiresAt : Time) : Store Time :=
  { s with revocations := s.revocations.upsert (fun stored _ => stored) ("jti:" ++ jti) ⟨now,some expiresAt⟩ }

/-- The insert of a row without an expiry, whose conflict renews the moment only. -/
def renewRevocation (key : String) : Store Time :=
  let renew (stored proposed : RevocationRow Time) := { stored with revokedAt := proposed.revokedAt }
  { s with revocations := s.revocations.upsert renew key ⟨now,none⟩ }

def revokeSessionTokens (sessionId : String) : Store Time := s.renewRevocation now ("session:" ++ sessionId)

def revokeUserTokens (userId : String) : Store Time := s.renewRevocation now ("user:" ++ userId)

def revocationInForce (key : String) : Bool :=
  match s.revocations.lookup key with
  | none => false
  | some row =>
    match row.expiresAt with
    | none => true
    | some expiry => now < expiry

def userRevoked (userId : String) (issuedAt : Option Time) : Bool :=
  match s.revocations.lookup ("user:" ++ userId) with
  | none => false
  | some row =>
    match issuedAt with
    | none => true
    | some issued => issued ≤ row.revokedAt

def familyCompromised (familyId : String) : Bool :=
  match s.families.lookup familyId with
  | none => false
  | some family => family.isCompromised

def isTokenRevoked (jti : String) (userId sessionId : Option String) (issuedAt : Option Time) (familyId : Option String) :
    Bool :=
  s.revocationInForce now ("jti:" ++ jti) ||
    (truthy sessionId).any (fun sid => s.revocationInForce now ("session:" ++ sid)) ||
    (truthy userId).any (fun uid => s.userRevoked uid issuedAt) ||
    (truthy familyId).any (fun fid => s.familyCompromised fid)

/-- What `record_refresh_token_use` decides from the row it has read. -/
inductive UseDecision
  | insert
  | refuse
  | compromise
  | update (usedTokens : List String)

def decideUse (tokenId : String) : Option TokenFamily → UseDecision
  | none => .insert
  | some family =>
    if family.isCompromised then .refuse
    else if tokenId ∈ family.usedTokens then .compromise
    else .update (family.usedTokens ++ [tokenId])

def updateFamily (familyId : String) (change : TokenFamily → TokenFamily) : Store Time :=
  match s.families.lookup familyId with
  | none => s
  | some family => { s with families := s.families.upsert (fun _ proposed => proposed) familyId (change family) }

/-- Carries the decision out; `none` is the violated primary key of an insert. -/
def writeUse (tokenId familyId : String) : UseDecision → Option (Store Time × Bool)
  | .insert =>
    match s.families.lookup familyId with
    | none => some ({ s with families := s.families.upsert (fun _ proposed => proposed) familyId ⟨false,[tokenId]⟩ }, true)
    | some _ => none
  | .refuse => some (s, false)
  | .compromise => some (s.updateFamily familyId (fun family => { family with isCompromised := true }), false)
  | .update usedTokens => some (s.updateFamily familyId (fun family => { family with usedTokens := usedTokens }), true)

def recordRefreshTokenUse (tokenId familyId : String) : Store Time × Bool :=
  (s.writeUse tokenId familyId (decideUse tokenId (s.families.lookup familyId))).getD (s, false)

def issuedAt (payload : Payload) : Option Time := if payload.iat = 0 then none else some (payload.iat : Time)

def verifyToken (payload : Payload) : Except Rejection Payload :=
  if (payload.exp : Time) < now then .error .expired
  else if payload.nbf.any (fun nbf : ℕ => now < (nbf : Time)) then .error .notYetValid
  else if s.isTokenRevoked now payload.jti (some payload.uid) payload.sid (issuedAt payload) payload.fid then .error .revoked
  else .ok payload

end Registry

end Store
end CloudLens.Identity
