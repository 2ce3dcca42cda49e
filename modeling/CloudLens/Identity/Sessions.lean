import CloudLens.Identity.Revocation

/-! Sign-in, rotation and the termination of sessions. The session proxy hands out a fresh
copy at every access, so an assignment to its fields is not a write: only the save of a new
session reaches the table. -/
namespace CloudLens.Identity
open Library Library.Runs

structure Deployment where
  settings : String → Settings
  isConsolidatedSuperuser : User → Bool
  /-- The idle timeout that the session listing takes from its own feature record. -/
  listingIdleTimeoutSeconds : ℕ

/-- The random parts of the ids that one call draws. -/
structure Draw where
  session : String
  family : String
  access : String
  refresh : String

structure TokenPair where
  accessToken : Payload
  refreshToken : Payload
  sessionId : String

variable {Time : Type}

namespace Store

variable [Semiring Time] [LinearOrder Time] [FloorSemiring Time]

variable (d : Deployment) (s : Store Time) (now : Time)

def saveSession (session : Session Time) : Store Time :=
  let merge (stored proposed : Session Time) := { stored with
    lastActivityAt := proposed.lastActivityAt, isActive := proposed.isActive, revokedAt := proposed.revokedAt,
    revocationReason := proposed.revocationReason }
  { s with sessions := s.sessions.upsert merge session.id session }

def saveUser (user : User) : Store Time :=
  { s with users := s.users.upsert (fun _ proposed => proposed) user.id user }

def listActiveOf (tenantId : String) : List (Session Time) :=
  (s.sessions.selectWhere (fun _ x => x.tenantId = tenantId && x.isActive && decide (now < x.expiresAt))).map Sigma.snd

/-- `_sessions.values()`. -/
def sessionValues : List (Session Time) := s.listActiveOf now "global"

def issuePair (userId tenantId sessionId familyId : String) (draw : Draw) (isBreakGlass : Bool) : TokenPair where
  accessToken := issueAccessToken now draw.access userId tenantId sessionId familyId
    (d.settings tenantId).accessTokenTtlSeconds isBreakGlass
  refreshToken := issueRefreshToken now draw.refresh userId tenantId sessionId familyId
    (d.settings tenantId).refreshTokenTtlSeconds isBreakGlass
  sessionId := sessionId

def createSessionAndIssueTokens (user : User) (draw : Draw) (isBreakGlass : Bool) : Store Time × TokenPair :=
  let sessionId := "sess-" ++ draw.session
  let familyId := "fam-" ++ draw.family
  (s.saveSession {
    id := sessionId, tenantId := user.tenantId, userId := user.id, tokenFamilyId := familyId, createdAt := now,
    lastActivityAt := now, expiresAt := now + (d.settings user.tenantId).sessionAbsoluteLifetimeSeconds,
    isActive := true, revokedAt := none, revocationReason := none },
    issuePair d now user.id user.tenantId sessionId familyId draw isBreakGlass)

def idleFor (session : Session Time) (seconds : ℕ) : Bool := session.lastActivityAt + seconds < now

def userAdmitted (payload : Payload) : Bool :=
  payload.bg || (s.users.lookup payload.uid).any (fun user => user.status ≠ .disabled)

/-- What `refresh_tokens` does once the use of the token is recorded. -/
def finishRefresh (payload : Payload) (draw : Draw) : Except Rejection TokenPair :=
  match s.sessions.lookup (payload.sid.getD "") with
  | none => .error .sessionNotActive
  | some session =>
    if !session.isActive then .error .sessionNotActive
    -- the fields assigned before either exception, and `last_activity_at` after them, are a copy's
    else if idleFor now session (d.settings payload.tid).sessionIdleTimeoutSeconds then .error .idleTimeout
    else if session.expiresAt < now then .error .absoluteLifetimeExceeded
    else if !s.userAdmitted payload then .error .userDisabled
    else .ok (issuePair d now payload.uid payload.tid (payload.sid.getD "") (payload.fid.getD "") draw payload.bg)

def refreshTokens (presented : Payload) (draw : Draw) : Store Time × Except Rejection TokenPair :=
  match s.verifyToken now presented with
  | .error rejection => (s, .error rejection)
  | .ok payload =>
    if payload.typ ≠ .refresh then (s, .error .notRefreshToken)
    else
      let (after, accepted) := s.recordRefreshTokenUse payload.jti (payload.fid.getD "")
      -- the session that the reuse invalidates is a copy as well
      if !accepted then (after, .error .reuseDetected)
      else (after, after.finishRefresh d now payload draw)

def revokeEach (sessionIds : List String) : Store Time :=
  sessionIds.foldl (fun store sid => store.revokeSessionTokens now sid) s

def terminateSession (sessionId : String) : Store Time :=
  match s.sessions.lookup sessionId with
  | none => s
  | some _ => s.revokeSessionTokens now sessionId

def revokeSession (sessionId : String) : Store Time × Bool :=
  match s.sessions.lookup sessionId with
  | none => (s, false)
  | some session => if session.isActive then (s.revokeSessionTokens now sessionId, true) else (s, false)

def revokeUserSessions (tenantId userId : String) : Store Time × ℕ :=
  let activeSessions := (s.sessionValues now).filter (fun x => x.tenantId = tenantId && x.userId = userId && x.isActive)
  (s.revokeEach now (activeSessions.map Session.id), activeSessions.length)

def listingLapsed : List (Session Time) :=
  (s.sessionValues now).filter
    (fun x => x.isActive && (decide (x.expiresAt ≤ now) || idleFor now x d.listingIdleTimeoutSeconds))

def listActiveSessions (tenantId userId : Option String) : Store Time × List (Session Time) :=
  let current := (s.sessionValues now).filter
    (fun x => x.isActive && !(decide (x.expiresAt ≤ now) || idleFor now x d.listingIdleTimeoutSeconds))
  (s.revokeEach now ((s.listingLapsed d now).map Session.id), current.filter (fun x =>
    (truthy tenantId).all (fun tenant => x.tenantId = tenant) && (truthy userId).all (fun user => x.userId = user)))

/-- `none` is the exception for an unknown user or the platform superuser. The status is set on a copy. -/
def disableUser (userId : String) : Option (Store Time) :=
  match s.users.lookup userId with
  | none => none
  | some user =>
    if d.isConsolidatedSuperuser user then none
    else
      let sessions := (s.sessionValues now).filter (fun x => x.userId = userId && x.isActive)
      some ((s.revokeEach now (sessions.map Session.id)).revokeUserTokens now userId)

end Store

inductive SessionCall
  | login (user : User) (draw : Draw) (isBreakGlass : Bool)
  | refresh (presented : Payload) (draw : Draw)
  | terminateSession (sessionId : String)
  | revokeSession (sessionId : String)
  | revokeUserSessions (tenantId userId : String)
  | listActiveSessions (tenantId userId : Option String)
  | disableUser (userId : String)
  | saveUser (user : User)

/-- What a run shows of a session: its opening, its successful refreshes, and where it was
found idle or otherwise past its end. -/
inductive Observation (Time : Type)
  | opened (sid : String) (moment : Time)
  | refreshed (sid : String) (moment : Time) (idleLimit : ℕ)
  | idle (sid : String) (moment : Time) (idleLimit : ℕ)
  | lapsed (sid : String)
  deriving DecidableEq

structure World (Time : Type) where
  store : Store Time
  issued : List Payload
  log : List (Observation Time)
  clock : Time

namespace World

variable [Semiring Time] [LinearOrder Time] [FloorSemiring Time]

variable (d : Deployment)

def start (users : Table String User) (clock : Time) : World Time :=
  ⟨{ (Store.empty : Store Time) with users := users },[],[],clock⟩

def observed (d : Deployment) (now : Time) (presented : Payload) : Except Rejection TokenPair → List (Observation Time)
  | .ok _ => [.refreshed (presented.sid.getD "") now (d.settings presented.tid).sessionIdleTimeoutSeconds]
  | .error .idleTimeout => [.idle (presented.sid.getD "") now (d.settings presented.tid).sessionIdleTimeoutSeconds]
  | .error .absoluteLifetimeExceeded => [.lapsed (presented.sid.getD "")]
  | .error .reuseDetected => [.lapsed (presented.sid.getD "")]
  | .error _ => []

def tokensOf : Except Rejection TokenPair → List Payload
  | .ok pair => [pair.accessToken, pair.refreshToken]
  | .error _ => []

/-- One call; a token that nobody issued carries no valid signature. -/
def step (w : World Time) : Time × SessionCall → World Time
  | (now, .login user draw bg) =>
    let (store, pair) := w.store.createSessionAndIssueTokens d now user draw bg
    ⟨store,w.issued ++ [pair.accessToken, pair.refreshToken],w.log ++ [.opened pair.sessionId now],now⟩
  | (now, .refresh presented draw) =>
    if presented ∈ w.issued then
      let (store, result) := w.store.refreshTokens d now presented draw
      ⟨store,w.issued ++ tokensOf result,w.log ++ observed d now presented result,now⟩
    else { w with clock := now }
  | (now, .terminateSession sid) => { w with store := w.store.terminateSession now sid, clock := now }
  | (now, .revokeSession sid) => { w with store := (w.store.revokeSession now sid).1, clock := now }
  | (now, .revokeUserSessions tenant user) => { w with store := (w.store.revokeUserSessions now tenant user).1, clock := now }
  | (now, .listActiveSessions tenant user) =>
    ⟨(w.store.listActiveSessions d now tenant user).1,w.issued,
      w.log ++ (w.store.listingLapsed d now).map (fun x => .lapsed x.id),now⟩
  | (now, .disableUser user) => { w with store := (w.store.disableUser d now user).getD w.store, clock := now }
  | (now, .saveUser user) => { w with store := w.store.saveUser user, clock := now }

end World

section Governance

variable [Semiring Time] [LinearOrder Time] [FloorSemiring Time]

variable (log : List (Observation Time)) (sid : String)

def FoundOver : Prop := .lapsed sid ∈ log ∨ ∃ moment limit, .idle sid moment limit ∈ log

def Observation.activity? : Observation Time → Option Time
  | .opened about moment => if about = sid then some moment else none
  | .refreshed about moment _ => if about = sid then some moment else none
  | _ => none

def lastActive : Option Time := (log.filterMap (Observation.activity? sid)).getLast?

def Justified (earlier : List (Observation Time)) : Observation Time → Prop
  | .refreshed sid moment limit => ¬FoundOver earlier sid ∧ ∀ last, lastActive earlier sid = some last → moment ≤ last + limit
  | .idle sid moment limit => ∀ last, lastActive earlier sid = some last → last + limit < moment
  | _ => True

structure SessionsGoverned (w : World Time) : Prop where
  inactive : ∀ sid, FoundOver w.log sid → ∃ row, w.store.sessions.lookup sid = some row ∧ row.isActive = false
  justified : Along (fun earlier o => earlier ++ [o]) Justified [] w.log

end Governance

section Condition

variable [Semiring Time] [LinearOrder Time] [FloorSemiring Time]

variable (d : Deployment)

/-- A token that verifies, on a session past a limit or in a family where it was used already. -/
def Spent (s : Store Time) (now : Time) (payload : Payload) : Prop :=
  s.verifyToken now payload = .ok payload ∧ payload.typ = .refresh ∧
    ((∃ family, s.families.lookup (payload.fid.getD "") = some family ∧
        (family.isCompromised = true ∨ payload.jti ∈ family.usedTokens)) ∨
      ∃ session, s.sessions.lookup (payload.sid.getD "") = some session ∧
        (session.lastActivityAt + (d.settings payload.tid).sessionIdleTimeoutSeconds < now ∨ session.expiresAt < now))

/-- No call of the step comes upon a session past its end. -/
def Lively (w : World Time) : Time × SessionCall → Prop
  | (now, .refresh presented _) => presented ∈ w.issued → ¬Spent d w.store now presented
  | (now, .listActiveSessions _ _) => ∀ session ∈ w.store.sessionValues now,
    now ≤ session.lastActivityAt + d.listingIdleTimeoutSeconds
  | _ => True

end Condition

section Frames

variable (d : Deployment) (s : Store Time) (now : Time)

@[simp] theorem revokeEach_sessions (sids : List String) : (s.revokeEach now sids).sessions = s.sessions := by
  induction sids generalizing s with
  | nil => rfl
  | cons sid sids ih => exact ih (s.revokeSessionTokens now sid)

theorem terminateSession_sessions (sid : String) : (s.terminateSession now sid).sessions = s.sessions := by
  unfold Store.terminateSession
  split <;> rfl

theorem revokeSession_sessions (sid : String) : (s.revokeSession now sid).1.sessions = s.sessions := by
  unfold Store.revokeSession
  split
  · rfl
  · split <;> rfl

theorem disableUser_sessions [LinearOrder Time] (user : String) : ((s.disableUser d now user).getD s).sessions = s.sessions := by
  unfold Store.disableUser
  split
  · rfl
  · split
    · rfl
    · exact revokeEach_sessions s now _

@[simp] theorem updateFamily_sessions (familyId : String) (change : TokenFamily → TokenFamily) :
    (s.updateFamily familyId change).sessions = s.sessions := by
  unfold Store.updateFamily
  split <;> rfl

@[simp] theorem recordRefreshTokenUse_sessions (tokenId familyId : String) :
    (s.recordRefreshTokenUse tokenId familyId).1.sessions = s.sessions := by
  unfold Store.recordRefreshTokenUse
  cases Store.decideUse tokenId (s.families.lookup familyId) with
  | insert =>
    simp only [Store.writeUse]
    split <;> rfl
  | refuse => rfl
  | compromise => exact updateFamily_sessions s _ _
  | update used => exact updateFamily_sessions s _ _

theorem verifyToken_ok [Semiring Time] [LinearOrder Time] {p q : Payload} (accepted : s.verifyToken now p = .ok q) : q = p := by
  unfold Store.verifyToken at accepted
  split_ifs at accepted
  cases accepted
  rfl

theorem refreshTokens_sessions [Semiring Time] [LinearOrder Time] [FloorSemiring Time] (presented : Payload) (draw : Draw) :
    (s.refreshTokens d now presented draw).1.sessions = s.sessions := by
  unfold Store.refreshTokens
  split
  · rfl
  · split
    · rfl
    · simp only
      split <;> exact recordRefreshTokenUse_sessions s _ _

end Frames

section Refresh

variable {d : Deployment} {s : Store Time} {now : Time} {presented : Payload} {draw : Draw}

theorem refreshTokens_reached [Semiring Time] [LinearOrder Time] [FloorSemiring Time]
    (verified : s.verifyToken now presented = .ok presented) (typ : presented.typ = .refresh) :
    (s.refreshTokens d now presented draw).2 =
      if (s.recordRefreshTokenUse presented.jti (presented.fid.getD "")).2 = true then
        (s.recordRefreshTokenUse presented.jti (presented.fid.getD "")).1.finishRefresh d now presented draw
      else .error .reuseDetected := by
  unfold Store.refreshTokens
  simp only [verified,typ,ne_eq,not_true_eq_false,if_false]
  cases (s.recordRefreshTokenUse presented.jti (presented.fid.getD "")).2 <;> simp

theorem refreshTokens_refused [Semiring Time] [LinearOrder Time] [FloorSemiring Time]
    {rejection : Rejection} (refused : s.verifyToken now presented = .error rejection) :
    (s.refreshTokens d now presented draw).2 = .error rejection := by
  unfold Store.refreshTokens
  rw [refused]

theorem refreshTokens_mistyped [Semiring Time] [LinearOrder Time] [FloorSemiring Time]
    (verified : s.verifyToken now presented = .ok presented) (typ : presented.typ ≠ .refresh) :
    (s.refreshTokens d now presented draw).2 = .error .notRefreshToken := by
  unfold Store.refreshTokens
  simp only [verified,ne_eq,typ,not_false_eq_true,if_true]

theorem verifyToken_rejection [Semiring Time] [LinearOrder Time]
    {rejection : Rejection} (refused : s.verifyToken now presented = .error rejection) :
    rejection = .expired ∨ rejection = .notYetValid ∨ rejection = .revoked := by
  unfold Store.verifyToken at refused
  split_ifs at refused <;> cases refused <;> simp

theorem use_refused : (s.recordRefreshTokenUse presented.jti (presented.fid.getD "")).2 = false ↔
    ∃ family, s.families.lookup (presented.fid.getD "") = some family ∧
      (family.isCompromised = true ∨ presented.jti ∈ family.usedTokens) := by
  rw [← Bool.not_eq_true,recordRefreshTokenUse_accepted]
  push Not
  constructor
  · rintro ⟨family,found,broken⟩
    refine ⟨family,found,?_⟩
    cases flagged : family.isCompromised with
    | true => exact Or.inl rfl
    | false => exact Or.inr (broken flagged)
  · rintro ⟨family,found,broken⟩
    refine ⟨family,found,?_⟩
    intro unflagged
    rcases broken with flagged | used
    · rw [unflagged] at flagged
      cases flagged
    · exact used

/-- The three ways in which a refresh comes upon a session past its end. -/
def PastEnd (result : Except Rejection TokenPair) : Prop :=
  result = .error .reuseDetected ∨ result = .error .idleTimeout ∨ result = .error .absoluteLifetimeExceeded

theorem finishRefresh_pastEnd [Semiring Time] [LinearOrder Time] [FloorSemiring Time]
    {row : Session Time} (found : s.sessions.lookup (presented.sid.getD "") = some row)
    (active : row.isActive = true) :
    PastEnd (s.finishRefresh d now presented draw) ↔
      row.lastActivityAt + (d.settings presented.tid).sessionIdleTimeoutSeconds < now ∨ row.expiresAt < now := by
  unfold Store.finishRefresh
  simp only [found,active,Bool.not_true,Bool.false_eq_true,if_false,Store.idleFor,decide_eq_true_eq]
  split_ifs with idle absolute admitted <;> simp_all [PastEnd]

theorem refreshTokens_pastEnd [Semiring Time] [LinearOrder Time] [FloorSemiring Time]
    {row : Session Time} (found : s.sessions.lookup (presented.sid.getD "") = some row)
    (active : row.isActive = true) :
    PastEnd (s.refreshTokens d now presented draw).2 ↔ Spent d s now presented := by
  cases verified : s.verifyToken now presented with
  | error rejection =>
    rw [refreshTokens_refused verified]
    rcases verifyToken_rejection verified with rfl | rfl | rfl <;> simp [PastEnd,Spent,verified]
  | ok payload =>
    have same := verifyToken_ok s now verified
    subst same
    by_cases typ : payload.typ = .refresh
    · rw [refreshTokens_reached verified typ]
      simp only [Spent,verified,typ,true_and]
      split_ifs with accepted
      · have unused : ¬∃ family, s.families.lookup (payload.fid.getD "") = some family ∧
            (family.isCompromised = true ∨ payload.jti ∈ family.usedTokens) := by
          rw [← use_refused,accepted]
          decide
        have kept : (s.recordRefreshTokenUse payload.jti (payload.fid.getD "")).1.sessions.lookup (payload.sid.getD "") =
            some row := by
          rw [recordRefreshTokenUse_sessions,found]
        rw [finishRefresh_pastEnd kept active]
        simp [unused,found]
      · have used := use_refused.mp (Bool.not_eq_true _ ▸ accepted)
        exact ⟨fun _ => Or.inl used,fun _ => Or.inl rfl⟩
    · rw [refreshTokens_mistyped verified typ]
      simp [PastEnd,Spent,typ]

theorem refreshTokens_ok [Semiring Time] [LinearOrder Time] [FloorSemiring Time]
    {pair : TokenPair} (success : (s.refreshTokens d now presented draw).2 = .ok pair) :
    (∃ row, s.sessions.lookup (presented.sid.getD "") = some row ∧
      now ≤ row.lastActivityAt + (d.settings presented.tid).sessionIdleTimeoutSeconds) ∧
    pair.accessToken.sid = some (presented.sid.getD "") ∧ pair.refreshToken.sid = some (presented.sid.getD "") := by
  cases verified : s.verifyToken now presented with
  | error rejection =>
    rw [refreshTokens_refused verified] at success
    cases success
  | ok payload =>
    have same := verifyToken_ok s now verified
    subst same
    by_cases typ : payload.typ = .refresh
    · rw [refreshTokens_reached verified typ] at success
      split_ifs at success
      unfold Store.finishRefresh at success
      rw [recordRefreshTokenUse_sessions] at success
      split at success
      · cases success
      · rename_i row found
        split_ifs at success with inactive idle absolute refused
        cases success
        exact ⟨⟨row,found,by simpa [Store.idleFor] using idle⟩,rfl,rfl⟩
    · rw [refreshTokens_mistyped verified typ] at success
      cases success

end Refresh

section Log

variable {log : List (Observation Time)} {sid : String}

theorem foundOver_snoc (o : Observation Time) : FoundOver (log ++ [o]) sid ↔ FoundOver log sid ∨ FoundOver [o] sid := by
  simp only [FoundOver,List.mem_append,List.mem_singleton,exists_or]
  exact or_or_or_comm

theorem lastActive_snoc (o : Observation Time) :
    lastActive (log ++ [o]) sid = (o.activity? sid).or (lastActive log sid) := by
  unfold lastActive
  rw [List.filterMap_append]
  cases found : o.activity? sid with
  | none => simp [found]
  | some moment => simp [found]

theorem justified_snoc [Semiring Time] [LinearOrder Time] (o : Observation Time) :
    Along (fun earlier o => earlier ++ [o]) Justified [] (log ++ [o]) ↔
      Along (fun earlier o => earlier ++ [o]) Justified [] log ∧ Justified log o := by
  have whole : ∀ first : List (Observation Time), run (fun earlier o => earlier ++ [o]) first log = first ++ log := by
    induction log with
    | nil => simp
    | cons head log ih =>
      intro first
      rw [run_cons,ih]
      simp
  rw [along_append,whole]
  simp [Along]

end Log

section Governed

variable {d : Deployment} {w : World Time}

/-- What the code keeps true whatever is called: no stored session is ever inactive, and its
activity dates from its sign-in. -/
structure Kept [LinearOrder Time] (w : World Time) : Prop where
  active : ∀ sid row, w.store.sessions.lookup sid = some row → row.isActive = true
  named : ∀ sid row, w.store.sessions.lookup sid = some row → row.id = sid
  recent : ∀ sid row, w.store.sessions.lookup sid = some row →
    ∃ last, lastActive w.log sid = some last ∧ row.lastActivityAt ≤ last
  past : ∀ sid last, lastActive w.log sid = some last → last ≤ w.clock
  backed : ∀ payload ∈ w.issued, (w.store.sessions.lookup (payload.sid.getD "")).isSome = true

theorem kept_start [LinearOrder Time] (users : Table String User) (clock : Time) : Kept (World.start users clock) := by
  refine ⟨?_,?_,?_,?_,?_⟩
  · intro sid row found
    cases found
  · intro sid row found
    cases found
  · intro sid row found
    cases found
  · intro sid last found
    cases found
  · intro payload member
    cases member

private theorem kept_quiet [LinearOrder Time] (kept : Kept w) {after : World Time} (sessions : after.store.sessions = w.store.sessions)
    (issued : after.issued = w.issued) (log : ∀ sid, lastActive after.log sid = lastActive w.log sid)
    (clock : w.clock ≤ after.clock) : Kept after := by
  refine ⟨?_,?_,?_,?_,?_⟩
  · rw [sessions]
    exact kept.active
  · rw [sessions]
    exact kept.named
  · simp only [sessions,log]
    exact kept.recent
  · intro sid last found
    rw [log] at found
    exact (kept.past sid last found).trans clock
  · rw [sessions,issued]
    exact kept.backed

theorem lastActive_lapsed (log : List (Observation Time)) (sids : List String) (sid : String) :
    lastActive (log ++ sids.map Observation.lapsed) sid = lastActive log sid := by
  unfold lastActive
  rw [List.filterMap_append]
  have quiet : (sids.map (Observation.lapsed : String → Observation Time)).filterMap (Observation.activity? sid) = [] := by
    simp [List.filterMap_eq_nil_iff,Observation.activity?]
  rw [quiet,List.append_nil]

def savedOver (session : Session Time) : Option (Session Time) → Session Time
  | none => session
  | some stored => { stored with
      lastActivityAt := session.lastActivityAt, isActive := session.isActive, revokedAt := session.revokedAt,
      revocationReason := session.revocationReason }

theorem saveSession_lookup (s : Store Time) (session : Session Time) (sid : String) :
    (s.saveSession session).sessions.lookup sid =
      if sid = session.id then some (savedOver session (s.sessions.lookup sid)) else s.sessions.lookup sid := by
  unfold Store.saveSession
  split
  · rename_i same
    subst same
    rw [Table.lookup_upsert_self]
    cases s.sessions.lookup session.id <;> rfl
  · rename_i distinct
    exact Table.lookup_upsert_ne _ _ _ distinct

theorem lastActive_opened (log : List (Observation Time)) (opened sid : String) (moment : Time) :
    lastActive (log ++ [.opened opened moment]) sid = if opened = sid then some moment else lastActive log sid := by
  rw [lastActive_snoc]
  simp only [Observation.activity?]
  split <;> simp

theorem lastActive_refreshed (log : List (Observation Time)) (refreshed sid : String) (moment : Time) (limit : ℕ) :
    lastActive (log ++ [.refreshed refreshed moment limit]) sid =
      if refreshed = sid then some moment else lastActive log sid := by
  rw [lastActive_snoc]
  simp only [Observation.activity?]
  split <;> simp

theorem kept_login [Semiring Time] [LinearOrder Time] [FloorSemiring Time]
    (kept : Kept w) {now : Time} (later : w.clock ≤ now) (user : User) (draw : Draw) (bg : Bool) :
    Kept (w.step d (now, .login user draw bg)) := by
  have stored : ∀ sid row, (w.step d (now, .login user draw bg)).store.sessions.lookup sid = some row →
      (sid = "sess-" ++ draw.session ∧ row.isActive = true ∧ row.id = sid ∧ row.lastActivityAt = now) ∨
        sid ≠ "sess-" ++ draw.session ∧ w.store.sessions.lookup sid = some row := by
    intro sid row found
    simp only [World.step,Store.createSessionAndIssueTokens,saveSession_lookup] at found
    split at found
    · rename_i same
      refine Or.inl ⟨same,?_⟩
      cases found
      cases previous : w.store.sessions.lookup sid with
      | none => exact ⟨rfl,same.symm,rfl⟩
      | some row => exact ⟨rfl,kept.named sid row previous,rfl⟩
    · rename_i distinct
      exact Or.inr ⟨distinct,found⟩
  have activity : ∀ sid, lastActive (w.step d (now, .login user draw bg)).log sid =
      if "sess-" ++ draw.session = sid then some now else lastActive w.log sid :=
    fun sid => lastActive_opened w.log _ sid now
  refine ⟨?_,?_,?_,?_,?_⟩
  · intro sid row found
    rcases stored sid row found with ⟨_,active,_⟩ | ⟨_,earlier⟩
    · exact active
    · exact kept.active sid row earlier
  · intro sid row found
    rcases stored sid row found with ⟨_,_,named,_⟩ | ⟨_,earlier⟩
    · exact named
    · exact kept.named sid row earlier
  · intro sid row found
    rw [activity]
    rcases stored sid row found with ⟨same,_,_,moment⟩ | ⟨distinct,earlier⟩
    · exact ⟨now,if_pos same.symm,moment.le⟩
    · rw [if_neg (Ne.symm distinct)]
      exact kept.recent sid row earlier
  · intro sid last found
    rw [activity] at found
    split at found
    · cases found
      exact le_rfl
    · exact (kept.past sid last found).trans later
  · intro payload member
    have known : ∀ sid, sid = "sess-" ++ draw.session ∨ (w.store.sessions.lookup sid).isSome = true →
        ((w.step d (now, .login user draw bg)).store.sessions.lookup sid).isSome = true := by
      intro sid either
      simp only [World.step,Store.createSessionAndIssueTokens,saveSession_lookup]
      split
      · rfl
      · rename_i distinct
        exact either.resolve_left distinct
    apply known
    simp only [World.step,Store.createSessionAndIssueTokens,List.mem_append,List.mem_cons,List.not_mem_nil,or_false] at member
    rcases member with earlier | rfl | rfl
    · exact Or.inr (kept.backed payload earlier)
    · exact Or.inl rfl
    · exact Or.inl rfl

theorem step_refresh_issued [Semiring Time] [LinearOrder Time] [FloorSemiring Time]
    {now : Time} {presented : Payload} {draw : Draw} (issued : presented ∈ w.issued) :
    w.step d (now, .refresh presented draw) = ⟨(w.store.refreshTokens d now presented draw).1,
      w.issued ++ World.tokensOf (w.store.refreshTokens d now presented draw).2,
      w.log ++ World.observed d now presented (w.store.refreshTokens d now presented draw).2,now⟩ := by
  simp only [World.step,if_pos issued]

theorem kept_refresh [Semiring Time] [LinearOrder Time] [FloorSemiring Time]
    (kept : Kept w) {now : Time} (later : w.clock ≤ now) (presented : Payload) (draw : Draw) :
    Kept (w.step d (now, .refresh presented draw)) := by
  by_cases issued : presented ∈ w.issued
  · rw [step_refresh_issued issued]
    have sessions := refreshTokens_sessions d w.store now presented draw
    cases result : (w.store.refreshTokens d now presented draw).2 with
    | error rejection =>
      refine kept_quiet kept sessions (by simp [World.tokensOf]) ?_ later
      intro sid
      cases rejection with
      | reuseDetected => exact lastActive_lapsed w.log [_] sid
      | absoluteLifetimeExceeded => exact lastActive_lapsed w.log [_] sid
      | idleTimeout => exact (lastActive_snoc _).trans rfl
      | _ => simp [World.observed]
    | ok pair =>
      obtain ⟨⟨row,found,_⟩,access,refresh⟩ := refreshTokens_ok result
      have activity : ∀ sid, lastActive (w.log ++ World.observed d now presented (.ok pair)) sid =
          if presented.sid.getD "" = sid then some now else lastActive w.log sid :=
        fun sid => lastActive_refreshed w.log _ sid now _
      refine ⟨?_,?_,?_,?_,?_⟩
      · rw [sessions]
        exact kept.active
      · rw [sessions]
        exact kept.named
      · simp only [sessions,activity]
        intro sid row found
        obtain ⟨last,active,since⟩ := kept.recent sid row found
        split
        · exact ⟨now,rfl,since.trans ((kept.past sid last active).trans later)⟩
        · exact ⟨last,active,since⟩
      · simp only [activity]
        intro sid last found
        split at found
        · cases found
          exact le_rfl
        · exact (kept.past sid last found).trans later
      · rw [sessions]
        intro payload member
        simp only [World.tokensOf,List.mem_append,List.mem_cons,List.not_mem_nil,or_false] at member
        rcases member with earlier | rfl | rfl
        · exact kept.backed payload earlier
        · rw [access,Option.getD_some,found]
          rfl
        · rw [refresh,Option.getD_some,found]
          rfl
  · simp only [World.step,if_neg issued]
    exact kept_quiet kept rfl rfl (fun _ => rfl) later

theorem kept_step [Semiring Time] [LinearOrder Time] [FloorSemiring Time]
    (kept : Kept w) (call : Time × SessionCall) (later : w.clock ≤ call.1) : Kept (w.step d call) := by
  obtain ⟨now,call⟩ := call
  cases call with
  | login user draw bg => exact kept_login kept later user draw bg
  | refresh presented draw => exact kept_refresh kept later presented draw
  | terminateSession sid => exact kept_quiet kept (terminateSession_sessions _ _ _) rfl (fun _ => rfl) later
  | revokeSession sid => exact kept_quiet kept (revokeSession_sessions _ _ _) rfl (fun _ => rfl) later
  | revokeUserSessions tenant user => exact kept_quiet kept (revokeEach_sessions _ _ _) rfl (fun _ => rfl) later
  | listActiveSessions tenant user =>
    refine kept_quiet kept (revokeEach_sessions _ _ _) rfl ?_ later
    intro sid
    have shape := lastActive_lapsed w.log ((w.store.listingLapsed d now).map Session.id) sid
    rwa [List.map_map] at shape
  | disableUser user => exact kept_quiet kept (disableUser_sessions d _ _ _) rfl (fun _ => rfl) later
  | saveUser user => exact kept_quiet kept rfl rfl (fun _ => rfl) later

theorem unfound [Semiring Time] [LinearOrder Time]
    (kept : Kept w) (governed : SessionsGoverned w) (sid : String) : ¬FoundOver w.log sid := by
  intro found
  obtain ⟨row,stored,inactive⟩ := governed.inactive sid found
  rw [kept.active sid row stored] at inactive
  cases inactive

private theorem governed_snoc [Semiring Time] [LinearOrder Time]
    {after : World Time} {o : Observation Time} (log : after.log = w.log ++ [o])
    (unfound : ∀ sid, ¬FoundOver w.log sid) (quiet : ∀ sid, ¬FoundOver [o] sid) (governed : SessionsGoverned w) :
    SessionsGoverned after ↔ Justified w.log o := by
  have none : ∀ sid, ¬FoundOver after.log sid := by
    intro sid
    rw [log,foundOver_snoc]
    rintro (earlier | here)
    · exact unfound sid earlier
    · exact quiet sid here
  constructor
  · rintro ⟨_,justified⟩
    rw [log,justified_snoc] at justified
    exact justified.2
  · intro justified
    refine ⟨fun sid found => absurd found (none sid),?_⟩
    rw [log,justified_snoc]
    exact ⟨governed.justified,justified⟩

private theorem governed_same [Semiring Time] [LinearOrder Time]
    {after : World Time} (unfound : ∀ sid, ¬FoundOver w.log sid) (governed : SessionsGoverned w)
    (log : after.log = w.log) : SessionsGoverned after := by
  refine ⟨?_,?_⟩
  · rw [log]
    exact fun sid found => absurd found (unfound sid)
  · rw [log]
    exact governed.justified

private theorem not_governed [Semiring Time] [LinearOrder Time]
    {after : World Time} (kept : Kept after) (sid : String) (found : FoundOver after.log sid) :
    ¬SessionsGoverned after := fun governed => unfound kept governed sid found

theorem observed_pastEnd {now : Time} {presented : Payload} {result : Except Rejection TokenPair} (past : PastEnd result)
    (log : List (Observation Time)) : FoundOver (log ++ World.observed d now presented result) (presented.sid.getD "") := by
  rcases past with rfl | rfl | rfl
  · exact Or.inl (by simp [World.observed])
  · exact Or.inr ⟨now,(d.settings presented.tid).sessionIdleTimeoutSeconds,by simp [World.observed]⟩
  · exact Or.inl (by simp [World.observed])

theorem governed_refresh [Semiring Time] [LinearOrder Time] [FloorSemiring Time] [IsStrictOrderedRing Time]
    (kept : Kept w) (governed : SessionsGoverned w) {now : Time} (later : w.clock ≤ now)
    (presented : Payload) (draw : Draw) :
    SessionsGoverned (w.step d (now, .refresh presented draw)) ↔ Lively d w (now, .refresh presented draw) := by
  have clean := unfound kept governed
  by_cases issued : presented ∈ w.issued
  · obtain ⟨row,found⟩ := Option.isSome_iff_exists.mp (kept.backed presented issued)
    have past : PastEnd (w.store.refreshTokens d now presented draw).2 ↔ Spent d w.store now presented :=
      refreshTokens_pastEnd found (kept.active _ row found)
    have kept' := kept_refresh (d := d) kept later presented draw
    rw [step_refresh_issued issued] at kept' ⊢
    simp only [Lively,issued,true_imp_iff,← past]
    cases result : (w.store.refreshTokens d now presented draw).2 with
    | ok pair =>
      obtain ⟨⟨row,found,within⟩,_⟩ := refreshTokens_ok result
      obtain ⟨last,active,since⟩ := kept.recent _ row found
      have alive : ¬PastEnd (.ok pair) := by simp [PastEnd]
      simp only [alive,not_false_eq_true,iff_true]
      apply (governed_snoc rfl clean (by simp [FoundOver]) governed).mpr
      refine ⟨clean _,?_⟩
      intro last' active'
      rw [active] at active'
      cases active'
      exact within.trans (add_le_add_left since _)
    | error rejection =>
      by_cases ended : PastEnd (.error rejection)
      · rw [result] at kept'
        simp only [ended,not_true_eq_false,iff_false]
        exact not_governed kept' _ (observed_pastEnd ended w.log)
      · simp only [ended,not_false_eq_true,iff_true]
        apply governed_same clean governed
        cases rejection <;> simp_all [PastEnd,World.observed]
  · have unsigned : w.step d (now, .refresh presented draw) = { w with clock := now } := by
      simp only [World.step,if_neg issued]
    simp only [unsigned,Lively,issued,false_imp_iff,iff_true]
    apply governed_same clean governed
    rfl

theorem listingLapsed_nil_iff [Semiring Time] [LinearOrder Time] {s : Store Time} {now : Time} :
    s.listingLapsed d now = [] ↔ ∀ session ∈ s.sessionValues now, now ≤ session.lastActivityAt + d.listingIdleTimeoutSeconds := by
  have current : ∀ session ∈ s.sessionValues now, session.isActive = true ∧ now < session.expiresAt := by
    intro session member
    obtain ⟨⟨sid,row⟩,selected,rfl⟩ := List.mem_map.mp member
    have kept := (Table.mem_selectWhere.mp selected).2
    simp only [Bool.and_eq_true,decide_eq_true_eq] at kept
    exact ⟨kept.1.2,kept.2⟩
  simp only [Store.listingLapsed,List.filter_eq_nil_iff,Bool.and_eq_true,Bool.or_eq_true,decide_eq_true_eq,Store.idleFor]
  constructor
  · intro none session member
    by_contra idle
    exact none session member ⟨(current session member).1,Or.inr (not_le.mp idle)⟩
  · rintro within session member ⟨_,expired | idle⟩
    · exact absurd expired (not_le.mpr (current session member).2)
    · exact absurd idle (not_lt.mpr (within session member))

theorem governed_listing [Semiring Time] [LinearOrder Time] [FloorSemiring Time]
    (kept : Kept w) (governed : SessionsGoverned w) {now : Time} (later : w.clock ≤ now)
    (tenant user : Option String) :
    SessionsGoverned (w.step d (now, .listActiveSessions tenant user)) ↔ Lively d w (now, .listActiveSessions tenant user) := by
  have kept' := kept_step (d := d) kept (now, .listActiveSessions tenant user) later
  rw [Lively,← listingLapsed_nil_iff (d := d)]
  simp only [World.step] at kept' ⊢
  cases lapsed : w.store.listingLapsed d now with
  | nil =>
    simp only [iff_true]
    exact governed_same (unfound kept governed) governed (by simp)
  | cons session rest =>
    rw [lapsed] at kept'
    simp only [reduceCtorEq,iff_false]
    exact not_governed kept' session.id (Or.inl (by simp))

theorem governed_step [Semiring Time] [LinearOrder Time] [FloorSemiring Time] [IsStrictOrderedRing Time]
    (kept : Kept w) (governed : SessionsGoverned w) (call : Time × SessionCall) (later : w.clock ≤ call.1) :
    SessionsGoverned (w.step d call) ↔ Lively d w call := by
  have clean := unfound kept governed
  obtain ⟨now,call⟩ := call
  cases call with
  | login user draw bg =>
    simp only [Lively,iff_true]
    exact (governed_snoc (o := .opened _ now) rfl clean (by simp [FoundOver]) governed).mpr trivial
  | refresh presented draw => exact governed_refresh kept governed later presented draw
  | listActiveSessions tenant user => exact governed_listing kept governed later tenant user
  | _ =>
    simp only [Lively,iff_true]
    apply governed_same clean governed
    rfl

theorem governed_start [Semiring Time] [LinearOrder Time]
    (users : Table String User) (clock : Time) : SessionsGoverned (World.start users clock) := by
  refine ⟨?_,trivial⟩
  rintro sid (found | ⟨moment,limit,found⟩)
  · cases found
  · cases found

/-- Termination persists and the idle timeout slides, in every state of a run, exactly when
no call of it comes upon a session past its end. -/
theorem sessions_governed_iff [Semiring Time] [LinearOrder Time] [FloorSemiring Time] [IsStrictOrderedRing Time]
    (d : Deployment) (users : Table String User) (clock : Time) (calls : List (Time × SessionCall))
    (ordered : Along (World.step d) (fun w call => w.clock ≤ call.1) (World.start users clock) calls) :
    (∀ done, done <+: calls → SessionsGoverned (run (World.step d) (World.start users clock) done)) ↔
      Along (World.step d) (Lively d) (World.start users clock) calls := by
  apply property_throughout_iff Kept _ _ (kept_start users clock) (governed_start users clock) ordered
  · intro w call kept governed later
    exact governed_step kept governed call later
  · intro w call kept later
    exact kept_step kept call later

end Governed

section Visit

def tenSeconds : Deployment := ⟨fun _ => ⟨10,100,900,86400⟩,fun _ => false,1800⟩

def visitors : Table String User := (∅ : Table String User).insert "usr-ada" ⟨"usr-ada","global",.active⟩

def visit : List (ℚ≥0 × SessionCall) :=
  [(1, .login ⟨"usr-ada","global",.active⟩ ⟨"a","a","a1","r1"⟩ false),
    (9, .refresh (issueRefreshToken (1 : ℚ≥0) "r1" "usr-ada" "global" "sess-a" "fam-a" 86400 false) ⟨"","","a2","r2"⟩),
    (17, .refresh (issueRefreshToken (9 : ℚ≥0) "r2" "usr-ada" "global" "sess-a" "fam-a" 86400 false) ⟨"","","a3","r3"⟩)]

theorem visit_ordered : Along (World.step tenSeconds) (fun w call => w.clock ≤ call.1) (World.start visitors 0) visit := by
  refine ⟨by decide +kernel,by decide +kernel,by decide +kernel,trivial⟩

theorem visit_forgotten : ¬SessionsGoverned (run (World.step tenSeconds) (World.start visitors 0) visit) := by
  intro governed
  have idle : Observation.idle "sess-a" 17 10 ∈ (run (World.step tenSeconds) (World.start visitors 0) visit).log := by
    decide +kernel
  have active : ((run (World.step tenSeconds) (World.start visitors 0) visit).store.sessions.lookup "sess-a").map
      Session.isActive = some true := by decide +kernel
  obtain ⟨row,found,inactive⟩ := governed.inactive "sess-a" (Or.inr ⟨17,10,idle⟩)
  rw [found,Option.map_some,inactive] at active
  cases active

theorem termination_not_persistent : ¬∀ (d : Deployment) (users : Table String User) (clock : ℚ≥0) (calls : List (ℚ≥0 × SessionCall)),
    Along (World.step d) (fun w call => w.clock ≤ call.1) (World.start users clock) calls →
    ∀ done, done <+: calls → SessionsGoverned (run (World.step d) (World.start users clock) done) :=
  fun always => visit_forgotten (always tenSeconds visitors 0 visit visit_ordered visit (List.prefix_refl visit))

theorem visit_not_lively : ¬Along (World.step tenSeconds) (Lively tenSeconds) (World.start visitors 0) visit := by
  intro lively
  exact visit_forgotten ((sessions_governed_iff tenSeconds visitors 0 visit visit_ordered).mpr lively visit (List.prefix_refl visit))

end Visit
end CloudLens.Identity
