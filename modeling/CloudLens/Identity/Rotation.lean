import CloudLens.Identity.Sessions

/-! Clients that refresh their tokens side by side over one store. A call verifies its token,
looks up the revocations, reads the row of the token's family, writes the row back and issues
the new pair; nothing orders the steps of different calls. -/
namespace CloudLens.Identity
open Library Library.Runs

/-- How far a client's call has come. -/
inductive Phase
  | idle
  | verified (payload : Payload)
  | cleared (payload : Payload)
  | holding (payload : Payload) (row : Option TokenFamily)
  | recorded (payload : Payload)
  deriving DecidableEq

def Phase.payload? : Phase → Option Payload
  | idle => none
  | verified payload => some payload
  | cleared payload => some payload
  | holding payload _ => some payload
  | recorded payload => some payload

/-- The store and the calls under way, with the presentations begun, ended and turned away by
verification, the uses recorded, and the tokens that were rotated. -/
structure Traffic (Time Client : Type) where
  store : Store Time
  issued : List Payload
  phase : Client → Phase
  begun : List Payload
  ended : List Payload
  turnedAway : List Payload
  recorded : List Payload
  rotations : List Payload

inductive TrafficStep (Time Client : Type)
  | login (user : User) (draw : Draw) (isBreakGlass : Bool)
  | revokeToken (jti : String) (expiresAt : Time)
  | revokeSessionTokens (sessionId : String)
  | revokeUserTokens (userId : String)
  | verify (client : Client) (presented : Payload)
  | lookUp (client : Client)
  | readFamily (client : Client)
  | writeFamily (client : Client)
  | issue (client : Client) (draw : Draw)

variable {Time Client : Type}

section Verification

variable [Semiring Time] [LinearOrder Time]

def claimsRejection (now : Time) (payload : Payload) : Option Rejection :=
  if (payload.exp : Time) < now then some .expired
  else if payload.nbf.any (fun nbf : ℕ => now < (nbf : Time)) then some .notYetValid
  else none

def revokedNow (s : Store Time) (now : Time) (payload : Payload) : Bool :=
  s.isTokenRevoked now payload.jti (some payload.uid) payload.sid (Store.issuedAt payload) payload.fid

theorem verifyToken_eq (s : Store Time) (now : Time) (payload : Payload) :
    s.verifyToken now payload = match claimsRejection now payload with
      | some rejection => .error rejection
      | none => if revokedNow s now payload then .error .revoked else .ok payload := by
  unfold Store.verifyToken claimsRejection revokedNow
  split_ifs <;> rfl

end Verification

namespace Traffic

variable [Semiring Time] [LinearOrder Time] [FloorSemiring Time] [DecidableEq Client]

def start (users : Table String User) : Traffic Time Client :=
  ⟨{ (Store.empty : Store Time) with users := users },[],fun _ => .idle,[],[],[],[],[]⟩

variable (w : Traffic Time Client)

def enter (client : Client) (phase : Phase) : Traffic Time Client :=
  { w with phase := Function.update w.phase client phase }

def finish (client : Client) (payload : Payload) : Traffic Time Client :=
  { w with phase := Function.update w.phase client .idle, ended := w.ended ++ [payload] }

def turnAway (client : Client) (payload : Payload) : Traffic Time Client :=
  { w.finish client payload with turnedAway := w.turnedAway ++ [payload] }

def begin (payload : Payload) : Traffic Time Client := { w with begun := w.begun ++ [payload] }

def verify (now : Time) (client : Client) (presented : Payload) : Traffic Time Client :=
  match w.phase client with
  | .idle =>
    if presented ∈ w.issued then
      match claimsRejection now presented with
      | some _ => (w.begin presented).turnAway client presented
      | none => (w.begin presented).enter client (.verified presented)
    else w
  | _ => w

def lookUp (now : Time) (client : Client) : Traffic Time Client :=
  match w.phase client with
  | .verified payload =>
    if revokedNow w.store now payload then w.turnAway client payload
    else if payload.typ ≠ .refresh then w.finish client payload
    else w.enter client (.cleared payload)
  | _ => w

def readFamily (client : Client) : Traffic Time Client :=
  match w.phase client with
  | .cleared payload => w.enter client (.holding payload (w.store.families.lookup (payload.fid.getD "")))
  | _ => w

def writeFamily (client : Client) : Traffic Time Client :=
  match w.phase client with
  | .holding payload row =>
    match w.store.writeUse payload.jti (payload.fid.getD "") (Store.decideUse payload.jti row) with
    | none => w.finish client payload
    | some (store, false) => { w with store := store }.finish client payload
    | some (store, true) => { w with store := store, recorded := w.recorded ++ [payload] }.enter client (.recorded payload)
  | _ => w

def issue (d : Deployment) (now : Time) (client : Client) (draw : Draw) : Traffic Time Client :=
  match w.phase client with
  | .recorded payload =>
    match w.store.finishRefresh d now payload draw with
    | .error _ => w.finish client payload
    | .ok pair => { w with
        issued := w.issued ++ [pair.accessToken, pair.refreshToken],
        rotations := w.rotations ++ [payload] }.finish client payload
  | _ => w

def step (d : Deployment) (w : Traffic Time Client) : Time × TrafficStep Time Client → Traffic Time Client
  | (now, .login user draw bg) =>
    let (store, pair) := w.store.createSessionAndIssueTokens d now user draw bg
    { w with store := store, issued := w.issued ++ [pair.accessToken, pair.refreshToken] }
  | (now, .revokeToken jti expiresAt) => { w with store := w.store.revokeToken now jti expiresAt }
  | (now, .revokeSessionTokens sid) => { w with store := w.store.revokeSessionTokens now sid }
  | (now, .revokeUserTokens uid) => { w with store := w.store.revokeUserTokens now uid }
  | (now, .verify client presented) => w.verify now client presented
  | (now, .lookUp client) => w.lookUp now client
  | (_, .readFamily client) => w.readFamily client
  | (_, .writeFamily client) => w.writeFamily client
  | (now, .issue client draw) => w.issue d now client draw

end Traffic

section Alone

variable {w : Traffic Time Client} {c : Client} {now : Time} {p : Payload}

theorem writeUse_read (s : Store Time) (tokenId familyId : String) :
    s.writeUse tokenId familyId (Store.decideUse tokenId (s.families.lookup familyId)) =
      some (s.recordRefreshTokenUse tokenId familyId) := by
  unfold Store.recordRefreshTokenUse
  cases found : s.families.lookup familyId with
  | none => simp [Store.decideUse,Store.writeUse,found]
  | some family =>
    simp only [Store.decideUse]
    split_ifs <;> rfl

def laterSteps (now : Time) (c : Client) (draw : Draw) : List (Time × TrafficStep Time Client) :=
  [(now, .lookUp c), (now, .readFamily c), (now, .writeFamily c), (now, .issue c draw)]

theorem laterSteps_idle [Semiring Time] [LinearOrder Time] [FloorSemiring Time] [DecidableEq Client]
    (d : Deployment) (draw : Draw) (idle : w.phase c = .idle) :
    run (Traffic.step d) w (laterSteps now c draw) = w := by
  simp [laterSteps,Traffic.step,Traffic.lookUp,Traffic.readFamily,Traffic.writeFamily,Traffic.issue,idle]

/-- A call that no other one interrupts is the service's `refresh_tokens`. -/
theorem alone_refreshTokens [Semiring Time] [LinearOrder Time] [FloorSemiring Time] [DecidableEq Client]
    (d : Deployment) (draw : Draw) (free : w.phase c = .idle) (issued : p ∈ w.issued) :
    (run (Traffic.step d) w ((now, .verify c p) :: laterSteps now c draw)).store = (w.store.refreshTokens d now p draw).1 ∧
      (run (Traffic.step d) w ((now, .verify c p) :: laterSteps now c draw)).issued =
        w.issued ++ World.tokensOf (w.store.refreshTokens d now p draw).2 := by
  have first : w.step d (now, .verify c p) = w.verify now c p := rfl
  rw [run_cons,first]
  unfold Traffic.verify Store.refreshTokens
  simp only [free,issued,if_true,verifyToken_eq]
  cases claims : claimsRejection now p with
  | some rejection =>
    rw [laterSteps_idle d draw (by simp [Traffic.turnAway,Traffic.finish])]
    simp [Traffic.turnAway,Traffic.finish,Traffic.begin,World.tokensOf]
  | none =>
    simp only
    cases revoked : revokedNow w.store now p with
    | true =>
      simp [laterSteps,Traffic.step,Traffic.lookUp,Traffic.readFamily,Traffic.writeFamily,Traffic.issue,Traffic.turnAway,
        Traffic.finish,Traffic.begin,Traffic.enter,World.tokensOf,revoked]
    | false =>
      by_cases typ : p.typ = .refresh
      · have held : (run (Traffic.step d) ((w.begin p).enter c (.verified p)) [(now, .lookUp c), (now, .readFamily c)]) =
            (w.begin p).enter c (.holding p (w.store.families.lookup (p.fid.getD ""))) := by
          simp [Traffic.step,Traffic.lookUp,Traffic.readFamily,Traffic.enter,Traffic.begin,revoked,typ]
        have split : laterSteps now c draw = [(now, .lookUp c), (now, .readFamily c)] ++ [(now, .writeFamily c), (now, .issue c draw)] := rfl
        rw [split,run_append,held]
        simp only [run_cons,run_nil,Traffic.step,Traffic.writeFamily,Traffic.enter,Traffic.begin,Function.update_self,
          writeUse_read]
        cases use : w.store.recordRefreshTokenUse p.jti (p.fid.getD "") with
        | mk after accepted =>
          cases accepted with
          | false => simp [Traffic.finish,Traffic.issue,World.tokensOf,typ,use]
          | true =>
            simp only [Traffic.issue,Function.update_self]
            cases finished : after.finishRefresh d now p draw <;> simp [Traffic.finish,World.tokensOf,typ,use,finished]
      · simp [laterSteps,Traffic.step,Traffic.lookUp,Traffic.readFamily,Traffic.writeFamily,Traffic.issue,
          Traffic.finish,Traffic.begin,Traffic.enter,World.tokensOf,revoked,typ]

theorem alone_refreshTokens_first :
    let entered := (Traffic.start visitors : Traffic ℚ≥0 Bool).step tenSeconds (1, .login ⟨"usr-ada","global",.active⟩ ⟨"a","a","a1","r1"⟩ false)
    let first := issueRefreshToken (1 : ℚ≥0) "r1" "usr-ada" "global" "sess-a" "fam-a" 86400 false
    (run (Traffic.step tenSeconds) entered ((5, .verify true first) :: laterSteps 5 true ⟨"","","a2","r2"⟩)).store =
        (entered.store.refreshTokens tenSeconds 5 first ⟨"","","a2","r2"⟩).1 ∧
      (run (Traffic.step tenSeconds) entered ((5, .verify true first) :: laterSteps 5 true ⟨"","","a2","r2"⟩)).issued =
        entered.issued ++ World.tokensOf (entered.store.refreshTokens tenSeconds 5 first ⟨"","","a2","r2"⟩).2 :=
  alone_refreshTokens tenSeconds ⟨"","","a2","r2"⟩ rfl (by decide +kernel)

end Alone

section Laws

variable [Semiring Time] [LinearOrder Time] [FloorSemiring Time] [DecidableEq Client]

def Fresh (w : Traffic Time Client) : Time × TrafficStep Time Client → Prop
  | (_, .login _ draw _) => ∀ p ∈ w.issued, p.jti ≠ "tok-ref-" ++ draw.refresh ∧ p.fid ≠ some ("fam-" ++ draw.family)
  | (_, .issue _ draw) => ∀ p ∈ w.issued, p.jti ≠ "tok-ref-" ++ draw.refresh
  | _ => True

def Dead (s : Store Time) (payload : Payload) : Prop :=
  s.familyCompromised (payload.fid.getD "") = true ∨
    (s.revocations.lookup ("session:" ++ payload.sid.getD "")).isSome = true

def Reused (w : Traffic Time Client) (family : Option String) : Prop :=
  ∃ q ∈ w.issued, q.typ = .refresh ∧ q.fid = family ∧ 2 ≤ w.ended.count q

structure SingleUse (d : Deployment) (w : Traffic Time Client) : Prop where
  once : ∀ jti, (w.rotations.map Payload.jti).count jti ≤ 1
  dies : ∀ p ∈ w.issued, Reused w p.fid → ∀ now draw r,
    w.store.verifyToken now p ≠ .ok r ∧ ∀ pair, (w.store.refreshTokens d now p draw).2 ≠ .ok pair

/-- A use is written over the used tokens that the call has read. -/
def Unchanged (s : Store Time) (payload : Payload) (row : Option TokenFamily) : Prop :=
  match Store.decideUse payload.jti row with
  | .refuse => True
  | .compromise => True
  | _ => (s.families.lookup (payload.fid.getD "")).map TokenFamily.usedTokens = row.map TokenFamily.usedTokens

/-- No call writes over what another has written since it read, and no refresh token that
verification has turned away is presented another time. -/
def Undisturbed (w : Traffic Time Client) : Time × TrafficStep Time Client → Prop
  | (now, .verify client presented) => w.phase client = .idle → presented ∈ w.issued → presented.typ = .refresh →
    ¬Dead w.store presented →
    presented ∉ w.turnedAway ∧ (claimsRejection now presented ≠ none → presented ∉ w.begun)
  | (now, .lookUp client) => ∀ payload, w.phase client = .verified payload → payload.typ = .refresh →
    ¬Dead w.store payload → revokedNow w.store now payload = true → w.begun.count payload ≤ 1
  | (_, .writeFamily client) => ∀ payload row, w.phase client = .holding payload row → Unchanged w.store payload row
  | _ => True

end Laws

def UsedIn (s : Store Time) (familyId jti : String) : Prop :=
  ∃ row, s.families.lookup familyId = some row ∧ jti ∈ row.usedTokens

/-- The session of every token of a family is the family's, and no id is drawn twice. -/
structure Issue (issued : List Payload) : Prop where
  distinct : ∀ p ∈ issued, ∀ q ∈ issued, p.typ = .refresh → q.typ = .refresh → p.jti = q.jti → p = q
  named : ∀ p ∈ issued, (∃ text, p.fid = some ("fam-" ++ text)) ∧ ∃ text, p.sid = some ("sess-" ++ text)
  linked : ∀ p ∈ issued, ∀ q ∈ issued, p.fid = q.fid → p.sid = q.sid

/-- The calls under way and what they have left in the family rows. -/
structure Calls (w : Traffic Time Client) : Prop where
  known : ∀ c p, (w.phase c).payload? = some p → p ∈ w.issued
  typed : ∀ c p, (w.phase c).payload? = some p → w.phase c ≠ .verified p → p.typ = .refresh
  held : ∀ c p row, w.phase c = .holding p (some row) → ∃ now, w.store.families.lookup (p.fid.getD "") = some now ∧
    (row.isCompromised = true → now.isCompromised = true)
  rows : ∀ familyId jti, UsedIn w.store familyId jti ↔ ∃ p ∈ w.recorded, p.fid.getD "" = familyId ∧ p.jti = jti
  recorded : ∀ p ∈ w.recorded, p ∈ w.issued ∧ p.typ = .refresh
  pending : ∀ c p, w.phase c = .recorded p → p ∈ w.recorded ∧ p ∉ w.rotations ∧ ∀ other, w.phase other = .recorded p → other = c
  rotated : ∀ p ∈ w.rotations, p ∈ w.recorded
  rotatedOnce : w.rotations.Nodup

/-- What became of the presentations that have ended. -/
structure Presentations (w : Traffic Time Client) : Prop where
  counted : ∀ p (cs : List Client), cs.Nodup → (∀ c ∈ cs, (w.phase c).payload? = some p) →
    w.ended.count p + cs.length ≤ w.begun.count p
  settled : ∀ p ∈ w.ended, p.typ = .refresh → Dead w.store p ∨ (p ∈ w.recorded ∧ ∀ c, w.phase c ≠ .recorded p) ∨
    (p ∈ w.turnedAway ∧ w.begun.count p = 1)
  reused : ∀ p, p.typ = .refresh → 2 ≤ w.ended.count p → Dead w.store p

structure Orderly (w : Traffic Time Client) : Prop where
  issue : Issue w.issued
  lasting : ∀ sid row, w.store.revocations.lookup ("session:" ++ sid) = some row → row.expiresAt = none
  calls : Calls w
  presentations : Presentations w

section Phases

variable {w : Traffic Time Client} {c : Client}

theorem enter_phase_self [DecidableEq Client] (phase : Phase) : (w.enter c phase).phase c = phase := Function.update_self _ _ _

theorem enter_phase_ne [DecidableEq Client] {other : Client} (distinct : other ≠ c) (phase : Phase) :
    (w.enter c phase).phase other = w.phase other := Function.update_of_ne distinct _ _

theorem enter_payload [DecidableEq Client]
    {p : Payload} {phase : Phase} (here : (w.phase c).payload? = some p) (same : phase.payload? = some p)
    (other : Client) : ((w.enter c phase).phase other).payload? = (w.phase other).payload? := by
  by_cases equal : other = c
  · subst equal
    rw [enter_phase_self,same,here]
  · rw [enter_phase_ne equal]

theorem counted_ended (presentations : Presentations w) {p : Payload} (here : (w.phase c).payload? = some p) :
    w.ended.count p + 1 ≤ w.begun.count p :=
  presentations.counted p [c] (List.nodup_singleton c) (by simpa using here)

/-- Entering a phase short of the recorded one changes nothing that the presentations rest on. -/
theorem presentations_enter [DecidableEq Client] (presentations : Presentations w) {p : Payload} {phase : Phase}
    (here : (w.phase c).payload? = some p) (same : phase.payload? = some p) (unrecorded : ∀ q, phase ≠ .recorded q) :
    Presentations (w.enter c phase) := by
  refine ⟨?_,?_,presentations.reused⟩
  · intro q cs distinct holding
    apply presentations.counted q cs distinct
    intro other member
    rw [← enter_payload here same other]
    exact holding other member
  · intro q member typ
    rcases presentations.settled q member typ with dead | ⟨recorded,none⟩ | turned
    · exact Or.inl dead
    · refine Or.inr (Or.inl ⟨recorded,?_⟩)
      intro other
      by_cases equal : other = c
      · subst equal
        rw [enter_phase_self]
        exact unrecorded q
      · rw [enter_phase_ne equal]
        exact none other
    · exact Or.inr (Or.inr turned)

theorem calls_enter [DecidableEq Client] (calls : Calls w) {p : Payload} {phase : Phase} (here : (w.phase c).payload? = some p)
    (same : phase.payload? = some p) (unrecorded : ∀ q, phase ≠ .recorded q) (refresh : p.typ = .refresh)
    (held : ∀ row, phase = .holding p (some row) → ∃ now, w.store.families.lookup (p.fid.getD "") = some now ∧
      (row.isCompromised = true → now.isCompromised = true)) : Calls (w.enter c phase) := by
  refine ⟨?_,?_,?_,calls.rows,calls.recorded,?_,calls.rotated,calls.rotatedOnce⟩
  · intro other q holding
    rw [enter_payload here same] at holding
    exact calls.known other q holding
  · intro other q holding
    by_cases equal : other = c
    · subst equal
      rw [enter_phase_self,same] at holding
      cases holding
      exact fun _ => refresh
    · rw [enter_phase_ne equal] at holding ⊢
      exact calls.typed other q holding
  · intro other q row holding
    by_cases equal : other = c
    · subst equal
      rw [enter_phase_self] at holding
      have token : q = p := by
        rw [holding] at same
        exact Option.some.inj same
      subst token
      exact held row holding
    · rw [enter_phase_ne equal] at holding
      exact calls.held other q row holding
  · intro other q recorded
    have elsewhere : other ≠ c := by
      intro equal
      subst equal
      rw [enter_phase_self] at recorded
      exact unrecorded q recorded
    rw [enter_phase_ne elsewhere] at recorded
    obtain ⟨member,fresh,only⟩ := calls.pending other q recorded
    refine ⟨member,fresh,?_⟩
    intro third same'
    apply only
    have elsewhere' : third ≠ c := by
      intro equal
      subst equal
      rw [enter_phase_self] at same'
      exact unrecorded q same'
    rwa [enter_phase_ne elsewhere'] at same'

theorem finish_phase_self [DecidableEq Client] (p : Payload) : (w.finish c p).phase c = .idle := Function.update_self _ _ _

theorem finish_phase_ne [DecidableEq Client]
    {other : Client} (distinct : other ≠ c) (p : Payload) : (w.finish c p).phase other = w.phase other :=
  Function.update_of_ne distinct _ _

theorem finish_holds [DecidableEq Client] {p : Payload} {other : Client} {phase : Phase} (holds : (w.finish c p).phase other = phase)
    (busy : phase ≠ .idle) : other ≠ c ∧ w.phase other = phase := by
  have elsewhere : other ≠ c := by
    intro equal
    subst equal
    rw [finish_phase_self] at holds
    exact busy holds.symm
  rw [finish_phase_ne elsewhere] at holds
  exact ⟨elsewhere,holds⟩

theorem payload_busy {phase : Phase} {p : Payload} (holds : phase.payload? = some p) : phase ≠ .idle := by
  intro idle
  rw [idle] at holds
  cases holds

theorem calls_finish [DecidableEq Client] (calls : Calls w) (p : Payload) : Calls (w.finish c p) := by
  refine ⟨?_,?_,?_,calls.rows,calls.recorded,?_,calls.rotated,calls.rotatedOnce⟩
  · intro other q holding
    exact calls.known other q (by rwa [(finish_holds rfl (payload_busy holding)).2])
  · intro other q holding moved
    have same := (finish_holds rfl (payload_busy holding)).2
    rw [← same] at holding moved
    exact calls.typed other q holding moved
  · intro other q row holding
    exact calls.held other q row (finish_holds holding (by simp)).2
  · intro other q recorded
    obtain ⟨elsewhere,earlier⟩ := finish_holds recorded (by simp)
    obtain ⟨member,fresh,only⟩ := calls.pending other q earlier
    exact ⟨member,fresh,fun third same => only third (finish_holds same (by simp)).2⟩

theorem presentations_finish [DecidableEq Client] (calls : Calls w) (presentations : Presentations w) {p : Payload}
    (here : (w.phase c).payload? = some p)
    (outcome : p.typ = .refresh → Dead w.store p ∨ w.phase c = .recorded p ∨ (p ∈ w.turnedAway ∧ w.begun.count p = 1)) :
    Presentations (w.finish c p) := by
  have elsewhere : ∀ q other, (w.finish c p).phase other = .recorded q → other ≠ c ∧ w.phase other = .recorded q :=
    fun q other same => finish_holds same (by simp)
  have dead : p.typ = .refresh → 1 ≤ w.ended.count p → Dead w.store p := by
    intro typ again
    have begun := counted_ended presentations here
    rcases outcome typ with dead | here' | ⟨_,once⟩
    · exact dead
    · rcases presentations.settled p (List.count_pos_iff.mp again) typ with dead | ⟨_,none⟩ | ⟨_,once⟩
      · exact dead
      · exact absurd here' (none c)
      · omega
    · omega
  refine ⟨?_,?_,?_⟩
  · intro q cs distinct holding
    have free : ∀ other ∈ cs, other ≠ c ∧ (w.phase other).payload? = some q := by
      intro other member
      have holds := holding other member
      obtain ⟨apart,same⟩ := finish_holds rfl (payload_busy holds)
      rw [same]
      exact ⟨apart,holds⟩
    by_cases same : q = p
    · subst same
      have more := presentations.counted q (c :: cs) (List.nodup_cons.mpr ⟨fun member => (free c member).1 rfl,distinct⟩)
        (by
          intro other member
          rcases List.mem_cons.mp member with rfl | member
          · exact here
          · exact (free other member).2)
      simp only [Traffic.finish,List.count_append,List.count_singleton_self,List.length_cons] at more ⊢
      omega
    · have count : (w.ended ++ [p]).count q = w.ended.count q := by
        simp [List.count_append,Ne.symm same]
      rw [show (w.finish c p).ended = w.ended ++ [p] from rfl,count]
      exact presentations.counted q cs distinct (fun other member => (free other member).2)
  · intro q member typ
    rcases List.mem_append.mp member with earlier | now
    · rcases presentations.settled q earlier typ with dead | ⟨recorded,none⟩ | turned
      · exact Or.inl dead
      · exact Or.inr (Or.inl ⟨recorded,fun other same => none other (elsewhere q other same).2⟩)
      · exact Or.inr (Or.inr turned)
    · rw [List.mem_singleton] at now
      subst now
      rcases outcome typ with dead | here' | turned
      · exact Or.inl dead
      · obtain ⟨member,_,only⟩ := calls.pending c q here'
        refine Or.inr (Or.inl ⟨member,?_⟩)
        intro other same
        obtain ⟨apart,earlier⟩ := elsewhere q other same
        exact apart (only other earlier)
      · exact Or.inr (Or.inr turned)
  · intro q typ twice
    by_cases same : q = p
    · subst same
      apply dead typ
      simp only [Traffic.finish,List.count_append,List.count_singleton_self] at twice
      omega
    · have count : (w.ended ++ [p]).count q = w.ended.count q := by
        simp [List.count_append,Ne.symm same]
      rw [show (w.finish c p).ended = w.ended ++ [p] from rfl,count] at twice
      exact presentations.reused q typ twice

theorem orderly_finish [DecidableEq Client] (orderly : Orderly w) {p : Payload} (here : (w.phase c).payload? = some p)
    (outcome : p.typ = .refresh → Dead w.store p ∨ w.phase c = .recorded p ∨ (p ∈ w.turnedAway ∧ w.begun.count p = 1)) :
    Orderly (w.finish c p) :=
  ⟨orderly.issue,orderly.lasting,calls_finish orderly.calls p,
    presentations_finish orderly.calls orderly.presentations here outcome⟩

theorem orderly_turnAway [DecidableEq Client] (orderly : Orderly w) {p : Payload} (here : (w.phase c).payload? = some p)
    (alone : p.typ = .refresh → ¬Dead w.store p → w.begun.count p ≤ 1) : Orderly (w.turnAway c p) := by
  have marked : Orderly { w with turnedAway := w.turnedAway ++ [p] } := by
    refine ⟨orderly.issue,orderly.lasting,⟨?_,?_,?_,?_,?_,?_,?_,?_⟩,⟨?_,?_,?_⟩⟩
    · exact orderly.calls.known
    · exact orderly.calls.typed
    · exact orderly.calls.held
    · exact orderly.calls.rows
    · exact orderly.calls.recorded
    · exact orderly.calls.pending
    · exact orderly.calls.rotated
    · exact orderly.calls.rotatedOnce
    · exact orderly.presentations.counted
    · intro q member typ
      rcases orderly.presentations.settled q member typ with dead | recorded | ⟨turned,once⟩
      · exact Or.inl dead
      · exact Or.inr (Or.inl recorded)
      · exact Or.inr (Or.inr ⟨List.mem_append_left _ turned,once⟩)
    · exact orderly.presentations.reused
  apply orderly_finish marked here
  intro typ
  by_cases dead : Dead w.store p
  · exact Or.inl dead
  · have begun := counted_ended orderly.presentations here
    have once := alone typ dead
    have exactly : w.begun.count p = 1 := by omega
    exact Or.inr (Or.inr ⟨by simp,exactly⟩)

theorem orderly_begin [DecidableEq Client] (orderly : Orderly w) {p : Payload} (free : w.phase c = .idle) (issued : p ∈ w.issued)
    (again : p.typ = .refresh → ¬Dead w.store p → p ∉ w.turnedAway) :
    Orderly ((w.begin p).enter c (.verified p)) := by
  have elsewhere : ∀ other phase, ((w.begin p).enter c (.verified p)).phase other = phase → phase ≠ .verified p →
      other ≠ c ∧ w.phase other = phase := by
    intro other phase same distinct
    have apart : other ≠ c := by
      intro equal
      subst equal
      rw [enter_phase_self] at same
      exact distinct same.symm
    rw [enter_phase_ne apart] at same
    exact ⟨apart,same⟩
  have payload : ∀ other q, other ≠ c → (((w.begin p).enter c (.verified p)).phase other).payload? = some q →
      (w.phase other).payload? = some q := by
    intro other q apart holds
    rwa [enter_phase_ne apart] at holds
  obtain ⟨calls,presentations⟩ := And.intro orderly.calls orderly.presentations
  refine ⟨orderly.issue,orderly.lasting,⟨?_,?_,?_,calls.rows,calls.recorded,?_,calls.rotated,calls.rotatedOnce⟩,⟨?_,?_,?_⟩⟩
  · intro other q holding
    by_cases equal : other = c
    · subst equal
      rw [enter_phase_self] at holding
      cases holding
      exact issued
    · exact calls.known other q (payload other q equal holding)
  · intro other q holding moved
    by_cases equal : other = c
    · subst equal
      rw [enter_phase_self] at holding moved
      cases holding
      exact absurd rfl moved
    · rw [enter_phase_ne equal] at holding moved
      exact calls.typed other q holding moved
  · intro other q row holding
    exact calls.held other q row (elsewhere other _ holding (by simp)).2
  · intro other q recorded
    obtain ⟨_,earlier⟩ := elsewhere other _ recorded (by simp)
    obtain ⟨member,fresh,only⟩ := calls.pending other q earlier
    exact ⟨member,fresh,fun third same => only third (elsewhere third _ same (by simp)).2⟩
  · intro q cs distinct holding
    have begun : ((w.begin p).enter c (.verified p)).begun = w.begun ++ [p] := rfl
    rw [begun,List.count_append]
    by_cases member : c ∈ cs
    · have same : q = p := by
        have holds := holding c member
        rw [enter_phase_self] at holds
        exact (Option.some.inj holds).symm
      subst same
      have fewer := presentations.counted q (cs.erase c) (distinct.erase c)
        (by
          intro other remaining
          obtain ⟨apart,within⟩ := (List.Nodup.mem_erase_iff distinct).mp remaining
          exact payload other q apart (holding other within))
      have length := List.length_erase_of_mem member
      have positive := List.length_pos_of_mem member
      simp only [List.count_singleton_self]
      change w.ended.count q + cs.length ≤ _
      omega
    · have earlier := presentations.counted q cs distinct
        (fun other within => payload other q (fun equal => member (equal ▸ within)) (holding other within))
      change w.ended.count q + cs.length ≤ _
      omega
  · intro q member typ
    rcases presentations.settled q member typ with dead | ⟨recorded,none⟩ | ⟨turned,once⟩
    · exact Or.inl dead
    · exact Or.inr (Or.inl ⟨recorded,fun other same => none other (elsewhere other _ same (by simp)).2⟩)
    · by_cases same : q = p
      · subst same
        by_cases dead : Dead w.store q
        · exact Or.inl dead
        · exact absurd turned (again typ dead)
      · refine Or.inr (Or.inr ⟨turned,?_⟩)
        change (w.begun ++ [p]).count q = 1
        simpa [List.count_append,List.count_singleton,Ne.symm same] using once
  · exact presentations.reused

theorem turnAway_eq [DecidableEq Client] (p : Payload) : (w.enter c (.verified p)).turnAway c p = w.turnAway c p := by
  simp [Traffic.turnAway,Traffic.finish,Traffic.enter,Function.update_idem]

theorem verify_orderly [Semiring Time] [LinearOrder Time] [DecidableEq Client] (orderly : Orderly w) (now : Time) (p : Payload)
    (good : Undisturbed w (now, .verify c p)) : Orderly (w.verify now c p) := by
  unfold Traffic.verify
  split
  · rename_i free
    split
    · rename_i issued
      have begun := orderly_begin orderly free issued (fun typ dead => (good free issued typ dead).1)
      split
      · rename_i rejection rejected
        rw [← turnAway_eq]
        apply orderly_turnAway begun (by rw [enter_phase_self]; rfl)
        intro typ dead
        have first := (good free issued typ dead).2 (by simp [rejected])
        change (w.begun ++ [p]).count p ≤ 1
        simp [List.count_append,List.count_eq_zero_of_not_mem first]
      · exact begun
    · exact orderly
  · exact orderly

theorem lookUp_orderly [Semiring Time] [LinearOrder Time] [DecidableEq Client]
    (orderly : Orderly w) (now : Time) (good : Undisturbed w (now, .lookUp c)) :
    Orderly (w.lookUp now c) := by
  unfold Traffic.lookUp
  split
  · rename_i payload verified
    have here : (w.phase c).payload? = some payload := by rw [verified]; rfl
    split
    · rename_i revoked
      exact orderly_turnAway orderly here (fun typ dead => good payload verified typ dead revoked)
    · split
      · rename_i other
        exact orderly_finish orderly here (fun typ => absurd typ other)
      · rename_i refresh
        have typ : payload.typ = .refresh := not_not.mp refresh
        exact ⟨orderly.issue,orderly.lasting,calls_enter orderly.calls here rfl (by simp) typ (by simp),
          presentations_enter orderly.presentations here rfl (by simp)⟩
  · exact orderly

theorem readFamily_orderly [DecidableEq Client] (orderly : Orderly w) : Orderly (w.readFamily c) := by
  unfold Traffic.readFamily
  split
  · rename_i payload cleared
    have here : (w.phase c).payload? = some payload := by rw [cleared]; rfl
    have typ : payload.typ = .refresh := orderly.calls.typed c payload here (by rw [cleared]; simp)
    refine ⟨orderly.issue,orderly.lasting,calls_enter orderly.calls here rfl (by simp) typ ?_,
      presentations_enter orderly.presentations here rfl (by simp)⟩
    intro row same
    injection same with _ found
    exact ⟨row,found,id⟩
  · exact orderly

theorem orderly_store (orderly : Orderly w) (store : Store Time)
    (lasting : ∀ sid row, store.revocations.lookup ("session:" ++ sid) = some row → row.expiresAt = none)
    (dead : ∀ p, Dead w.store p → Dead store p) (used : ∀ familyId jti, UsedIn store familyId jti ↔ UsedIn w.store familyId jti)
    (rows : ∀ familyId row, w.store.families.lookup familyId = some row → ∃ now, store.families.lookup familyId = some now ∧
      (row.isCompromised = true → now.isCompromised = true)) : Orderly { w with store := store } := by
  obtain ⟨calls,presentations⟩ := And.intro orderly.calls orderly.presentations
  refine ⟨orderly.issue,lasting,⟨calls.known,calls.typed,?_,?_,calls.recorded,calls.pending,calls.rotated,calls.rotatedOnce⟩,
    ⟨presentations.counted,?_,?_⟩⟩
  · intro other p row holding
    obtain ⟨now,found,kept⟩ := calls.held other p row holding
    obtain ⟨later,found',kept'⟩ := rows _ now found
    exact ⟨later,found',fun flagged => kept' (kept flagged)⟩
  · intro familyId jti
    rw [used]
    exact calls.rows familyId jti
  · intro p member typ
    rcases presentations.settled p member typ with gone | rest
    · exact Or.inl (dead p gone)
    · exact Or.inr rest
  · intro p typ twice
    exact dead p (presentations.reused p typ twice)

theorem dead_iff (s : Store Time) (p : Payload) : Dead s p ↔
    (∃ row, s.families.lookup (p.fid.getD "") = some row ∧ row.isCompromised = true) ∨
      (s.revocations.lookup ("session:" ++ p.sid.getD "")).isSome = true := by
  unfold Dead Store.familyCompromised
  cases s.families.lookup (p.fid.getD "") <;> simp

theorem orderly_record [DecidableEq Client]
    (orderly : Orderly w) {p : Payload} {row : Option TokenFamily} (here : w.phase c = .holding p row)
    (store : Store Time) (revocations : store.revocations = w.store.revocations)
    (used : ∀ familyId jti, UsedIn store familyId jti ↔
      UsedIn w.store familyId jti ∨ familyId = p.fid.getD "" ∧ jti = p.jti)
    (rows : ∀ familyId row, w.store.families.lookup familyId = some row → ∃ now, store.families.lookup familyId = some now ∧
      (row.isCompromised = true → now.isCompromised = true))
    (unused : ¬UsedIn w.store (p.fid.getD "") p.jti) :
    Orderly ({ w with store := store, recorded := w.recorded ++ [p] }.enter c (.recorded p)) := by
  obtain ⟨calls,presentations⟩ := And.intro orderly.calls orderly.presentations
  have token : (w.phase c).payload? = some p := by rw [here]; rfl
  have typ : p.typ = .refresh := calls.typed c p token (by rw [here]; simp)
  have issued := calls.known c p token
  have new : p ∉ w.recorded := fun member => unused ((calls.rows _ _).mpr ⟨p,member,rfl,rfl⟩)
  have dead : ∀ q, Dead w.store q → Dead store q := by
    intro q
    rw [dead_iff,dead_iff,revocations]
    rintro (⟨row,found,flagged⟩ | session)
    · obtain ⟨now,found',kept⟩ := rows _ row found
      exact Or.inl ⟨now,found',kept flagged⟩
    · exact Or.inr session
  have elsewhere : ∀ other phase, ({ w with store := store, recorded := w.recorded ++ [p] }.enter c (.recorded p)).phase other =
      phase → phase ≠ .recorded p → other ≠ c ∧ w.phase other = phase := by
    intro other phase same distinct
    have apart : other ≠ c := by
      intro equal
      subst equal
      rw [enter_phase_self] at same
      exact distinct same.symm
    rw [enter_phase_ne apart] at same
    exact ⟨apart,same⟩
  refine ⟨orderly.issue,?_,⟨?_,?_,?_,?_,?_,?_,?_,calls.rotatedOnce⟩,⟨?_,?_,?_⟩⟩
  · intro sid row found
    exact orderly.lasting sid row (revocations ▸ found)
  · intro other q holding
    rw [enter_payload (w := { w with store := store, recorded := w.recorded ++ [p] }) token rfl other] at holding
    exact calls.known other q holding
  · intro other q holding moved
    by_cases equal : other = c
    · subst equal
      rw [enter_phase_self] at holding
      cases holding
      exact typ
    · rw [enter_phase_ne equal] at holding moved
      exact calls.typed other q holding moved
  · intro other q row holding
    obtain ⟨now,found,kept⟩ := calls.held other q row (elsewhere other _ holding (by simp)).2
    obtain ⟨later,found',kept'⟩ := rows _ now found
    exact ⟨later,found',fun flagged => kept' (kept flagged)⟩
  · intro familyId jti
    change UsedIn store familyId jti ↔ ∃ q ∈ w.recorded ++ [p], q.fid.getD "" = familyId ∧ q.jti = jti
    rw [used,calls.rows]
    simp only [List.mem_append,List.mem_singleton,or_and_right,exists_or,exists_eq_left]
    exact or_congr_right (and_congr eq_comm eq_comm)
  · intro q member
    rcases List.mem_append.mp member with earlier | now
    · exact calls.recorded q earlier
    · rw [List.mem_singleton.mp now]
      exact ⟨issued,typ⟩
  · intro other q same
    by_cases equal : other = c
    · subst equal
      rw [enter_phase_self] at same
      cases same
      refine ⟨by simp [Traffic.enter],fun member => new (calls.rotated p member),?_⟩
      intro third same
      by_contra apart
      rw [enter_phase_ne apart] at same
      exact new (calls.pending third p same).1
    · rw [enter_phase_ne equal] at same
      obtain ⟨member,fresh,only⟩ := calls.pending other q same
      refine ⟨List.mem_append_left _ member,fresh,?_⟩
      intro third same'
      by_cases equal' : third = c
      · subst equal'
        rw [enter_phase_self] at same'
        cases same'
        exact absurd member new
      · rw [enter_phase_ne equal'] at same'
        exact only third same'
  · exact fun q member => List.mem_append_left _ (calls.rotated q member)
  · intro q cs distinct holding
    apply presentations.counted q cs distinct
    intro other member
    have holds := holding other member
    rwa [enter_payload (w := { w with store := store, recorded := w.recorded ++ [p] }) token rfl other] at holds
  · intro q member typ'
    rcases presentations.settled q member typ' with gone | ⟨recorded,none⟩ | ⟨turned,once⟩
    · exact Or.inl (dead q gone)
    · have apart : q ≠ p := fun same => new (same ▸ recorded)
      exact Or.inr (Or.inl ⟨List.mem_append_left _ recorded,
        fun other same => none other (elsewhere other _ same (by simpa using apart)).2⟩)
    · exact Or.inr (Or.inr ⟨turned,once⟩)
  · exact fun q typ' twice => dead q (presentations.reused q typ' twice)

theorem updateFamily_used (s : Store Time) {familyId : String} {row : TokenFamily} (found : s.families.lookup familyId = some row)
    (change : TokenFamily → TokenFamily) (other jti : String) : UsedIn (s.updateFamily familyId change) other jti ↔
      if other = familyId then jti ∈ (change row).usedTokens else UsedIn s other jti := by
  unfold UsedIn
  rw [updateFamily_lookup]
  split <;> simp [found]

theorem updateFamily_rows (s : Store Time) (familyId : String) (change : TokenFamily → TokenFamily)
    (kept : ∀ row, row.isCompromised = true → (change row).isCompromised = true) (other : String) (row : TokenFamily)
    (found : s.families.lookup other = some row) : ∃ now, (s.updateFamily familyId change).families.lookup other = some now ∧
      (row.isCompromised = true → now.isCompromised = true) := by
  rw [updateFamily_lookup]
  split
  · rename_i same
    rw [← same,found]
    exact ⟨change row,rfl,kept row⟩
  · exact ⟨row,found,id⟩

theorem compromise_orderly [DecidableEq Client]
    (orderly : Orderly w) {p : Payload} {row : TokenFamily} (here : w.phase c = .holding p (some row)) :
    Orderly ({ w with store :=
      w.store.updateFamily (p.fid.getD "") (fun family => { family with isCompromised := true }) }.finish c p) := by
  obtain ⟨now,found,_⟩ := orderly.calls.held c p row here
  have rows := updateFamily_rows w.store (p.fid.getD "") (fun family => { family with isCompromised := true }) (fun _ _ => rfl)
  have stored := orderly_store orderly
    (w.store.updateFamily (p.fid.getD "") (fun family => { family with isCompromised := true }))
    (by
      rw [updateFamily_revocations]
      exact orderly.lasting)
    (by
      intro q
      rw [dead_iff,dead_iff,updateFamily_revocations]
      rintro (⟨row,found,flagged⟩ | session)
      · obtain ⟨later,found',kept⟩ := rows _ row found
        exact Or.inl ⟨later,found',kept flagged⟩
      · exact Or.inr session)
    (by
      intro familyId jti
      rw [updateFamily_used w.store found]
      split
      · rename_i same
        subst same
        simp [UsedIn,found]
      · rfl)
    rows
  apply orderly_finish stored (by simp only [here]; rfl)
  intro _
  refine Or.inl ((dead_iff _ _).mpr (Or.inl ?_))
  rw [updateFamily_lookup,if_pos rfl,found]
  exact ⟨_,rfl,rfl⟩

theorem writeFamily_orderly [Semiring Time] [LinearOrder Time] [DecidableEq Client]
    (orderly : Orderly w) (now : Time) (good : Undisturbed w (now, .writeFamily c)) :
    Orderly (w.writeFamily c) := by
  unfold Traffic.writeFamily
  split
  · rename_i p row here
    have token : (w.phase c).payload? = some p := by rw [here]; rfl
    have unchanged := good p row here
    cases row with
    | none =>
      simp only [Unchanged,Store.decideUse,Option.map_none,Option.map_eq_none_iff] at unchanged
      simp only [Store.decideUse,Store.writeUse,unchanged]
      refine orderly_record orderly here _ rfl ?_ ?_ (by simp [UsedIn,unchanged])
      · intro familyId jti
        unfold UsedIn
        rw [Table.lookup_overwrite]
        split
        · rename_i same
          subst same
          simp [unchanged]
        · rename_i other
          simp [other]
      · intro familyId row found
        rw [Table.lookup_overwrite]
        split
        · rename_i same
          rw [same,unchanged] at found
          cases found
        · exact ⟨row,found,id⟩
    | some row =>
      obtain ⟨stored,found,kept⟩ := orderly.calls.held c p row here
      simp only [Unchanged,Store.decideUse] at unchanged ⊢
      split_ifs at unchanged ⊢ with flagged again
      · simp only [Store.writeUse]
        apply orderly_finish orderly token
        intro _
        exact Or.inl ((dead_iff _ _).mpr (Or.inl ⟨stored,found,kept flagged⟩))
      · simp only [Store.writeUse]
        exact compromise_orderly orderly here
      · simp only [Store.writeUse]
        have same : stored.usedTokens = row.usedTokens := by simpa [found] using unchanged
        refine orderly_record orderly here _ (updateFamily_revocations _ _ _) ?_
          (updateFamily_rows w.store _ _ (fun _ flagged => flagged)) ?_
        · intro familyId jti
          rw [updateFamily_used w.store found]
          split
          · rename_i equal
            subst equal
            simp [UsedIn,found,same]
          · rename_i other
            simp [other]
        · simp [UsedIn,found,same,again]
  · exact orderly

theorem orderly_issued (orderly : Orderly w) (pair : TokenPair) (sessions : Table String (Session Time))
    (access : pair.accessToken.typ = .access) (_refresh : pair.refreshToken.typ = .refresh)
    (same : pair.accessToken.fid = pair.refreshToken.fid ∧ pair.accessToken.sid = pair.refreshToken.sid)
    (named : (∃ text, pair.refreshToken.fid = some ("fam-" ++ text)) ∧ ∃ text, pair.refreshToken.sid = some ("sess-" ++ text))
    (linked : ∀ p ∈ w.issued, p.fid = pair.refreshToken.fid → p.sid = pair.refreshToken.sid)
    (fresh : ∀ p ∈ w.issued, p.jti ≠ pair.refreshToken.jti) :
    Orderly { w with store := { w.store with sessions := sessions },
                     issued := w.issued ++ [pair.accessToken, pair.refreshToken] } := by
  obtain ⟨issue,lasting,calls,presentations⟩ := orderly
  have member : ∀ q, q ∈ w.issued ++ [pair.accessToken, pair.refreshToken] →
      q ∈ w.issued ∨ q = pair.accessToken ∨ q = pair.refreshToken := by
    intro q member
    simpa using member
  have family : ∀ q, q = pair.accessToken ∨ q = pair.refreshToken → q.fid = pair.refreshToken.fid ∧ q.sid = pair.refreshToken.sid := by
    rintro q (rfl | rfl)
    · exact same
    · exact ⟨rfl,rfl⟩
  have grown : ∀ q, q ∈ w.issued → q ∈ w.issued ++ [pair.accessToken, pair.refreshToken] := fun q member => List.mem_append_left _ member
  refine ⟨⟨?_,?_,?_⟩,lasting,⟨?_,calls.typed,calls.held,calls.rows,?_,calls.pending,calls.rotated,calls.rotatedOnce⟩,
    ⟨presentations.counted,presentations.settled,presentations.reused⟩⟩
  · intro p inP q inQ typP typQ equal
    rcases member p inP with inP | rfl | rfl
    · rcases member q inQ with inQ | rfl | rfl
      · exact issue.distinct p inP q inQ typP typQ equal
      · rw [access] at typQ
        cases typQ
      · exact absurd equal (fresh p inP)
    · rw [access] at typP
      cases typP
    · rcases member q inQ with inQ | rfl | rfl
      · exact absurd equal.symm (fresh q inQ)
      · rw [access] at typQ
        cases typQ
      · rfl
  · intro p inP
    rcases member p inP with inP | new
    · exact issue.named p inP
    · rw [(family p new).1,(family p new).2]
      exact named
  · intro p inP q inQ equal
    rcases member p inP with inP | newP
    · rcases member q inQ with inQ | newQ
      · exact issue.linked p inP q inQ equal
      · rw [(family q newQ).2]
        exact linked p inP (equal.trans (family q newQ).1)
    · rcases member q inQ with inQ | newQ
      · rw [(family p newP).2]
        exact (linked q inQ (equal.symm.trans (family p newP).1)).symm
      · rw [(family p newP).2,(family q newQ).2]
  · exact fun other p holding => grown p (calls.known other p holding)
  · intro p recorded
    exact ⟨grown p (calls.recorded p recorded).1,(calls.recorded p recorded).2⟩

theorem login_orderly [Semiring Time] [LinearOrder Time] [FloorSemiring Time] [DecidableEq Client]
    (orderly : Orderly w) (d : Deployment) (now : Time) (user : User) (draw : Draw) (bg : Bool)
    (fresh : Fresh w (now, .login user draw bg)) : Orderly (w.step d (now, .login user draw bg)) := by
  refine orderly_issued orderly (w.store.createSessionAndIssueTokens d now user draw bg).2 _ rfl rfl ⟨rfl,rfl⟩
    ⟨⟨_,rfl⟩,⟨_,rfl⟩⟩ ?_ ?_
  · intro p member same
    exact absurd same (fresh p member).2
  · exact fun p member => (fresh p member).1

theorem finishRefresh_ok [Semiring Time] [LinearOrder Time] [FloorSemiring Time]
    {d : Deployment} {s : Store Time} {now : Time} {p : Payload} {draw : Draw} {pair : TokenPair}
    (success : s.finishRefresh d now p draw = .ok pair) :
    pair = Store.issuePair d now p.uid p.tid (p.sid.getD "") (p.fid.getD "") draw p.bg := by
  unfold Store.finishRefresh at success
  split at success
  · cases success
  · split_ifs at success
    cases success
    rfl

theorem orderly_rotated (orderly : Orderly w) {p : Payload} (recorded : p ∈ w.recorded) (new : p ∉ w.rotations)
    (none : ∀ c, w.phase c ≠ .recorded p) : Orderly { w with rotations := w.rotations ++ [p] } := by
  obtain ⟨issue,lasting,calls,presentations⟩ := orderly
  refine ⟨issue,lasting,⟨calls.known,calls.typed,calls.held,calls.rows,calls.recorded,?_,?_,?_⟩,
    ⟨presentations.counted,presentations.settled,presentations.reused⟩⟩
  · intro other q same
    obtain ⟨member,fresh,only⟩ := calls.pending other q same
    refine ⟨member,?_,only⟩
    intro rotated
    rcases List.mem_append.mp rotated with earlier | now
    · exact fresh earlier
    · rw [List.mem_singleton.mp now] at same
      exact none other same
  · intro q rotated
    rcases List.mem_append.mp rotated with earlier | now
    · exact calls.rotated q earlier
    · rw [List.mem_singleton.mp now]
      exact recorded
  · exact List.nodup_append.mpr ⟨calls.rotatedOnce,List.nodup_singleton p,by
      rintro q member _ (now) rfl
      exact new (List.mem_singleton.mp now ▸ member)⟩

theorem issue_orderly [Semiring Time] [LinearOrder Time] [FloorSemiring Time] [DecidableEq Client]
    (orderly : Orderly w) (d : Deployment) (now : Time) (draw : Draw)
    (fresh : Fresh w (now, .issue c draw)) : Orderly (w.issue d now c draw) := by
  unfold Traffic.issue
  split
  · rename_i p here
    have token : (w.phase c).payload? = some p := by rw [here]; rfl
    have finished := orderly_finish orderly token (fun _ => Or.inr (Or.inl here))
    split
    · exact finished
    · rename_i pair success
      obtain ⟨recorded,new,only⟩ := orderly.calls.pending c p here
      have known := (orderly.calls.recorded p recorded).1
      obtain ⟨⟨family,fid⟩,session,sid⟩ := orderly.issue.named p known
      have shape := finishRefresh_ok success
      have tokens : pair.refreshToken.fid = p.fid ∧ pair.refreshToken.sid = p.sid := by
        rw [shape,fid,sid]
        exact ⟨rfl,rfl⟩
      have free : ∀ other, (w.finish c p).phase other ≠ .recorded p := by
        intro other same
        obtain ⟨apart,earlier⟩ := finish_holds same (by simp)
        exact apart (only other earlier)
      have rotated := orderly_rotated finished recorded new free
      refine orderly_issued rotated pair w.store.sessions (by rw [shape]; rfl) (by rw [shape]; rfl)
        (by rw [shape]; exact ⟨rfl,rfl⟩) ?_ ?_ ?_
      · rw [tokens.1,tokens.2]
        exact ⟨⟨family,fid⟩,session,sid⟩
      · intro q member same
        rw [tokens.1] at same
        rw [tokens.2]
        exact orderly.issue.linked q member p known same
      · intro q member
        rw [shape]
        exact fresh q member
  · exact orderly

theorem registry_orderly (orderly : Orderly w) (store : Store Time) (families : store.families = w.store.families)
    (lasting : ∀ sid row, store.revocations.lookup ("session:" ++ sid) = some row → row.expiresAt = none)
    (kept : ∀ sid, (w.store.revocations.lookup ("session:" ++ sid)).isSome = true →
      (store.revocations.lookup ("session:" ++ sid)).isSome = true) : Orderly { w with store := store } := by
  apply orderly_store orderly store lasting
  · intro p
    rw [dead_iff,dead_iff,families]
    exact Or.imp_right (kept _)
  · intro familyId jti
    unfold UsedIn
    rw [families]
  · intro familyId row found
    rw [families]
    exact ⟨row,found,id⟩

theorem renewRevocation_orderly (orderly : Orderly w) (now : Time) (key : String) :
    Orderly { w with store := w.store.renewRevocation now key } := by
  refine registry_orderly orderly _ (renewRevocation_families w.store now key) ?_ ?_
  · intro sid row found
    rw [renewRevocation_lookup] at found
    split at found
    · cases found
      cases stored : w.store.revocations.lookup ("session:" ++ sid) with
      | none => rfl
      | some row => exact orderly.lasting sid row stored
    · exact orderly.lasting sid row found
  · intro sid present
    rw [renewRevocation_lookup]
    split
    · rfl
    · exact present

theorem revokeToken_orderly (orderly : Orderly w) (now : Time) (jti : String) (expiresAt : Time) :
    Orderly { w with store := w.store.revokeToken now jti expiresAt } := by
  refine registry_orderly orderly _ (revokeToken_families w.store now jti expiresAt) ?_ ?_
  · intro sid row found
    rw [revokeToken_lookup,if_neg (jti_ne_session _ _).symm] at found
    exact orderly.lasting sid row found
  · intro sid present
    rw [revokeToken_lookup,if_neg (jti_ne_session _ _).symm]
    exact present

theorem step_orderly [Semiring Time] [LinearOrder Time] [FloorSemiring Time] [DecidableEq Client]
    (d : Deployment) (orderly : Orderly w) (step : Time × TrafficStep Time Client) (fresh : Fresh w step)
    (good : Undisturbed w step) : Orderly (w.step d step) := by
  obtain ⟨now,step⟩ := step
  cases step with
  | login user draw bg => exact login_orderly orderly d now user draw bg fresh
  | revokeToken jti expiresAt => exact revokeToken_orderly orderly now jti expiresAt
  | revokeSessionTokens sid => exact renewRevocation_orderly orderly now _
  | revokeUserTokens uid => exact renewRevocation_orderly orderly now _
  | verify client presented => exact verify_orderly orderly now presented good
  | lookUp client => exact lookUp_orderly orderly now good
  | readFamily client => exact readFamily_orderly orderly
  | writeFamily client => exact writeFamily_orderly orderly now good
  | issue client draw => exact issue_orderly orderly d now draw fresh

theorem orderly_start (users : Table String User) : Orderly (Traffic.start users : Traffic Time Client) := by
  refine ⟨⟨by simp [Traffic.start],by simp [Traffic.start],by simp [Traffic.start]⟩,?_,⟨?_,?_,?_,?_,?_,?_,?_,?_⟩,⟨?_,?_,?_⟩⟩
  · intro sid row found
    cases found
  · intro c p holding
    cases holding
  · intro c p holding
    cases holding
  · intro c p row holding
    cases holding
  · intro familyId jti
    constructor
    · rintro ⟨row,found,_⟩
      cases found
    · rintro ⟨p,member,_⟩
      cases member
  · intro p member
    cases member
  · intro c p holding
    cases holding
  · intro p member
    cases member
  · exact List.nodup_nil
  · intro p cs distinct holding
    cases cs with
    | nil => simp [Traffic.start]
    | cons c cs => cases holding c (by simp)
  · intro p member
    cases member
  · intro p typ twice
    cases twice

theorem dead_refused [Semiring Time] [LinearOrder Time] [FloorSemiring Time]
    (orderly : Orderly w) {p : Payload} (issued : p ∈ w.issued) (dead : Dead w.store p) (now : Time)
    (r : Payload) : w.store.verifyToken now p ≠ .ok r := by
  obtain ⟨⟨family,fid⟩,session,sid⟩ := orderly.issue.named p issued
  have revoked : revokedNow w.store now p = true := by
    have namedFamily : "fam-" ++ family ≠ "" := fun same => by simpa using congrArg String.toList same
    have namedSession : "sess-" ++ session ≠ "" := fun same => by simpa using congrArg String.toList same
    unfold revokedNow Store.isTokenRevoked
    rw [fid,sid,truthy_some namedFamily,truthy_some namedSession]
    rcases dead with compromised | revoked
    · rw [fid] at compromised
      simp only [Option.getD_some] at compromised
      simp [compromised]
    · obtain ⟨row,found⟩ := Option.isSome_iff_exists.mp revoked
      rw [sid] at found
      have inForce : w.store.revocationInForce now ("session:" ++ ("sess-" ++ session)) = true := by
        simp only [Store.revocationInForce,Option.getD_some] at found ⊢
        rw [found]
        simp only [orderly.lasting _ row found]
      simp [inForce]
  rw [verifyToken_eq]
  intro accepted
  split at accepted
  · cases accepted
  · rw [revoked] at accepted
    cases accepted

theorem singleUse_of_orderly [Semiring Time] [LinearOrder Time] [FloorSemiring Time]
    (d : Deployment) (orderly : Orderly w) : SingleUse d w := by
  refine ⟨?_,?_⟩
  · intro jti
    apply List.nodup_iff_count_le_one.mp
    apply List.Nodup.map_on _ orderly.calls.rotatedOnce
    intro p rotatedP q rotatedQ same
    obtain ⟨knownP,typP⟩ := orderly.calls.recorded p (orderly.calls.rotated p rotatedP)
    obtain ⟨knownQ,typQ⟩ := orderly.calls.recorded q (orderly.calls.rotated q rotatedQ)
    exact orderly.issue.distinct p knownP q knownQ typP typQ same
  · rintro p issued ⟨q,known,typ,family,twice⟩ now draw r
    have deadQ := orderly.presentations.reused q typ twice
    have dead : Dead w.store p := by
      unfold Dead at deadQ ⊢
      rwa [← family,← orderly.issue.linked q known p issued family]
    refine ⟨dead_refused orderly issued dead now r,?_⟩
    intro pair success
    cases verified : w.store.verifyToken now p with
    | ok q => exact dead_refused orderly issued dead now q verified
    | error rejection =>
      rw [refreshTokens_refused verified] at success
      cases success

/-- Undisturbed calls rotate each token at most once, and a family with a reused token is dead. -/
theorem refresh_tokens_single_use [Semiring Time] [LinearOrder Time] [FloorSemiring Time] [DecidableEq Client]
    (d : Deployment) (users : Table String User) (steps : List (Time × TrafficStep Time Client))
    (fresh : Along (Traffic.step d) Fresh (Traffic.start users) steps)
    (undisturbed : Along (Traffic.step d) Undisturbed (Traffic.start users) steps) (done : List (Time × TrafficStep Time Client))
    (reached : done <+: steps) : SingleUse d (run (Traffic.step d) (Traffic.start users) done) := by
  obtain ⟨rest,rfl⟩ := reached
  have both := along_and.mpr ⟨((along_append _ _ _).mp fresh).1,((along_append _ _ _).mp undisturbed).1⟩
  have keeps : ∀ (w : Traffic Time Client) step, Orderly w → Fresh w step ∧ Undisturbed w step → Orderly (w.step d step) :=
    fun w step orderly good => step_orderly d orderly step good.1 good.2
  have orderly := run_preserves keeps (orderly_start users) both
  exact singleUse_of_orderly d orderly

end Phases

section Undisturbed

variable {w : Traffic Time Client} {c : Client} {now : Time} {p : Payload}

theorem verify_undisturbed [Semiring Time] [LinearOrder Time] (unturned : p ∉ w.turnedAway) (valid : claimsRejection now p = none) :
    Undisturbed w (now, .verify c p) := fun _ _ _ _ => ⟨unturned,fun rejected => absurd valid rejected⟩

theorem lookUp_undisturbed [Semiring Time] [LinearOrder Time]
    (here : w.phase c = .verified p) (unrevoked : revokedNow w.store now p = false) :
    Undisturbed w (now, .lookUp c) := by
  intro q same _ _ revoked
  rw [here] at same
  cases same
  rw [unrevoked] at revoked
  cases revoked

theorem writeFamily_undisturbed [Semiring Time] [LinearOrder Time] (row : Option TokenFamily) (here : w.phase c = .holding p row)
    (unchanged : Unchanged w.store p row) : Undisturbed w (now, .writeFamily c) := by
  intro q other same
  rw [here] at same
  cases same
  exact unchanged

end Undisturbed

section Race

/-- Sign-in and one rotation; then both clients present the second refresh token, and each
reads the family's row before the other writes it. -/
def race : List (ℚ≥0 × TrafficStep ℚ≥0 Bool) :=
  let first := issueRefreshToken (1 : ℚ≥0) "r1" "usr-ada" "global" "sess-a" "fam-a" 86400 false
  let second := issueRefreshToken (5 : ℚ≥0) "r2" "usr-ada" "global" "sess-a" "fam-a" 86400 false
  [(1, .login ⟨"usr-ada","global",.active⟩ ⟨"a","a","a1","r1"⟩ false),
    (5, .verify true first), (5, .lookUp true), (5, .readFamily true), (5, .writeFamily true), (5, .issue true ⟨"","","a2","r2"⟩),
    (6, .verify true second), (6, .verify false second), (6, .lookUp true), (6, .lookUp false), (6, .readFamily true),
    (6, .readFamily false), (6, .writeFamily true), (6, .writeFamily false), (6, .issue true ⟨"","","a3","r3"⟩),
    (6, .issue false ⟨"","","a4","r4"⟩)]

theorem race_rotates_twice : ¬∀ (d : Deployment) (users : Table String User) (steps : List (ℚ≥0 × TrafficStep ℚ≥0 Bool)),
    Along (Traffic.step d) Fresh (Traffic.start users) steps → ∀ done, done <+: steps →
    SingleUse d (run (Traffic.step d) (Traffic.start users) done) := by
  intro always
  have fresh : Along (Traffic.step tenSeconds) Fresh (Traffic.start visitors) race := by
    refine ⟨?_,trivial,trivial,trivial,trivial,?_,trivial,trivial,trivial,trivial,trivial,trivial,trivial,trivial,?_,?_,trivial⟩
    all_goals
      simp only [Fresh]
      decide +kernel
  have single := always tenSeconds visitors race fresh race (List.prefix_refl race)
  have twice : ((run (Traffic.step tenSeconds) (Traffic.start visitors) race).rotations.map Payload.jti).count "tok-ref-r2" = 2 := by
    decide +kernel
  have once := single.once "tok-ref-r2"
  omega

/-- The first refresh token is rotated and then presented by the other client. -/
def reuse : List (ℚ≥0 × TrafficStep ℚ≥0 Bool) :=
  let first := issueRefreshToken (1 : ℚ≥0) "r1" "usr-ada" "global" "sess-a" "fam-a" 86400 false
  [(1, .login ⟨"usr-ada","global",.active⟩ ⟨"a","a","a1","r1"⟩ false),
    (5, .verify true first), (5, .lookUp true), (5, .readFamily true), (5, .writeFamily true), (5, .issue true ⟨"","","a2","r2"⟩),
    (6, .verify false first), (6, .lookUp false), (6, .readFamily false), (6, .writeFamily false)]

theorem reuse_single_use :
    SingleUse tenSeconds (run (Traffic.step tenSeconds) (Traffic.start visitors) reuse) := by
  let first := issueRefreshToken (1 : ℚ≥0) "r1" "usr-ada" "global" "sess-a" "fam-a" 86400 false
  refine refresh_tokens_single_use tenSeconds visitors reuse ?_ ?_ reuse (List.prefix_refl reuse)
  · refine ⟨?_,trivial,trivial,trivial,trivial,?_,trivial,trivial,trivial,trivial,trivial⟩
    all_goals
      simp only [Fresh]
      decide +kernel
  · refine ⟨trivial,?_,?_,trivial,?_,trivial,?_,?_,trivial,?_,trivial⟩
    · exact verify_undisturbed (by decide +kernel) (by decide +kernel)
    · exact lookUp_undisturbed (p := first) (by decide +kernel) (by decide +kernel)
    · refine writeFamily_undisturbed (p := first) none (by decide +kernel) ?_
      simp only [Unchanged,Store.decideUse]
      decide +kernel
    · exact verify_undisturbed (by decide +kernel) (by decide +kernel)
    · exact lookUp_undisturbed (p := first) (by decide +kernel) (by decide +kernel)
    · exact writeFamily_undisturbed (p := first) (some ⟨false,[first.jti]⟩) (by decide +kernel) trivial

end Race
end CloudLens.Identity
