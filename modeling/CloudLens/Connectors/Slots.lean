import CloudLens.Connectors.Executor
import CloudLens.Library.Runs

/-! The concurrency slots of a connector: the limit that throttling halves and
success raises again, and the calls that take slots and give them back on their
way through the retry loop. Any number of calls interleave; what the controller
does under its lock is one step. -/
namespace CloudLens.Connectors
open Library.Runs

structure AdaptiveConcurrencyController where
  minConcurrency : ℕ
  maxConcurrency : ℕ
  currentConcurrency : ℕ
  recoverySuccessThreshold : ℕ
  activeRequests : ℕ
  consecutiveSuccesses : ℕ

namespace AdaptiveConcurrencyController

def create (minConcurrency maxConcurrency initialConcurrency recoverySuccessThreshold : ℕ) : AdaptiveConcurrencyController :=
  ⟨minConcurrency,maxConcurrency,initialConcurrency,recoverySuccessThreshold,0,0⟩

variable (c : AdaptiveConcurrencyController)

/-- The half is that of a number which a float holds exactly. -/
def recordThrottle : AdaptiveConcurrencyController :=
  { c with currentConcurrency := max c.minConcurrency (c.currentConcurrency / 2), consecutiveSuccesses := 0 }

def recordSuccess : AdaptiveConcurrencyController :=
  let successes := c.consecutiveSuccesses + 1
  if c.recoverySuccessThreshold ≤ successes then
    { c with
      currentConcurrency := if c.currentConcurrency < c.maxConcurrency then c.currentConcurrency + 1 else c.currentConcurrency
      consecutiveSuccesses := 0 }
  else { c with consecutiveSuccesses := successes }

def tryAcquire : Option AdaptiveConcurrencyController :=
  if c.activeRequests < c.currentConcurrency then some { c with activeRequests := c.activeRequests + 1 } else none

def releaseSlot : AdaptiveConcurrencyController :=
  if 0 < c.activeRequests then { c with activeRequests := c.activeRequests - 1 } else c

end AdaptiveConcurrencyController

/-- Rounds of 0.05 s within the timeout of 30 s. -/
def slotPolls : ℕ := 600

/-- Where a call stands in the retry loop. From `operating` to `releasing` it holds a slot. -/
inductive CallPhase
  | looping (attempt : ℕ)
  | pacing (attempt : ℕ)
  | polling (attempt left : ℕ)
  | missed (attempt : ℕ)
  | operating (attempt : ℕ)
  | succeeded (attempt : ℕ)
  | settling (attempt : ℕ)
  | caught (attempt : ℕ) (error : String)
  | backingOff (attempt : ℕ)
  | failing
  | releasing (next : Option ℕ)
  | ended
  deriving DecidableEq

def CallPhase.holds : CallPhase → Bool
  | operating _ | succeeded _ | settling _ | caught _ _ | backingOff _ | failing | releasing _ => true
  | looping _ | pacing _ | polling _ _ | missed _ | ended => false

structure SlotCall where
  maxRetries : ℤ
  phase : CallPhase
  deriving DecidableEq

/-- How what a call waits for ends. An interruption is no `Exception`: it passes
the handler by, and only `finally` sees it. -/
inductive Resumption
  | proceeds
  | raises (error : String)
  | interrupted

def resumeCall (c : AdaptiveConcurrencyController) (call : SlotCall) (how : Resumption) : AdaptiveConcurrencyController × CallPhase :=
  match call.phase with
  | .looping attempt => (c, if (attempt : ℤ) ≤ call.maxRetries then .pacing attempt else .ended)
  | .pacing attempt =>
    match how with
    | .proceeds => (c, .polling attempt slotPolls)
    | _ => (c, .ended)
  | .polling attempt left =>
    match how, left with
    | .interrupted, _ => (c, .ended)
    | _, 0 => (c, .missed attempt)
    | _, left + 1 =>
      match c.tryAcquire with
      | some acquired => (acquired, .operating attempt)
      | none => (c, .polling attempt left)
  | .missed attempt =>
    match how with
    | .interrupted => (c, .ended)
    | _ => (c, .looping (attempt + 1))
  | .operating attempt =>
    match how with
    | .proceeds => (c, .succeeded attempt)
    | .raises error => (c, .caught attempt error)
    | .interrupted => (c, .releasing none)
  | .succeeded attempt => (c.recordSuccess, .settling attempt)
  | .settling attempt =>
    -- The breaker, the lifecycle manager or the landing may still raise.
    match how with
    | .raises error => (c, .caught attempt error)
    | _ => (c, .releasing none)
  | .caught attempt error =>
    if isThrottled error = true ∧ (attempt : ℤ) < call.maxRetries then (c.recordThrottle, .backingOff attempt) else (c, .failing)
  | .backingOff attempt =>
    match how with
    | .proceeds => (c, .releasing (some (attempt + 1)))
    | _ => (c, .releasing none)
  | .failing => (c, .releasing none)
  | .releasing next => (c.releaseSlot, next.elim .ended .looping)
  | .ended => (c, .ended)

structure SlotSystem where
  controller : AdaptiveConcurrencyController
  calls : List SlotCall

inductive SlotAction
  | enter (maxRetries : ℤ)
  | resume (call : ℕ) (how : Resumption)

namespace SlotSystem

def start (c : AdaptiveConcurrencyController) : SlotSystem := ⟨c,[]⟩

def step (s : SlotSystem) : SlotAction → SlotSystem
  | .enter maxRetries => { s with calls := s.calls ++ [⟨maxRetries,.looping 0⟩] }
  | .resume i how =>
    match s.calls[i]? with
    | none => s
    | some call => ⟨(resumeCall s.controller call how).1,s.calls.set i { call with phase := (resumeCall s.controller call how).2 }⟩

def holders (s : SlotSystem) : ℕ := s.calls.countP (fun call => call.phase.holds)

def Grants (s : SlotSystem) (action : SlotAction) : Prop :=
  ∃ (i : ℕ) (before after : SlotCall), s.calls[i]? = some before ∧ (s.step action).calls[i]? = some after ∧
    before.phase.holds = false ∧ after.phase.holds = true

structure Balanced (s : SlotSystem) : Prop where
  above : s.controller.minConcurrency ≤ s.controller.currentConcurrency
  below : s.controller.currentConcurrency ≤ s.controller.maxConcurrency
  counted : s.controller.activeRequests = s.holders

end SlotSystem

structure SlotMove (c after : AdaptiveConcurrencyController) (before now : CallPhase) : Prop where
  lowest : after.minConcurrency = c.minConcurrency
  highest : after.maxConcurrency = c.maxConcurrency
  within : c.minConcurrency ≤ c.currentConcurrency → c.currentConcurrency ≤ c.maxConcurrency →
    c.minConcurrency ≤ after.currentConcurrency ∧ after.currentConcurrency ≤ c.maxConcurrency
  counted : after.activeRequests = c.activeRequests + now.holds.toNat - before.holds.toNat
  granted : before.holds = false → now.holds = true → c.activeRequests < c.currentConcurrency

section Steps

variable {c acquired : AdaptiveConcurrencyController} {before now : CallPhase} {call : SlotCall}

theorem slotMove_still (same : before.holds = now.holds) : SlotMove c c before now := by
  refine ⟨rfl,rfl,fun above below => ⟨above,below⟩,?_,?_⟩
  · rw [same,Nat.add_sub_cancel]
  · intro free busy
    rw [same,busy] at free
    cases free

theorem slotMove_recordThrottle (same : before.holds = now.holds) : SlotMove c c.recordThrottle before now := by
  obtain ⟨_,_,_,counted,granted⟩ := slotMove_still (c := c) same
  refine ⟨rfl,rfl,?_,counted,granted⟩
  intro above below
  refine ⟨le_max_left _ _,max_le (above.trans below) ?_⟩
  exact (Nat.div_le_self _ _).trans below

theorem slotMove_recordSuccess (same : before.holds = now.holds) : SlotMove c c.recordSuccess before now := by
  obtain ⟨_,_,_,counted,granted⟩ := slotMove_still (c := c) same
  unfold AdaptiveConcurrencyController.recordSuccess
  dsimp only
  split
  · split
    · rename_i room
      exact ⟨rfl,rfl,fun above _ => ⟨Nat.le_succ_of_le above,room⟩,counted,granted⟩
    · exact ⟨rfl,rfl,fun above below => ⟨above,below⟩,counted,granted⟩
  · exact ⟨rfl,rfl,fun above below => ⟨above,below⟩,counted,granted⟩

theorem slotMove_tryAcquire (room : c.tryAcquire = some acquired) (free : before.holds = false) (busy : now.holds = true) :
    SlotMove c acquired before now := by
  unfold AdaptiveConcurrencyController.tryAcquire at room
  split at room
  · rename_i below
    cases room
    refine ⟨rfl,rfl,fun above below => ⟨above,below⟩,?_,fun _ _ => below⟩
    rw [free,busy]
    rfl
  · cases room

theorem slotMove_releaseSlot (busy : before.holds = true) (free : now.holds = false) : SlotMove c c.releaseSlot before now := by
  unfold AdaptiveConcurrencyController.releaseSlot
  split
  · refine ⟨rfl,rfl,fun above below => ⟨above,below⟩,?_,?_⟩
    · rw [busy,free]
      rfl
    · intro held
      rw [busy] at held
      cases held
  · rename_i none
    refine ⟨rfl,rfl,fun above below => ⟨above,below⟩,?_,?_⟩
    · rw [busy,free]
      simp only [Bool.toNat_false,Bool.toNat_true]
      omega
    · intro held
      rw [busy] at held
      cases held

theorem resumeCall_moves (c : AdaptiveConcurrencyController) (call : SlotCall) (how : Resumption) :
    SlotMove c (resumeCall c call how).1 call.phase (resumeCall c call how).2 := by
  unfold resumeCall
  cases phase : call.phase with
  | looping attempt =>
    apply slotMove_still
    dsimp only
    split <;> rfl
  | pacing attempt => cases how <;> exact slotMove_still rfl
  | polling attempt left =>
    cases how with
    | interrupted => exact slotMove_still rfl
    | proceeds =>
      cases left with
      | zero => exact slotMove_still rfl
      | succ left =>
        dsimp only
        split
        · rename_i acquired room
          exact slotMove_tryAcquire room rfl rfl
        · exact slotMove_still rfl
    | raises error =>
      cases left with
      | zero => exact slotMove_still rfl
      | succ left =>
        dsimp only
        split
        · rename_i acquired room
          exact slotMove_tryAcquire room rfl rfl
        · exact slotMove_still rfl
  | missed attempt => cases how <;> exact slotMove_still rfl
  | operating attempt => cases how <;> exact slotMove_still rfl
  | succeeded attempt => exact slotMove_recordSuccess rfl
  | settling attempt => cases how <;> exact slotMove_still rfl
  | caught attempt error =>
    dsimp only
    split
    · exact slotMove_recordThrottle rfl
    · exact slotMove_still rfl
  | backingOff attempt => cases how <;> exact slotMove_still rfl
  | failing => exact slotMove_still rfl
  | releasing next =>
    apply slotMove_releaseSlot rfl
    cases next <;> rfl
  | ended => exact slotMove_still rfl

end Steps

namespace SlotSystem

variable {s : SlotSystem}

theorem holds_le_holders {i : ℕ} {call : SlotCall} (found : s.calls[i]? = some call) : call.phase.holds.toNat ≤ s.holders := by
  cases busy : call.phase.holds with
  | false => exact Nat.zero_le _
  | true => exact List.countP_pos_iff.mpr ⟨call,List.mem_of_getElem? found,busy⟩

theorem holders_set {i : ℕ} {call after : SlotCall} (found : s.calls[i]? = some call) (c : AdaptiveConcurrencyController) :
    (SlotSystem.mk c (s.calls.set i after)).holders = s.holders + after.phase.holds.toNat - call.phase.holds.toNat := by
  obtain ⟨bound,same⟩ := List.getElem?_eq_some_iff.mp found
  have held := holds_le_holders found
  unfold holders at held ⊢
  rw [List.countP_set bound,same]
  cases before : call.phase.holds <;> cases now : after.phase.holds <;>
    simp only [before,Bool.toNat_true,Bool.toNat_false,Bool.false_eq_true,if_false,if_true] at held ⊢ <;> omega

theorem step_balanced (s : SlotSystem) (action : SlotAction) (balanced : s.Balanced) : (s.step action).Balanced := by
  obtain ⟨above,below,counted⟩ := balanced
  cases action with
  | enter maxRetries =>
    refine ⟨above,below,counted.trans ?_⟩
    simp [step,holders,CallPhase.holds]
  | resume i how =>
    unfold step
    dsimp only
    split
    · exact ⟨above,below,counted⟩
    · rename_i call found
      have move := resumeCall_moves s.controller call how
      obtain ⟨least,most⟩ := move.within above below
      refine ⟨?_,?_,?_⟩
      · rw [move.lowest]
        exact least
      · rw [move.highest]
        exact most
      · rw [holders_set found,move.counted,counted]

theorem step_bounds (s : SlotSystem) (action : SlotAction) :
    (s.step action).controller.minConcurrency = s.controller.minConcurrency ∧
      (s.step action).controller.maxConcurrency = s.controller.maxConcurrency := by
  cases action with
  | enter maxRetries => exact ⟨rfl,rfl⟩
  | resume i how =>
    unfold step
    dsimp only
    split
    · exact ⟨rfl,rfl⟩
    · rename_i call found
      have move := resumeCall_moves s.controller call how
      exact ⟨move.lowest,move.highest⟩

theorem run_bounds (s : SlotSystem) (actions : List SlotAction) :
    (run step s actions).controller.minConcurrency = s.controller.minConcurrency ∧
      (run step s actions).controller.maxConcurrency = s.controller.maxConcurrency := by
  induction actions generalizing s with
  | nil => exact ⟨rfl,rfl⟩
  | cons action rest ih =>
    obtain ⟨lowest,highest⟩ := step_bounds s action
    obtain ⟨kept,same⟩ := ih (s.step action)
    exact ⟨kept.trans lowest,same.trans highest⟩

theorem grants_below {action : SlotAction} (grants : s.Grants action) :
    s.controller.activeRequests < s.controller.currentConcurrency := by
  obtain ⟨i,before,after,found,later,free,busy⟩ := grants
  cases action with
  | enter maxRetries =>
    have bound := (List.getElem?_eq_some_iff.mp found).1
    rw [step,List.getElem?_append_left bound,found] at later
    cases later
    rw [free] at busy
    cases busy
  | resume j how =>
    unfold step at later
    dsimp only at later
    split at later
    · rw [found] at later
      cases later
      rw [free] at busy
      cases busy
    · rename_i call resumed
      by_cases same : j = i
      · subst same
        rw [found] at resumed
        cases resumed
        have bound := (List.getElem?_eq_some_iff.mp found).1
        rw [List.getElem?_set_self bound] at later
        cases later
        exact (resumeCall_moves s.controller before how).granted free busy
      · rw [List.getElem?_set_ne same,found] at later
        cases later
        rw [free] at busy
        cases busy

theorem holders_eq_zero (quiet : ∀ call ∈ s.calls, call.phase = .ended) : s.holders = 0 := by
  apply List.countP_eq_zero.mpr
  intro call member
  rw [quiet call member]
  decide

end SlotSystem

section Results

variable (minConcurrency maxConcurrency initialConcurrency recoverySuccessThreshold : ℕ)

/-- In every interleaving of calls the limit stays within its bounds, the count is
that of the calls with a slot, and slots are granted below the limit only. -/
theorem slots_balanced (above : minConcurrency ≤ initialConcurrency) (below : initialConcurrency ≤ maxConcurrency)
    (actions : List SlotAction) :
    let controller := AdaptiveConcurrencyController.create minConcurrency maxConcurrency initialConcurrency recoverySuccessThreshold
    let s := run SlotSystem.step (SlotSystem.start controller) actions
    minConcurrency ≤ s.controller.currentConcurrency ∧ s.controller.currentConcurrency ≤ maxConcurrency ∧
      s.controller.activeRequests = s.holders ∧
      (∀ action, s.Grants action → s.controller.activeRequests < s.controller.currentConcurrency) ∧
      ((∀ call ∈ s.calls, call.phase = .ended) → s.controller.activeRequests = 0) := by
  intro controller s
  have first : (SlotSystem.start controller).Balanced := ⟨above,below,rfl⟩
  obtain ⟨least,most,counted⟩ : s.Balanced := run_invariant SlotSystem.step_balanced actions first
  obtain ⟨lowest,highest⟩ := SlotSystem.run_bounds (SlotSystem.start controller) actions
  refine ⟨?_,?_,counted,fun action grants => SlotSystem.grants_below grants,?_⟩
  · exact lowest.symm.trans_le least
  · exact most.trans_eq highest
  · intro quiet
    rw [counted]
    exact SlotSystem.holders_eq_zero quiet

end Results

/-- A call that is throttled once, among two. -/
def halvedOnce : List SlotAction :=
  [.enter 3, .enter 3, .resume 0 .proceeds, .resume 0 .proceeds, .resume 0 .proceeds, .resume 0 (.raises "429"), .resume 0 .proceeds,
    .resume 1 .proceeds, .resume 1 .proceeds, .resume 1 .proceeds, .resume 0 .proceeds, .resume 0 .proceeds]

theorem slots_balanced_throttled :
    let s := run SlotSystem.step (SlotSystem.start (AdaptiveConcurrencyController.create 1 4 2 5)) halvedOnce
    1 ≤ s.controller.currentConcurrency ∧ s.controller.currentConcurrency ≤ 4 ∧ s.controller.activeRequests = s.holders ∧
      (∀ action, s.Grants action → s.controller.activeRequests < s.controller.currentConcurrency) ∧
      ((∀ call ∈ s.calls, call.phase = .ended) → s.controller.activeRequests = 0) :=
  slots_balanced 1 4 2 5 (by decide) (by decide) halvedOnce

end CloudLens.Connectors
