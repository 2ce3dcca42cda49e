import CloudLens.Connectors.Executor
import CloudLens.Library.Runs

/-! What a circuit breaker is for: counting failed calls while closed, refusing
calls for the recovery timeout, and counting successful probes afterwards. The
breakers of the execution engine are compared with that over runs of calls. -/
namespace CloudLens.Connectors
open Library.Runs

/-- A breaker as its thresholds describe it, one count for each call. -/
inductive Phase
  | closed (failures : ℕ)
  | opened (since : ℕ)
  | probing (successes : ℕ)

inductive Verdict
  | refused
  | succeeded
  | failed (reading : ℕ)

namespace Phase

def visible (settings : BreakerSettings) (reading : ℕ) : Phase → CircuitBreakerState
  | closed _ => .closed
  | opened since => if settings.recoveryTimeout ≤ reading - since then .halfOpen else .opened
  | probing _ => .halfOpen

def consulted (settings : BreakerSettings) (reading : ℕ) : Phase → Phase
  | opened since => if settings.recoveryTimeout ≤ reading - since then probing 0 else opened since
  | phase => phase

def succeed (settings : BreakerSettings) : Phase → Phase
  | closed _ => closed 0
  | opened since => opened since
  | probing successes => if settings.successThreshold ≤ successes + 1 then closed 0 else probing (successes + 1)

def fail (settings : BreakerSettings) (reading : ℕ) : Phase → Phase
  | closed failures => if settings.failureThreshold ≤ failures + 1 then opened reading else closed (failures + 1)
  | opened since => opened since
  | probing _ => opened reading

def observe (settings : BreakerSettings) (asked : ℕ) (phase : Phase) : Verdict → Phase
  | .refused => phase
  | .succeeded => (phase.consulted settings asked).succeed settings
  | .failed reading => (phase.consulted settings asked).fail settings reading

end Phase

/-- A call that passed its guards and did not return has failed. -/
def CallReport.verdict {Result : Type} (report : CallReport Result) : Verdict :=
  match report.outcome with
  | .missingTenantContext => .refused
  | .undeclaredCapability => .refused
  | .circuitBreakerOpen => .refused
  | .quotaExhausted => .refused
  | .returned _ => .succeeded
  | .rateLimitExceeded => .failed report.settledAt
  | .providerRawError _ _ => .failed report.settledAt
  | .raised _ => .failed report.settledAt

section Tracking

variable {settings : BreakerSettings} {now later : ℕ} {breaker : CapabilityCircuitBreaker} {phase : Phase}

/-- The breaker stands where the phase does; while probing it has counted every
success twice. -/
def Tracks (settings : BreakerSettings) (now : ℕ) (breaker : CapabilityCircuitBreaker) : Phase → Prop
  | .closed failures => breaker.state = .closed ∧ breaker.consecutiveFailures = failures
  | .opened since => breaker.state = .opened ∧ breaker.lastStateChange = since ∨
      breaker.state = .halfOpen ∧ breaker.consecutiveSuccesses = 0 ∧ settings.recoveryTimeout ≤ now - since
  | .probing successes => breaker.state = .halfOpen ∧ breaker.consecutiveSuccesses = 2 * successes

theorem Tracks.mono (tracks : Tracks settings now breaker phase) (order : now ≤ later) : Tracks settings later breaker phase := by
  cases phase with
  | closed failures => exact tracks
  | probing successes => exact tracks
  | opened since =>
    refine tracks.imp_right (fun expired => ⟨expired.1,expired.2.1,?_⟩)
    exact expired.2.2.trans (Nat.sub_le_sub_right order since)

theorem Tracks.visible (tracks : Tracks settings now breaker phase) (order : now ≤ later) :
    (breaker.readState settings later).state = phase.visible settings later := by
  unfold CapabilityCircuitBreaker.readState
  cases phase with
  | closed failures => simp [tracks.1,Phase.visible]
  | probing successes => simp [tracks.1,Phase.visible]
  | opened since =>
    rcases tracks with ⟨isOpen,changed⟩ | ⟨halfOpen,_,expired⟩
    · by_cases due : settings.recoveryTimeout ≤ later - since
      · simp [isOpen,changed,due,Phase.visible]
      · simp [isOpen,changed,due,Phase.visible]
    · have due : settings.recoveryTimeout ≤ later - since := expired.trans (Nat.sub_le_sub_right order since)
      simp [halfOpen,due,Phase.visible]

theorem Tracks.readState (tracks : Tracks settings now breaker phase) :
    Tracks settings now (breaker.readState settings now) phase := by
  unfold CapabilityCircuitBreaker.readState
  split
  · rename_i expired
    cases phase with
    | closed failures => exact absurd (expired.1.symm.trans tracks.1) (by decide)
    | probing successes => exact absurd (expired.1.symm.trans tracks.1) (by decide)
    | opened since =>
      rcases tracks with ⟨_,changed⟩ | ⟨halfOpen,_,_⟩
      · exact Or.inr ⟨rfl,rfl,changed ▸ expired.2⟩
      · exact absurd (expired.1.symm.trans halfOpen) (by decide)
  · exact tracks

theorem Tracks.consulted (tracks : Tracks settings now breaker phase) (admitted : ¬breaker.Refuses settings now) :
    Tracks settings now (breaker.readState settings now) (phase.consulted settings now) := by
  cases phase with
  | closed failures => exact tracks.readState
  | probing successes => exact tracks.readState
  | opened since =>
    have shown : (breaker.readState settings now).state = (Phase.opened since).visible settings now := tracks.visible le_rfl
    by_cases due : settings.recoveryTimeout ≤ now - since
    · rcases tracks.readState with ⟨isOpen,_⟩ | ⟨halfOpen,none,_⟩
      · exact absurd isOpen admitted
      · simpa [Phase.consulted,due,Tracks] using ⟨halfOpen,none⟩
    · exact absurd (shown.trans (by simp [Phase.visible,due])) admitted

theorem Phase.consulted_settled (admitted : phase.visible settings now ≠ .opened) (since : ℕ) :
    phase.consulted settings now ≠ .opened since := by
  cases phase with
  | closed failures => simp [Phase.consulted]
  | probing successes => simp [Phase.consulted]
  | opened started =>
    by_cases due : settings.recoveryTimeout ≤ now - started
    · simp [Phase.consulted,due]
    · exact absurd (by simp [Phase.visible,due]) admitted

theorem Tracks.recordFailure (tracks : Tracks settings now breaker phase)
    (settled : ∀ since, phase ≠ .opened since) : Tracks settings now (breaker.recordFailure settings now) (phase.fail settings now) := by
  cases phase with
  | opened since => exact absurd rfl (settled since)
  | probing successes => simp [CapabilityCircuitBreaker.recordFailure,tracks.1,Phase.fail,Tracks]
  | closed failures =>
    obtain ⟨isClosed,counted⟩ := tracks
    by_cases reached : settings.failureThreshold ≤ failures + 1
    · simp [CapabilityCircuitBreaker.recordFailure,isClosed,counted,reached,Phase.fail,Tracks]
    · simp [CapabilityCircuitBreaker.recordFailure,isClosed,counted,reached,Phase.fail,Tracks]

/-- The half open breaker closes on a success that is not yet the last one needed. -/
def ClosesEarly (settings : BreakerSettings) (breaker : CapabilityCircuitBreaker) : Prop :=
  breaker.state = .halfOpen ∧ breaker.consecutiveSuccesses / 2 + 1 < settings.successThreshold ∧
    settings.successThreshold ≤ breaker.consecutiveSuccesses + 2

theorem Tracks.recordSuccess (tracks : Tracks settings now breaker phase) (settled : ∀ since, phase ≠ .opened since)
    (timely : ¬ClosesEarly settings breaker) :
    Tracks settings now ((breaker.recordSuccess settings now).recordSuccess settings now) (phase.succeed settings) := by
  cases phase with
  | opened since => exact absurd rfl (settled since)
  | closed failures => simp [CapabilityCircuitBreaker.recordSuccess,tracks.1,Phase.succeed,Tracks]
  | probing successes =>
    obtain ⟨halfOpen,counted⟩ := tracks
    simp only [ClosesEarly,halfOpen,true_and,counted,not_and,not_le] at timely
    have half : 2 * successes / 2 = successes := by omega
    rw [half] at timely
    by_cases enough : settings.successThreshold ≤ successes + 1
    · by_cases first : settings.successThreshold ≤ 2 * successes + 1
      · simp [CapabilityCircuitBreaker.recordSuccess,halfOpen,counted,first,enough,Phase.succeed,Tracks]
      · omega
    · have later := timely (by omega)
      have first : ¬settings.successThreshold ≤ 2 * successes + 1 := by omega
      have second : ¬settings.successThreshold ≤ 2 * successes + 1 + 1 := by omega
      simp [CapabilityCircuitBreaker.recordSuccess,halfOpen,counted,first,second,enough,Phase.succeed,Tracks]
      omega

end Tracking

section Attempts

variable {Result : Type} {call : CapabilityCall Result} {given : Attempt Result} {m : Manager} {start trace : List CallEvent}

/-- Nothing after the provider's answer raises: audit and landing accept it. -/
def NothingRaised (call : CapabilityCall Result) (given : Attempt Result) (result : Option Result) : Prop :=
  (∀ event, given.audit event = none) ∧ (call.landPayload ∧ result.isSome → given.landing = none)

/-- The attempts up to the deciding one get their token and slot, and nothing is
raised after the operation succeeded. -/
def Undisturbed (call : CapabilityCall Result) : ℕ → ℕ → Prop
  | 0, _ => False
  | left + 1, attempt =>
    (call.attempts attempt).token = true ∧ (call.attempts attempt).slot = true ∧
      match (call.attempts attempt).answer with
      | .ok result => NothingRaised call (call.attempts attempt) result
      | .error error => isThrottled error = true ∧ (attempt : ℤ) < call.maxRetries → Undisturbed call left (attempt + 1)

def Succeeds (call : CapabilityCall Result) : ℕ → ℕ → Prop
  | 0, _ => False
  | left + 1, attempt =>
    match (call.attempts attempt).answer with
    | .ok _ => True
    | .error error => isThrottled error = true ∧ (attempt : ℤ) < call.maxRetries ∧ Succeeds call left (attempt + 1)

/-- After a successful execution nothing is executed again or recorded as failed. -/
def SettledBySuccess (events : List CallEvent) : Prop :=
  ∀ before after, events = before ++ .executed true :: after → .recordedFailure ∉ after ∧ ∀ succeeded, .executed succeeded ∉ after

structure Spares (connector : String) (capability : ConnectorCapability) (m after : Manager) : Prop where
  settings : after.settings = m.settings
  now : m.now ≤ after.now
  others : ∀ other wanted, ¬(other = connector ∧ wanted = capability) → after.breakers other wanted = m.breakers other wanted

theorem Spares.refl (connector : String) (capability : ConnectorCapability) (m : Manager) : Spares connector capability m m :=
  ⟨rfl,le_rfl,fun _ _ _ => rfl⟩

theorem Spares.trans {connector : String} {capability : ConnectorCapability} {first second third : Manager}
    (left : Spares connector capability first second) (right : Spares connector capability second third) :
    Spares connector capability first third :=
  ⟨right.settings.trans left.settings,left.now.trans right.now,
    fun other wanted apart => (right.others other wanted apart).trans (left.others other wanted apart)⟩

theorem updateBreaker_spares (change : CapabilityCircuitBreaker → CapabilityCircuitBreaker) :
    Spares call.key.2 call.capability m (m.updateBreaker call.key.2 call.capability change) :=
  ⟨rfl,le_rfl,fun _ _ apart => if_neg apart⟩

theorem wait_spares (ticks : ℕ) : Spares call.key.2 call.capability m (m.wait ticks) :=
  ⟨rfl,Nat.le_add_right _ _,fun _ _ _ => rfl⟩

theorem recordCapabilitySuccess_spares (lag : ℕ) (audit : Audit) :
    Spares call.key.2 call.capability m (recordCapabilitySuccess m call.key call.capability lag audit).1 := by
  by_cases named : call.key.1 = ""
  · unfold recordCapabilitySuccess
    rw [if_pos named]
    exact Spares.refl _ _ _
  · have tracked : Spares call.key.2 call.capability m (trackSuccess m call.key call.capability lag) := by
      refine ⟨rfl,Nat.le_add_right _ _,fun other wanted apart => ?_⟩
      rw [trackSuccess_breakers]
      exact if_neg apart
    rw [success_manager named]
    split
    · exact ⟨tracked.settings,tracked.now,tracked.others⟩
    · exact tracked

theorem recordCapabilityFailure_spares (detail : CapabilityErrorDetail) (lag : ℕ) (audit : Audit) :
    Spares call.key.2 call.capability m (recordCapabilityFailure m call.key call.capability detail lag audit).1 := by
  by_cases named : call.key.1 = ""
  · unfold recordCapabilityFailure
    rw [if_pos named]
    exact Spares.refl _ _ _
  · refine ⟨failure_settings named,?_,fun other wanted apart => ?_⟩
    · rw [failure_now named]
      exact Nat.le_add_right _ _
    · rw [failure_breakers named]
      exact if_neg apart

theorem runOperation_spares : Spares call.key.2 call.capability m (runOperation call given m).1 := by
  unfold runOperation
  split
  · exact Spares.refl _ _ _
  · exact (updateBreaker_spares _).trans (recordCapabilitySuccess_spares _ _)

theorem attemptCall_spares (left attempt : ℕ) (m : Manager) (trace : List CallEvent) :
    Spares call.key.2 call.capability m (attemptCall call left attempt m trace).1 := by
  induction left generalizing attempt m trace with
  | zero => exact Spares.refl _ _ _
  | succ left ih =>
    have waited : Spares call.key.2 call.capability m (m.wait (call.attempts attempt).ticks) := wait_spares _
    unfold attemptCall
    dsimp only
    split_ifs
    · exact waited
    · exact waited.trans (ih _ _ _)
    · have operated : Spares call.key.2 call.capability m
          (runOperation call (call.attempts attempt) (m.wait (call.attempts attempt).ticks)).1 :=
        waited.trans runOperation_spares
      split
      · exact operated
      · split_ifs
        · exact operated.trans (ih _ _ _)
        · exact operated.trans (recordCapabilityFailure_spares _ _ _)

variable (call m) in
theorem executeCapability_spares : Spares call.key.2 call.capability m (executeCapability m call).1 := by
  have asked : Spares call.key.2 call.capability m (m.readBreaker call.key.2 call.capability) := updateBreaker_spares _
  unfold executeCapability
  dsimp only
  split_ifs
  · exact Spares.refl _ _ _
  · exact Spares.refl _ _ _
  · exact asked
  · exact asked
  · exact asked.trans (attemptCall_spares _ _ _ _)

theorem runOperation_success {result : Option Result} (named : call.key.1 ≠ "") (answered : given.answer = .ok result)
    (quiet : NothingRaised call given result) :
    (runOperation call given m).2 = ([.executed true, .recordedSuccess, .recordedSuccess], none) ∧
    (runOperation call given m).1.now = m.now + given.lag ∧
    (runOperation call given m).1.breakers call.key.2 call.capability =
      (((m.breakers call.key.2 call.capability).recordSuccess m.settings m.now).recordSuccess m.settings m.now).readState
        m.settings (m.now + given.lag) := by
  have accepted := success_accepted (m.updateBreaker call.key.2 call.capability
    (CapabilityCircuitBreaker.recordSuccess m.settings m.now)) call.capability given.lag named quiet.1
  obtain ⟨record,accepted⟩ := accepted
  unfold runOperation
  rw [answered]
  refine ⟨?_,success_now named,?_⟩
  · simp only [accepted,problemAfter]
    split
    · rename_i landed
      rw [quiet.2 landed]
    · rfl
  · dsimp only
    rw [success_breakers named,trackSuccess_breakers]
    simp [Manager.updateBreaker]

/-- What the attempts of a call come to: its events, its verdict, and where the
breaker then stands. -/
structure Settled (call : CapabilityCall Result) (settings : BreakerSettings) (phase : Phase) (trace : List CallEvent)
    (answer : Manager × CallReport Result) : Prop where
  traced : ∃ events, answer.2.trace = trace ++ events ∧ SettledBySuccess events
  verdict : answer.2.verdict = .succeeded ∧
      Tracks settings answer.1.now (answer.1.breakers call.key.2 call.capability) (phase.succeed settings) ∨
    ∃ reading, answer.2.verdict = .failed reading ∧
      Tracks settings answer.1.now (answer.1.breakers call.key.2 call.capability) (phase.fail settings reading)

theorem settledBySuccess_failed : SettledBySuccess [.executed false, .recordedFailure] := by
  intro before after split
  have inside : CallEvent.executed true ∈ [.executed false, .recordedFailure] := by rw [split]; simp
  simp at inside

theorem settledBySuccess_returned : SettledBySuccess [.executed true, .recordedSuccess, .recordedSuccess] := by
  intro before after split
  cases before with
  | nil =>
    simp only [List.nil_append,List.cons.injEq,true_and] at split
    rw [← split]
    simp
  | cons first before =>
    simp only [List.cons_append,List.cons.injEq] at split
    have inside : CallEvent.executed true ∈ [.recordedSuccess, .recordedSuccess] := by rw [split.2]; simp
    simp at inside

theorem SettledBySuccess.after_failed {events : List CallEvent} (settled : SettledBySuccess events) :
    SettledBySuccess (.executed false :: events) := by
  intro before after split
  cases before with
  | nil => simp at split
  | cons first before =>
    simp only [List.cons_append,List.cons.injEq] at split
    exact settled before after split.2

theorem failCall_settled {phase : Phase} (error : String) (named : call.key.1 ≠ "")
    (tracks : Tracks m.settings m.now (m.breakers call.key.2 call.capability) phase)
    (settled : ∀ since, phase ≠ .opened since) :
    Settled call m.settings phase trace (failCall call given error m (trace ++ [.executed false])) := by
  have recorded : Tracks m.settings (m.now + given.lag)
      (((m.breakers call.key.2 call.capability).recordFailure m.settings m.now).readState m.settings (m.now + given.lag))
      (phase.fail m.settings m.now) :=
    ((tracks.recordFailure settled).mono (Nat.le_add_right _ _)).readState
  refine ⟨⟨[.executed false, .recordedFailure],?_,settledBySuccess_failed⟩,Or.inr ⟨m.now,?_,?_⟩⟩
  · simp [failCall]
  · unfold failCall CallReport.verdict
    dsimp only
    cases (recordCapabilityFailure m call.key call.capability
      ⟨call.capability,error,generatePlainLanguageExplanation call.providerName call.capability error⟩ given.lag given.audit).2 with
    | error raised => rfl
    | ok record => rfl
  · unfold failCall
    dsimp only
    rw [failure_now named,failure_breakers named]
    simpa using recorded

theorem attemptCall_settled {phase : Phase} (left attempt : ℕ) (m : Manager) (trace : List CallEvent) (named : call.key.1 ≠ "")
    (undisturbed : Undisturbed call left attempt)
    (tracks : Tracks m.settings m.now (m.breakers call.key.2 call.capability) phase)
    (settled : ∀ since, phase ≠ .opened since)
    (timely : Succeeds call left attempt → ¬ClosesEarly m.settings (m.breakers call.key.2 call.capability)) :
    Settled call m.settings phase trace (attemptCall call left attempt m trace) := by
  induction left generalizing attempt m trace with
  | zero => exact absurd undisturbed id
  | succ left ih =>
    obtain ⟨token,slot,rest⟩ := undisturbed
    have waited : Tracks m.settings (m.now + (call.attempts attempt).ticks) (m.breakers call.key.2 call.capability) phase :=
      tracks.mono (Nat.le_add_right _ _)
    unfold attemptCall
    dsimp only
    rw [if_neg (by simp [token]),if_neg (by simp [slot])]
    cases answered : (call.attempts attempt).answer with
    | ok result =>
      rw [answered] at rest
      have succeeds : Succeeds call (left + 1) attempt := by
        unfold Succeeds
        rw [answered]
        trivial
      obtain ⟨report,now,breaker⟩ := runOperation_success (m := m.wait (call.attempts attempt).ticks) named answered rest
      have recorded := ((waited.recordSuccess settled (timely succeeds)).mono
        (Nat.le_add_right _ (call.attempts attempt).lag)).readState
      generalize runOperation call (call.attempts attempt) (m.wait (call.attempts attempt).ticks) = ran at report now breaker ⊢
      obtain ⟨after,answer⟩ := ran
      dsimp only at report now breaker ⊢
      rw [report]
      refine ⟨⟨_,rfl,settledBySuccess_returned⟩,Or.inl ⟨rfl,?_⟩⟩
      dsimp only
      rw [now,breaker]
      exact recorded
    | error error =>
      rw [answered] at rest
      have ran : runOperation call (call.attempts attempt) (m.wait (call.attempts attempt).ticks) =
          (m.wait (call.attempts attempt).ticks, [.executed false], some error) := by
        unfold runOperation
        rw [answered]
      rw [ran]
      dsimp only
      split
      · rename_i again
        have next := ih (attempt + 1) (m.wait (call.attempts attempt).ticks) (trace ++ [.executed false]) (rest again) waited
          (fun later => timely (by
            unfold Succeeds
            rw [answered]
            exact ⟨again.1,again.2,later⟩))
        obtain ⟨events,listed,quiet⟩ := next.traced
        exact ⟨⟨.executed false :: events,by rw [listed]; simp,quiet.after_failed⟩,next.verdict⟩
      · exact failCall_settled (m := m.wait (call.attempts attempt).ticks) error named waited settled

end Attempts

section Runs

variable {Result : Type}

structure Monitor where
  manager : Manager
  phases : String → ConnectorCapability → Phase

inductive EngineStep (Result : Type)
  | call (call : CapabilityCall Result)
  | wait (ticks : ℕ)

def observeCall (phases : String → ConnectorCapability → Phase) (settings : BreakerSettings) (asked : ℕ)
    (call : CapabilityCall Result) (verdict : Verdict) : String → ConnectorCapability → Phase :=
  fun other wanted =>
    if other = call.key.2 ∧ wanted = call.capability then (phases other wanted).observe settings asked verdict
    else phases other wanted

def execute (monitor : Monitor) : EngineStep Result → Monitor
  | .call call =>
    let (manager, report) := executeCapability monitor.manager call
    ⟨manager,observeCall monitor.phases monitor.manager.settings monitor.manager.now call report.verdict⟩
  | .wait ticks => ⟨monitor.manager.wait ticks,monitor.phases⟩

def Admitted (m : Manager) (call : CapabilityCall Result) : Prop :=
  call.key.1 ≠ "" ∧ call.declared = true ∧ ¬(m.breakers call.key.2 call.capability).Refuses m.settings m.now ∧
    call.withinQuota = true

/-- The calls that do not reach what the breaker gets wrong: no success that
closes it early, no call that ends unrecorded, no error after a success. -/
def Regular (m : Manager) : EngineStep Result → Prop
  | .call call => Admitted m call → Undisturbed call (call.maxRetries + 1).toNat 0 ∧
      (Succeeds call (call.maxRetries + 1).toNat 0 →
        ¬ClosesEarly m.settings ((m.breakers call.key.2 call.capability).readState m.settings m.now))
  | .wait _ => True

def InPhase (monitor : Monitor) : Prop :=
  ∀ connector capability, Tracks monitor.manager.settings monitor.manager.now
    (monitor.manager.breakers connector capability) (monitor.phases connector capability)

variable {m : Manager} {call : CapabilityCall Result} {phases : String → ConnectorCapability → Phase} {monitor : Monitor}

theorem readBreaker_own : (m.readBreaker call.key.2 call.capability).breakers call.key.2 call.capability =
    (m.breakers call.key.2 call.capability).readState m.settings m.now := by
  simp [Manager.readBreaker,Manager.updateBreaker]

theorem executeCapability_own {phase : Phase} (regular : Regular m (.call call))
    (tracks : Tracks m.settings m.now (m.breakers call.key.2 call.capability) phase) :
    SettledBySuccess (executeCapability m call).2.trace ∧
    Tracks m.settings (executeCapability m call).1.now ((executeCapability m call).1.breakers call.key.2 call.capability)
      (phase.observe m.settings m.now (executeCapability m call).2.verdict) := by
  have none : SettledBySuccess [] := by
    intro before after split
    simp at split
  unfold executeCapability
  dsimp only
  split_ifs with unnamed undeclared refused exhausted
  · exact ⟨none,tracks⟩
  · exact ⟨none,tracks⟩
  · refine ⟨none,?_⟩
    dsimp only [CallReport.verdict,Phase.observe]
    rw [readBreaker_own]
    exact tracks.readState
  · refine ⟨none,?_⟩
    dsimp only [CallReport.verdict,Phase.observe]
    rw [readBreaker_own]
    exact tracks.readState
  · rw [readBreaker_own] at refused
    obtain ⟨undisturbed,timely⟩ := regular ⟨unnamed,by simpa using undeclared,refused,by simpa using exhausted⟩
    have consulted := tracks.consulted refused
    have settled := Phase.consulted_settled (tracks.visible le_rfl ▸ refused)
    rw [← readBreaker_own] at consulted timely
    have answer := attemptCall_settled (m := m.readBreaker call.key.2 call.capability) (call.maxRetries + 1).toNat 0 [] unnamed
      undisturbed consulted settled timely
    obtain ⟨events,listed,quiet⟩ := answer.traced
    refine ⟨by rw [listed]; exact quiet,?_⟩
    rcases answer.verdict with ⟨succeeded,after⟩ | ⟨reading,failed,after⟩
    · rw [succeeded]
      exact after
    · rw [failed]
      exact after

theorem execute_inPhase {step : EngineStep Result} (inPhase : InPhase monitor) (regular : Regular monitor.manager step) :
    InPhase (execute monitor step) := by
  intro other wanted
  cases step with
  | wait ticks => exact (inPhase other wanted).mono (Nat.le_add_right _ _)
  | call call =>
    have spares := executeCapability_spares call monitor.manager
    unfold execute observeCall
    dsimp only
    rw [spares.settings]
    by_cases own : other = call.key.2 ∧ wanted = call.capability
    · obtain ⟨rfl,rfl⟩ := own
      rw [if_pos ⟨rfl,rfl⟩]
      exact (executeCapability_own regular (inPhase _ _)).2
    · rw [if_neg own,spares.others other wanted own]
      exact (inPhase other wanted).mono spares.now

theorem execute_settings (step : EngineStep Result) : (execute monitor step).manager.settings = monitor.manager.settings := by
  cases step with
  | wait ticks => rfl
  | call call => exact (executeCapability_spares _ _).settings

theorem attemptCall_outcome (left attempt : ℕ) (m : Manager) (trace : List CallEvent) :
    (attemptCall call left attempt m trace).2.outcome ≠ .circuitBreakerOpen := by
  have failed : ∀ given error (after : Manager) events, (failCall call given error after events).2.outcome ≠ .circuitBreakerOpen := by
    intro given error after events
    unfold failCall
    dsimp only
    split
    · simp
    · simp
  induction left generalizing attempt m trace with
  | zero => simp [attemptCall]
  | succ left ih =>
    unfold attemptCall
    dsimp only
    split_ifs
    · simp
    · exact ih _ _ _
    · split
      · simp
      · split_ifs
        · exact ih _ _ _
        · exact failed _ _ _ _

theorem circuitBreakerOpen_iff (m : Manager) (call : CapabilityCall Result) :
    (executeCapability m call).2.outcome = .circuitBreakerOpen ↔
      call.key.1 ≠ "" ∧ call.declared = true ∧ (m.breakers call.key.2 call.capability).Refuses m.settings m.now := by
  unfold executeCapability CapabilityCircuitBreaker.Refuses
  dsimp only
  rw [readBreaker_own]
  split_ifs with unnamed undeclared refused exhausted
  · simp [unnamed]
  · simp [undeclared]
  · simp [refused,unnamed,undeclared]
  · simp [refused]
  · simp [refused,attemptCall_outcome]

/-- What the thresholds say of a run: at every later reading a breaker shows the
phase its calls lead to, a call is refused exactly in an open phase and then does
nothing, no call executes again or records as failed what succeeded, and no call
changes another capability's breaker. -/
structure ObeysThresholds (start : Monitor) (steps : List (EngineStep Result)) : Prop where
  shows : ∀ done, done <+: steps → ∀ connector capability reading, (run execute start done).manager.now ≤ reading →
    (((run execute start done).manager.breakers connector capability).readState start.manager.settings reading).state =
      ((run execute start done).phases connector capability).visible start.manager.settings reading
  refuses : ∀ done call, done ++ [.call call] <+: steps →
    let before := run execute start done
    (executeCapability before.manager call).2.outcome = .circuitBreakerOpen ↔ call.key.1 ≠ "" ∧ call.declared = true ∧
      (before.phases call.key.2 call.capability).visible start.manager.settings before.manager.now = .opened
  settled : ∀ done call, done ++ [.call call] <+: steps →
    SettledBySuccess (executeCapability (run execute start done).manager call).2.trace
  separate : ∀ done call, done ++ [.call call] <+: steps → ∀ other wanted, ¬(other = call.key.2 ∧ wanted = call.capability) →
    (run execute start (done ++ [.call call])).manager.breakers other wanted =
      (run execute start done).manager.breakers other wanted

def allClosed (m : Manager) : Monitor := ⟨m,fun _ _ => .closed 0⟩

theorem breaker_obeys_thresholds (m : Manager) (fresh : ∀ connector capability, m.breakers connector capability = .fresh)
    (steps : List (EngineStep Result))
    (regular : Along execute (fun monitor step => Regular monitor.manager step) (allClosed m) steps) :
    ObeysThresholds (allClosed m) steps := by
  have start : InPhase (allClosed m) := by
    intro connector capability
    have isFresh : (allClosed m).manager.breakers connector capability = .fresh := fresh connector capability
    rw [isFresh]
    exact ⟨rfl,rfl⟩
  have split : ∀ done rest, steps = done ++ rest → InPhase (run execute (allClosed m) done) ∧
      (run execute (allClosed m) done).manager.settings = m.settings ∧
      Along execute (fun monitor step => Regular monitor.manager step) (run execute (allClosed m) done) rest := by
    intro done rest parts
    rw [parts,along_append] at regular
    refine ⟨run_preserves (fun _ _ => execute_inPhase) start regular.1,?_,regular.2⟩
    have keeps : ∀ (before : Monitor) (step : EngineStep Result), before.manager.settings = m.settings →
        (execute before step).manager.settings = m.settings :=
      fun before step same => (execute_settings step).trans same
    exact run_invariant keeps done rfl
  refine ⟨?_,?_,?_,?_⟩
  · rintro done ⟨rest,parts⟩ connector capability reading order
    obtain ⟨inPhase,settings,_⟩ := split done rest parts.symm
    have shown := (inPhase connector capability).visible order
    rw [settings] at shown
    exact shown
  · rintro done call ⟨rest,parts⟩
    obtain ⟨inPhase,settings,_⟩ := split done (.call call :: rest) (by rw [← parts]; simp)
    have shown := (inPhase call.key.2 call.capability).visible le_rfl
    dsimp only
    rw [circuitBreakerOpen_iff]
    unfold CapabilityCircuitBreaker.Refuses
    rw [shown,settings]
    exact Iff.rfl
  · rintro done call ⟨rest,parts⟩
    obtain ⟨inPhase,_,regular,_⟩ := split done (.call call :: rest) (by rw [← parts]; simp)
    exact (executeCapability_own regular (inPhase _ _)).1
  · rintro done call _ other wanted apart
    rw [run_append]
    exact (executeCapability_spares _ _).others other wanted apart

def singleAttempt (answer : Except String (Option Unit)) (landing : Option String) : CapabilityCall Unit where
  key := ("t", "c")
  capability := .discoverResources
  providerName := "aws"
  declared := true
  withinQuota := true
  maxRetries := 0
  landPayload := true
  attempts := fun _ => ⟨0,true,true,answer,0,fun _ => none,landing⟩

def freshEngine : Manager where
  settings := ⟨5,30,2⟩
  now := 0
  breakers := fun _ _ => .fresh
  states := fun _ => .active
  capabilityHealth := fun _ _ => none

/-- One success closes this engine's breakers. -/
def promptEngine : Manager := { freshEngine with settings := ⟨3,30,1⟩ }

/-- Three failures of one capability, a success of another, a call too early, a probe
that fails and one that succeeds. -/
def recovery : List (EngineStep Unit) :=
  let failing := EngineStep.call (singleAttempt (.error "500") none)
  let succeeding := EngineStep.call (singleAttempt (.ok (some ())) none)
  [failing, failing, failing, .call { singleAttempt (.ok (some ())) none with capability := .collectTags }, .wait 10, succeeding, .wait 20,
    failing, .wait 30, succeeding]

theorem regular_of_undisturbed (few : m.settings.successThreshold ≤ 1) (undisturbed : Undisturbed call (call.maxRetries + 1).toNat 0) :
    Regular m (.call call) := by
  refine fun _ => ⟨undisturbed,?_⟩
  rintro _ ⟨_,early,_⟩
  omega

theorem along_regular {steps : List (EngineStep Result)} {settings : BreakerSettings}
    (each : ∀ step ∈ steps, ∀ m : Manager, m.settings = settings → Regular m step) (same : monitor.manager.settings = settings) :
    Along execute (fun monitor step => Regular monitor.manager step) monitor steps := by
  induction steps generalizing monitor with
  | nil => trivial
  | cons step rest ih =>
    exact ⟨each step List.mem_cons_self _ same,
      ih (fun other member => each other (List.mem_cons_of_mem _ member)) ((execute_settings step).trans same)⟩

theorem recovery_regular : ∀ step ∈ recovery, ∀ m : Manager, m.settings = promptEngine.settings → Regular m step := by
  have failed : Undisturbed (singleAttempt (.error "500") none) 1 0 := ⟨rfl,rfl,fun again => absurd again.1 (by decide +kernel)⟩
  have returned : Undisturbed (singleAttempt (.ok (some ())) none) 1 0 := ⟨rfl,rfl,fun _ => rfl,fun _ => rfl⟩
  have other : Undisturbed { singleAttempt (.ok (some ())) none with capability := .collectTags } 1 0 :=
    ⟨rfl,rfl,fun _ => rfl,fun _ => rfl⟩
  intro step member m same
  have few : m.settings.successThreshold ≤ 1 := by rw [same]; exact le_rfl
  simp only [recovery,List.mem_cons,List.not_mem_nil,or_false] at member
  rcases member with rfl | rfl | rfl | rfl | rfl | rfl | rfl | rfl | rfl | rfl
  · exact regular_of_undisturbed few failed
  · exact regular_of_undisturbed few failed
  · exact regular_of_undisturbed few failed
  · exact regular_of_undisturbed few other
  · trivial
  · exact regular_of_undisturbed few returned
  · trivial
  · exact regular_of_undisturbed few failed
  · trivial
  · exact regular_of_undisturbed few returned

theorem breaker_obeys_thresholds_recovery : ObeysThresholds (allClosed promptEngine) recovery ∧
    (List.range 11).map (fun n => ((run execute (allClosed promptEngine) (recovery.take n)).manager.breakers "c" .discoverResources).state) =
      [.closed, .closed, .closed, .opened, .opened, .opened, .opened, .opened, .opened, .opened, .closed] ∧
    (run execute (allClosed promptEngine) (recovery.take 6)).phases "c" .discoverResources = .opened 0 ∧
    (run execute (allClosed promptEngine) (recovery.take 8)).phases "c" .discoverResources = .opened 30 ∧
    (run execute (allClosed promptEngine) recovery).phases "c" .discoverResources = .closed 0 :=
  ⟨breaker_obeys_thresholds promptEngine (fun _ _ => rfl) recovery (along_regular recovery_regular rfl),by decide +kernel,rfl,rfl,rfl⟩

def hastyRecovery : List (EngineStep Unit) :=
  let failing := EngineStep.call (singleAttempt (.error "500") none)
  [failing, failing, failing, failing, failing, .wait 30, .call (singleAttempt (.ok (some ())) none)]

/-- A result that cannot be landed is recorded as a failure of the provider. -/
def unlandedResult : List (EngineStep Unit) := [.call (singleAttempt (.ok (some ())) (some "immutable"))]

theorem probe_counted_twice : ¬ObeysThresholds (allClosed freshEngine) hastyRecovery ∧
    ¬ObeysThresholds (allClosed freshEngine) unlandedResult := by
  constructor
  · intro obeys
    have shown := obeys.shows hastyRecovery List.prefix_rfl "c" .discoverResources 30 (by decide +kernel)
    revert shown
    decide +kernel
  · intro obeys
    have trace : (executeCapability freshEngine (singleAttempt (.ok (some ())) (some "immutable"))).2.trace =
        [] ++ .executed true :: [.recordedSuccess, .recordedSuccess, .recordedFailure] := by decide +kernel
    have quiet := (obeys.settled [] (singleAttempt (.ok (some ())) (some "immutable")) List.prefix_rfl [] _ trace).1
    exact quiet (by simp)

end Runs

end CloudLens.Connectors
