import CloudLens.Library.Casing
import CloudLens.Connectors.Lifecycle
import Mathlib.Data.List.Infix

/-! The guarded execution of one capability call: guards, attempts under the rate
limiter and the concurrency slots, the provider's answer, and how it is recorded.
Limiter, slots, quota, provider, audit service and landing answer as the call's
attempts say; the clock advances by each attempt's ticks. -/
namespace CloudLens.Connectors
open Library

variable {Result : Type}

structure Attempt (Result : Type) where
  ticks : ℕ
  token : Bool
  slot : Bool
  answer : Except String (Option Result)
  lag : ℕ
  audit : Audit
  landing : Option String

structure CapabilityCall (Result : Type) where
  key : ConnectorKey
  capability : ConnectorCapability
  providerName : String
  declared : Bool
  withinQuota : Bool
  maxRetries : ℤ
  landPayload : Bool
  attempts : ℕ → Attempt Result

inductive Outcome (Result : Type)
  | missingTenantContext
  | undeclaredCapability
  | circuitBreakerOpen
  | quotaExhausted
  | rateLimitExceeded
  | returned (result : Option Result)
  | providerRawError (verbatim explanation : String)
  | raised (error : Raised)

inductive CallEvent
  | executed (succeeded : Bool)
  | recordedSuccess
  | recordedFailure
  deriving DecidableEq

structure CallReport (Result : Type) where
  outcome : Outcome Result
  trace : List CallEvent
  settledAt : ℕ

def mentions (needle text : String) : Bool := needle.toList <:+: text.toList

def isThrottled (error : String) : Bool :=
  mentions "429" error || mentions "RateExceeded" error || mentions "TooManyRequests" error || mentions "Throttl" error

def generatePlainLanguageExplanation (provider : String) (capability : ConnectorCapability) (error : String) : String :=
  let text := Text.lower error
  if mentions "accessdenied" text || mentions "unauthorized" text || mentions "forbidden" text then
    "The " ++ Text.upper provider ++ " API rejected the request due to missing permissions for capability '" ++ capability.value ++
      "'. Verify that your credential profile has the necessary read-only role."
  else if mentions "throttl" text || mentions "429" text || mentions "rateexceeded" text then
    "The " ++ Text.upper provider ++ " API rate limit was exceeded for '" ++ capability.value ++
      "'. CloudLens reduced request concurrency and will automatically resume once the window resets."
  else if mentions "notfound" text || mentions "404" text then
    "The requested scope or resource was not found in " ++ Text.upper provider ++
      ". It may have been deleted or moved to a different management hierarchy."
  else "A provider communication error occurred while invoking '" ++ capability.value ++ "' on " ++ Text.upper provider ++ "."

/-- The error that ends the block after the operation, if any: the operation's
own, or one of recording its success or landing its result. -/
def problemAfter (call : CapabilityCall Result) (given : Attempt Result) (result : Option Result)
    (recorded : Except Raised CapabilityHealthRecord) : Option String :=
  match recorded with
  | .error raised => some raised.text
  | .ok _ => if call.landPayload ∧ result.isSome then given.landing else none

/-- The body of the `try`. The engine and the lifecycle manager each record the
success with the same breaker. -/
def runOperation (call : CapabilityCall Result) (given : Attempt Result) (m : Manager) :
    Manager × List CallEvent × Option String :=
  match given.answer with
  | .error error => (m, [.executed false], some error)
  | .ok result =>
    let engine := m.updateBreaker call.key.2 call.capability (CapabilityCircuitBreaker.recordSuccess m.settings m.now)
    let (recorded, answer) := recordCapabilitySuccess engine call.key call.capability given.lag given.audit
    (recorded, [.executed true, .recordedSuccess, .recordedSuccess], problemAfter call given result answer)

def failCall (call : CapabilityCall Result) (given : Attempt Result) (error : String) (m : Manager) (trace : List CallEvent) :
    Manager × CallReport Result :=
  let explanation := generatePlainLanguageExplanation call.providerName call.capability error
  let (recorded, answer) := recordCapabilityFailure m call.key call.capability ⟨call.capability,error,explanation⟩ given.lag given.audit
  let outcome := match answer with
    | .error raised => .raised raised
    | .ok _ => .providerRawError error explanation
  (recorded, ⟨outcome,trace ++ [.recordedFailure],m.now⟩)

def attemptCall (call : CapabilityCall Result) : ℕ → ℕ → Manager → List CallEvent → Manager × CallReport Result
  | 0, _, m, trace =>
    (m, ⟨.providerRawError ("Maximum retries (" ++ toString call.maxRetries ++ ") exceeded under continuous throttling.")
      ("The cloud provider continuously rejected requests with throttling errors. Concurrency was reduced to minimum."),trace,m.now⟩)
  | left + 1, attempt, m, trace =>
    let given := call.attempts attempt
    let reached := m.wait given.ticks
    if given.token = false then (reached, ⟨.rateLimitExceeded,trace,reached.now⟩)
    else if given.slot = false then attemptCall call left (attempt + 1) reached trace
    else
      let (after, events, problem) := runOperation call given reached
      match problem with
      | none => (after, ⟨.returned (given.answer.toOption.getD none),trace ++ events,reached.now⟩)
      | some error =>
        if isThrottled error = true ∧ (attempt : ℤ) < call.maxRetries then
          attemptCall call left (attempt + 1) after (trace ++ events)
        else failCall call given error after (trace ++ events)

def executeCapability (m : Manager) (call : CapabilityCall Result) : Manager × CallReport Result :=
  if call.key.1 = "" then (m, ⟨.missingTenantContext,[],m.now⟩)
  else if call.declared = false then (m, ⟨.undeclaredCapability,[],m.now⟩)
  else
    let asked := m.readBreaker call.key.2 call.capability
    if (asked.breakers call.key.2 call.capability).state = .opened then (asked, ⟨.circuitBreakerOpen,[],m.now⟩)
    else if call.withinQuota = false then (asked, ⟨.quotaExhausted,[],m.now⟩)
    else attemptCall call (call.maxRetries + 1).toNat 0 asked []

end CloudLens.Connectors
