import CloudLens.Library.Paced
import Mathlib.Algebra.Order.Archimedean.Basic
import Mathlib.Algebra.Order.Field.Rat
import Mathlib.Tactic.FieldSimp

/-! The token bucket that the workers of a connector share. Its clock is exact, and
every try refills the bucket first. -/
namespace CloudLens.Connectors
open Library

structure SharedTokenBucket where
  ratePerSecond : ℚ := 50
  burstCapacity : ℚ := 50
  tokens : ℚ
  lastRefill : ℚ
  deriving DecidableEq

structure Try where
  amount : ℚ
  now : ℚ
  nonneg : 0 ≤ amount

namespace SharedTokenBucket

def create (ratePerSecond burstCapacity now : ℚ) : SharedTokenBucket := ⟨ratePerSecond,burstCapacity,burstCapacity,now⟩

def refill (bucket : SharedTokenBucket) (now : ℚ) : SharedTokenBucket :=
  let elapsed := now - bucket.lastRefill
  if 0 < elapsed then
    { bucket with
      tokens := min bucket.burstCapacity (bucket.tokens + elapsed * bucket.ratePerSecond)
      lastRefill := now }
  else bucket

def tryAcquire (bucket : SharedTokenBucket) (amount now : ℚ) : SharedTokenBucket × Bool :=
  let filled := bucket.refill now
  if amount ≤ filled.tokens then ({ filled with tokens := filled.tokens - amount }, true) else (filled, false)

inductive Acquisition
  | acquired (time : ℚ)
  | exceeded (retryAfter : ℚ)

def waitTime (bucket : SharedTokenBucket) (amount : ℚ) : ℚ :=
  if 0 < bucket.ratePerSecond then (amount - bucket.tokens) / bucket.ratePerSecond else 1

/-- The loop of `acquire_sync` and of `acquire_async`, in which no other worker takes tokens
and a sleep lasts as long as it is asked to. -/
def acquire (amount timeout startTime : ℚ) : ℕ → SharedTokenBucket → ℚ → Option (SharedTokenBucket × Acquisition)
  | 0, _, _ => none
  | fuel + 1, bucket, now =>
    match bucket.tryAcquire amount now with
    | (taken, true) => some (taken, .acquired now)
    | (filled, false) =>
      let wait := filled.waitTime amount
      if timeout < now - startTime + wait then some (filled, .exceeded wait)
      else acquire amount timeout startTime fuel filled (now + min wait (1 / 2))

def after (bucket : SharedTokenBucket) (tries : List Try) : SharedTokenBucket :=
  tries.foldl (fun bucket t => (bucket.tryAcquire t.amount t.now).1) bucket

def grants : SharedTokenBucket → List Try → List (ℚ × ℚ)
  | _, [] => []
  | bucket, t :: tries =>
    let (next, granted) := bucket.tryAcquire t.amount t.now
    if granted then (t.now, t.amount) :: grants next tries else grants next tries

/-- The clock goes on from the last refill and never back. -/
def Clocked (bucket : SharedTokenBucket) (tries : List Try) : Prop :=
  (bucket.lastRefill :: tries.map Try.now).Pairwise (· ≤ ·)

/-- Over every run of tries the level keeps between nothing and the burst, and no
interval of time sees more tokens than the burst and what the rate adds. -/
structure Bounded (bucket : SharedTokenBucket) : Prop where
  level : ∀ tries, bucket.Clocked tries → 0 ≤ (bucket.after tries).tokens ∧ (bucket.after tries).tokens ≤ bucket.burstCapacity
  granted : ∀ tries, bucket.Clocked tries → ∀ first last, first ≤ last →
    Paced.takenIn first last (bucket.grants tries) ≤ bucket.burstCapacity + bucket.ratePerSecond * (last - first)

section Steps

variable {bucket : SharedTokenBucket} {amount now : ℚ} {t : Try} {tries : List Try}

@[simp] theorem refill_rate : (bucket.refill now).ratePerSecond = bucket.ratePerSecond := by
  unfold refill
  dsimp only
  split <;> rfl

@[simp] theorem refill_burst : (bucket.refill now).burstCapacity = bucket.burstCapacity := by
  unfold refill
  dsimp only
  split <;> rfl

theorem refill_lastRefill (clock : bucket.lastRefill ≤ now) : (bucket.refill now).lastRefill = now := by
  unfold refill
  dsimp only
  split
  · rfl
  · rename_i stopped
    linarith

theorem refill_tokens (clock : bucket.lastRefill ≤ now) (full : bucket.tokens ≤ bucket.burstCapacity) :
    (bucket.refill now).tokens = min bucket.burstCapacity (bucket.tokens + bucket.ratePerSecond * (now - bucket.lastRefill)) := by
  unfold refill
  dsimp only
  split
  · rw [mul_comm]
  · rename_i stopped
    have still : now - bucket.lastRefill = 0 := by linarith
    rw [still,mul_zero,add_zero,min_eq_right full]

theorem tryAcquire_cases (bucket : SharedTokenBucket) (amount now : ℚ) :
    (bucket.tryAcquire amount now = ({ bucket.refill now with tokens := (bucket.refill now).tokens - amount }, true) ∧
      amount ≤ (bucket.refill now).tokens) ∨ bucket.tryAcquire amount now = (bucket.refill now, false) := by
  unfold tryAcquire
  dsimp only
  split
  · rename_i enough
    exact Or.inl ⟨rfl,enough⟩
  · exact Or.inr rfl

@[simp] theorem tryAcquire_rate : (bucket.tryAcquire amount now).1.ratePerSecond = bucket.ratePerSecond := by
  rcases tryAcquire_cases bucket amount now with ⟨same,_⟩ | same <;> rw [same] <;> exact refill_rate

@[simp] theorem tryAcquire_burst : (bucket.tryAcquire amount now).1.burstCapacity = bucket.burstCapacity := by
  rcases tryAcquire_cases bucket amount now with ⟨same,_⟩ | same <;> rw [same] <;> exact refill_burst

theorem tryAcquire_lastRefill (clock : bucket.lastRefill ≤ now) : (bucket.tryAcquire amount now).1.lastRefill = now := by
  rcases tryAcquire_cases bucket amount now with ⟨same,_⟩ | same <;> rw [same] <;> exact refill_lastRefill clock

theorem Clocked.next (clocked : bucket.Clocked (t :: tries)) :
    bucket.lastRefill ≤ t.now ∧ (bucket.tryAcquire t.amount t.now).1.Clocked tries := by
  obtain ⟨first,rest⟩ := List.pairwise_cons.mp clocked
  have clock : bucket.lastRefill ≤ t.now := first t.now List.mem_cons_self
  refine ⟨clock,?_⟩
  rw [Clocked,tryAcquire_lastRefill clock]
  exact rest

end Steps

def Sound (bucket : SharedTokenBucket) : Prop := 0 ≤ bucket.tokens ∧ bucket.tokens ≤ bucket.burstCapacity

section Runs

variable {bucket : SharedTokenBucket} {amount now : ℚ} {t : Try} {tries : List Try}

theorem Sound.refill (sound : bucket.Sound) (grows : 0 ≤ bucket.ratePerSecond) (clock : bucket.lastRefill ≤ now) :
    (bucket.refill now).Sound := by
  have gained : 0 ≤ bucket.ratePerSecond * (now - bucket.lastRefill) := mul_nonneg grows (sub_nonneg.mpr clock)
  rw [Sound,refill_burst,refill_tokens clock sound.2]
  exact ⟨le_min (sound.1.trans sound.2) (by linarith [sound.1]),min_le_left _ _⟩

theorem Sound.tryAcquire (sound : bucket.Sound) (grows : 0 ≤ bucket.ratePerSecond) (positive : 0 ≤ amount)
    (clock : bucket.lastRefill ≤ now) : (bucket.tryAcquire amount now).1.Sound := by
  have filled := sound.refill grows clock
  rcases tryAcquire_cases bucket amount now with ⟨same,enough⟩ | same
  · rw [same]
    exact ⟨sub_nonneg.mpr enough,(sub_le_self _ positive).trans filled.2⟩
  · rwa [same]

theorem sound_after (sound : bucket.Sound) (grows : 0 ≤ bucket.ratePerSecond) (clocked : bucket.Clocked tries) :
    (bucket.after tries).Sound ∧ (bucket.after tries).burstCapacity = bucket.burstCapacity := by
  induction tries generalizing bucket with
  | nil => exact ⟨sound,rfl⟩
  | cons t tries ih =>
    obtain ⟨clock,rest⟩ := clocked.next
    have kept := ih (sound.tryAcquire grows t.nonneg clock) (by rwa [tryAcquire_rate]) rest
    rwa [tryAcquire_burst] at kept

theorem pays_grants (sound : bucket.Sound) (grows : 0 ≤ bucket.ratePerSecond) (clocked : bucket.Clocked tries) :
    Paced.Pays bucket.ratePerSecond bucket.burstCapacity bucket.tokens bucket.lastRefill (bucket.grants tries) := by
  induction tries generalizing bucket with
  | nil => trivial
  | cons t tries ih =>
    obtain ⟨clock,rest⟩ := clocked.next
    have later := ih (sound.tryAcquire grows t.nonneg clock) (by rwa [tryAcquire_rate]) rest
    rw [tryAcquire_rate,tryAcquire_burst,tryAcquire_lastRefill clock] at later
    have filled := refill_tokens clock sound.2
    have gained : (bucket.refill t.now).tokens ≤ bucket.tokens + bucket.ratePerSecond * (t.now - bucket.lastRefill) := by
      rw [filled]
      exact min_le_right _ _
    unfold grants
    dsimp only
    rcases tryAcquire_cases bucket t.amount t.now with ⟨same,enough⟩ | same
    · rw [same] at later ⊢
      rw [if_pos rfl]
      refine ⟨clock,t.nonneg,(bucket.refill t.now).tokens - t.amount,sub_nonneg.mpr enough,?_,?_,later⟩
      · rw [sub_add_cancel,filled]
        exact min_le_left _ _
      · rwa [sub_add_cancel]
    · rw [same] at later ⊢
      rw [if_neg Bool.false_ne_true]
      exact later.earlier clock gained

theorem overdrawn {rate burst : ℚ} (falls : rate < 0) (nonneg : 0 ≤ burst) : ∃ t : Try, (create rate burst now).Clocked [t] ∧
    ((create rate burst now).after [t]).tokens < 0 := by
  have length : 0 < (burst + 1) / -rate := div_pos (by linarith) (by linarith)
  obtain ⟨late,made⟩ : ∃ late, late = now + (burst + 1) / -rate := ⟨_,rfl⟩
  have order : (create rate burst now).lastRefill ≤ late := by
    change now ≤ late
    linarith
  have spent : rate * (late - now) = -(burst + 1) := by
    have apart : rate ≠ 0 := falls.ne
    rw [made,add_sub_cancel_left]
    field_simp
  have filled : ((create rate burst now).refill late).tokens = -1 := by
    rw [refill_tokens order le_rfl]
    change min burst (burst + rate * (late - now)) = -1
    rw [spent,min_eq_right (by linarith)]
    ring
  refine ⟨⟨burst + 1,late,by linarith⟩,List.pairwise_cons.mpr ⟨by simpa using order,List.pairwise_singleton _ _⟩,?_⟩
  change ((create rate burst now).tryAcquire (burst + 1) late).1.tokens < 0
  rcases tryAcquire_cases (create rate burst now) (burst + 1) late with ⟨_,enough⟩ | same
  · linarith
  · rw [same,filled]
    norm_num

/-- A new bucket keeps its bounds whatever is asked of it exactly when neither its rate nor its burst is negative. -/
theorem bounded_create_iff {rate burst : ℚ} : (create rate burst now).Bounded ↔ 0 ≤ rate ∧ 0 ≤ burst := by
  constructor
  · intro bounded
    have nonneg : 0 ≤ burst := (bounded.level [] (List.pairwise_singleton _ _)).1
    refine ⟨?_,nonneg⟩
    by_contra falls
    obtain ⟨t,clocked,below⟩ := overdrawn (not_le.mp falls) nonneg
    exact absurd (bounded.level [t] clocked).1 (not_le.mpr below)
  · intro config
    have sound : (create rate burst now).Sound := ⟨config.2,le_rfl⟩
    refine ⟨fun tries clocked => ?_,fun tries clocked first last order => ?_⟩
    · obtain ⟨kept,same⟩ := sound_after sound config.1 clocked
      rw [← same]
      exact kept
    · exact Paced.takenIn_le config.1 config.2 order (pays_grants sound config.1 clocked)

end Runs

section Waiting

variable {bucket : SharedTokenBucket} {amount timeout startTime now later : ℚ}

theorem refill_eq (clock : bucket.lastRefill ≤ now) (full : bucket.tokens ≤ bucket.burstCapacity) : bucket.refill now =
    ⟨bucket.ratePerSecond,bucket.burstCapacity,min bucket.burstCapacity (bucket.tokens + bucket.ratePerSecond * (now - bucket.lastRefill)),
      now⟩ := by
  have fields : bucket.refill now =
      ⟨(bucket.refill now).ratePerSecond,(bucket.refill now).burstCapacity,(bucket.refill now).tokens,(bucket.refill now).lastRefill⟩ := rfl
  rw [fields,refill_rate,refill_burst,refill_tokens clock full,refill_lastRefill clock]

/-- A refill in between makes no difference. -/
theorem refill_refill (sound : bucket.Sound) (grows : 0 ≤ bucket.ratePerSecond) (clock : bucket.lastRefill ≤ now) (order : now ≤ later) :
    (bucket.refill now).refill later = bucket.refill later := by
  have gained : 0 ≤ bucket.ratePerSecond * (later - now) := mul_nonneg grows (sub_nonneg.mpr order)
  have total : bucket.ratePerSecond * (now - bucket.lastRefill) + bucket.ratePerSecond * (later - now) =
      bucket.ratePerSecond * (later - bucket.lastRefill) := by ring
  rw [refill_eq clock sound.2,refill_eq order (min_le_left _ _),refill_eq (clock.trans order) sound.2,← total,← add_assoc]
  congr 1
  rcases le_total bucket.burstCapacity (bucket.tokens + bucket.ratePerSecond * (now - bucket.lastRefill)) with above | below
  · rw [min_eq_left above,min_eq_left (by linarith),min_eq_left (by linarith)]
  · rw [min_eq_right below]

/-- The time after which the refilled bucket has the amount. -/
def delay (bucket : SharedTokenBucket) (amount now : ℚ) : ℚ := max 0 ((amount - (bucket.refill now).tokens) / bucket.ratePerSecond)

theorem granted_iff (sound : bucket.Sound) (grows : 0 < bucket.ratePerSecond) (fits : amount ≤ bucket.burstCapacity)
    (clock : bucket.lastRefill ≤ now) (order : now ≤ later) :
    (bucket.tryAcquire amount later).2 = true ↔ now + bucket.delay amount now ≤ later := by
  have filled := sound.refill grows.le clock
  have level : (bucket.refill later).tokens = min bucket.burstCapacity ((bucket.refill now).tokens + bucket.ratePerSecond * (later - now)) := by
    have still : (bucket.refill now).lastRefill ≤ later := (refill_lastRefill clock).trans_le order
    rw [← refill_refill sound grows.le clock order,refill_tokens still filled.2,refill_burst,refill_rate,refill_lastRefill clock]
  have granted : (bucket.tryAcquire amount later).2 = true ↔ amount ≤ (bucket.refill later).tokens := by
    unfold tryAcquire
    dsimp only
    split <;> simp_all
  rw [granted,level,le_min_iff,← le_sub_iff_add_le',delay,max_le_iff,div_le_iff₀ grows,sub_le_iff_le_add',mul_comm (later - now)]
  exact and_congr (iff_of_true fits (sub_nonneg.mpr order)) Iff.rfl

theorem delay_nonneg : 0 ≤ bucket.delay amount now := le_max_left _ _

theorem tryAcquire_refill (sound : bucket.Sound) (grows : 0 ≤ bucket.ratePerSecond) (clock : bucket.lastRefill ≤ now) (order : now ≤ later) :
    (bucket.refill now).tryAcquire amount later = bucket.tryAcquire amount later := by
  rw [tryAcquire,tryAcquire,refill_refill sound grows clock order]

/-- What is slept off the delay is no longer waited for. -/
theorem delay_refill (sound : bucket.Sound) (grows : 0 < bucket.ratePerSecond) (fits : amount ≤ bucket.burstCapacity)
    (clock : bucket.lastRefill ≤ now) {slept : ℚ} (nonneg : 0 ≤ slept) (within : slept ≤ bucket.delay amount now) :
    (bucket.refill now).delay amount (now + slept) = bucket.delay amount now - slept := by
  have order : now ≤ now + slept := by linarith
  have same : ∀ later, now + slept ≤ later →
      (now + slept + (bucket.refill now).delay amount (now + slept) ≤ later ↔ now + bucket.delay amount now ≤ later) := by
    intro later after
    have filled := sound.refill grows.le clock
    rw [← granted_iff sound grows fits clock (order.trans after),← tryAcquire_refill sound grows.le clock (order.trans after)]
    exact (granted_iff filled (by rwa [refill_rate]) (by rwa [refill_burst]) ((refill_lastRefill clock).trans_le order) after).symm
  have least := (same (now + bucket.delay amount now) (by linarith)).mpr le_rfl
  have most := (same _ (le_add_of_nonneg_right delay_nonneg)).mp le_rfl
  linarith

theorem acquire_granted (sound : bucket.Sound) (grows : 0 < bucket.ratePerSecond) (fits : amount ≤ bucket.burstCapacity)
    (clock : bucket.lastRefill ≤ now) (ready : bucket.delay amount now = 0) (fuel : ℕ) :
    acquire amount timeout startTime (fuel + 1) bucket now = some ((bucket.tryAcquire amount now).1, .acquired now) := by
  have granted := (granted_iff sound grows fits clock le_rfl).mpr (by rw [ready,add_zero])
  rw [acquire]
  rcases taken : bucket.tryAcquire amount now with ⟨next,answer⟩
  rw [taken] at granted
  cases granted
  rfl

theorem acquire_refused (sound : bucket.Sound) (grows : 0 < bucket.ratePerSecond) (fits : amount ≤ bucket.burstCapacity)
    (clock : bucket.lastRefill ≤ now) (waits : 0 < bucket.delay amount now) (fuel : ℕ) :
    acquire amount timeout startTime (fuel + 1) bucket now =
      if timeout < now - startTime + bucket.delay amount now then some (bucket.refill now, .exceeded (bucket.delay amount now))
      else acquire amount timeout startTime fuel (bucket.refill now) (now + min (bucket.delay amount now) (1 / 2)) := by
  have refused := (granted_iff sound grows fits clock le_rfl).not.mpr (by linarith)
  have wait : (bucket.refill now).waitTime amount = bucket.delay amount now := by
    rw [waitTime,refill_rate,if_pos grows]
    exact (max_eq_right (le_of_not_ge fun none => waits.ne' (max_eq_left none))).symm
  rcases tryAcquire_cases bucket amount now with ⟨same,_⟩ | same
  · rw [same] at refused
    exact absurd rfl refused
  · rw [acquire,same]
    dsimp only
    rw [wait]

theorem acquire_turns (turns : ℕ) (sound : bucket.Sound) (grows : 0 < bucket.ratePerSecond) (fits : amount ≤ bucket.burstCapacity)
    (clock : bucket.lastRefill ≤ now) (short : bucket.delay amount now ≤ turns / 2)
    (patient : now - startTime + bucket.delay amount now ≤ timeout) {fuel : ℕ} (enough : turns < fuel) :
    acquire amount timeout startTime fuel bucket now =
      some ((bucket.tryAcquire amount (now + bucket.delay amount now)).1, .acquired (now + bucket.delay amount now)) := by
  induction turns generalizing bucket now fuel with
  | zero =>
    obtain ⟨fuel,rfl⟩ := Nat.exists_eq_succ_of_ne_zero enough.ne'
    have ready : bucket.delay amount now = 0 := le_antisymm (by simpa using short) delay_nonneg
    rw [Nat.succ_eq_add_one,acquire_granted sound grows fits clock ready,ready,add_zero]
  | succ turns ih =>
    obtain ⟨fuel,rfl⟩ := Nat.exists_eq_succ_of_ne_zero (Nat.ne_zero_of_lt enough)
    rw [Nat.succ_eq_add_one]
    rcases delay_nonneg.eq_or_lt with ready | waits
    · rw [acquire_granted sound grows fits clock ready.symm,← ready,add_zero]
    · obtain ⟨slept,step⟩ : ∃ slept, slept = min (bucket.delay amount now) (1 / 2) := ⟨_,rfl⟩
      have nonneg : 0 ≤ slept := step ▸ le_min waits.le (by norm_num)
      have left := delay_refill sound grows fits clock nonneg (step ▸ min_le_left _ _)
      have rest : bucket.delay amount now - slept ≤ turns / 2 := by
        push_cast at short
        rcases min_choice (bucket.delay amount now) (1 / 2) with all | half
        · rw [step,all,sub_self]
          exact div_nonneg (Nat.cast_nonneg _) (by norm_num)
        · rw [step,half]
          linarith
      have total : now + slept + (bucket.refill now).delay amount (now + slept) = now + bucket.delay amount now := by linarith
      rw [acquire_refused sound grows fits clock waits,if_neg patient.not_gt,← step,
        ← tryAcquire_refill sound grows.le clock (by linarith),← total]
      refine ih (sound.refill grows.le clock) (by rwa [refill_rate]) (by rwa [refill_burst]) ?_ (left ▸ rest) ?_ (by omega)
      · rw [refill_lastRefill clock]
        linarith
      · linarith

/-- Undisturbed, a call that its timeout allows to wait takes its tokens at the first moment at
which a single try would be granted, and any other one is refused at once. -/
theorem acquire_exact (sound : bucket.Sound) (grows : 0 < bucket.ratePerSecond) (fits : amount ≤ bucket.burstCapacity)
    (clock : bucket.lastRefill ≤ now) (patient : 0 ≤ timeout) : ∃ turns, ∀ fuel, turns < fuel → ∃ moment,
      (∀ later, now ≤ later → ((bucket.tryAcquire amount later).2 = true ↔ moment ≤ later)) ∧
      acquire amount timeout now fuel bucket now = some (if moment ≤ now + timeout then
        ((bucket.tryAcquire amount moment).1, .acquired moment) else (bucket.refill now, .exceeded (moment - now))) := by
  obtain ⟨turns,bound⟩ := exists_nat_ge (bucket.delay amount now * 2)
  refine ⟨turns,fun fuel enough => ⟨now + bucket.delay amount now,fun later order => granted_iff sound grows fits clock order,?_⟩⟩
  by_cases waits : bucket.delay amount now ≤ timeout
  · rw [if_pos (by linarith)]
    exact acquire_turns turns sound grows fits clock (by linarith) (by linarith) enough
  · obtain ⟨fuel,rfl⟩ := Nat.exists_eq_succ_of_ne_zero (Nat.ne_zero_of_lt enough)
    rw [if_neg (by linarith),Nat.succ_eq_add_one,acquire_refused sound grows fits clock (patient.trans_lt (not_le.mp waits)),if_pos (by linarith),
      add_sub_cancel_left]

theorem acquire_exact_drained : ∃ turns, ∀ fuel, turns < fuel → ∃ moment,
    (∀ later, 0 ≤ later → (((⟨2,10,0,0⟩ : SharedTokenBucket).tryAcquire 5 later).2 = true ↔ moment ≤ later)) ∧
    acquire 5 30 0 fuel ⟨2,10,0,0⟩ 0 = some (if moment ≤ 0 + 30 then
      (((⟨2,10,0,0⟩ : SharedTokenBucket).tryAcquire 5 moment).1, .acquired moment)
        else ((⟨2,10,0,0⟩ : SharedTokenBucket).refill 0, .exceeded (moment - 0))) :=
  acquire_exact ⟨by norm_num,by norm_num⟩ (by norm_num) (by norm_num) (by norm_num) (by norm_num)

end Waiting

end SharedTokenBucket

end CloudLens.Connectors
