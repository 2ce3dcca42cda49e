import CloudLens.Library.Runs
import Mathlib.Logic.Function.Basic

/-! Clients that share a world and serve each call in three atomic steps: they
read, compute an update from what they read, and write it. Nothing orders the
steps of different clients. When no client reads while another is between its
read and its write, every interleaving is a run of whole calls, up to the one
call that is under way. -/
namespace CloudLens.Library.Interleaving
open Library.Runs

variable {World Client Call Seen Update : Type}

structure Protocol (World Call Seen Update : Type) where
  read : World → Call → Option Seen
  compute : World → Call → Seen → World × Option Update
  write : World → Call → Update → World

inductive Phase (Call Seen Update : Type) where
  | idle
  | holding (call : Call) (seen : Seen)
  | computed (call : Call) (update : Update)

structure System (World Client Call Seen Update : Type) where
  world : World
  phase : Client → Phase Call Seen Update

inductive Action (Client Call : Type) where
  | read (client : Client) (call : Call)
  | compute (client : Client)
  | write (client : Client)

def System.quiet (world : World) : System World Client Call Seen Update := ⟨world,fun _ => .idle⟩

def System.enter [DecidableEq Client] (s : System World Client Call Seen Update) (world : World) (client : Client)
    (phase : Phase Call Seen Update) : System World Client Call Seen Update :=
  ⟨world,Function.update s.phase client phase⟩

def advance [DecidableEq Client] (protocol : Protocol World Call Seen Update)
    (s : System World Client Call Seen Update) (action : Action Client Call) : System World Client Call Seen Update :=
  match action with
  | .read client call =>
    match s.phase client with
    | .idle =>
      match protocol.read s.world call with
      | none => s
      | some seen => s.enter s.world client (.holding call seen)
    | _ => s
  | .compute client =>
    match s.phase client with
    | .holding call seen =>
      match protocol.compute s.world call seen with
      | (after, none) => s.enter after client .idle
      | (after, some update) => s.enter after client (.computed call update)
    | _ => s
  | .write client =>
    match s.phase client with
    | .computed call update => s.enter (protocol.write s.world call update) client .idle
    | _ => s

def atomically (protocol : Protocol World Call Seen Update) (w : World) (call : Call) : World :=
  match protocol.read w call with
  | none => w
  | some seen =>
    match protocol.compute w call seen with
    | (after, none) => after
    | (after, some update) => protocol.write after call update

def Exclusive (s : System World Client Call Seen Update) (action : Action Client Call) : Prop :=
  match action with
  | .read client _ => ∀ other, other ≠ client → s.phase other = .idle
  | _ => True

/-- The world is that of a run of whole calls, with at most one call under way. -/
inductive Serial (protocol : Protocol World Call Seen Update) (start : World) (s : System World Client Call Seen Update) :
    Prop
  | quiet (calls : List Call) (world : s.world = run (atomically protocol) start calls) (idle : ∀ c, s.phase c = .idle)
  | holding (calls : List Call) (client : Client) (call : Call) (seen : Seen)
      (world : s.world = run (atomically protocol) start calls) (read : protocol.read s.world call = some seen)
      (active : s.phase client = .holding call seen) (others : ∀ c, c ≠ client → s.phase c = .idle)
  | computed (calls : List Call) (client : Client) (call : Call) (seen : Seen) (update : Update)
      (read : protocol.read (run (atomically protocol) start calls) call = some seen)
      (compute : protocol.compute (run (atomically protocol) start calls) call seen = (s.world, some update))
      (active : s.phase client = .computed call update) (others : ∀ c, c ≠ client → s.phase c = .idle)

section Serial

variable [DecidableEq Client] {protocol : Protocol World Call Seen Update} {start : World}
  {s : System World Client Call Seen Update}

private theorem run_snoc (calls : List Call) (call : Call) :
    run (atomically protocol) start (calls ++ [call]) = atomically protocol (run (atomically protocol) start calls) call := by
  rw [run_append]
  rfl

private theorem enter_idle {client : Client} {world : World} (others : ∀ c, c ≠ client → s.phase c = .idle) :
    ∀ c, (s.enter world client .idle).phase c = .idle := by
  intro c
  by_cases same : c = client
  · subst same
    exact Function.update_self _ _ _
  · exact (Function.update_of_ne same _ _).trans (others c same)

private theorem enter_others {client : Client} {world : World} {phase : Phase Call Seen Update}
    (others : ∀ c, c ≠ client → s.phase c = .idle) : ∀ c, c ≠ client → (s.enter world client phase).phase c = .idle := by
  intro c distinct
  exact (Function.update_of_ne distinct _ _).trans (others c distinct)

private theorem sole_active {client active : Client} (others : ∀ c, c ≠ active → s.phase c = .idle)
    (busy : s.phase client ≠ .idle) : client = active := by
  by_contra distinct
  exact busy (others client distinct)

private theorem read_serial (serial : Serial protocol start s) {client : Client} {call : Call}
    (exclusive : ∀ other, other ≠ client → s.phase other = .idle) :
    Serial protocol start (advance protocol s (.read client call)) := by
  unfold advance
  simp only
  split
  · rename_i free
    have idle : ∀ c, s.phase c = .idle := by
      intro c
      by_cases same : c = client
      · rw [same]
        exact free
      · exact exclusive c same
    cases serial with
    | quiet calls world _ =>
      split
      · exact .quiet calls world idle
      · rename_i seen found
        exact .holding calls client call seen world found (Function.update_self _ _ _) (enter_others exclusive)
    | holding calls active _ _ world _ busy _ =>
      rw [idle active] at busy
      cases busy
    | computed calls active _ _ _ _ _ busy _ =>
      rw [idle active] at busy
      cases busy
  · exact serial

private theorem compute_serial (serial : Serial protocol start s) (client : Client) :
    Serial protocol start (advance protocol s (.compute client)) := by
  unfold advance
  simp only
  split
  · rename_i call seen busy
    cases serial with
    | quiet calls world idle =>
      rw [idle client] at busy
      cases busy
    | holding calls active call' seen' world read phase others =>
      have same : client = active := sole_active others (by simp [busy])
      subst same
      rw [phase] at busy
      cases busy
      rw [world] at read
      split
      · rename_i after computed
        rw [world] at computed
        refine .quiet (calls ++ [call]) ?_ (enter_idle others)
        rw [run_snoc,atomically]
        simp only [read,computed]
        rfl
      · rename_i after update computed
        rw [world] at computed
        exact .computed calls client call seen update read computed (Function.update_self _ _ _) (enter_others others)
    | computed calls active call' seen' update read compute phase others =>
      have same : client = active := sole_active others (by simp [busy])
      subst same
      rw [phase] at busy
      cases busy
  · exact serial

private theorem write_serial (serial : Serial protocol start s) (client : Client) :
    Serial protocol start (advance protocol s (.write client)) := by
  unfold advance
  simp only
  split
  · rename_i call update busy
    cases serial with
    | quiet calls world idle =>
      rw [idle client] at busy
      cases busy
    | holding calls active call' seen' world read phase others =>
      have same : client = active := sole_active others (by simp [busy])
      subst same
      rw [phase] at busy
      cases busy
    | computed calls active call' seen' update' read compute phase others =>
      have same : client = active := sole_active others (by simp [busy])
      subst same
      rw [phase] at busy
      cases busy
      refine .quiet (calls ++ [call]) ?_ (enter_idle others)
      rw [run_snoc,atomically]
      simp only [read,compute]
      rfl
  · exact serial

theorem advance_serial (s : System World Client Call Seen Update) (action : Action Client Call)
    (serial : Serial protocol start s) (exclusive : Exclusive s action) : Serial protocol start (advance protocol s action) := by
  cases action with
  | read client call => exact read_serial serial exclusive
  | compute client => exact compute_serial serial client
  | write client => exact write_serial serial client

/-- What every whole call keeps, and what holds between its computation and its
write, holds in every exclusive interleaving. -/
theorem exclusive_preserves {invariant between : World → Prop} (weaker : ∀ w, invariant w → between w)
    (whole : ∀ w call, invariant w → invariant (atomically protocol w call))
    (underway : ∀ w call seen after update, invariant w → protocol.read w call = some seen →
      protocol.compute w call seen = (after, some update) → between after)
    (holds : invariant start) {actions : List (Action Client Call)}
    (exclusive : Along (advance protocol) Exclusive (System.quiet start) actions) :
    between (run (advance protocol) (System.quiet start) actions).world := by
  have first : Serial protocol start (System.quiet start : System World Client Call Seen Update) :=
    .quiet [] rfl (fun _ => rfl)
  have calls : ∀ calls, invariant (run (atomically protocol) start calls) := fun calls => run_invariant whole calls holds
  cases run_preserves advance_serial first exclusive with
  | quiet done world idle =>
    rw [world]
    exact weaker _ (calls done)
  | holding done client call seen world read active others =>
    rw [world]
    exact weaker _ (calls done)
  | computed done client call seen update read compute active others =>
    exact underway _ _ _ _ _ (calls done) read compute

/-- An exclusive interleaving that leaves every client idle is a run of whole calls, each
of which a client began. -/
theorem serial_of_exclusive {actions : List (Action Client Call)}
    (exclusive : Along (advance protocol) Exclusive (System.quiet start) actions)
    (settled : ∀ c, (run (advance protocol) (System.quiet start) actions).phase c = .idle) :
    ∃ calls, (∀ call ∈ calls, ∃ client, .read client call ∈ actions) ∧
      (run (advance protocol) (System.quiet start) actions).world = run (atomically protocol) start calls := by
  classical
  obtain ⟨begun,same⟩ : ∃ begun : Call → Prop, begun = fun call => ∃ client, .read client call ∈ actions := ⟨_,rfl⟩
  -- the protocol that serves none but these calls
  obtain ⟨limited,shape⟩ : ∃ limited : Protocol World Call Seen Update,
      limited = ⟨fun w call => if begun call then protocol.read w call else none,protocol.compute,protocol.write⟩ := ⟨_,rfl⟩
  have reads : Along (advance protocol) (fun _ action => ∀ client call, action = .read client call → begun call)
      (System.quiet start : System World Client Call Seen Update) actions := by
    refine along_of_forall ?_ _
    rintro action member _ client call rfl
    rw [same]
    exact ⟨client,member⟩
  have steps : ∀ (s : System World Client Call Seen Update) action, Serial limited start s →
      (Exclusive s action ∧ ∀ client call, action = .read client call → begun call) → Serial limited start (advance protocol s action) := by
    intro s action serial allowed
    have agree : advance limited s action = advance protocol s action := by
      rw [shape]
      cases action with
      | read client call => simp only [advance,if_pos (allowed.2 client call rfl)]
      | compute client => rfl
      | write client => rfl
    rw [← agree]
    exact advance_serial s action serial allowed.1
  have served : ∀ calls w, run (atomically limited) w calls = run (atomically protocol) w (calls.filter begun) := by
    intro calls
    induction calls with
    | nil => exact fun _ => rfl
    | cons call rest ih =>
      intro w
      by_cases known : begun call
      · rw [List.filter_cons_of_pos (by simpa using known),run_cons,run_cons,ih]
        simp only [atomically,shape,if_pos known]
      · rw [List.filter_cons_of_neg (by simpa using known),run_cons,ih]
        simp only [atomically,shape,if_neg known]
  cases run_preserves steps (.quiet [] rfl (fun _ => rfl)) (along_and.mpr ⟨exclusive,reads⟩) with
  | quiet calls world idle =>
    refine ⟨calls.filter begun,?_,world.trans (served calls start)⟩
    intro call member
    have known : begun call := of_decide_eq_true (List.mem_filter.mp member).2
    rw [same] at known
    exact known
  | holding calls client call seen world read active others =>
    rw [settled client] at active
    cases active
  | computed calls client call seen update read compute active others =>
    rw [settled client] at active
    cases active

end Serial

section Coherence

variable {world : World → Prop} {holds : Call → Seen → Prop} {carries : Call → Update → Prop}

/-- What is true of the world and of the copies in the hands of the clients, however old. -/
structure Coherent (world : World → Prop) (holds : Call → Seen → Prop) (carries : Call → Update → Prop)
    (s : System World Client Call Seen Update) : Prop where
  world : world s.world
  holding : ∀ client call seen, s.phase client = .holding call seen → holds call seen
  computed : ∀ client call update, s.phase client = .computed call update → carries call update

theorem quiet_coherent {start : World} (first : world start) :
    Coherent world holds carries (System.quiet start : System World Client Call Seen Update) := by
  refine ⟨first,?_,?_⟩
  · intro client call seen busy
    cases busy
  · intro client call update busy
    cases busy

theorem enter_self [DecidableEq Client] (s : System World Client Call Seen Update) (after : World) (client : Client)
    (phase : Phase Call Seen Update) : (s.enter after client phase).phase client = phase :=
  Function.update_self _ _ _

theorem enter_other [DecidableEq Client] {s : System World Client Call Seen Update} {after : World} {c client : Client}
    {phase : Phase Call Seen Update} (distinct : c ≠ client) : (s.enter after client phase).phase c = s.phase c :=
  Function.update_of_ne distinct _ _

private theorem enter_coherent [DecidableEq Client] {s : System World Client Call Seen Update} {after : World}
    {client : Client} {phase : Phase Call Seen Update} (coherent : Coherent world holds carries s) (next : world after)
    (held : ∀ call seen, phase = .holding call seen → holds call seen)
    (carried : ∀ call update, phase = .computed call update → carries call update) :
    Coherent world holds carries (s.enter after client phase) := by
  refine ⟨next,?_,?_⟩
  · intro c call seen busy
    by_cases same : c = client
    · subst same
      exact held call seen ((enter_self s after c phase).symm.trans busy)
    · exact coherent.holding c call seen ((enter_other same).symm.trans busy)
  · intro c call update busy
    by_cases same : c = client
    · subst same
      exact carried call update ((enter_self s after c phase).symm.trans busy)
    · exact coherent.computed c call update ((enter_other same).symm.trans busy)

/-- A property that every reader takes over from the world, that every
computation passes on and that every write returns to the world holds in every
interleaving. -/
theorem advance_coherent [DecidableEq Client] {protocol : Protocol World Call Seen Update}
    (reads : ∀ w call seen, world w → protocol.read w call = some seen → holds call seen)
    (computes : ∀ w call seen, world w → holds call seen → world (protocol.compute w call seen).1 ∧
      ∀ update, (protocol.compute w call seen).2 = some update → carries call update)
    (writes : ∀ w call update, world w → carries call update → world (protocol.write w call update))
    (s : System World Client Call Seen Update) (action : Action Client Call) (coherent : Coherent world holds carries s) :
    Coherent world holds carries (advance protocol s action) := by
  cases action with
  | read client call =>
    unfold advance
    simp only
    split
    · split
      · exact coherent
      · rename_i seen found
        refine enter_coherent coherent coherent.world ?_ ?_
        · intro other copy same
          cases same
          exact reads s.world call seen coherent.world found
        · intro other update same
          cases same
    · exact coherent
  | compute client =>
    unfold advance
    simp only
    split
    · rename_i call seen busy
      obtain ⟨kept,passed⟩ := computes s.world call seen coherent.world (coherent.holding client call seen busy)
      split
      · rename_i after refused
        rw [refused] at kept
        refine enter_coherent coherent kept ?_ ?_
        · intro other copy same
          cases same
        · intro other update same
          cases same
      · rename_i after update result
        rw [result] at kept passed
        refine enter_coherent coherent kept ?_ ?_
        · intro other copy same
          cases same
        · intro other update same
          cases same
          exact passed update rfl
    · exact coherent
  | write client =>
    unfold advance
    simp only
    split
    · rename_i call update busy
      have written := writes s.world call update coherent.world (coherent.computed client call update busy)
      refine enter_coherent coherent written ?_ ?_
      · intro other copy same
        cases same
      · intro other update same
        cases same
    · exact coherent

end Coherence

end CloudLens.Library.Interleaving
