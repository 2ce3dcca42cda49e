import CloudLens.Audit.Tampering

/-! Appends by several services over one table. A service reads the last event,
builds its own on it and inserts it; its lock excludes only its own calls. The
chain stays unforked in every run in which each inserting call had read the event
that was inserted last: no other insert came between, and the clock of that event
was the latest. -/
namespace CloudLens.Audit
open Library Library.Runs

structure Underway where
  tc : TenantContext
  call : AppendCall
  lastEvent : Option AuditEvent

structure World where
  rows : List AuditEvent
  underway : ℕ → Option Underway

inductive Action
  | read (service : ℕ) (tc : TenantContext) (call : AppendCall)
  | insert (service : ℕ)

def Underway.event (u : Underway) : AuditEvent := buildEvent u.tc u.call.input u.call.now u.call.uuid u.lastEvent

def insertRow (db : Database) (u : Underway) (rows : List AuditEvent) : List AuditEvent :=
  if db.accepts u.tc u.call.input && !occupied rows u.event then rows ++ [u.event] else rows

def perform (db : Database) (w : World) : Action → World
  | .read service tc call =>
    match w.underway service with
    | some _ => w
    | none => {w with underway := Function.update w.underway service (some ⟨tc,call,getLastEvent db tc.tenantId w.rows⟩)}
  | .insert service =>
    match w.underway service with
    | none => w
    | some u => ⟨insertRow db u w.rows,Function.update w.underway service none⟩

structure Unforked (stream : List AuditEvent) : Prop where
  distinct : (stream.map AuditEvent.previousEventHash).Nodup
  named : ∀ before e after, stream = before ++ e :: after → before ≠ [] →
    before.countP (fun earlier => e.previousEventHash = some earlier.eventHash) = 1

/-- A call of the tenant that inserts had read the event inserted last. -/
def InsertsOnLatest (db : Database) (tenantId : String) (w : World) (a : Action) : Prop :=
  match a with
  | .read _ _ _ => True
  | .insert service => ∀ u, w.underway service = some u → u.tc.tenantId = tenantId →
      u.lastEvent = (streamOf tenantId w.rows).getLast?.map (rowToEvent db)

theorem buildEvent_read (db : Database) (tc : TenantContext) (input : AuditEventCreate) (now : Moment) (uuid : String)
    (last : Option AuditEvent) :
    buildEvent tc input now uuid (last.map (rowToEvent db)) = buildEvent tc input now uuid last := by
  cases last <;> rfl

theorem streamOf_snoc_other {tenantId : String} {event : AuditEvent} (other : event.tenantId ≠ tenantId)
    (rows : List AuditEvent) : streamOf tenantId (rows ++ [event]) = streamOf tenantId rows := by
  simp [streamOf,other]

theorem insertRow_honest (db : Database) {tenantId : String} {u : Underway} {rows : List AuditEvent}
    (honest : Honest tenantId (streamOf tenantId rows))
    (latest : u.tc.tenantId = tenantId → u.lastEvent = (streamOf tenantId rows).getLast?.map (rowToEvent db)) :
    Honest tenantId (streamOf tenantId (insertRow db u rows)) := by
  unfold insertRow
  split
  · by_cases own : u.tc.tenantId = tenantId
    · have built : u.event = buildEvent u.tc u.call.input u.call.now u.call.uuid (streamOf tenantId rows).getLast? := by
        rw [Underway.event,latest own,buildEvent_read]
      rw [streamOf_snoc own,built]
      exact Honest.append honest u.tc own u.call.input u.call.now u.call.uuid
    · rw [streamOf_snoc_other own]
      exact honest
  · exact honest

theorem perform_honest (db : Database) {tenantId : String} {w : World} {a : Action}
    (honest : Honest tenantId (streamOf tenantId w.rows)) (latest : InsertsOnLatest db tenantId w a) :
    Honest tenantId (streamOf tenantId (perform db w a).rows) := by
  cases a with
  | read service tc call =>
    cases held : w.underway service with
    | none => simpa [perform,held] using honest
    | some u => simpa [perform,held] using honest
  | insert service =>
    cases held : w.underway service with
    | none => simpa [perform,held] using honest
    | some u =>
      have inserted := insertRow_honest db honest (latest u held)
      simpa [perform,held] using inserted

def previousAt (expected : Option String) (stream : List AuditEvent) : ℕ → Option String
  | 0 => expected
  | i + 1 => stream[i]?.map AuditEvent.eventHash

theorem linked_previous {expected : Option String} {stream : List AuditEvent} (linked : LinkedFrom expected stream)
    {i : ℕ} {e : AuditEvent} (here : stream[i]? = some e) : e.previousEventHash = previousAt expected stream i := by
  induction stream generalizing expected i with
  | nil => simp at here
  | cons first stream ih =>
    cases i with
    | zero =>
      rw [List.getElem?_cons_zero,Option.some.injEq] at here
      rw [← here]
      exact linked.1
    | succ i =>
      rw [List.getElem?_cons_succ] at here
      rw [ih linked.2 here]
      cases i <;> rfl

theorem orDefault_digest (text : List Char) (default : String) :
    orDefault (some (String.ofList (Sha256.textDigest text))) default = String.ofList (Sha256.textDigest text) := by
  have some : String.ofList (Sha256.textDigest text) ≠ "" := by
    intro empty
    have lengths := congrArg (fun s => s.toList.length) empty
    simp [Sha256.length_textDigest] at lengths
  simp [orDefault,some]

theorem digest_ne_genesis (text : List Char) : String.ofList (Sha256.textDigest text) ≠ "GENESIS" := by
  intro same
  have lengths := congrArg (fun s => s.toList.length) same
  simp only [String.toList_ofList,Sha256.length_textDigest] at lengths
  exact absurd lengths (by decide)

section Head

theorem orDefault_inj {hash other : Option String} (closed : Sealed hash) (closedOther : Sealed other)
    (same : orDefault hash "GENESIS" = orDefault other "GENESIS") : hash = other := by
  have digest : ∀ {known : Option String} {text}, Sealed known → known = some text → orDefault known "GENESIS" = text ∧ text ≠ "GENESIS" := by
    intro known text held found
    obtain ⟨input,rfl⟩ := held text found
    rw [found]
    exact ⟨orDefault_digest input _,digest_ne_genesis input⟩
  cases hash with
  | none =>
    cases other with
    | none => rfl
    | some text =>
      obtain ⟨read,apart⟩ := digest closedOther rfl
      exact absurd (same.trans read).symm apart
  | some text =>
    obtain ⟨read,apart⟩ := digest closed rfl
    cases other with
    | none => exact absurd (read.symm.trans same) apart
    | some word => rw [← read,same,(digest closedOther rfl).1]

theorem verified_snoc {stream : List AuditEvent} {e : AuditEvent} (verified : (verifyAuditHashChain (stream ++ [e])).valid = true) :
    (verifyAuditHashChain stream).valid = true ∧ e.eventHash = sealOf e ∧
      e.previousEventHash = stream.getLast?.map AuditEvent.eventHash ∧ Sealed e.previousEventHash := by
  rw [verifyAuditHashChain,verifyFrom_valid,Option.map_none,linkedFrom_snoc,Option.or_none] at verified
  obtain ⟨⟨linked,previous⟩,digests⟩ := verified
  have earlier : ∀ x ∈ stream, x.eventHash = sealOf x := fun x member => digests x (List.mem_append_left _ member)
  refine ⟨?_,digests e (by simp),previous,?_⟩
  · rw [verifyAuditHashChain,verifyFrom_valid]
    exact ⟨linked,earlier⟩
  · intro text found
    rw [previous] at found
    obtain ⟨last,here,rfl⟩ := Option.map_eq_some_iff.mp found
    exact ⟨eventText last,earlier last (List.mem_of_getLast? here)⟩

/-- The last hash of a chain that verifies commits to all that the hashes cover: another chain
of the tenant with the same last hash is as long and says the same, event by event. -/
theorem latest_hash_commits {tenantId : String} {first second : List AuditEvent} (own : ∀ e ∈ first ++ second, e.tenantId = tenantId)
    (verified : (verifyAuditHashChain first).valid = true) (verifiedOther : (verifyAuditHashChain second).valid = true)
    (distinct : ∀ a ∈ first, ∀ b ∈ second, ¬ Collides (eventText a) (eventText b))
    (same : first.getLast?.map AuditEvent.eventHash = second.getLast?.map AuditEvent.eventHash) :
    List.Forall₂ (fun a b => CoveredSame a b ∧ a.eventHash = b.eventHash) first second := by
  induction first using List.reverseRecOn generalizing second with
  | nil =>
    cases second with
    | nil => exact .nil
    | cons b rest => simp [List.getLast?_cons] at same
  | append_singleton earlier a ih =>
    cases second using List.reverseRecOn with
    | nil => simp at same
    | append_singleton others b =>
      obtain ⟨kept,digest,previous,closed⟩ := verified_snoc verified
      obtain ⟨keptOther,otherDigest,otherPrevious,otherClosed⟩ := verified_snoc verifiedOther
      simp only [List.getLast?_append,List.getLast?_singleton,Option.some_or,Option.map_some,Option.some.injEq] at same
      have texts : eventText a = eventText b := by
        by_contra different
        refine distinct a (by simp) b (by simp) ⟨different,?_⟩
        rwa [digest,otherDigest,sealOf,sealOf,String.ofList_inj] at same
      unfold eventText at texts
      rw [own a (by simp),own b (by simp)] at texts
      obtain ⟨types,subjects,times,hashes,payload⟩ := chainInput_split closed otherClosed texts
      have linked := orDefault_inj closed otherClosed hashes
      rw [previous,otherPrevious] at linked
      refine List.rel_append (ih ?_ kept keptOther ?_ linked) (.cons ⟨⟨types,subjects,times,payload⟩,same⟩ .nil)
      · intro e member
        refine own e ?_
        rcases List.mem_append.mp member with left | right <;> simp_all
      · exact fun x inside y within => distinct x (List.mem_append_left _ inside) y (List.mem_append_left _ within)

theorem latest_hash_commits_opening : List.Forall₂ (fun a b => CoveredSame a b ∧ a.eventHash = b.eventHash)
    [openingEvent "ann" "a:b"] [{openingEvent "ann" "a:b" with action := "DELETE"}] := by
  refine @latest_hash_commits "t1" _ _ ?_ ?_ ?_ ?_ rfl
  · intro e member
    rcases List.mem_cons.mp member with rfl | other
    · rfl
    · rw [List.mem_singleton.mp other]
      rfl
  · decide +kernel
  · decide +kernel
  · intro a inside b within collides
    rw [List.mem_singleton.mp inside,List.mem_singleton.mp within] at collides
    exact collides.1 rfl

end Head

section Chain

variable {tenantId : String} {stream : List AuditEvent}

theorem previous_of_seal (honest : Honest tenantId stream)
    (distinct : ∀ a ∈ stream, ∀ b ∈ stream, ¬ Collides (eventText a) (eventText b)) {a b : AuditEvent}
    (first : a ∈ stream) (second : b ∈ stream) (same : a.eventHash = b.eventHash) :
    orDefault a.previousEventHash "GENESIS" = orDefault b.previousEventHash "GENESIS" := by
  obtain ⟨own,digest,closed⟩ := honest_sealed honest a first
  obtain ⟨otherOwn,otherDigest,otherClosed⟩ := honest_sealed honest b second
  rw [digest,otherDigest,sealOf,sealOf,String.ofList_inj] at same
  have texts : eventText a = eventText b := by
    by_contra different
    exact distinct a first b second ⟨different,same⟩
  unfold eventText at texts
  rw [own,otherOwn] at texts
  exact (chainInput_split closed otherClosed texts).2.2.2.1

theorem hashes_differ (honest : Honest tenantId stream)
    (distinct : ∀ a ∈ stream, ∀ b ∈ stream, ¬ Collides (eventText a) (eventText b)) {i j : ℕ} {a b : AuditEvent}
    (earlier : i < j) (first : stream[i]? = some a) (second : stream[j]? = some b) : a.eventHash ≠ b.eventHash := by
  induction i generalizing j a b with
  | zero =>
    intro same
    obtain ⟨k,rfl⟩ : ∃ k, j = k + 1 := ⟨j - 1,by omega⟩
    have texts := previous_of_seal honest distinct (List.mem_of_getElem? first) (List.mem_of_getElem? second) same
    have genesis := linked_previous (honest_linked honest) first
    have linked := linked_previous (honest_linked honest) second
    have closed := (honest_sealed honest b (List.mem_of_getElem? second)).2.2
    have inside : k < stream.length := by
      have := (List.getElem?_eq_some_iff.mp second).1
      omega
    rw [previousAt,List.getElem?_eq_getElem inside,Option.map_some] at linked
    obtain ⟨input,digest⟩ := closed _ linked
    rw [previousAt] at genesis
    rw [genesis,linked,digest,orDefault_digest] at texts
    exact digest_ne_genesis input texts.symm
  | succ i ih =>
    intro same
    obtain ⟨k,rfl⟩ : ∃ k, j = k + 1 := ⟨j - 1,by omega⟩
    have texts := previous_of_seal honest distinct (List.mem_of_getElem? first) (List.mem_of_getElem? second) same
    have linked := linked_previous (honest_linked honest) first
    have otherLinked := linked_previous (honest_linked honest) second
    have closed := (honest_sealed honest a (List.mem_of_getElem? first)).2.2
    have otherClosed := (honest_sealed honest b (List.mem_of_getElem? second)).2.2
    have inside : k < stream.length := by
      have := (List.getElem?_eq_some_iff.mp second).1
      omega
    have before : i < stream.length := by omega
    rw [previousAt,List.getElem?_eq_getElem before,Option.map_some] at linked
    rw [previousAt,List.getElem?_eq_getElem inside,Option.map_some] at otherLinked
    obtain ⟨input,digest⟩ := closed _ linked
    obtain ⟨otherInput,otherDigest⟩ := otherClosed _ otherLinked
    rw [linked,otherLinked,digest,otherDigest,orDefault_digest,orDefault_digest,← digest,← otherDigest] at texts
    exact ih (by omega) (List.getElem?_eq_getElem before) (List.getElem?_eq_getElem inside) texts

theorem hashes_nodup (honest : Honest tenantId stream)
    (distinct : ∀ a ∈ stream, ∀ b ∈ stream, ¬ Collides (eventText a) (eventText b)) :
    (stream.map AuditEvent.eventHash).Nodup := by
  rw [List.Nodup,List.pairwise_map,List.pairwise_iff_getElem]
  intro i j inside otherInside earlier
  exact hashes_differ honest distinct earlier (List.getElem?_eq_getElem inside) (List.getElem?_eq_getElem otherInside)

theorem previous_nodup (honest : Honest tenantId stream) (unique : (stream.map AuditEvent.eventHash).Nodup) :
    (stream.map AuditEvent.previousEventHash).Nodup := by
  rw [List.Nodup,List.pairwise_map,List.pairwise_iff_getElem]
  intro i j inside otherInside earlier
  rw [List.Nodup,List.pairwise_map,List.pairwise_iff_getElem] at unique
  obtain ⟨k,rfl⟩ : ∃ k, j = k + 1 := ⟨j - 1,by omega⟩
  have within : k < stream.length := by omega
  have linked := linked_previous (honest_linked honest) (List.getElem?_eq_getElem inside)
  have otherLinked := linked_previous (honest_linked honest) (List.getElem?_eq_getElem otherInside)
  rw [linked,otherLinked,previousAt,List.getElem?_eq_getElem within,Option.map_some]
  cases i with
  | zero => simp [previousAt]
  | succ i =>
    have before : i < stream.length := by omega
    rw [previousAt,List.getElem?_eq_getElem before,Option.map_some]
    intro same
    exact unique i k before within (by omega) (Option.some.inj same)

theorem honest_unforked (honest : Honest tenantId stream)
    (distinct : ∀ a ∈ stream, ∀ b ∈ stream, ¬ Collides (eventText a) (eventText b)) : Unforked stream where
  distinct := previous_nodup honest (hashes_nodup honest distinct)
  named := by
    rintro before e after split some
    have unique := hashes_nodup honest distinct
    obtain ⟨front,last,rfl⟩ := (List.eq_nil_or_concat before).resolve_left some
    rw [List.concat_eq_append] at split ⊢
    have here : stream[front.length + 1]? = Option.some e := by simp [split]
    have linked := linked_previous (honest_linked honest) here
    have named : stream[front.length]? = Option.some last := by simp [split]
    rw [previousAt,named,Option.map_some] at linked
    rw [split,List.map_append] at unique
    have once := List.count_eq_one_of_mem (List.nodup_append.mp unique).1
      (List.mem_map.mpr ⟨last,by simp,rfl⟩ : last.eventHash ∈ (front ++ [last]).map AuditEvent.eventHash)
    rw [List.count,List.countP_map] at once
    rw [linked,← once]
    congr 1
    funext earlier
    rw [Bool.eq_iff_iff,decide_eq_true_iff,Option.some.injEq,Function.comp_apply,beq_iff_eq]
    exact eq_comm

end Chain

/-- In every run whose inserting calls had each read the event inserted last,
the chain of the tenant is not forked. -/
theorem chain_unforked_on_latest (db : Database) (tenantId : String) (start : World)
    (empty : streamOf tenantId start.rows = []) (actions : List Action) (met : Along (perform db) (InsertsOnLatest db tenantId) start actions)
    (distinct : ∀ a ∈ streamOf tenantId (run (perform db) start actions).rows,
      ∀ b ∈ streamOf tenantId (run (perform db) start actions).rows, ¬ Collides (eventText a) (eventText b)) :
    Unforked (streamOf tenantId (run (perform db) start actions).rows) := by
  have kept : ∀ w a, Honest tenantId (streamOf tenantId w.rows) → InsertsOnLatest db tenantId w a →
      Honest tenantId (streamOf tenantId (perform db w a).rows) := by
    intro w a honest latest
    exact perform_honest db honest latest
  have honest : Honest tenantId (streamOf tenantId start.rows) := by
    rw [empty]
    exact Honest.nil
  exact honest_unforked (run_preserves kept honest met) distinct

def freshWorld : World := ⟨[],fun _ => none⟩

def readAt (service second : ℕ) (uuid : String) : Action := .read service ⟨"t1",none⟩ (configCall second uuid)

/-- Two services read the empty stream before either inserts; and one service
whose clock was set back reads the same last event twice. -/
theorem stale_heads_fork :
    ¬ Unforked (streamOf "t1" (run (perform plainDatabase) freshWorld
      [readAt 0 0 "0a", readAt 1 1 "0b", .insert 0, .insert 1]).rows) ∧
    ¬ Unforked (streamOf "t1" (run (perform plainDatabase) freshWorld
      [readAt 0 9 "0a", .insert 0, readAt 0 5 "0b", .insert 0, readAt 0 7 "0c", .insert 0]).rows) := by
  refine ⟨?_,?_⟩
  · intro unforked
    exact absurd unforked.distinct (by decide +kernel)
  · intro unforked
    exact absurd unforked.distinct (by decide +kernel)

theorem turns_of_two_services_unforked :
    Unforked (streamOf "t1" (run (perform plainDatabase) freshWorld
      [readAt 0 0 "0a", .insert 0, readAt 1 1 "0b", .insert 1]).rows) := by
  refine chain_unforked_on_latest plainDatabase "t1" freshWorld rfl
    [readAt 0 0 "0a", .insert 0, readAt 1 1 "0b", .insert 1] ⟨trivial,?_,trivial,?_,trivial⟩ ?_
  · intro u held _
    obtain rfl := Option.some.inj held
    rfl
  · intro u held _
    obtain rfl := Option.some.inj held
    rfl
  · unfold Collides
    decide +kernel

end CloudLens.Audit
