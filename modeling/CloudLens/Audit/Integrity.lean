import CloudLens.Audit.Model
import CloudLens.Library.Runs

/-! Verification of an honestly written stream. The repository lists a stream
newest first and the verification expects it oldest first, so a stream of two or
more events never verifies; a stream of one event does, unless its details come
back from the table as another text. -/
namespace CloudLens.Audit
open Library

/-- The microseconds a moment has in a calendar of even months. -/
def Moment.rank (m : Moment) : ℕ :=
  ((m.date.year * 13 + m.date.month) * 32 + m.date.day) * (86400 * 10^6) + m.microseconds

theorem before_iff (a b : Moment) : a.Before b ↔ a.rank < b.rank := by
  have first := a.date.valid
  have second := b.date.valid
  have firstDay := Calendar.day_le a.date
  have secondDay := Calendar.day_le b.date
  have firstWithin := a.within
  have secondWithin := b.within
  unfold Moment.Before Moment.rank
  rw [Calendar.Date.lt_iff]
  constructor
  · rintro (earlier | ⟨same,earlier⟩)
    · omega
    · rw [same]
      omega
  · intro earlier
    by_cases same : a.date.year = b.date.year ∧ a.date.month = b.date.month ∧ a.date.day = b.date.day
    · refine Or.inr ⟨Calendar.Date.ext_fields same.1 same.2.1 same.2.2,?_⟩
      omega
    · refine Or.inl ?_
      omega

theorem newestFirst_iff (a b : AuditEvent) : NewestFirst a b ↔
    b.timestamp.rank < a.timestamp.rank ∨ (b.timestamp.rank ≤ a.timestamp.rank ∧ b.id ≤ a.id) := by
  simp [NewestFirst,before_iff]

instance : IsTrans AuditEvent NewestFirst := ⟨by
  intro a b c first second
  rw [newestFirst_iff] at first second ⊢
  rcases first with first | ⟨first,ids⟩
  · rcases second with second | ⟨second,_⟩ <;> omega
  · rcases second with second | ⟨second,moreIds⟩
    · omega
    · exact Or.inr ⟨le_trans second first,le_trans moreIds ids⟩⟩

instance : Std.Total NewestFirst := ⟨by
  intro a b
  rw [newestFirst_iff,newestFirst_iff]
  rcases lt_or_ge a.timestamp.rank b.timestamp.rank with earlier | later
  · exact Or.inr (Or.inl earlier)
  · rcases le_total b.id a.id with ids | ids
    · exact Or.inl (Or.inr ⟨later,ids⟩)
    · rcases lt_or_eq_of_le later with strict | same
      · exact Or.inl (Or.inl strict)
      · exact Or.inr (Or.inr ⟨same.ge,ids⟩)⟩

theorem newest_head {before : List AuditEvent} {latest : AuditEvent}
    (later : ∀ row ∈ before, row.timestamp.Before latest.timestamp) :
    ∃ rest, (before ++ [latest]).insertionSort NewestFirst = latest :: rest := by
  have sorted := List.pairwise_insertionSort NewestFirst (before ++ [latest])
  cases listed : (before ++ [latest]).insertionSort NewestFirst with
  | nil =>
    have := congrArg List.length listed
    simp at this
  | cons head rest =>
    rw [listed,List.pairwise_cons] at sorted
    refine ⟨rest,?_⟩
    by_cases same : head = latest
    · rw [same]
    · have member : head ∈ before ++ [latest] := by rw [← List.mem_insertionSort NewestFirst,listed]; simp
      have found : latest ∈ head :: rest := by rw [← listed,List.mem_insertionSort]; simp
      have old : head ∈ before := by simpa [same] using member
      have precedes := sorted.1 latest (by simpa [Ne.symm same] using found)
      have order := (before_iff _ _).mp (later head old)
      rw [newestFirst_iff] at precedes
      omega

def Collides (first second : List Char) : Prop :=
  first ≠ second ∧ Sha256.textDigest first = Sha256.textDigest second

def openingText (tc : TenantContext) (call : AppendCall) (details : Details) : List Char :=
  chainInput tc.tenantId call.input.eventType call.input.actorId call.input.resourceType call.input.resourceId
    call.now none details

/-- The details come back from the table with the text that was hashed. -/
def Survives (db : Database) (tc : TenantContext) (call : AppendCall) : Prop :=
  JsonText.dumps (db.reread call.input.details) = JsonText.dumps call.input.details ∨
    Collides (openingText tc call (db.reread call.input.details)) (openingText tc call call.input.details)

def accepted (db : Database) (tc : TenantContext) (calls : List AppendCall) : List AppendCall :=
  calls.filter (fun call => db.accepts tc call.input)

structure Verifiable (db : Database) (tc : TenantContext) (calls : List AppendCall) : Prop where
  single : (accepted db tc calls).length ≤ 1
  survives : ∀ call ∈ accepted db tc calls, Survives db tc call

structure Appended (tc : TenantContext) (stored : List AppendCall) (stream : List AuditEvent) : Prop where
  times : stream.map AuditEvent.timestamp = stored.map AppendCall.now
  linked : ∀ before event, stream = before ++ [event] → before ≠ [] → event.previousEventHash ≠ none
  opening : ∀ event, stream = [event] → ∃ call, stored = [call] ∧ event = buildEvent tc call.input call.now call.uuid none

theorem streamOf_snoc {tenantId : String} {event : AuditEvent} (own : event.tenantId = tenantId) (rows : List AuditEvent) :
    streamOf tenantId (rows ++ [event]) = streamOf tenantId rows ++ [event] := by
  simp [streamOf,own]

theorem getLastEvent_none (db : Database) {tenantId : String} {rows : List AuditEvent}
    (empty : streamOf tenantId rows = []) : getLastEvent db tenantId rows = none := by
  simp [getLastEvent,empty]

theorem getLastEvent_isSome (db : Database) {tenantId : String} {rows : List AuditEvent}
    (some : streamOf tenantId rows ≠ []) : (getLastEvent db tenantId rows).isSome = true := by
  rw [getLastEvent,Option.isSome_map]
  have : (streamOf tenantId rows).insertionSort NewestFirst ≠ [] := by
    intro empty
    have := congrArg List.length empty
    rw [List.length_insertionSort] at this
    exact some (List.eq_nil_of_length_eq_zero this)
  rw [List.isSome_head?]
  simpa using this

theorem unoccupied {rows : List AuditEvent} {event : AuditEvent}
    (later : ∀ row ∈ streamOf event.tenantId rows, row.timestamp.Before event.timestamp) :
    occupied rows event = false := by
  rw [occupied,List.any_eq_false]
  intro row member
  simp only [decide_eq_true_eq,not_and]
  intro own _ notBefore _
  exact notBefore (later row (by simp [streamOf,member,own]))

section Run

variable {db : Database} {tc : TenantContext}

theorem appended_snoc {stored : List AppendCall} {rows : List AuditEvent} {call : AppendCall}
    (appended : Appended tc stored (streamOf tc.tenantId rows)) (later : ∀ earlier ∈ stored, earlier.now.Before call.now)
    (accepts : db.accepts tc call.input = true) :
    Appended tc (stored ++ [call]) (streamOf tc.tenantId (appendEvent db tc rows call)) := by
  have after : ∀ row ∈ streamOf tc.tenantId rows, row.timestamp.Before call.now := by
    intro row member
    have stamped : row.timestamp ∈ stored.map AppendCall.now := by
      rw [← appended.times]
      exact List.mem_map_of_mem member
    obtain ⟨earlier,inside,same⟩ := List.mem_map.mp stamped
    rw [← same]
    exact later earlier inside
  have free : occupied rows (buildEvent tc call.input call.now call.uuid (getLastEvent db tc.tenantId rows)) = false :=
    unoccupied after
  unfold appendEvent
  simp only
  rw [free,accepts]
  simp only [Bool.not_false,Bool.and_self,if_true]
  rw [streamOf_snoc (by rfl)]
  refine ⟨?_,?_,?_⟩
  · rw [List.map_append,List.map_append,appended.times]
    rfl
  · intro before event split some
    obtain ⟨rfl,last⟩ := List.append_inj' split rfl
    rw [List.singleton_inj] at last
    rw [← last]
    have found := getLastEvent_isSome db some
    intro none
    simp only [buildEvent,Option.map_eq_none_iff] at none
    rw [none] at found
    cases found
  · intro event single
    have lengths := congrArg List.length single
    have empty : streamOf tc.tenantId rows = [] := by
      simpa using lengths
    rw [empty] at single
    have none : stored = [] := by
      have times := appended.times
      rw [empty] at times
      simpa using times.symm
    refine ⟨call,by rw [none]; rfl,?_⟩
    rw [getLastEvent_none db empty] at single
    simpa using single.symm

theorem accepted_snoc (calls : List AppendCall) (call : AppendCall) : accepted db tc (calls ++ [call]) =
    if db.accepts tc call.input = true then accepted db tc calls ++ [call] else accepted db tc calls := by
  rw [accepted,List.filter_append]
  cases accepts : db.accepts tc call.input with
  | true => simp [accepts,accepted]
  | false => simp [accepts,accepted]

theorem appended_run (db : Database) {rows : List AuditEvent} (fresh : streamOf tc.tenantId rows = []) {calls : List AppendCall}
    (clock : calls.Pairwise (fun a b => a.now.Before b.now)) :
    Appended tc (accepted db tc calls) (streamOf tc.tenantId (Runs.run (appendEvent db tc) rows calls)) := by
  induction calls using List.reverseRecOn with
  | nil =>
    rw [Runs.run_nil,fresh]
    exact ⟨rfl,by simp,by simp⟩
  | append_singleton calls call ih =>
    rw [List.pairwise_append] at clock
    have appended := ih clock.1
    rw [Runs.run_append,Runs.run_cons,Runs.run_nil,accepted_snoc]
    cases accepts : db.accepts tc call.input with
    | true =>
      rw [if_pos rfl]
      refine appended_snoc appended ?_ accepts
      intro earlier member
      exact clock.2.2 earlier (List.mem_of_mem_filter member) call (by simp)
    | false =>
      rw [if_neg (by simp)]
      simpa [appendEvent,accepts] using appended

theorem verify_nil (rows : List AuditEvent) (empty : streamOf tc.tenantId rows = []) :
    verifyStreamIntegrity db tc rows = true := by
  simp [verifyStreamIntegrity,listEvents,empty,verifyChain]

theorem verify_single {rows : List AuditEvent} {call : AppendCall}
    (single : streamOf tc.tenantId rows = [buildEvent tc call.input call.now call.uuid none]) :
    verifyStreamIntegrity db tc rows = true ↔ Survives db tc call := by
  have digests : verifyStreamIntegrity db tc rows = true ↔
      Sha256.textDigest (openingText tc call (db.reread call.input.details)) =
        Sha256.textDigest (openingText tc call call.input.details) := by
    simp [verifyStreamIntegrity,listEvents,single,verifyChain,rowToEvent,buildEvent,computeHash,openingText,
      String.ofList_inj]
  have texts : openingText tc call (db.reread call.input.details) = openingText tc call call.input.details ↔
      JsonText.dumps (db.reread call.input.details) = JsonText.dumps call.input.details := by
    simp [openingText,chainInput]
  rw [digests,Survives,Collides,← texts]
  by_cases same : openingText tc call (db.reread call.input.details) = openingText tc call call.input.details
  · simp [same]
  · simp [same]

theorem verify_longer {stored : List AppendCall} {rows : List AuditEvent}
    (appended : Appended tc stored (streamOf tc.tenantId rows)) (clock : stored.Pairwise (fun a b => a.now.Before b.now))
    (long : 2 ≤ stored.length) : verifyStreamIntegrity db tc rows = false := by
  have lengths : (streamOf tc.tenantId rows).length = stored.length := by
    simpa using congrArg List.length appended.times
  obtain ⟨before,latest,split⟩ : ∃ before latest, streamOf tc.tenantId rows = before ++ [latest] := by
    rcases List.eq_nil_or_concat (streamOf tc.tenantId rows) with empty | ⟨before,latest,split⟩
    · rw [empty,List.length_nil] at lengths
      omega
    · exact ⟨before,latest,by simpa using split⟩
  have some : before ≠ [] := by
    rintro rfl
    rw [split] at lengths
    simp at lengths
    omega
  have later : ∀ row ∈ before, row.timestamp.Before latest.timestamp := by
    have ordered : (stored.map AppendCall.now).Pairwise Moment.Before := List.pairwise_map.mpr clock
    rw [← appended.times,split,List.map_append,List.pairwise_append] at ordered
    intro row member
    exact ordered.2.2 _ (List.mem_map_of_mem member) _ (by simp)
  obtain ⟨rest,listed⟩ := newest_head later
  have linked := appended.linked before latest split some
  have first : (rowToEvent db latest).previousEventHash ≠ none := linked
  rw [verifyStreamIntegrity,listEvents,split,listed,List.drop_zero,List.take_succ_cons,List.map_cons,verifyChain,
    if_pos first]

end Run

/-- An honestly written stream verifies exactly when at most one event was
stored, and its details came back with the text that was hashed. -/
theorem honest_stream_verifies_iff (db : Database) (tc : TenantContext) (rows : List AuditEvent)
    (fresh : streamOf tc.tenantId rows = []) (calls : List AppendCall)
    (clock : calls.Pairwise (fun a b => a.now.Before b.now)) :
    verifyStreamIntegrity db tc (Runs.run (appendEvent db tc) rows calls) = true ↔ Verifiable db tc calls := by
  have appended := appended_run db fresh clock
  have ordered : (accepted db tc calls).Pairwise (fun a b => a.now.Before b.now) := clock.sublist List.filter_sublist
  have lengths := congrArg List.length appended.times
  rw [List.length_map,List.length_map] at lengths
  by_cases long : 2 ≤ (accepted db tc calls).length
  · rw [verify_longer appended ordered long]
    refine iff_of_false (by simp) ?_
    intro verifiable
    have := verifiable.single
    omega
  · by_cases empty : accepted db tc calls = []
    · rw [empty,List.length_nil] at lengths
      rw [verify_nil _ (List.eq_nil_of_length_eq_zero lengths)]
      exact iff_of_true rfl ⟨by rw [empty]; exact Nat.zero_le 1,by simp [empty]⟩
    · have one : (accepted db tc calls).length = 1 := by
        have := List.length_pos_of_ne_nil empty
        omega
      obtain ⟨event,stream⟩ := List.length_eq_one_iff.mp (lengths.trans one)
      obtain ⟨call,stored,built⟩ := appended.opening event stream
      have single : streamOf tc.tenantId (Runs.run (appendEvent db tc) rows calls) =
          [buildEvent tc call.input call.now call.uuid none] := by
        rw [stream,built]
      rw [verify_single single]
      constructor
      · intro survives
        exact ⟨one.le,by simpa [stored] using survives⟩
      · intro verifiable
        exact verifiable.survives call (by simp [stored])

theorem october_valid : (1 ≤ 2026 ∧ 2026 ≤ 9999) ∧ (1 ≤ 10 ∧ 10 ≤ 12) ∧ 1 ≤ 1 ∧ 1 ≤ Calendar.daysInMonth 2026 10 := by
  decide

theorem second_within (second : ℕ) : second % 86400 * 10^6 < 86400 * 10^6 := by
  have := Nat.mod_lt second (show 0 < 86400 by omega)
  omega

def octoberAt (second : ℕ) : Moment := ⟨⟨2026,10,1,october_valid⟩,second % 86400 * 10^6,second_within second⟩

theorem configChanged_canonical : "CONFIG_CHANGED" ∈ auditEventTypes := by decide

def configChange (actorId resourceType resourceId : String) : AuditEventCreate where
  eventType := ⟨"CONFIG_CHANGED",configChanged_canonical⟩
  actorId := actorId
  action := "UPDATE"
  resourceType := resourceType
  resourceId := resourceId

def plainDatabase : Database := ⟨fun _ _ => true,id⟩

def configCall (second : ℕ) (uuid : String) : AppendCall := ⟨configChange "ann" "RULE" "r1",octoberAt second,uuid⟩

/-- Two changes a second apart, written honestly, and the stream does not verify. -/
theorem two_events_fail_verification :
    [configCall 0 "0a", configCall 1 "0b"].Pairwise (fun a b => a.now.Before b.now) ∧
    verifyStreamIntegrity plainDatabase ⟨"t1",none⟩
      (Runs.run (appendEvent plainDatabase ⟨"t1",none⟩) [] [configCall 0 "0a", configCall 1 "0b"]) = false := by
  decide +kernel

theorem single_event_verifies :
    verifyStreamIntegrity plainDatabase ⟨"t1",none⟩
      (Runs.run (appendEvent plainDatabase ⟨"t1",none⟩) [] [configCall 0 "0a"]) = true := by
  refine (honest_stream_verifies_iff plainDatabase ⟨"t1",none⟩ [] rfl [configCall 0 "0a"] (by simp)).mpr ⟨?_,?_⟩
  · exact List.length_filter_le _ _
  · intro call _
    exact Or.inl rfl

end CloudLens.Audit
