import CloudLens.Connectors.Pagination
import CloudLens.Connectors.Verifiability
import CloudLens.Library.Runs

/-! What calls of a paginated sync leave behind when their workers are killed: which
pages are landed, described and counted, and which records are returned. -/
namespace CloudLens.Connectors
open Library Library.Runs

theorem pageDigits (n : ℕ) : (toString (n : ℤ)).toList = Nat.toDigits 10 n := by
  simp [toString,Int.repr,Nat.repr]

theorem toDigits_injective {n k : ℕ} (same : Nat.toDigits 10 n = Nat.toDigits 10 k) : n = k := by
  have read := (Text.numeral_toDigits n).2
  rw [same,(Text.numeral_toDigits k).2] at read
  exact (Option.some.inj read).symm

section Rows

variable (job : PaginatedJob)

def PaginatedJob.dataset : String :=
  let named := (Text.lower job.capability.value).toList
  if "cost".toList <:+: named then "cost"
  else if "inventory".toList <:+: named ∨ "resource".toList <:+: named then "inventory"
  else (Text.lower job.capability.value)

/-- The path of a landed page before and after its month. -/
def PaginatedJob.pathFront : String := "raw-landing/" ++ (job.tenantId ++ "/" ++ job.connectorId ++ "/" ++ job.dataset ++ "/")

def PaginatedJob.pathBack (page : ℕ) : String := "/run_" ++ job.jobId ++ "_page_" ++ toString (page : ℤ) ++ ".json"

/-- The row describes this page of the job, in whatever month it was landed. -/
def OfPage (page : ℕ) (record : RawLandingRecord) : Prop :=
  record.storagePath.toList.take job.pathFront.length = job.pathFront.toList ∧
    record.storagePath.toList.drop (job.pathFront.length + 7) = (job.pathBack page).toList

instance (page : ℕ) (record : RawLandingRecord) : Decidable (OfPage job page record) := inferInstanceAs (Decidable (_ ∧ _))

def rowsOf (page : ℕ) (rows : List RawLandingRecord) : ℕ := rows.countP (fun record => OfPage job page record)

variable {job} {uuid : ℕ → String} {call : PaginatedCall} {drawn page other : ℕ} {result : PagedResult}

theorem pageLanding_path (payload : Bytes) : ((pageLanding uuid job call drawn page result).landingRecord payload).storagePath =
    job.pathFront ++ (call.month.val ++ job.pathBack page) := by
  have dataset : (pageLanding uuid job call drawn page result).effDataset = job.dataset := rfl
  have path : ((pageLanding uuid job call drawn page result).landingRecord payload).storagePath =
      "raw-landing/" ++ (job.tenantId ++ "/" ++ job.connectorId ++ "/" ++
        (pageLanding uuid job call drawn page result).effDataset ++ "/" ++ call.month.val ++
        "/run_" ++ job.jobId ++ "_page_" ++ toString (page : ℤ) ++ ".json") := rfl
  rw [path,dataset]
  unfold PaginatedJob.pathFront PaginatedJob.pathBack
  simp only [String.append_assoc]

theorem ofPage_pageLanding (payload : Bytes) :
    OfPage job other ((pageLanding uuid job call drawn page result).landingRecord payload) ↔ other = page := by
  unfold OfPage
  rw [pageLanding_path]
  simp only [String.toList_append]
  have dropped : (job.pathFront.toList ++ (call.month.val.toList ++ (job.pathBack page).toList)).drop (job.pathFront.length + 7) =
      (job.pathBack page).toList := by
    rw [← List.append_assoc]
    exact List.drop_left' (by rw [List.length_append,call.month.property,String.length_toList])
  rw [List.take_left' String.length_toList,dropped]
  constructor
  · rintro ⟨_,same⟩
    unfold PaginatedJob.pathBack at same
    simp only [String.toList_append] at same
    have digits := List.append_cancel_left (List.append_cancel_right same)
    rw [pageDigits,pageDigits] at digits
    exact (toDigits_injective digits).symm
  · rintro rfl
    exact ⟨rfl,rfl⟩

end Rows

section Landed

variable (dumps : Json → List Char) (job : PaginatedJob)

def PaginatedJob.pageKey (page : ℕ) : String :=
  "landings/" ++ job.connectorId ++ "/" ++ job.capability.value ++ "/" ++ job.jobId ++ "/page_" ++ toString (page : ℤ) ++ ".json"

def pageBytes (result : PagedResult) : Bytes := Sha256.encode (dumps (.arr result.items))

def Landed (s : Storage) (page : ℕ) (result : PagedResult) : Prop :=
  existingObject s job.tenantId (job.pageKey page) = some (pageBytes dumps result)

def Accepts (s : Storage) (page : ℕ) (result : PagedResult) : Prop :=
  ∃ resolved, sanitizeAndResolveKey job.tenantId (job.pageKey page) = .ok resolved ∧
    (s.objects resolved = none ∨ s.objects resolved = some (pageBytes dumps result))

def ObjectsKept (before after : Storage) : Prop := ∀ key bytes, before.objects key = some bytes → after.objects key = some bytes

variable {dumps job} {uuid : ℕ → String} {call : PaginatedCall} {drawn page : ℕ} {result : PagedResult} {s after : Storage}

theorem accepts_of_reaches {payload : Bytes} {resolved : String}
    (reaches : Reaches (fun json => .ok (dumps json)) s (pageLanding uuid job call drawn page result) payload resolved) :
    Accepts dumps job s page result := by
  obtain ⟨text,dumped,rfl⟩ := reaches.serialised
  obtain rfl := Except.ok.inj dumped
  exact ⟨resolved,reaches.key,reaches.unwritten⟩

theorem landPage_refused (uuid : ℕ → String) (call : PaginatedCall) (drawn : ℕ) (refused : ¬Accepts dumps job s page result) :
    ∃ error, landRawPayload (fun json => .ok (dumps json)) s (pageLanding uuid job call drawn page result) = (s, .error error) :=
  landRawPayload_stops (fun _ _ reaches => refused (accepts_of_reaches reaches))

theorem landPage_accepted (uuid : ℕ → String) (call : PaginatedCall) (drawn : ℕ) (accepted : Accepts dumps job s page result) :
    ∃ after record,
    landRawPayload (fun json => .ok (dumps json)) s (pageLanding uuid job call drawn page result) = (after, .ok record) ∧
      Landed dumps job after page result ∧ ObjectsKept s after ∧
      record = (pageLanding uuid job call drawn page result).landingRecord (pageBytes dumps result) ∧
      after.rows = (insertLanding s record).rows := by
  obtain ⟨resolved,key,unwritten⟩ := accepted
  have reaches : Reaches (fun json => .ok (dumps json)) s (pageLanding uuid job call drawn page result)
      (pageBytes dumps result) resolved := ⟨job.authenticated,⟨_,rfl,rfl⟩,key,unwritten,rfl⟩
  refine ⟨_,_,landRawPayload_inserts reaches rfl,?_,?_,rfl,?_⟩
  · unfold Landed existingObject
    rw [key]
    dsimp only
    rw [insertLanding_objects,written_updates,Function.update_self]
  · intro other bytes held
    rw [insertLanding_objects]
    exact written_objects reaches held
  · unfold insertLanding
    rw [written_rows]
    split
    · exact written_rows
    · rfl

theorem objectsKept_refl : ObjectsKept s s := fun _ _ held => held

theorem objectsKept_trans {last : Storage} (kept : ObjectsKept s after) (again : ObjectsKept after last) : ObjectsKept s last :=
  fun key bytes held => again key bytes (kept key bytes held)

theorem landed_kept (kept : ObjectsKept s after) (landed : Landed dumps job s page result) : Landed dumps job after page result := by
  unfold Landed existingObject at landed ⊢
  split at landed
  · exact kept _ _ landed
  · cases landed

theorem refused_kept (kept : ObjectsKept s after) (refused : ¬Accepts dumps job s page result) : ¬Accepts dumps job after page result := by
  rintro ⟨resolved,key,unwritten⟩
  refine refused ⟨resolved,key,?_⟩
  cases held : s.objects resolved with
  | none => exact Or.inl rfl
  | some bytes =>
    rw [kept _ _ held] at unwritten
    exact unwritten

theorem landed_accepts (landed : Landed dumps job s page result) : Accepts dumps job s page result := by
  unfold Landed existingObject at landed
  split at landed
  · rename_i resolved key
    exact ⟨resolved,key,Or.inr landed⟩
  · cases landed

end Landed

section Chain

inductive Linked (source : Option String → PagedResult) : Option String → List PagedResult → Prop
  | last {token : Option String} {result : PagedResult} (offered : source token = result)
      (ends : result.isTruncated = false ∨ linked result.continuationToken = false) : Linked source token [result]
  | more {token : Option String} {result : PagedResult} {rest : List PagedResult} (offered : source token = result)
      (truncated : result.isTruncated = true) (continues : linked result.continuationToken = true)
      (next : Linked source result.continuationToken rest) : Linked source token (result :: rest)

def recordsOf (pages : List PagedResult) : List Json := pages.flatMap PagedResult.items

/-- The checkpoint of a job whose last saved page ends these pages. -/
def savedCheckpoint (taken : List PagedResult) : Option JobCheckpoint :=
  taken.getLast?.map (fun page =>
    ⟨if page.isTruncated then page.continuationToken else none,taken.length,(recordsOf taken).length,
      if page.isTruncated then .inProgress else .completed⟩)

def resumable (checkpoint : JobCheckpoint) : Bool := checkpoint.status = .inProgress && linked checkpoint.continuationToken

variable {source : Option String → PagedResult} {token : Option String} {pages taken left : List PagedResult} {page : PagedResult}

theorem linked_nonempty (chain : Linked source token pages) : pages ≠ [] := by
  cases chain <;> simp

theorem savedCheckpoint_append : savedCheckpoint (taken ++ [page]) =
    some ⟨if page.isTruncated then page.continuationToken else none,taken.length + 1,(recordsOf taken).length + page.items.length,
      if page.isTruncated then .inProgress else .completed⟩ := by
  simp [savedCheckpoint,recordsOf]

theorem linked_rest (chain : Linked source token (taken ++ page :: left)) (more : left ≠ []) :
    page.isTruncated = true ∧ linked page.continuationToken = true ∧ Linked source page.continuationToken left := by
  induction taken generalizing token with
  | nil =>
    cases chain with
    | last offered ends => exact absurd rfl more
    | more offered truncated continues next => exact ⟨truncated,continues,next⟩
  | cons first taken ih =>
    cases parts : taken ++ page :: left with
    | nil => simp at parts
    | cons second rest =>
      rw [List.cons_append,parts] at chain
      cases chain with
      | more offered truncated continues next =>
        rw [← parts] at next
        exact ih next

theorem linked_last (chain : Linked source token (taken ++ [page])) :
    page.isTruncated = false ∨ linked page.continuationToken = false := by
  induction taken generalizing token with
  | nil =>
    cases chain with
    | last offered ends => exact ends
    | more offered truncated continues next => exact absurd rfl (linked_nonempty next)
  | cons first taken ih =>
    cases parts : taken ++ [page] with
    | nil => simp at parts
    | cons second rest =>
      rw [List.cons_append,parts] at chain
      cases chain with
      | more offered truncated continues next =>
        rw [← parts] at next
        exact ih next

end Chain

section Calls

def PaginatedCall.attempts (call : PaginatedCall) (executed : ℕ) (ahead : List PagedResult) : List PagedResult :=
  match call.maxPages with
  | none => ahead
  | some limit => if limit = 0 then ahead else ahead.take (limit - executed)

/-- A worker that lives for so many steps returns, or is killed with its last
landed page saved and no record on the pages it saved. -/
def Spared (steps : ℕ) (attempted : List PagedResult) : Prop :=
  3 * attempted.length < steps ∨ steps % 3 ≠ 2 ∧ ∀ page ∈ attempted.take (steps / 3), page.items = []

variable (dumps : Json → List Char) (uuid : ℕ → String) (source : Option String → PagedResult) (job : PaginatedJob)

structure Saved (taken : List PagedResult) (state : SyncState) : Prop where
  checkpoint : state.checkpoints job.checkpointKey = savedCheckpoint taken
  landed : ∀ n page, taken[n]? = some page → Landed dumps job state.storage (n + 1) page
  rows : ∀ n, rowsOf job (n + 1) state.storage.rows = if n < taken.length then 1 else 0
  unused : ∀ n, state.drawn ≤ n → "land-" ++ uuid n ∉ state.storage.rows.map RawLandingRecord.landingId

def Stuck (pages : List PagedResult) (s : Storage) : Prop := ∃ n page, pages[n]? = some page ∧ ¬Accepts dumps job s (n + 1) page

/-- How a call may end that took `more` and left the pages `left`. -/
def EndsAt (call : PaginatedCall) (cursor : PageCursor) (taken more left : List PagedResult) (s : Storage) : CallEnd → Prop
  | .returned items exhausted => items = cursor.accumulated ++ recordsOf more ∧ (exhausted = true ↔ left = [])
  | .raised _ => Stuck dumps job (taken ++ (more ++ left)) s
  | .killed => recordsOf more = [] ∧
      ∃ steps, cursor.budget = some steps ∧ steps ≤ 3 * (call.attempts cursor.pagesExecuted (more ++ left)).length
  | .outOfFuel => False

variable {dumps uuid source job} {call : PaginatedCall} {cursor : PageCursor} {taken rest : List PagedResult}
  {page : PagedResult} {state : SyncState} {executed : ℕ}

theorem spend_none {budget : Option ℕ} (spent : spend budget = none) : budget = some 0 := by
  match budget, spent with
  | some 0, _ => rfl

theorem spend_some {budget : Option ℕ} {steps : ℕ} (spent : spend budget = some (some steps)) : budget = some (steps + 1) := by
  match budget, spent with
  | some (_ + 1), rfl => rfl

theorem attempts_cons (page : PagedResult) (rest : List PagedResult) (below : reachedLimit call executed = false) : call.attempts executed (page :: rest) =
    page :: if reachedLimit call (executed + 1) then [] else call.attempts (executed + 1) rest := by
  unfold PaginatedCall.attempts reachedLimit at *
  cases limited : call.maxPages with
  | none => simp
  | some limit =>
    rw [limited] at below
    by_cases unlimited : limit = 0
    · simp [unlimited]
    · have more : limit - executed = (limit - (executed + 1)) + 1 := by
        simp [unlimited] at below
        omega
      simp only [if_neg unlimited,more,List.take_succ_cons]
      by_cases last : limit ≤ executed + 1
      · simp [unlimited,last]
      · simp [unlimited,last]

theorem not_spared_landed : ¬Spared 2 (page :: rest) := by
  rintro (long | ⟨saved,_⟩)
  · rw [List.length_cons] at long
    omega
  · exact saved rfl

theorem spared_later {steps : ℕ} (spared : Spared (steps + 3) (page :: rest)) : Spared steps rest := by
  rcases spared with long | ⟨saved,empty⟩
  · exact Or.inl (by rw [List.length_cons] at long; omega)
  · rw [Nat.add_div_right steps (by omega),List.take_succ_cons,List.forall_mem_cons] at empty
    exact Or.inr ⟨by omega,empty.2⟩

theorem spared_first {steps : ℕ} (spared : Spared (steps + 3) (page :: rest)) (short : steps ≤ 3 * rest.length) :
    page.items = [] := by
  rcases spared with long | ⟨_,empty⟩
  · rw [List.length_cons] at long
    omega
  · rw [Nat.add_div_right steps (by omega),List.take_succ_cons,List.forall_mem_cons] at empty
    exact empty.1

theorem Saved.draw (saved : Saved dumps uuid job taken state) :
    Saved dumps uuid job taken { state with drawn := state.drawn + 1 } :=
  ⟨saved.checkpoint,saved.landed,saved.rows,fun n later => saved.unused n (by have : state.drawn + 1 ≤ n := later; omega)⟩

theorem Saved.save (distinct : Function.Injective uuid) (saved : Saved dumps uuid job taken state)
    (numbered : cursor.currentPage = taken.length + 1) (counted : cursor.recordsSoFar = (recordsOf taken).length)
    {after : Storage} (landed : Landed dumps job after cursor.currentPage page) (kept : ObjectsKept state.storage after)
    (rows : after.rows = (insertLanding state.storage
      ((pageLanding uuid job call state.drawn cursor.currentPage page).landingRecord (pageBytes dumps page))).rows) :
    Saved dumps uuid job (taken ++ [page])
      (saveCheckpoint { state with storage := after, drawn := state.drawn + 1 } job (pageCheckpoint cursor page)) := by
  have inserted : after.rows = state.storage.rows ++
      [(pageLanding uuid job call state.drawn cursor.currentPage page).landingRecord (pageBytes dumps page)] := by
    have fresh : ((pageLanding uuid job call state.drawn cursor.currentPage page).landingRecord (pageBytes dumps page)).landingId ∉
        state.storage.rows.map RawLandingRecord.landingId := saved.unused state.drawn le_rfl
    rw [rows]
    unfold insertLanding
    rw [if_neg fresh]
  refine ⟨?_,?_,?_,?_⟩
  · rw [savedCheckpoint_append]
    simp only [saveCheckpoint,Function.update_self]
    unfold pageCheckpoint
    rw [numbered,counted]
  · intro n other found
    rcases Nat.lt_or_ge n taken.length with before | here
    · rw [List.getElem?_append_left before] at found
      exact landed_kept kept (saved.landed n other found)
    · rw [List.getElem?_append_right here,List.getElem?_singleton] at found
      split at found
      · rename_i last
        obtain rfl := Option.some.inj found
        have number : n + 1 = cursor.currentPage := by omega
        rw [number]
        exact landed
      · cases found
  · intro n
    have before := saved.rows n
    unfold rowsOf at before ⊢
    simp only [saveCheckpoint,inserted]
    rw [List.countP_append,before,List.countP_singleton]
    simp only [ofPage_pageLanding,numbered,List.length_append,List.length_singleton,decide_eq_true_eq]
    split_ifs <;> omega
  · intro n later
    have drawn : state.drawn + 1 ≤ n := later
    simp only [saveCheckpoint,inserted,List.map_append,List.map_singleton,List.mem_append,List.mem_singleton,not_or]
    refine ⟨saved.unused n (by omega),?_⟩
    intro same
    have texts := congrArg String.toList same
    simp only [LandingCall.landingRecord,pageLanding,String.toList_append] at texts
    exact absurd (distinct (String.toList_inj.mp (List.append_cancel_left texts))) (by omega)

theorem endsAt_cons {token : Option String} {number counted : ℕ} {budget : Option ℕ} {more left : List PagedResult}
    {s : Storage} {ended : CallEnd}
    (attempted : call.attempts cursor.pagesExecuted (page :: (more ++ left)) =
      page :: call.attempts (cursor.pagesExecuted + 1) (more ++ left))
    (sparing : ∀ steps, budget = some steps → cursor.budget = some (steps + 3) ∧
      Spared (steps + 3) (page :: call.attempts (cursor.pagesExecuted + 1) (more ++ left)))
    (later : EndsAt dumps job call ⟨token,number,counted,cursor.pagesExecuted + 1,cursor.accumulated ++ page.items,budget⟩
      (taken ++ [page]) more left s ended) : EndsAt dumps job call cursor taken (page :: more) left s ended := by
  match ended, later with
  | .returned items exhausted, ⟨collected,finished⟩ => exact ⟨by rw [collected]; simp [recordsOf],finished⟩
  | .raised _, stuck =>
    have stuck : Stuck dumps job (taken ++ [page] ++ (more ++ left)) s := stuck
    rw [List.append_assoc] at stuck
    exact stuck
  | .killed, ⟨empty,steps,lived,short⟩ =>
    obtain ⟨budgeted,spared⟩ := sparing steps lived
    refine ⟨?_,steps + 3,budgeted,?_⟩
    · have first := spared_first spared short
      unfold recordsOf at empty ⊢
      rw [List.flatMap_cons,first,empty,List.nil_append]
    · rw [List.cons_append,attempted,List.length_cons]
      have short : steps ≤ 3 * (call.attempts (cursor.pagesExecuted + 1) (more ++ left)).length := short
      omega

theorem paginate_follows (distinct : Function.Injective uuid) (fuel : ℕ) (cursor : PageCursor) (chain : Linked source cursor.token rest)
    (saved : Saved dumps uuid job taken state) (numbered : cursor.currentPage = taken.length + 1)
    (counted : cursor.recordsSoFar = (recordsOf taken).length) (enough : rest.length ≤ fuel)
    (below : reachedLimit call cursor.pagesExecuted = false)
    (spared : ∀ steps, cursor.budget = some steps → Spared steps (call.attempts cursor.pagesExecuted rest)) :
    ∃ more left, rest = more ++ left ∧
      Saved dumps uuid job (taken ++ more) (paginate dumps uuid source job call fuel state cursor).1 ∧
      ObjectsKept state.storage (paginate dumps uuid source job call fuel state cursor).1.storage ∧
      EndsAt dumps job call cursor taken more left (paginate dumps uuid source job call fuel state cursor).1.storage
        (paginate dumps uuid source job call fuel state cursor).2 := by
  induction rest generalizing taken state cursor fuel with
  | nil => exact absurd rfl (linked_nonempty chain)
  | cons page rest ih =>
    have offered : source cursor.token = page := by
      cases chain <;> assumption
    have attempted := attempts_cons page rest below
    cases fuel with
    | zero => simp at enough
    | succ fuel =>
      have killedHere {steps : ℕ} (lived : cursor.budget = some steps) (soon : steps ≤ 1) :
          EndsAt dumps job call cursor taken [] (page :: rest) state.storage .killed := by
        refine ⟨rfl,steps,lived,?_⟩
        rw [List.nil_append,attempted,List.length_cons]
        omega
      unfold paginate
      cases fetching : spend cursor.budget with
      | none => exact ⟨[],page :: rest,rfl,by rwa [List.append_nil],objectsKept_refl,killedHere (spend_none fetching) (by omega)⟩
      | some fetched =>
        dsimp only
        rw [offered]
        cases landingStep : spend fetched with
        | none =>
          rw [spend_none landingStep] at fetching
          exact ⟨[],page :: rest,rfl,by rwa [List.append_nil],objectsKept_refl,killedHere (spend_some fetching) (by omega)⟩
        | some landing =>
          dsimp only
          by_cases accepted : Accepts dumps job state.storage cursor.currentPage page
          · obtain ⟨after,record,landed,there,kept,rfl,rows⟩ := landPage_accepted uuid call state.drawn accepted
            rw [landed]
            dsimp only
            have budget {steps : ℕ} (left : landing = some steps) : cursor.budget = some (steps + 2) := by
              rw [left] at landingStep
              rw [spend_some landingStep] at fetching
              exact spend_some fetching
            cases savingStep : spend landing with
            | none =>
              have unspared := spared 2 (budget (spend_none savingStep))
              rw [attempted] at unspared
              exact absurd unspared not_spared_landed
            | some saving =>
              dsimp only
              have joined := saved.save distinct numbered counted there kept rows
              have room {steps : ℕ} (left : saving = some steps) : cursor.budget = some (steps + 3) := by
                rw [left] at savingStep
                exact budget (spend_some savingStep)
              cases goingOn : spend saving with
              | none =>
                have lived := room (spend_none goingOn)
                have sparing := spared 3 lived
                rw [attempted] at sparing
                refine ⟨[page],rest,rfl,joined,kept,?_,3,lived,?_⟩
                · simp [recordsOf,spared_first sparing (Nat.zero_le _)]
                · rw [List.singleton_append,attempted,List.length_cons]
                  omega
              | some _ =>
                dsimp only
                by_cases ends : page.isTruncated = false ∨ linked page.continuationToken = false
                · rw [if_pos ends]
                  have last : rest = [] := by
                    cases chain with
                    | last => rfl
                    | more offered truncated continues next =>
                      rcases ends with whole | unlinked
                      · exact absurd (truncated.symm.trans whole) (by simp)
                      · exact absurd (continues.symm.trans unlinked) (by simp)
                  subst last
                  exact ⟨[page],[],rfl,joined,kept,by simp [recordsOf],by simp⟩
                · rw [if_neg ends]
                  have next : Linked source page.continuationToken rest := by
                    cases chain with
                    | last offered ended => exact absurd ended ends
                    | more offered truncated continues next => exact next
                  cases limit : reachedLimit call (cursor.pagesExecuted + 1) with
                  | true =>
                    rw [if_pos rfl]
                    exact ⟨[page],rest,rfl,joined,kept,by simp [recordsOf],by simp [linked_nonempty next]⟩
                  | false =>
                    rw [if_neg (by simp)]
                    rw [limit,if_neg (by simp)] at attempted
                    have sparing {steps : ℕ} (left : saving = some steps) :
                        Spared (steps + 3) (page :: call.attempts (cursor.pagesExecuted + 1) rest) := by
                      rw [← attempted]
                      exact spared _ (room left)
                    obtain ⟨more,left,split,after,kept',ended⟩ := ih fuel ⟨page.continuationToken,cursor.currentPage + 1,
                      cursor.recordsSoFar + page.items.length,cursor.pagesExecuted + 1,cursor.accumulated ++ page.items,saving⟩
                      next joined (by simp [numbered]) (by simp [counted,recordsOf]) (by simpa using enough) limit
                      (fun steps left => spared_later (sparing left))
                    refine ⟨page :: more,left,by rw [split]; rfl,by rwa [List.append_assoc] at after,objectsKept_trans kept kept',?_⟩
                    exact endsAt_cons (split ▸ attempted) (fun steps left => ⟨room left,split ▸ sparing left⟩) ended
          · obtain ⟨error,refused⟩ := landPage_refused uuid call state.drawn accepted
            rw [refused]
            dsimp only
            refine ⟨[],page :: rest,rfl,by rw [List.append_nil]; exact saved.draw,objectsKept_refl,taken.length,page,by simp,?_⟩
            rwa [← numbered]

end Calls

section Jobs

structure SyncRun where
  state : SyncState
  ends : List CallEnd

def CallEnd.items : CallEnd → List Json
  | .returned items _ => items
  | _ => []

def returnedBy (ends : List CallEnd) : List Json := ends.flatMap CallEnd.items

def pagesAhead (pages : List PagedResult) (checkpoint : Option JobCheckpoint) : List PagedResult :=
  match checkpoint with
  | some found => if resumable found then pages.drop found.pageNumber else pages
  | none => pages

variable (dumps : Json → List Char) (uuid : ℕ → String) (source : Option String → PagedResult) (job : PaginatedJob)
  (pages : List PagedResult)

/-- One more call for the job, with the fuel that its pages need. -/
def performPaginated (synced : SyncRun) (call : PaginatedCall) : SyncRun :=
  let (state, ended) := executePaginated dumps uuid source pages.length job synced.state call
  ⟨state,synced.ends ++ [ended]⟩

/-- The worker is killed before it lands a page; or the job is not completed, and the
worker is killed neither between landing and saving a page nor after saving one
with records. -/
def Harmless (synced : SyncRun) (call : PaginatedCall) : Prop :=
  (∃ steps, call.killedAfter = some steps ∧ steps ≤ 1) ∨
    (∀ found, synced.state.checkpoints job.checkpointKey = some found → resumable found = true) ∧
      ∀ steps, call.killedAfter = some steps →
        Spared steps (call.attempts 0 (pagesAhead pages (synced.state.checkpoints job.checkpointKey)))

/-- Once a call has seen the last page, every page is landed and described by one
row, every record is counted, and the calls have returned each of them once. -/
def ExactlyOnce (synced : SyncRun) : Prop :=
  ∀ items, CallEnd.returned items true ∈ synced.ends →
    (∀ n page, pages[n]? = some page →
      Landed dumps job synced.state.storage (n + 1) page ∧ rowsOf job (n + 1) synced.state.storage.rows = 1) ∧
    (∃ final, synced.state.checkpoints job.checkpointKey = some final ∧ final.recordsIngested = (recordsOf pages).length) ∧
    returnedBy synced.ends = recordsOf pages

structure NewJob (state : SyncState) : Prop where
  checkpoint : state.checkpoints job.checkpointKey = none
  rows : ∀ page, rowsOf job page state.storage.rows = 0
  unused : ∀ n, state.drawn ≤ n → "land-" ++ uuid n ∉ state.storage.rows.map RawLandingRecord.landingId

/-- The pages saved so far are those returned, unless a page can never be landed. -/
def Progress (synced : SyncRun) : Prop :=
  ∃ taken left, pages = taken ++ left ∧ Saved dumps uuid job taken synced.state ∧
    CallEnd.outOfFuel ∉ synced.ends ∧ ((∃ items, CallEnd.returned items true ∈ synced.ends) → left = []) ∧
    (returnedBy synced.ends = recordsOf taken ∨ Stuck dumps job pages synced.state.storage)

variable {dumps uuid source job pages} {synced : SyncRun} {call : PaginatedCall} {taken left : List PagedResult} {state : SyncState}

theorem executePaginated_killed {fuel steps : ℕ} (killed : call.killedAfter = some steps) (soon : steps ≤ 1) :
    executePaginated dumps uuid source (fuel + 1) job state call = (state, .killed) := by
  have budget : (startCursor (state.checkpoints job.checkpointKey) call).budget = call.killedAfter := by
    unfold startCursor
    split
    · split <;> rfl
    · rfl
  unfold executePaginated paginate
  rw [budget,killed]
  have few : steps = 0 ∨ steps = 1 := by omega
  rcases few with rfl | rfl <;> rfl

theorem startCursor_follows (call : PaginatedCall) (chain : Linked source none pages) (parts : pages = taken ++ left)
    (saved : Saved dumps uuid job taken state)
    (unfinished : ∀ found, state.checkpoints job.checkpointKey = some found → resumable found = true) :
    ∃ token, startCursor (state.checkpoints job.checkpointKey) call =
        ⟨token,taken.length + 1,(recordsOf taken).length,0,[],call.killedAfter⟩ ∧
      Linked source token left ∧ pagesAhead pages (state.checkpoints job.checkpointKey) = left := by
  rcases List.eq_nil_or_concat taken with rfl | ⟨before,page,rfl⟩
  · have none : state.checkpoints job.checkpointKey = none := saved.checkpoint
    rw [List.nil_append] at parts
    subst parts
    rw [none]
    exact ⟨_,rfl,chain,rfl⟩
  · rw [List.concat_eq_append] at *
    have found := saved.checkpoint
    rw [savedCheckpoint_append] at found
    have resumes := unfinished _ found
    have going : page.isTruncated = true ∧ linked page.continuationToken = true := by
      unfold resumable at resumes
      cases truncated : page.isTruncated <;> simp_all
    have more : left ≠ [] := by
      rintro rfl
      rw [List.append_nil] at parts
      rw [parts] at chain
      rcases linked_last chain with whole | unlinked
      · exact absurd (going.1.symm.trans whole) (by simp)
      · exact absurd (going.2.symm.trans unlinked) (by simp)
    rw [parts,List.append_assoc,List.singleton_append] at chain
    have next := (linked_rest chain more).2.2
    refine ⟨page.continuationToken,?_,next,?_⟩
    · rw [found]
      simp [startCursor,going,recordsOf]
    · rw [found]
      unfold pagesAhead
      dsimp only
      rw [if_pos resumes,parts]
      exact List.drop_left' (by simp)

theorem stuck_kept {s after : Storage} (kept : ObjectsKept s after) (stuck : Stuck dumps job pages s) : Stuck dumps job pages after := by
  obtain ⟨n,page,found,refused⟩ := stuck
  exact ⟨n,page,found,refused_kept kept refused⟩

theorem performPaginated_progress (distinct : Function.Injective uuid) (chain : Linked source none pages)
    (progress : Progress dumps uuid job pages synced) (harmless : Harmless job pages synced call) :
    Progress dumps uuid job pages (performPaginated dumps uuid source job pages synced call) := by
  obtain ⟨taken,left,parts,saved,fuelled,finished,accounted⟩ := progress
  unfold performPaginated
  rcases harmless with ⟨steps,killed,soon⟩ | ⟨unfinished,spared⟩
  · obtain ⟨fuel,enough⟩ : ∃ fuel, pages.length = fuel + 1 :=
      Nat.exists_eq_add_one.mpr (List.length_pos_iff.mpr (linked_nonempty chain))
    rw [enough,executePaginated_killed killed soon]
    refine ⟨taken,left,parts,saved,by simpa using fuelled,by simpa using finished,?_⟩
    simpa [returnedBy,CallEnd.items] using accounted
  · obtain ⟨token,start,next,ahead⟩ := startCursor_follows call chain parts saved unfinished
    rw [ahead] at spared
    unfold executePaginated
    rw [start]
    obtain ⟨more,rest,split,after,kept,ended⟩ := paginate_follows distinct pages.length
      ⟨token,taken.length + 1,(recordsOf taken).length,0,[],call.killedAfter⟩ next saved rfl rfl
      (by rw [parts,List.length_append]; omega) (by unfold reachedLimit; split <;> simp) spared
    generalize paginate dumps uuid source job call pages.length synced.state
      ⟨token,taken.length + 1,(recordsOf taken).length,0,[],call.killedAfter⟩ = outcome at after kept ended ⊢
    obtain ⟨state,answer⟩ := outcome
    have unseen : ¬∃ items, CallEnd.returned items true ∈ synced.ends := fun seen => linked_nonempty next (finished seen)
    have whole : pages = (taken ++ more) ++ rest := by rw [parts,split,List.append_assoc]
    refine ⟨taken ++ more,rest,whole,after,?_,?_,?_⟩
    · simp only [List.mem_append,List.mem_singleton,not_or]
      refine ⟨fuelled,?_⟩
      rintro rfl
      exact ended
    · rintro ⟨items,seen⟩
      rcases List.mem_append.mp seen with before | now
      · exact absurd ⟨items,before⟩ unseen
      · obtain rfl := List.mem_singleton.mp now
        exact ended.2.mp rfl
    · rcases accounted with returned | stuck
      · have records : recordsOf (taken ++ more) = recordsOf taken ++ recordsOf more := by simp [recordsOf]
        have appended : returnedBy (synced.ends ++ [answer]) = returnedBy synced.ends ++ answer.items := by simp [returnedBy]
        match answer, ended with
        | .returned items exhausted, ⟨collected,_⟩ =>
          refine Or.inl ?_
          rw [appended,returned,records]
          exact congrArg _ collected
        | .raised error, stuck =>
          refine Or.inr ?_
          rw [whole,List.append_assoc]
          exact stuck
        | .killed, ⟨empty,_⟩ =>
          refine Or.inl ?_
          rw [appended,returned,records,empty]
          rfl
      · exact Or.inr (stuck_kept kept stuck)

theorem exactlyOnce_of_progress (chain : Linked source none pages) (progress : Progress dumps uuid job pages synced) :
    ExactlyOnce dumps job pages synced := by
  obtain ⟨taken,left,parts,saved,_,finished,accounted⟩ := progress
  intro items seen
  obtain rfl := finished ⟨items,seen⟩
  rw [List.append_nil] at parts
  subst parts
  refine ⟨?_,?_,?_⟩
  · intro n page found
    refine ⟨saved.landed n page found,?_⟩
    have counted := saved.rows n
    rwa [if_pos (List.getElem?_eq_some_iff.mp found).1] at counted
  · rcases List.eq_nil_or_concat pages with rfl | ⟨before,page,rfl⟩
    · exact absurd rfl (linked_nonempty chain)
    · rw [List.concat_eq_append] at saved ⊢
      rw [saved.checkpoint,savedCheckpoint_append]
      exact ⟨_,rfl,by simp [recordsOf]⟩
  · rcases accounted with returned | ⟨n,page,found,refused⟩
    · exact returned
    · exact absurd (landed_accepts (saved.landed n page found)) refused

/-- Harmless calls for a new job process every page and record exactly once. -/
theorem pages_processed_once (distinct : Function.Injective uuid) (chain : Linked source none pages) {start : SyncState}
    (new : NewJob uuid job start) {calls : List PaginatedCall}
    (harmless : Along (performPaginated dumps uuid source job pages) (Harmless job pages) ⟨start,[]⟩ calls) :
    ExactlyOnce dumps job pages (run (performPaginated dumps uuid source job pages) ⟨start,[]⟩ calls) ∧
      CallEnd.outOfFuel ∉ (run (performPaginated dumps uuid source job pages) ⟨start,[]⟩ calls).ends := by
  have initial : Progress dumps uuid job pages ⟨start,[]⟩ := by
    refine ⟨[],pages,rfl,⟨new.checkpoint,by simp,by simp [new.rows],new.unused⟩,by simp,by simp,Or.inl rfl⟩
  have progress := run_preserves (fun _ _ progress allowed => performPaginated_progress distinct chain progress allowed) initial harmless
  refine ⟨exactlyOnce_of_progress chain progress,?_⟩
  obtain ⟨taken,left,parts,saved,fuelled,rest⟩ := progress
  exact fuelled

def briefJob : PaginatedJob := ⟨"t","c","job-1",.discoverResources,by decide⟩

def briefPage : PagedResult := ⟨[.null],none,false⟩

def briefDumps (_ : Json) : List Char := ['[', 'n', 'u', 'l', 'l', ']']

def numeralId (n : ℕ) : String := String.ofList (Nat.toDigits 10 n)

def newState : SyncState := ⟨emptyStorage,fun _ => none,0⟩

def briefCall (killedAfter : Option ℕ) : PaginatedCall := ⟨none,killedAfter,⟨"2026-09",by decide⟩,fun _ => true⟩

def briefRun (calls : List PaginatedCall) : SyncRun :=
  run (performPaginated briefDumps numeralId (fun _ => briefPage) briefJob [briefPage]) ⟨newState,[]⟩ calls

def CallEnd.exhausted : CallEnd → Bool
  | .returned _ exhausted => exhausted
  | _ => false

def firstPage : PagedResult := ⟨[.null, .null],some "2",true⟩

def twoPages (token : Option String) : PagedResult := if token = none then firstPage else briefPage

/-- One page at most, then a worker killed at once, then a call without a limit. -/
def resumedCalls : List PaginatedCall := [{ briefCall none with maxPages := some 1 }, briefCall (some 1), briefCall none]

def resumedRun (calls : List PaginatedCall) : SyncRun :=
  run (performPaginated briefDumps numeralId twoPages briefJob [firstPage, briefPage]) ⟨newState,[]⟩ calls

theorem numeralId_injective : Function.Injective numeralId := by
  intro first second same
  exact toDigits_injective (by simpa [numeralId] using congrArg String.toList same)

theorem resumed_fetch_once : (resumedRun resumedCalls).ends.any CallEnd.exhausted = true ∧
    ExactlyOnce briefDumps briefJob [firstPage, briefPage] (resumedRun resumedCalls) := by
  have chain : Linked twoPages none [firstPage, briefPage] := .more rfl rfl (by decide) (.last rfl (Or.inl rfl))
  have new : NewJob numeralId briefJob newState := ⟨rfl,fun _ => rfl,by simp [newState,emptyStorage]⟩
  have harmless : Along (performPaginated briefDumps numeralId twoPages briefJob [firstPage, briefPage])
      (Harmless briefJob [firstPage, briefPage]) ⟨newState,[]⟩ resumedCalls := by
    refine ⟨Or.inr ⟨?_,?_⟩,Or.inl ⟨1,rfl,le_rfl⟩,Or.inr ⟨?_,?_⟩,trivial⟩
    · intro found saved
      cases saved
    · intro steps killed
      cases killed
    · -- the checkpoint of the first page is still there
      have resumes : Option.all resumable ((resumedRun [{ briefCall none with maxPages := some 1 }, briefCall (some 1)]).state.checkpoints
          briefJob.checkpointKey) = true := by decide +kernel
      intro found saved
      exact (Option.all_eq_true _ _).mp resumes found saved
    · intro steps killed
      cases killed
  exact ⟨by decide +kernel,(pages_processed_once numeralId_injective chain new harmless).1⟩

/-- Killed between landing and saving, and completed by another call. -/
theorem landed_page_described_twice :
    ¬ExactlyOnce briefDumps briefJob [briefPage] (briefRun [briefCall (some 2), briefCall none]) := by
  intro once
  have ends : (briefRun [briefCall (some 2), briefCall none]).ends.any CallEnd.exhausted = true := by decide +kernel
  obtain ⟨ended,seen,exhausted⟩ := List.any_eq_true.mp ends
  cases ended with
  | returned items whole =>
    obtain rfl : whole = true := exhausted
    have described := ((once items seen).1 0 briefPage rfl).2
    revert described
    decide +kernel
  | _ => cases exhausted

end Jobs

end CloudLens.Connectors
