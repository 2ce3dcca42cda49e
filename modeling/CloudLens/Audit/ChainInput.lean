import CloudLens.Audit.Model

/-! What the hashed text determines. The tenant, the event type, the timestamp,
the previous hash and the serialised details can be read off it; the actor, the
resource type and the resource are free texts joined by colons, and only their
joined text can. -/
namespace CloudLens.Audit
open Library

def subject (actorId resourceType resourceId : String) : List Char :=
  actorId.toList ++ ':' :: (resourceType.toList ++ ':' :: resourceId.toList)

theorem digitChar_inj {n m : ℕ} (same : Text.digitChar n = Text.digitChar m) : n % 10 = m % 10 :=
  Text.digitChar_eq_iff.mp same

theorem digitChar_ne_colon (n : ℕ) : Text.digitChar n ≠ ':' := by
  have digits : ∀ d ∈ List.range 10, Nat.digitChar d ≠ ':' := by decide
  exact digits _ (List.mem_range.mpr (Nat.mod_lt n (by omega)))

theorem length_isoformat (m : Moment) :
    (isoformat m).length = if m.microseconds % 10^6 = 0 then 25 else 32 := by
  simp only [isoformat,fraction]
  split <;> simp [Calendar.yearDigits,Calendar.monthDigits,twoDigits,sixDigits,clock]

theorem fraction_inj {n m : ℕ} (small : n < 10^6) (smallOther : m < 10^6) (same : fraction n = fraction m) : n = m := by
  unfold fraction at same
  split at same
  · split at same
    · omega
    · cases same
  · split at same
    · cases same
    · simp only [sixDigits,twoDigits,List.cons_append,List.nil_append,List.cons.injEq,true_and,and_true] at same
      obtain ⟨a,b,c,d,e,f⟩ := same
      have := digitChar_inj a
      have := digitChar_inj b
      have := digitChar_inj c
      have := digitChar_inj d
      have := digitChar_inj e
      have := digitChar_inj f
      omega

theorem clock_inj {n m : ℕ} (small : n < 86400) (smallOther : m < 86400) (same : clock n = clock m) : n = m := by
  simp only [clock,twoDigits,List.cons_append,List.nil_append,List.cons.injEq,true_and,and_true] at same
  obtain ⟨a,b,c,d,e,f⟩ := same
  have := digitChar_inj a
  have := digitChar_inj b
  have := digitChar_inj c
  have := digitChar_inj d
  have := digitChar_inj e
  have := digitChar_inj f
  omega

theorem date_inj {a b : Calendar.Date} (years : Calendar.yearDigits a = Calendar.yearDigits b)
    (months : Calendar.monthDigits a = Calendar.monthDigits b) (days : twoDigits a.day = twoDigits b.day) : a = b := by
  have first := a.valid
  have second := b.valid
  have firstDay := Calendar.day_le a
  have secondDay := Calendar.day_le b
  simp only [Calendar.yearDigits,Calendar.monthDigits,twoDigits,List.cons.injEq,and_true] at years months days
  obtain ⟨y1,y2,y3,y4⟩ := years
  have := digitChar_inj y1
  have := digitChar_inj y2
  have := digitChar_inj y3
  have := digitChar_inj y4
  have := digitChar_inj months.1
  have := digitChar_inj months.2
  have := digitChar_inj days.1
  have := digitChar_inj days.2
  exact Calendar.Date.ext_fields (by omega) (by omega) (by omega)

theorem isoformat_inj {a b : Moment} (same : isoformat a = isoformat b) : a = b := by
  have parts := same
  unfold isoformat at parts
  obtain ⟨years,parts⟩ := List.append_inj parts rfl
  rw [List.cons.injEq] at parts
  obtain ⟨months,parts⟩ := List.append_inj parts.2 rfl
  rw [List.cons.injEq] at parts
  obtain ⟨days,parts⟩ := List.append_inj parts.2 rfl
  rw [List.cons.injEq] at parts
  obtain ⟨clocks,fractions⟩ := List.append_inj (List.append_cancel_right parts.2) rfl
  have firstWithin := a.within
  have secondWithin := b.within
  have seconds := clock_inj (by omega) (by omega) clocks
  have micros := fraction_inj (Nat.mod_lt _ (by omega)) (Nat.mod_lt _ (by omega)) fractions
  obtain ⟨date,microseconds,within⟩ := a
  obtain ⟨otherDate,otherMicroseconds,otherWithin⟩ := b
  have dates := date_inj years months days
  simp only at dates seconds micros
  subst dates
  have : microseconds = otherMicroseconds := by omega
  subst this
  rfl

theorem isoformat_month (m : Moment) : ∃ c, (isoformat m)[6]? = some c ∧ c ≠ ':' :=
  ⟨Text.digitChar m.date.month,rfl,digitChar_ne_colon _⟩

theorem moment_split {first second : List Char} {a b : Moment}
    (same : first ++ ':' :: isoformat a = second ++ ':' :: isoformat b) : first = second ∧ a = b := by
  have aligned : ∀ {first second : List Char} {a b : Moment}, first ++ ':' :: isoformat a = second ++ ':' :: isoformat b →
      (isoformat a).length = 25 → (isoformat b).length ≠ 32 := by
    intro first second a b same short long
    obtain ⟨digit,here,plain⟩ := isoformat_month b
    have lengths := congrArg List.length same
    simp only [List.length_append,List.length_cons,short,long] at lengths
    have left : (first ++ ':' :: isoformat a)[first.length]? = some ':' := by simp
    rw [same,List.getElem?_append_right (by omega),show first.length - second.length = 6 + 1 by omega,
      List.getElem?_cons_succ,here,Option.some.injEq] at left
    exact plain left
  have lengths : (isoformat a).length = (isoformat b).length := by
    have forward := aligned same
    have backward := aligned same.symm
    rw [length_isoformat,length_isoformat] at *
    split_ifs at * <;> simp_all
  obtain ⟨front,moments⟩ := List.append_inj' same (by simp [lengths])
  rw [List.cons.injEq] at moments
  exact ⟨front,isoformat_inj moments.2⟩

theorem field_split {first second rest other : List Char} (plain : ':' ∉ first) (plainOther : ':' ∉ second)
    (same : first ++ ':' :: rest = second ++ ':' :: other) : first = second ∧ rest = other := by
  induction first generalizing second with
  | nil =>
    cases second with
    | nil => simpa using same
    | cons c second =>
      rw [List.nil_append,List.cons_append,List.cons.injEq] at same
      rw [same.1] at plainOther
      exact absurd List.mem_cons_self plainOther
  | cons c first ih =>
    cases second with
    | nil =>
      rw [List.nil_append,List.cons_append,List.cons.injEq] at same
      rw [same.1] at plain
      exact absurd List.mem_cons_self plain
    | cons d second =>
      rw [List.cons_append,List.cons_append,List.cons.injEq] at same
      obtain ⟨rfl,same⟩ := same
      rw [List.mem_cons,not_or] at plain plainOther
      obtain ⟨rfl,rest⟩ := ih plain.2 plainOther.2 same
      exact ⟨rfl,rest⟩

theorem field_split_end {front other first second : List Char} (plain : ':' ∉ first) (plainOther : ':' ∉ second)
    (same : front ++ ':' :: first = other ++ ':' :: second) : front = other ∧ first = second := by
  have reversed := congrArg List.reverse same
  simp only [List.reverse_append,List.reverse_cons,List.append_assoc,List.singleton_append] at reversed
  obtain ⟨fields,fronts⟩ := field_split (by simpa using plain) (by simpa using plainOther) reversed
  exact ⟨List.reverse_injective fronts,List.reverse_injective fields⟩

theorem plain_ofList {chars : List Char} (plain : ':' ∉ chars) : ':' ∉ (String.ofList chars).toList := by
  rwa [String.toList_ofList]

set_option maxRecDepth 4000 in
-- a literal is taken apart by `plain_ofList`; evaluating its `toList` is slow
theorem auditEventTypes_plain : ∀ value ∈ auditEventTypes, ':' ∉ value.toList := by
  simp only [auditEventTypes,List.forall_mem_cons]
  and_intros
  all_goals first | exact plain_ofList (by decide) | exact fun _ member => nomatch member

theorem eventType_plain (eventType : AuditEventType) : ':' ∉ eventType.value.toList :=
  auditEventTypes_plain eventType.value eventType.canonical

/-- A previous hash as the chain holds it: none, or a digest. -/
def Sealed (hash : Option String) : Prop := ∀ text, hash = some text → ∃ input, text = String.ofList (Sha256.textDigest input)

theorem sealed_text {hash : Option String} (closed : Sealed hash) : ':' ∉ (orDefault hash "GENESIS").toList := by
  cases hash with
  | none => decide
  | some text =>
    obtain ⟨input,rfl⟩ := closed text rfl
    rw [orDefault]
    split
    · decide
    · rw [String.toList_ofList]
      intro colon
      exact absurd (Sha256.mem_textDigest colon) (by decide)

theorem chainInput_eq (tenantId : String) (eventType : AuditEventType) (actorId resourceType resourceId : String)
    (timestamp : Moment) (previous : Option String) (details : Details) :
    chainInput tenantId eventType actorId resourceType resourceId timestamp previous details =
      (((tenantId.toList ++ ':' :: (eventType.value.toList ++ ':' :: (subject actorId resourceType resourceId ++
        ':' :: isoformat timestamp))) ++ ':' :: (orDefault previous "GENESIS").toList) ++ [':']) ++
          JsonText.dumps details := by
  simp [chainInput,subject]

theorem chainInput_split {tenantId : String} {eventType otherType : AuditEventType}
    {actorId resourceType resourceId otherActor otherResourceType otherResourceId : String} {timestamp other : Moment}
    {previous otherPrevious : Option String} {details otherDetails : Details} (closed : Sealed previous)
    (closedOther : Sealed otherPrevious)
    (same : chainInput tenantId eventType actorId resourceType resourceId timestamp previous details =
      chainInput tenantId otherType otherActor otherResourceType otherResourceId other otherPrevious otherDetails) :
    eventType.value = otherType.value ∧
      subject actorId resourceType resourceId = subject otherActor otherResourceType otherResourceId ∧
      timestamp = other ∧ orDefault previous "GENESIS" = orDefault otherPrevious "GENESIS" ∧
      JsonText.dumps details = JsonText.dumps otherDetails := by
  rw [chainInput_eq,chainInput_eq] at same
  obtain ⟨front,payload⟩ := JsonText.dumps_split same
  obtain ⟨chained,previousText⟩ := field_split_end (sealed_text closed) (sealed_text closedOther)
    (List.append_cancel_right front)
  have typed := List.append_cancel_left chained
  rw [List.cons.injEq] at typed
  obtain ⟨types,stamped⟩ := field_split (eventType_plain eventType) (eventType_plain otherType) typed.2
  obtain ⟨subjects,moments⟩ := moment_split stamped
  exact ⟨String.toList_inj.mp types,subjects,moments,String.toList_inj.mp previousText,payload⟩

end CloudLens.Audit
