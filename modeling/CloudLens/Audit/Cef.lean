import CloudLens.Audit.ChainInput
import CloudLens.Audit.Integrity
import CloudLens.Library.Escaped

/-! The line of an audit event in the Common Event Format. A bar separates the
fields of the header, a key and an equals sign come before each value of the
extension, and a backslash takes the next character literally. The values are
put into the line as they are. -/
namespace CloudLens.Audit
open Library

structure SiemConfig where
  siemDeviceVendor : Option String := none
  siemDeviceProduct : Option String := none
  siemDeviceVersion : Option String := none
  siemCefVersion : Option String := none

def SiemConfig.header (cfg : SiemConfig) : List Char :=
  "CEF:".toList ++ (cfg.siemCefVersion.getD "0").toList ++ '|' :: ((cfg.siemDeviceVendor.getD "CloudLens").toList ++
    '|' :: ((cfg.siemDeviceProduct.getD "Platform").toList ++ '|' :: (cfg.siemDeviceVersion.getD "1.0").toList))

namespace AuditEvent

variable (event : AuditEvent)

def severity : ℕ :=
  if "SECURITY".toList <:+: event.action.toList ∨ "TAMPER".toList <:+: event.action.toList then 7 else 4

/-- A missing correlation identifier is put into the line as Python names it. -/
def correlationText : String := event.correlationId.getD "None"

def sourceAddress : Option String := event.ipAddress.filter (· ≠ "")

def extParts : List (List Char) :=
  ["suser=".toList ++ event.actorId.toList,
    "act=".toList ++ event.action.toList,
    "rt=".toList ++ isoformat event.timestamp,
    "cs1Label=resource_type cs1=".toList ++ event.resourceType.toList,
    "cs2Label=resource_id cs2=".toList ++ event.resourceId.toList,
    "cs3Label=correlation_id cs3=".toList ++ event.correlationText.toList,
    "cs4Label=event_hash cs4=".toList ++ event.eventHash.toList] ++
  event.sourceAddress.toList.map fun address => "src=".toList ++ address.toList

def extension : List Char := List.intercalate [' '] event.extParts

def title : List Char :=
  event.eventType.value.toList ++ '|' :: (event.action.toList ++ '|' :: (toString event.severity).toList)

def formatCefEvent (cfg : SiemConfig) : List Char := cfg.header ++ '|' :: event.title ++ '|' :: event.extension

def labelled : List (List Char × List Char) :=
  [("suser".toList, event.actorId.toList), ("act".toList, event.action.toList), ("rt".toList, isoformat event.timestamp),
    ("cs1Label".toList, "resource_type".toList), ("cs1".toList, event.resourceType.toList),
    ("cs2Label".toList, "resource_id".toList), ("cs2".toList, event.resourceId.toList),
    ("cs3Label".toList, "correlation_id".toList), ("cs3".toList, event.correlationText.toList),
    ("cs4Label".toList, "event_hash".toList), ("cs4".toList, event.eventHash.toList)] ++
  event.sourceAddress.toList.map fun address => ("src".toList, address.toList)

end AuditEvent

inductive Framing
  | whole
  | line

def Framing.ends (framing : Framing) (c : Char) : Bool :=
  match framing with
  | .whole => false
  | .line => c = '\n' || c = '\r'

def cefFields (cfg : SiemConfig) (event : AuditEvent) : List (List Char) :=
  Escaped.split '\\' '|' (event.formatCefEvent cfg)

/-- The line is read as one record of eight fields; the fifth and the sixth are the
type and the action of the event, and the extension has each key once, with the
event's own value. -/
structure ReadsBack (framing : Framing) (cfg : SiemConfig) (event : AuditEvent) : Prop where
  record : ∀ c ∈ event.formatCefEvent cfg, framing.ends c = false
  eight : (cefFields cfg event).length = 8
  eventType : (cefFields cfg event)[4]?.map (Escaped.unescape '\\') = some event.eventType.value.toList
  action : (cefFields cfg event)[5]?.map (Escaped.unescape '\\') = some event.action.toList
  extension : (cefFields cfg event)[7]?.bind (Escaped.parsePairs '\\' '=' ' ') = some event.labelled
  once : (event.labelled.map Prod.fst).Nodup

/-- The lines of two events are read back, and tell them apart where they differ. -/
structure Unforgeable (framing : Framing) (cfg : SiemConfig) (first second : AuditEvent) : Prop where
  read : ReadsBack framing cfg first
  readOther : ReadsBack framing cfg second
  distinct : (first.eventType.value, first.labelled) ≠ (second.eventType.value, second.labelled) →
    first.formatCefEvent cfg ≠ second.formatCefEvent cfg

def Unmarked (framing : Framing) (c : Char) : Prop := c ≠ '|' ∧ c ≠ '=' ∧ c ≠ '\\' ∧ framing.ends c = false

def AuditEvent.printed (event : AuditEvent) : List String :=
  [event.actorId, event.action, event.resourceType, event.resourceId, event.correlationText, event.eventHash] ++
    event.sourceAddress.toList

def AuditEvent.Plain (framing : Framing) (event : AuditEvent) : Prop :=
  ∀ text ∈ event.printed, ∀ c ∈ text.toList, Unmarked framing c

/-- The device of the configuration is read as the first four fields. -/
structure SiemConfig.Headed (framing : Framing) (cfg : SiemConfig) : Prop where
  four : (Escaped.split '\\' '|' cfg.header).length = 4
  settled : Escaped.pending '\\' cfg.header = false
  record : ∀ c ∈ cfg.header, framing.ends c = false

variable {framing : Framing} {cfg : SiemConfig} {event : AuditEvent}

theorem unmarked_digit (n : ℕ) : Unmarked framing (Text.digitChar n) := by
  have digits : ∀ d ∈ List.range 10, Nat.digitChar d ≠ '|' ∧ Nat.digitChar d ≠ '=' ∧ Nat.digitChar d ≠ '\\' ∧
      Framing.line.ends (Nat.digitChar d) = false := by decide
  obtain ⟨bar,equals,escape,line⟩ := digits _ (List.mem_range.mpr (Nat.mod_lt n (by omega)))
  refine ⟨bar,equals,escape,?_⟩
  cases framing with
  | whole => rfl
  | line => exact line

theorem unmarked_chars {chars : List Char}
    (plain : chars.all (fun c => c ≠ '|' ∧ c ≠ '=' ∧ c ≠ '\\' ∧ Framing.line.ends c = false)) :
    ∀ c ∈ (String.ofList chars).toList, Unmarked framing c := by
  rw [String.toList_ofList]
  intro c member
  obtain ⟨bar,equals,escape,line⟩ := of_decide_eq_true (List.all_eq_true.mp plain c member)
  refine ⟨bar,equals,escape,?_⟩
  cases framing with
  | whole => rfl
  | line => exact line

theorem unmarked_isoformat (m : Moment) : ∀ c ∈ isoformat m, Unmarked framing c := by
  have signs : ∀ c ∈ (String.ofList ['-', ':', 'T', '.', '+', '0']).toList, Unmarked framing c := unmarked_chars (by decide)
  intro c member
  have known : (∃ n, c = Text.digitChar n) ∨ c ∈ (String.ofList ['-', ':', 'T', '.', '+', '0']).toList := by
    unfold isoformat fraction at member
    split at member <;>
    · simp [Calendar.yearDigits,Calendar.monthDigits,twoDigits,sixDigits,clock] at member ⊢
      grind
  rcases known with ⟨n,rfl⟩ | sign
  · exact unmarked_digit n
  · exact signs c sign

set_option maxRecDepth 4000 in
-- a literal is taken apart by `unmarked_chars`; evaluating its `toList` is slow
theorem unmarked_eventType (framing : Framing) (eventType : AuditEventType) : ∀ c ∈ eventType.value.toList, Unmarked framing c := by
  have canonical : ∀ value ∈ auditEventTypes, ∀ c ∈ value.toList, Unmarked framing c := by
    simp only [auditEventTypes,List.forall_mem_cons]
    and_intros
    all_goals first | exact unmarked_chars (by decide) | exact fun _ member => absurd member List.not_mem_nil
  exact canonical eventType.value eventType.canonical

theorem extension_written (event : AuditEvent) : event.extension = Escaped.written '=' ' ' event.labelled := by
  unfold AuditEvent.extension AuditEvent.extParts AuditEvent.labelled
  cases event.sourceAddress with
  | none =>
    simp [Escaped.written]
  | some address =>
    simp [Escaped.written]

theorem labelled_nodup (event : AuditEvent) : (event.labelled.map Prod.fst).Nodup := by
  unfold AuditEvent.labelled
  cases event.sourceAddress with
  | none =>
    simp
  | some address =>
    simp

theorem unmarked_plain {text : List Char} (unmarked : ∀ c ∈ text, Unmarked framing c) : '\\' ∉ text ∧ '|' ∉ text ∧ '=' ∉ text :=
  ⟨fun member => (unmarked _ member).2.2.1 rfl,fun member => (unmarked _ member).1 rfl,
    fun member => (unmarked _ member).2.1 rfl⟩

theorem unmarked_severity (framing : Framing) (event : AuditEvent) : ∀ c ∈ (toString event.severity).toList, Unmarked framing c := by
  unfold AuditEvent.severity
  split
  · exact unmarked_chars (by decide)
  · exact unmarked_chars (by decide)

theorem cefFields_eq (cfg : SiemConfig) (event : AuditEvent) :
    cefFields cfg event = Escaped.split '\\' '|' (cfg.header ++ '|' :: event.title) ++ Escaped.split '\\' '|' event.extension := by
  have settled : Escaped.pending '\\' (cfg.header ++ '|' :: event.title) = false := by
    obtain ⟨digit,plain,last⟩ : ∃ digit, digit ≠ '\\' ∧ (toString event.severity).toList = [digit] := by
      unfold AuditEvent.severity
      split
      · exact ⟨'7',by decide,rfl⟩
      · exact ⟨'4',by decide,rfl⟩
    have ends : cfg.header ++ '|' :: event.title =
        (cfg.header ++ '|' :: (event.eventType.value.toList ++ '|' :: (event.action.toList ++ ['|']))) ++ [digit] := by
      rw [AuditEvent.title,last]
      simp
    rw [ends]
    exact Escaped.pending_append plain _
  rw [cefFields,AuditEvent.formatCefEvent]
  exact Escaped.split_settled (by decide) settled _

theorem split_title (plain : '\\' ∉ event.action.toList ∧ '|' ∉ event.action.toList) :
    Escaped.split '\\' '|' event.title = [event.eventType.value.toList, event.action.toList, (toString event.severity).toList] := by
  obtain ⟨typeEscape,typeBar,_⟩ := unmarked_plain (unmarked_eventType .line event.eventType)
  obtain ⟨lastEscape,lastBar,_⟩ := unmarked_plain (unmarked_severity .line event)
  rw [AuditEvent.title,Escaped.split_settled (by decide) (Escaped.pending_plain typeEscape),Escaped.split_plain typeEscape typeBar,
    Escaped.split_settled (by decide) (Escaped.pending_plain plain.1),Escaped.split_plain plain.1 plain.2,
    Escaped.split_plain lastEscape lastBar]
  rfl

theorem labelled_keys (framing : Framing) (event : AuditEvent) : ∀ pair ∈ event.labelled, ∀ c ∈ pair.1, Unmarked framing c := by
  simp only [AuditEvent.labelled,List.forall_mem_append,List.forall_mem_cons,List.forall_mem_map]
  and_intros
  all_goals first | exact unmarked_chars (by decide) | exact fun _ _ => unmarked_chars (by decide) |
    exact fun _ none => absurd none List.not_mem_nil

theorem labelled_unbroken (event : AuditEvent) : ∀ pair ∈ event.labelled, ' ' ∉ pair.1 := by
  unfold AuditEvent.labelled
  cases event.sourceAddress with
  | none => simp
  | some address => simp

theorem printed_labelled {text : String} (member : text ∈ event.printed) : ∃ key, (key, text.toList) ∈ event.labelled := by
  simp only [AuditEvent.printed,List.mem_append,List.mem_cons,List.not_mem_nil,or_false,Option.mem_toList] at member
  rcases member with (rfl | rfl | rfl | rfl | rfl | rfl) | address
  · exact ⟨"suser".toList,by simp [AuditEvent.labelled]⟩
  · exact ⟨"act".toList,by simp [AuditEvent.labelled]⟩
  · exact ⟨"cs1".toList,by simp [AuditEvent.labelled]⟩
  · exact ⟨"cs2".toList,by simp [AuditEvent.labelled]⟩
  · exact ⟨"cs3".toList,by simp [AuditEvent.labelled]⟩
  · exact ⟨"cs4".toList,by simp [AuditEvent.labelled]⟩
  · exact ⟨"src".toList,by simp [AuditEvent.labelled,Option.mem_def.mp address]⟩

theorem labelled_unmarked (plain : event.Plain framing) : ∀ pair ∈ event.labelled, ∀ c ∈ pair.2, Unmarked framing c := by
  have shown (text : String) (member : text ∈ event.printed) : ∀ c ∈ text.toList, Unmarked framing c := plain text member
  simp only [AuditEvent.labelled,List.forall_mem_append,List.forall_mem_cons]
  refine ⟨⟨shown _ ?_,shown _ ?_,unmarked_isoformat _,unmarked_chars (by decide),shown _ ?_,unmarked_chars (by decide),
    shown _ ?_,unmarked_chars (by decide),shown _ ?_,unmarked_chars (by decide),shown _ ?_,fun _ none => absurd none List.not_mem_nil⟩,?_⟩
  any_goals simp [AuditEvent.printed]
  exact fun address given => shown address (by simp [AuditEvent.printed,given])

theorem plain_of_readsBack (read : ReadsBack framing cfg event) :
    (Escaped.split '\\' '|' (cfg.header ++ '|' :: event.title)).length = 7 ∧ event.Plain framing := by
  have eight := read.eight
  have shape := cefFields_eq cfg event
  obtain ⟨fields,last,lastShape⟩ : ∃ fields last, Escaped.split '\\' '|' event.extension = fields ++ [last] := by
    obtain none | ⟨fields,last,shape⟩ := List.eq_nil_or_concat (Escaped.split '\\' '|' event.extension)
    · exact absurd none (Escaped.split_ne_nil _ _ _)
    · exact ⟨fields,last,by simpa using shape⟩
  have seventh : (cefFields cfg event)[7]? = some last := by
    have ends : (cefFields cfg event).getLast? = some last := by
      rw [shape,lastShape,← List.append_assoc,List.getLast?_concat]
    rwa [List.getLast?_eq_getElem?,eight] at ends
  have parsed := read.extension
  rw [seventh,Option.bind_some] at parsed
  have long := Escaped.length_written_le parsed
  rw [← extension_written] at long
  obtain ⟨whole,rfl⟩ := Escaped.split_of_last lastShape long
  obtain ⟨_,plain,values⟩ := Escaped.plain_of_parsePairs parsed
    (fun pair among => (unmarked_plain (labelled_keys .line event pair among)).1) (by decide) (by decide)
    (by rw [extension_written])
  have undivided : '|' ∉ event.extension := Escaped.separator_free plain (whole ▸ List.mem_singleton_self _)
  rw [shape,whole,List.length_append,List.length_singleton] at eight
  refine ⟨by omega,fun text member c inside => ?_⟩
  obtain ⟨key,among⟩ := printed_labelled member
  have written : c ∈ event.extension := by
    rw [extension_written]
    exact Escaped.subset_written among inside
  refine ⟨?_,?_,?_,read.record c ?_⟩
  · rintro rfl
    exact undivided written
  · rintro rfl
    exact values _ among inside
  · rintro rfl
    exact plain written
  · rw [AuditEvent.formatCefEvent]
    exact List.mem_append_right _ (List.mem_cons_of_mem _ written)

theorem headed_of_readsBack (read : ReadsBack framing cfg event) : cfg.Headed framing := by
  obtain ⟨seven,plain⟩ := plain_of_readsBack read
  have action := unmarked_plain (plain event.action (by simp [AuditEvent.printed]))
  have title := split_title ⟨action.1,action.2.1⟩
  have record : ∀ c ∈ cfg.header, framing.ends c = false := fun c member => read.record c (List.mem_append_left _ (List.mem_append_left _ member))
  cases settled : Escaped.pending '\\' cfg.header with
  | false =>
    rw [Escaped.split_settled (by decide) settled,title,List.length_append] at seven
    exact ⟨by simpa using seven,settled,record⟩
  | true =>
    -- The bar after the device is read as a part of its last field, which is too long for the type.
    obtain ⟨fields,last,_,waits,more⟩ := Escaped.split_pending (show '|' ≠ '\\' by decide) settled
    have shape := more '|' event.title
    rw [title,List.modifyHead_cons] at shape
    rw [shape,List.length_append] at seven
    have fifth := read.eventType
    rw [cefFields_eq,shape,List.append_assoc,List.getElem?_append_right (by simp at seven; omega)] at fifth
    have four : 4 - fields.length = 0 := by simp at seven; omega
    rw [four,List.cons_append,List.getElem?_cons_zero,Option.map_some] at fifth
    have longer := Escaped.length_unescape_pending waits '|' event.eventType.value.toList
    rw [Option.some.inj fifth] at longer
    exact absurd longer (by
      rw [Escaped.unescape_plain (unmarked_plain (unmarked_eventType .line event.eventType)).1]
      exact lt_irrefl _)

theorem readsBack_iff (framing : Framing) (cfg : SiemConfig) (event : AuditEvent) :
    ReadsBack framing cfg event ↔ cfg.Headed framing ∧ event.Plain framing := by
  constructor
  · exact fun read => ⟨headed_of_readsBack read,(plain_of_readsBack read).2⟩
  · rintro ⟨headed,plain⟩
    have action := unmarked_plain (plain event.action (by simp [AuditEvent.printed]))
    have values := labelled_unmarked plain
    have written : ∀ c ∈ event.extension, c ≠ '|' ∧ c ≠ '\\' ∧ framing.ends c = false := by
      intro c member
      rw [extension_written] at member
      have blank : framing.ends ' ' = false := by cases framing <;> rfl
      have equals : framing.ends '=' = false := by cases framing <;> rfl
      rcases Escaped.mem_written member with rfl | rfl | ⟨pair,among,key | value⟩
      · exact ⟨by decide,by decide,blank⟩
      · exact ⟨by decide,by decide,equals⟩
      · have unmarked := labelled_keys framing event pair among c key
        exact ⟨unmarked.1,unmarked.2.2.1,unmarked.2.2.2⟩
      · have unmarked := values pair among c value
        exact ⟨unmarked.1,unmarked.2.2.1,unmarked.2.2.2⟩
    have fields : cefFields cfg event = Escaped.split '\\' '|' cfg.header ++
        [event.eventType.value.toList, event.action.toList, (toString event.severity).toList, event.extension] := by
      rw [cefFields_eq,Escaped.split_settled (by decide) headed.settled,split_title ⟨action.1,action.2.1⟩,
        Escaped.split_plain (fun member => (written _ member).2.1 rfl) (fun member => (written _ member).1 rfl),List.append_assoc]
      rfl
    have later (n : ℕ) : (cefFields cfg event)[4 + n]? = [event.eventType.value.toList, event.action.toList,
        (toString event.severity).toList, event.extension][n]? := by
      rw [fields,List.getElem?_append_right (by rw [headed.four]; omega),headed.four,Nat.add_sub_cancel_left]
    refine ⟨?_,?_,?_,?_,?_,labelled_nodup event⟩
    · have bar : framing.ends '|' = false := by cases framing <;> rfl
      intro c member
      simp only [AuditEvent.formatCefEvent,AuditEvent.title,List.mem_append,List.mem_cons] at member
      rcases member with (device | rfl | type | rfl | action | rfl | severity) | rfl | extension
      · exact headed.record c device
      · exact bar
      · exact (unmarked_eventType framing event.eventType c type).2.2.2
      · exact bar
      · exact (plain event.action (by simp [AuditEvent.printed]) c action).2.2.2
      · exact bar
      · exact (unmarked_severity framing event c severity).2.2.2
      · exact bar
      · exact (written c extension).2.2
    · rw [fields,List.length_append,headed.four]
      rfl
    · have fifth : (cefFields cfg event)[4]? = some event.eventType.value.toList := later 0
      rw [fifth]
      exact congrArg some (Escaped.unescape_plain (unmarked_plain (unmarked_eventType .line event.eventType)).1)
    · have sixth : (cefFields cfg event)[5]? = some event.action.toList := later 1
      rw [sixth]
      exact congrArg some (Escaped.unescape_plain action.1)
    · have eighth : (cefFields cfg event)[7]? = some event.extension := later 3
      rw [eighth,Option.bind_some,extension_written]
      refine Escaped.parsePairs_written ?_ (by decide) (by decide) (by decide) ?_ ?_
      · exact List.cons_ne_nil _ _
      · intro pair among
        obtain ⟨escape,_,equals⟩ := unmarked_plain (labelled_keys framing event pair among)
        exact ⟨escape,equals,labelled_unbroken event pair among⟩
      · exact fun pair among => ⟨(unmarked_plain (values pair among)).1,(unmarked_plain (values pair among)).2.2⟩

/-- The lines of two events are read back and tell them apart exactly when the device
is read as four fields and no text of the events has a bar, an equals sign or a
backslash in it, nor, for a reader of lines, a line break. -/
theorem unforgeable_iff (framing : Framing) (cfg : SiemConfig) (first second : AuditEvent) :
    Unforgeable framing cfg first second ↔ cfg.Headed framing ∧ first.Plain framing ∧ second.Plain framing := by
  constructor
  · intro unforgeable
    obtain ⟨headed,plain⟩ := (readsBack_iff framing cfg first).mp unforgeable.read
    exact ⟨headed,plain,((readsBack_iff framing cfg second).mp unforgeable.readOther).2⟩
  · rintro ⟨headed,plain,plainOther⟩
    have read := (readsBack_iff framing cfg first).mpr ⟨headed,plain⟩
    have readOther := (readsBack_iff framing cfg second).mpr ⟨headed,plainOther⟩
    refine ⟨read,readOther,fun different same => different (Prod.ext ?_ ?_)⟩
    · have types := read.eventType
      rw [cefFields,same] at types
      exact String.toList_inj.mp (Option.some.inj (types.symm.trans readOther.eventType))
    · have values := read.extension
      rw [cefFields,same] at values
      exact Option.some.inj (values.symm.trans readOther.extension)

def barredActor : AuditEvent :=
  buildEvent ⟨"t1",none⟩ (configChange "ann|9|suser=bob" "RULE" "r1") (octoberAt 0) "0a" none

/-- The line of the event has more fields than eight. -/
theorem barred_actor_forges : ¬ Unforgeable .whole {} barredActor barredActor := by
  intro unforgeable
  have plain := (plain_of_readsBack unforgeable.read).2
  have actor : "ann|9|suser=bob" ∈ barredActor.printed := List.mem_cons_self
  have bar : '|' ∈ "ann|9|suser=bob".toList := by decide
  exact (plain _ actor '|' bar).1 rfl

end CloudLens.Audit
