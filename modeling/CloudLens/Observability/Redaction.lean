import CloudLens.Library.Casing
import CloudLens.Library.JsonReading

/-! The redaction of what is logged. Of the fields of a record a line tells their shape, their
scalars and their redacted texts, and nothing of what is stored under a sensitive key. -/
namespace CloudLens.Observability
open Library

/-- A value that `json.dumps` takes; the keys are strings. -/
inductive LogValue where
  | null
  | bool (value : Bool)
  | number (value : { value : NumeralText // JsonText.ProperNumeral value })
  | text (word : String)
  | dict (items : List (String × LogValue))
  | list (items : List LogValue)
  | tuple (items : List LogValue)

structure Redaction where
  /-- The substitutions of `CREDENTIAL_PATTERNS`, in their order. -/
  credentialPatterns : List (String → String)

def sensitiveKeySubstrings : List String :=
  ["password", "passwd", "secret", "token", "api_key", "apikey", "access_key", "private_key", "client_secret", "authorization", "cert",
    "credentials"]

def isSensitive (key : String) : Bool := sensitiveKeySubstrings.any (fun sub => sub.toList <:+: (Text.lower key).toList)

section Payload

mutual

/-- A tuple is written as a list. -/
def LogValue.json : LogValue → JsonValue
  | .null => .null
  | .bool value => .bool value
  | .number value => .number value.1
  | .text word => .string word
  | .dict items => .dict (jsonMembers items)
  | .list items => .list (jsonItems items)
  | .tuple items => .list (jsonItems items)

def jsonMembers : List (String × LogValue) → List (String × JsonValue)
  | [] => []
  | (key, value) :: rest => (key, value.json) :: jsonMembers rest

def jsonItems : List LogValue → List JsonValue
  | [] => []
  | value :: rest => value.json :: jsonItems rest

end

mutual

theorem LogValue.proper_json : ∀ value : LogValue, JsonText.Proper value.json
  | .null => trivial
  | .bool _ => trivial
  | .number value => value.2
  | .text _ => trivial
  | .dict items => proper_jsonMembers items
  | .list items => proper_jsonItems items
  | .tuple items => proper_jsonItems items

theorem proper_jsonMembers : ∀ items : List (String × LogValue), JsonText.ProperMembers (jsonMembers items)
  | [] => trivial
  | (_, value) :: rest => ⟨value.proper_json,proper_jsonMembers rest⟩

theorem proper_jsonItems : ∀ items : List LogValue, JsonText.ProperItems (jsonItems items)
  | [] => trivial
  | value :: rest => ⟨value.proper_json,proper_jsonItems rest⟩

end

end Payload

namespace Redaction

variable (redaction : Redaction)

def redactText (text : String) : String :=
  if text = "" then text else redaction.credentialPatterns.foldl (fun sanitized substitute => substitute sanitized) text

mutual

def redactValue : LogValue → LogValue
  | .text word => .text (redaction.redactText word)
  | .dict items => .dict (redactItems items)
  | .list items => .list (redactAll items)
  | .tuple items => .tuple (redactAll items)
  | .null => .null
  | .bool value => .bool value
  | .number value => .number value

def redactItems : List (String × LogValue) → List (String × LogValue)
  | [] => []
  | (key, value) :: rest => (key, if isSensitive key then .text "[REDACTED]" else redactValue value) :: redactItems rest

def redactAll : List LogValue → List LogValue
  | [] => []
  | value :: rest => redactValue value :: redactAll rest

end

mutual

/-- The values differ only under sensitive keys, in what is redacted from texts, and in
being lists or tuples. -/
def Alike : LogValue → LogValue → Prop
  | .text word, .text other => redaction.redactText word = redaction.redactText other
  | .dict items, .dict others => AlikeItems items others
  | .list items, .list others => AlikeAll items others
  | .list items, .tuple others => AlikeAll items others
  | .tuple items, .list others => AlikeAll items others
  | .tuple items, .tuple others => AlikeAll items others
  | .null, .null => True
  | .bool value, .bool other => value = other
  | .number value, .number other => value = other
  | _, _ => False

def AlikeItems : List (String × LogValue) → List (String × LogValue) → Prop
  | [], [] => True
  | (key, value) :: rest, (name, other) :: others =>
    key = name ∧ (isSensitive key = false → Alike value other) ∧ AlikeItems rest others
  | _, _ => False

def AlikeAll : List LogValue → List LogValue → Prop
  | [], [] => True
  | value :: rest, other :: others => Alike value other ∧ AlikeAll rest others
  | _, _ => False

end

mutual

theorem json_redactValue_iff : ∀ value other : LogValue,
    (redaction.redactValue value).json = (redaction.redactValue other).json ↔ redaction.Alike value other
  | .text word, other => by cases other <;> simp [redactValue,LogValue.json,Alike]
  | .dict items, other => by cases other <;> simp [redactValue,LogValue.json,Alike,json_redactItems_iff items]
  | .list items, other => by cases other <;> simp [redactValue,LogValue.json,Alike,json_redactAll_iff items]
  | .tuple items, other => by cases other <;> simp [redactValue,LogValue.json,Alike,json_redactAll_iff items]
  | .null, other => by cases other <;> simp [redactValue,LogValue.json,Alike]
  | .bool value, other => by cases other <;> simp [redactValue,LogValue.json,Alike]
  | .number value, other => by cases other <;> simp [redactValue,LogValue.json,Alike,Subtype.ext_iff]

theorem json_redactItems_iff : ∀ items others : List (String × LogValue),
    jsonMembers (redaction.redactItems items) = jsonMembers (redaction.redactItems others) ↔ redaction.AlikeItems items others
  | [], others => by cases others <;> simp [redactItems,jsonMembers,AlikeItems]
  | (key, value) :: rest, [] => by simp [redactItems,jsonMembers,AlikeItems]
  | (key, value) :: rest, (name, other) :: others => by
    simp only [redactItems,jsonMembers,AlikeItems,List.cons.injEq,Prod.mk.injEq,json_redactItems_iff rest others,and_assoc]
    refine and_congr_right ?_
    rintro rfl
    refine and_congr_left' ?_
    cases isSensitive key <;> simp [json_redactValue_iff value other]

theorem json_redactAll_iff : ∀ items others : List LogValue,
    jsonItems (redaction.redactAll items) = jsonItems (redaction.redactAll others) ↔ redaction.AlikeAll items others
  | [], others => by cases others <;> simp [redactAll,jsonItems,AlikeAll]
  | value :: rest, [] => by simp [redactAll,jsonItems,AlikeAll]
  | value :: rest, other :: others => by
    simp only [redactAll,jsonItems,AlikeAll,List.cons.injEq,json_redactValue_iff value other,json_redactAll_iff rest others]

end

end Redaction

/-- The attributes of a record that are none of its custom fields. -/
def reservedAttributes : List String :=
  ["args", "asctime", "created", "exc_info", "exc_text", "filename", "funcName", "id", "levelname", "levelno", "lineno", "module", "msecs",
    "message", "msg", "name", "pathname", "process", "processName", "relativeCreated", "stack_info", "thread", "threadName",
    "correlation_id", "tenant_id", "actor", "operation"]

/-- What a line says of a record besides its message, its custom fields and its exception. -/
@[ext]
structure LineContext where
  timestamp : String
  level : String
  service : String
  correlationId : String
  tenantId : String
  actor : String
  operation : String
  loggerName : String

structure LogRecord where
  context : LineContext
  message : String
  attributes : List (String × LogValue)
  /-- `formatException` of the record's exception, if it has one. -/
  exception : Option String

def LineContext.members (context : LineContext) : List (String × JsonValue) :=
  [("timestamp", .string context.timestamp), ("level", .string context.level), ("service", .string context.service),
    ("correlation_id", .string context.correlationId), ("tenant_id", .string context.tenantId), ("actor", .string context.actor),
    ("operation", .string context.operation), ("logger_name", .string context.loggerName)]

namespace LogRecord

variable (redaction : Redaction) (record : LogRecord)

def customFields : List (String × LogValue) := record.attributes.filter (fun item => item.1 ∉ reservedAttributes)

def extraMembers : List (String × JsonValue) :=
  if record.customFields = [] then [] else [("extra", .dict (jsonMembers (redaction.redactItems record.customFields)))]

def exceptionMembers : List (String × JsonValue) := (record.exception.map (fun text => ("exception", JsonValue.string text))).toList

def payload : List (String × JsonValue) :=
  record.context.members ++ [("message", .string (redaction.redactText record.message))] ++ record.extraMembers redaction ++
    record.exceptionMembers

/-- `json.dumps` of the payload. -/
def format : String := String.ofList (JsonText.render (.dict (record.payload redaction)))

variable {record} {other : LogRecord}

theorem proper_payload : JsonText.ProperMembers (record.payload redaction) := by
  rw [JsonText.properMembers_iff]
  intro member held
  simp only [payload,List.mem_append] at held
  rcases held with ((named | worded) | custom) | raised
  · simp only [LineContext.members,List.mem_cons,List.not_mem_nil,or_false] at named
    rcases named with rfl | rfl | rfl | rfl | rfl | rfl | rfl | rfl <;> exact trivial
  · obtain rfl := List.mem_singleton.mp worded
    exact trivial
  · unfold extraMembers at custom
    split at custom
    · exact absurd custom List.not_mem_nil
    · obtain rfl := List.mem_singleton.mp custom
      exact proper_jsonMembers _
  · cases known : record.exception with
    | none => simp [exceptionMembers,known] at raised
    | some text =>
      obtain rfl : member = ("exception", JsonValue.string text) := by simpa [exceptionMembers,known] using raised
      exact trivial

/-- The text of a line determines its payload. -/
theorem format_eq_iff_payload : record.format redaction = other.format redaction ↔ record.payload redaction = other.payload redaction := by
  unfold format
  refine ⟨fun same => ?_,fun same => by rw [same]⟩
  have rendered := String.ofList_injective same
  exact JsonValue.dict.inj (JsonText.render_inj (proper_payload redaction) (proper_payload redaction) rendered)

theorem members_inj {context said : LineContext} : context.members = said.members ↔ context = said := by
  refine ⟨fun same => ?_,fun same => by rw [same]⟩
  ext1 <;> simp_all [LineContext.members]

/-- Fields without a name in common do not take each other's place: what the line says of the
custom fields and of the exception is told apart by the name it stands under. -/
theorem extra_exception_inj :
    record.extraMembers redaction ++ record.exceptionMembers = other.extraMembers redaction ++ other.exceptionMembers ↔
      redaction.AlikeItems record.customFields other.customFields ∧ record.exception = other.exception := by
  rw [← redaction.json_redactItems_iff]
  unfold extraMembers exceptionMembers
  cases record.customFields <;> cases other.customFields <;> cases record.exception <;> cases other.exception <;>
    simp [Redaction.redactItems,jsonMembers]

/-- Two lines are the same text exactly when their records agree in all but what is redacted. -/
theorem format_eq_iff :
    record.format redaction = other.format redaction ↔
      record.context = other.context ∧ redaction.redactText record.message = redaction.redactText other.message ∧
        redaction.AlikeItems record.customFields other.customFields ∧ record.exception = other.exception := by
  have apart : record.payload redaction = other.payload redaction ↔
      record.context.members = other.context.members ∧ redaction.redactText record.message = redaction.redactText other.message ∧
        record.extraMembers redaction ++ record.exceptionMembers = other.extraMembers redaction ++ other.exceptionMembers := by
    simp [payload,LineContext.members,and_assoc]
  rw [format_eq_iff_payload,apart,members_inj,extra_exception_inj]

end LogRecord

end CloudLens.Observability
