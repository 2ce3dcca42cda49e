import Mathlib.Data.Rat.Defs
import Mathlib.Data.List.Nodup

/-! Documents as trees of named members. A record is an object whose names are
distinct at every depth. Rewriting the values under some names wherever they
occur composes and keeps the shape of the document. Erasing forgets those values,
so two documents with the same erasure differ only there, and a rewriting without
fixed points moves every document that mentions one of the names. -/
namespace CloudLens.Library

inductive Json where
  | null
  | bool (value : Bool)
  | num (value : ℚ)
  | str (value : String)
  | arr (items : List Json)
  | obj (members : List (String × Json))

namespace Json

theorem induct {motive : Json → Prop} (null : motive .null) (bool : ∀ value, motive (.bool value))
    (num : ∀ value, motive (.num value)) (str : ∀ value, motive (.str value))
    (arr : ∀ items, (∀ item ∈ items, motive item) → motive (.arr items))
    (obj : ∀ members, (∀ member ∈ members, motive member.2) → motive (.obj members)) (json : Json) : motive json := by
  refine @Json.rec motive (fun items => ∀ item ∈ items, motive item) (fun members => ∀ member ∈ members, motive member.2)
    (fun member => motive member.2) null bool num str arr obj ?_ ?_ ?_ ?_ ?_ json
  · exact fun _ inside => nomatch inside
  · intro first rest holds later
    exact List.forall_mem_cons.mpr ⟨holds,later⟩
  · exact fun _ inside => nomatch inside
  · intro first rest holds later
    exact List.forall_mem_cons.mpr ⟨holds,later⟩
  · exact fun _ _ holds => holds

def truthy : Json → Bool
  | .null => false
  | .bool value => value
  | .num value => value ≠ 0
  | .str value => value ≠ ""
  | .arr items => !items.isEmpty
  | .obj members => !members.isEmpty

mutual

def distinct : Json → Prop
  | .arr items => distinctItems items
  | .obj members => distinctMembers members
  | _ => True

def distinctItems : List Json → Prop
  | [] => True
  | item :: rest => distinct item ∧ distinctItems rest

def distinctMembers : List (String × Json) → Prop
  | [] => True
  | (name, value) :: rest => name ∉ rest.map Prod.fst ∧ distinct value ∧ distinctMembers rest

end

mutual

/-- Rewrites every value stored under one of the names, at any depth. -/
def mapUnder (names : List String) (change : Json → Json) : Json → Json
  | .arr items => .arr (mapItems names change items)
  | .obj members => .obj (mapMembers names change members)
  | .null => .null
  | .bool value => .bool value
  | .num value => .num value
  | .str value => .str value

def mapItems (names : List String) (change : Json → Json) : List Json → List Json
  | [] => []
  | item :: rest => mapUnder names change item :: mapItems names change rest

def mapMembers (names : List String) (change : Json → Json) : List (String × Json) → List (String × Json)
  | [] => []
  | (name, value) :: rest =>
    (name, if name ∈ names then change value else mapUnder names change value) :: mapMembers names change rest

end

mutual

def mentions (names : List String) : Json → Bool
  | .arr items => mentionsItems names items
  | .obj members => mentionsMembers names members
  | _ => false

def mentionsItems (names : List String) : List Json → Bool
  | [] => false
  | item :: rest => mentions names item || mentionsItems names rest

def mentionsMembers (names : List String) : List (String × Json) → Bool
  | [] => false
  | (name, value) :: rest => decide (name ∈ names) || mentions names value || mentionsMembers names rest

end

theorem distinctItems_iff (items : List Json) : distinctItems items ↔ ∀ item ∈ items, distinct item := by
  induction items with
  | nil => simp [distinctItems]
  | cons item rest ih => simp [distinctItems,ih]

theorem distinctMembers_iff (members : List (String × Json)) :
    distinctMembers members ↔ (members.map Prod.fst).Nodup ∧ ∀ member ∈ members, distinct member.2 := by
  induction members with
  | nil => simp [distinctMembers]
  | cons member rest ih =>
    obtain ⟨name,value⟩ := member
    rw [distinctMembers,ih,List.map_cons,List.nodup_cons,List.forall_mem_cons]
    tauto

section Rewriting

variable (names : List String) (change : Json → Json)

def mapMember (member : String × Json) : String × Json :=
  (member.1, if member.1 ∈ names then change member.2 else mapUnder names change member.2)

theorem mapItems_eq_map (items : List Json) : mapItems names change items = items.map (mapUnder names change) := by
  induction items with
  | nil => rfl
  | cons item rest ih => rw [mapItems,ih,List.map_cons]

theorem mapMembers_eq_map (members : List (String × Json)) :
    mapMembers names change members = members.map (mapMember names change) := by
  induction members with
  | nil => rfl
  | cons member rest ih =>
    rw [mapMembers,ih,List.map_cons]
    rfl

theorem mentionsItems_eq_any (items : List Json) : mentionsItems names items = items.any (mentions names) := by
  induction items with
  | nil => rfl
  | cons item rest ih => rw [mentionsItems,ih,List.any_cons]

theorem mentionsMembers_eq_any (members : List (String × Json)) :
    mentionsMembers names members = members.any (fun member => decide (member.1 ∈ names) || mentions names member.2) := by
  induction members with
  | nil => rfl
  | cons member rest ih => rw [mentionsMembers,ih,List.any_cons]

theorem map_fst_mapMembers (members : List (String × Json)) :
    (mapMembers names change members).map Prod.fst = members.map Prod.fst := by
  rw [mapMembers_eq_map,List.map_map]
  rfl

theorem truthy_mapUnder (json : Json) : (mapUnder names change json).truthy = json.truthy := by
  cases json with
  | arr items => cases items <;> rfl
  | obj members => cases members <;> rfl
  | _ => rfl

theorem mapUnder_mapUnder (first second : Json → Json) (json : Json) :
    mapUnder names second (mapUnder names first json) = mapUnder names (second ∘ first) json := by
  induction json using induct with
  | arr items ih =>
    simp only [mapUnder,mapItems_eq_map,List.map_map]
    congr 1
    exact List.map_congr_left ih
  | obj members ih =>
    simp only [mapUnder,mapMembers_eq_map,List.map_map]
    congr 1
    apply List.map_congr_left
    intro member inside
    have inner := ih member inside
    simp only [Function.comp_apply,mapMember]
    split
    · rfl
    · rw [inner]
  | _ => rfl

theorem mentions_mapUnder (json : Json) : mentions names (mapUnder names change json) = mentions names json := by
  induction json using induct with
  | arr items ih =>
    simp only [mapUnder,mapItems_eq_map,mentions,mentionsItems_eq_any,List.any_map]
    rw [Bool.eq_iff_iff,List.any_eq_true,List.any_eq_true]
    exact exists_congr fun item => and_congr_right fun inside => by rw [Function.comp_apply,ih item inside]
  | obj members ih =>
    simp only [mapUnder,mapMembers_eq_map,mentions,mentionsMembers_eq_any,List.any_map]
    rw [Bool.eq_iff_iff,List.any_eq_true,List.any_eq_true]
    refine exists_congr fun member => and_congr_right fun inside => ?_
    have inner := ih member inside
    simp only [Function.comp_apply,mapMember]
    by_cases named : member.1 ∈ names
    · simp [named]
    · simp [named,inner]
  | _ => rfl

theorem mapUnder_of_unmentioned (json : Json) (absent : mentions names json = false) :
    mapUnder names change json = json := by
  induction json using induct with
  | arr items ih =>
    rw [mentions,mentionsItems_eq_any,List.any_eq_false] at absent
    rw [mapUnder,mapItems_eq_map,List.map_congr_left (fun item inside => ih item inside (by simpa using absent item inside))]
    rw [List.map_id']
  | obj members ih =>
    rw [mentions,mentionsMembers_eq_any,List.any_eq_false] at absent
    have fixed : ∀ member ∈ members, mapMember names change member = member := by
      intro member inside
      have missing := absent member inside
      simp only [Bool.or_eq_true,decide_eq_true_eq,not_or,Bool.not_eq_true] at missing
      unfold mapMember
      rw [if_neg missing.1,ih member inside missing.2]
    rw [mapUnder,mapMembers_eq_map,List.map_congr_left fixed,List.map_id']
  | _ => rfl

theorem unmentioned_of_mapUnder_eq (moves : ∀ value, change value ≠ value) (json : Json)
    (fixed : mapUnder names change json = json) : mentions names json = false := by
  induction json using induct with
  | arr items ih =>
    rw [mapUnder,mapItems_eq_map] at fixed
    rw [mentions,mentionsItems_eq_any,List.any_eq_false]
    intro item inside
    have same := List.map_eq_map_iff.mp ((Json.arr.inj fixed).trans (List.map_id items).symm) item inside
    rw [ih item inside same]
    exact Bool.false_ne_true
  | obj members ih =>
    rw [mapUnder,mapMembers_eq_map] at fixed
    rw [mentions,mentionsMembers_eq_any,List.any_eq_false]
    intro member inside
    have same := List.map_eq_map_iff.mp ((Json.obj.inj fixed).trans (List.map_id members).symm) member inside
    have value := congrArg Prod.snd same
    simp only [mapMember] at value
    by_cases named : member.1 ∈ names
    · rw [if_pos named] at value
      exact absurd value (moves member.2)
    · rw [if_neg named] at value
      simp [named,ih member inside value]
  | _ => rfl

theorem distinct_mapUnder (kept : ∀ value, distinct value → distinct (change value)) (json : Json)
    (original : distinct json) : distinct (mapUnder names change json) := by
  induction json using induct with
  | arr items ih =>
    rw [distinct,distinctItems_iff] at original
    rw [mapUnder,distinct,distinctItems_iff,mapItems_eq_map]
    intro item inside
    obtain ⟨source,member,rfl⟩ := List.mem_map.mp inside
    exact ih source member (original source member)
  | obj members ih =>
    rw [distinct,distinctMembers_iff] at original
    rw [mapUnder,distinct,distinctMembers_iff,map_fst_mapMembers,mapMembers_eq_map]
    refine ⟨original.1,?_⟩
    intro member inside
    obtain ⟨source,listed,rfl⟩ := List.mem_map.mp inside
    unfold mapMember
    split
    · exact kept source.2 (original.2 source listed)
    · exact ih source listed (original.2 source listed)
  | _ => trivial

end Rewriting

theorem lookup_mapMembers (names : List String) (change : Json → Json) (members : List (String × Json)) (name : String) :
    (mapMembers names change members).lookup name =
      (members.lookup name).map (fun value => if name ∈ names then change value else mapUnder names change value) := by
  induction members with
  | nil => rfl
  | cons member rest ih =>
    obtain ⟨other,value⟩ := member
    by_cases same : name = other
    · subst same
      simp [mapMembers]
    · have differ : (name == other) = false := beq_false_of_ne same
      simp only [mapMembers,List.lookup_cons,differ,ih]

def wrapped (json : Json) : Json := .arr [json]

theorem wrapped_ne (json : Json) : wrapped json ≠ json := by
  intro same
  have size := congrArg sizeOf same
  simp only [wrapped,Json.arr.sizeOf_spec,List.cons.sizeOf_spec,List.nil.sizeOf_spec] at size
  omega

theorem distinct_wrapped (json : Json) (original : distinct json) : distinct (wrapped json) := by
  simpa [wrapped,distinct,distinctItems] using original

/-- An object whose names are distinct at every depth. -/
@[ext]
structure Record where
  members : List (String × Json)
  distinct : distinctMembers members

namespace Record

variable (names : List String) (record : Record)

def get? (name : String) : Option Json := record.members.lookup name

theorem distinct_mapMembers {change : Json → Json} (kept : ∀ value, Json.distinct value → Json.distinct (change value)) :
    distinctMembers (mapMembers names change record.members) :=
  distinct_mapUnder names change kept (.obj record.members) record.distinct

def erase : Record := ⟨mapMembers names (fun _ => .null) record.members,distinct_mapMembers names record (fun _ _ => trivial)⟩

def wrap : Record := ⟨mapMembers names wrapped record.members,distinct_mapMembers names record distinct_wrapped⟩

theorem distinct_nullified : distinctMembers
    (record.members.map (fun member => (member.1, if member.1 ∈ names then Json.null else member.2))) := by
  obtain ⟨nodup,inner⟩ := (distinctMembers_iff record.members).mp record.distinct
  rw [distinctMembers_iff,List.map_map]
  refine ⟨nodup,?_⟩
  intro member inside
  obtain ⟨source,listed,rfl⟩ := List.mem_map.mp inside
  dsimp only
  split
  · trivial
  · exact inner source listed

/-- Sets the members with one of the names to null, at the top level only. -/
def nullify : Record :=
  ⟨record.members.map (fun member => (member.1, if member.1 ∈ names then .null else member.2)),
    distinct_nullified names record⟩

/-- None of the names occurs inside a member that has another name. -/
def Shallow : Prop := ∀ member ∈ record.members, member.1 ∉ names → mentions names member.2 = false

instance : Decidable (record.Shallow names) :=
  inferInstanceAs (Decidable (∀ member ∈ record.members, member.1 ∉ names → mentions names member.2 = false))

theorem nullify_eq_erase {record : Record} (shallow : record.Shallow names) : record.nullify names = record.erase names := by
  ext1
  simp only [nullify,erase,mapMembers_eq_map]
  apply List.map_congr_left
  intro member inside
  unfold mapMember
  split
  · rfl
  · rename_i other
    rw [mapUnder_of_unmentioned names _ member.2 (shallow member inside other)]

theorem shallow_of_nullify_wrap {record : Record} (same : (record.wrap names).nullify names = record.nullify names) :
    record.Shallow names := by
  have members := congrArg Record.members same
  simp only [nullify,wrap,mapMembers_eq_map,List.map_map] at members
  intro member inside other
  have value := congrArg Prod.snd (List.map_eq_map_iff.mp members member inside)
  simp only [Function.comp_apply,mapMember,if_neg other] at value
  exact unmentioned_of_mapUnder_eq names wrapped wrapped_ne member.2 value

theorem erase_wrap : (record.wrap names).erase names = record.erase names := by
  have composed := mapUnder_mapUnder names wrapped (fun _ => .null) (.obj record.members)
  ext1
  exact Json.obj.inj composed

theorem get?_erase (name : String) (other : name ∉ names) :
    (record.erase names).get? name = (record.get? name).map (mapUnder names (fun _ => .null)) := by
  unfold get? erase
  rw [lookup_mapMembers]
  simp only [if_neg other]

theorem shallow_of_erase_eq {record other : Record} (same : record.erase names = other.erase names)
    (shallow : record.Shallow names) : other.Shallow names := by
  have members := congrArg Record.members same
  simp only [erase,mapMembers_eq_map] at members
  intro member inside outside
  have listed : mapMember names (fun _ => .null) member ∈ record.members.map (mapMember names (fun _ => .null)) := by
    rw [members]
    exact List.mem_map_of_mem inside
  obtain ⟨source,found,matched⟩ := List.mem_map.mp listed
  have name := congrArg Prod.fst matched
  change source.1 = member.1 at name
  have value := congrArg Prod.snd matched
  rw [← name] at outside
  simp only [mapMember,← name,if_neg outside] at value
  rw [← mentions_mapUnder names (fun _ => .null),← value,mentions_mapUnder]
  exact shallow source found outside

end Record

end Json

end CloudLens.Library
