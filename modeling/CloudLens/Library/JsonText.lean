import CloudLens.Library.Text
import Mathlib.Data.List.Sort

/-! The text of JSON values as a serialiser writes them: members in the order of
their names, a comma and a blank between items, and every character outside
printable ASCII escaped. Texts are read by a scanner that keeps whether it stands
inside a string and how deep the braces are nested. From that a text of an object
is never a proper end of another such text, so it can be split off the end of a
longer text. -/
namespace CloudLens.Library

structure NumeralText where
  text : List Char
  plain : ∀ c ∈ text, c ≠ '"' ∧ c ≠ '\\' ∧ c ≠ '\x7b' ∧ c ≠ '\x7d'

inductive JsonValue where
  | null
  | bool (value : Bool)
  | number (value : NumeralText)
  | string (value : String)
  | list (items : List JsonValue)
  | dict (members : List (String × JsonValue))

namespace JsonText

def hexDigit (n : ℕ) : Char := Nat.digitChar (n % 16)

def unicodeEscape (n : ℕ) : List Char :=
  ['\\', 'u', hexDigit (n / 0x1000), hexDigit (n / 0x100), hexDigit (n / 0x10), hexDigit n]

def escapeChar (c : Char) : List Char :=
  if c = '"' then ['\\', '"']
  else if c = '\\' then ['\\', '\\']
  else if c = '\n' then ['\\', 'n']
  else if c = '\r' then ['\\', 'r']
  else if c = '\t' then ['\\', 't']
  else if c.toNat = 12 then ['\\', 'f']
  else if c.toNat = 8 then ['\\', 'b']
  else if 0x20 ≤ c.toNat ∧ c.toNat ≤ 0x7e then [c]
  else if c.toNat < 0x10000 then unicodeEscape c.toNat
  else unicodeEscape (0xd800 + (c.toNat - 0x10000) / 0x400) ++ unicodeEscape (0xdc00 + (c.toNat - 0x10000) % 0x400)

def quoted (text : String) : List Char := '"' :: (text.toList.flatMap escapeChar ++ ['"'])

def joined (texts : List (List Char)) : List Char := (texts.intersperse [',', ' ']).flatten

def braced (text : List Char) : List Char := '\x7b' :: (text ++ ['\x7d'])

mutual

def render : JsonValue → List Char
  | .null => "null".toList
  | .bool true => "true".toList
  | .bool false => "false".toList
  | .number value => value.text
  | .string value => quoted value
  | .list items => '[' :: (joined (renderItems items) ++ [']'])
  | .dict members => braced (joined (renderMembers members))

def renderItems : List JsonValue → List (List Char)
  | [] => []
  | item :: rest => render item :: renderItems rest

def renderMembers : List (String × JsonValue) → List (List Char)
  | [] => []
  | (name, value) :: rest => (quoted name ++ [':', ' '] ++ render value) :: renderMembers rest

end

mutual

def sortKeys : JsonValue → JsonValue
  | .null => .null
  | .bool value => .bool value
  | .number value => .number value
  | .string value => .string value
  | .list items => .list (sortItems items)
  | .dict members => .dict ((sortMembers members).insertionSort (fun a b => a.1 ≤ b.1))

def sortItems : List JsonValue → List JsonValue
  | [] => []
  | item :: rest => sortKeys item :: sortItems rest

def sortMembers : List (String × JsonValue) → List (String × JsonValue)
  | [] => []
  | (name, value) :: rest => (name, sortKeys value) :: sortMembers rest

end

/-- `json.dumps(members, sort_keys=True)` of a dictionary. -/
def dumps (members : List (String × JsonValue)) : List Char := render (sortKeys (.dict members))

inductive Mode
  | outside
  | inside
  | escaped
  deriving DecidableEq

def Mode.next : Mode → Char → Mode
  | outside, c => if c = '"' then inside else outside
  | inside, c => if c = '"' then outside else if c = '\\' then escaped else inside
  | escaped, _ => inside

def Mode.change : Mode → Char → ℤ
  | outside, c => if c = '\x7b' then 1 else if c = '\x7d' then -1 else 0
  | _, _ => 0

/-- A character the serialiser may write in a mode: no backslash outside a
string, and no opening brace after a backslash. -/
def Mode.Admits : Mode → Char → Prop
  | outside, c => c ≠ '\\'
  | inside, _ => True
  | escaped, c => c ≠ '\x7b'

def endMode (mode : Mode) (text : List Char) : Mode := text.foldl Mode.next mode

def depth : Mode → List Char → ℤ
  | _, [] => 0
  | mode, c :: rest => mode.change c + depth (mode.next c) rest

def Clean : Mode → List Char → Prop
  | _, [] => True
  | mode, c :: rest => mode.Admits c ∧ Clean (mode.next c) rest

variable {mode : Mode} {first second : List Char}

theorem endMode_append (mode : Mode) (first second : List Char) :
    endMode mode (first ++ second) = endMode (endMode mode first) second := by
  simp [endMode,List.foldl_append]

theorem depth_append (mode : Mode) (first second : List Char) :
    depth mode (first ++ second) = depth mode first + depth (endMode mode first) second := by
  induction first generalizing mode with
  | nil => simp [depth,endMode]
  | cons c first ih =>
    rw [List.cons_append,depth,depth,ih]
    exact (add_assoc _ _ _).symm

theorem clean_append : Clean mode (first ++ second) ↔ Clean mode first ∧ Clean (endMode mode first) second := by
  induction first generalizing mode with
  | nil => simp [Clean,endMode]
  | cons c first ih =>
    simp only [List.cons_append,Clean,ih,and_assoc]
    rfl

/-- A text that the scanner leaves as it found it, without going below the depth
at which it started. -/
structure Closed (text : List Char) : Prop where
  clean : Clean .outside text
  outside : endMode .outside text = .outside
  level : depth .outside text = 0
  above : ∀ front, front <+: text → 0 ≤ depth .outside front

theorem prefix_cases {first second front : List Char} (within : front <+: first ++ second) :
    front <+: first ∨ ∃ late, front = first ++ late ∧ late <+: second := by
  rcases List.prefix_or_prefix_of_prefix within (List.prefix_append first second) with early | ⟨late,rfl⟩
  · exact Or.inl early
  · exact Or.inr ⟨late,rfl,(List.prefix_append_right_inj first).mp within⟩

theorem closed_append (left : Closed first) (right : Closed second) : Closed (first ++ second) where
  clean := clean_append.mpr ⟨left.clean,by rw [left.outside]; exact right.clean⟩
  outside := by rw [endMode_append,left.outside,right.outside]
  level := by rw [depth_append,left.level,left.outside,right.level,add_zero]
  above := by
    intro front within
    rcases prefix_cases within with early | ⟨late,rfl,ends⟩
    · exact left.above front early
    · rw [depth_append,left.level,left.outside,zero_add]
      exact right.above late ends

theorem closed_nil : Closed [] where
  clean := trivial
  outside := rfl
  level := rfl
  above := by
    intro front within
    rw [List.prefix_nil.mp within,depth]

theorem closed_char {c : Char} (plain : c ≠ '"' ∧ c ≠ '\\' ∧ c ≠ '\x7b' ∧ c ≠ '\x7d') : Closed [c] where
  clean := ⟨plain.2.1,trivial⟩
  outside := by simp [endMode,Mode.next,plain]
  level := by simp [depth,Mode.change,plain]
  above := by
    intro front within
    rcases List.prefix_cons_iff.mp within with rfl | ⟨rest,rfl,none⟩
    · simp [depth]
    · rw [List.prefix_nil.mp none]
      simp [depth,Mode.change,plain]

theorem closed_plain {text : List Char} (plain : ∀ c ∈ text, c ≠ '"' ∧ c ≠ '\\' ∧ c ≠ '\x7b' ∧ c ≠ '\x7d') :
    Closed text := by
  induction text with
  | nil => exact closed_nil
  | cons c text ih =>
    rw [List.forall_mem_cons] at plain
    exact closed_append (closed_char plain.1) (ih plain.2)

structure Piece (text : List Char) : Prop where
  clean : Clean .inside text
  inside : endMode .inside text = .inside
  level : ∀ front, front <+: text → depth .inside front = 0

theorem piece_append (left : Piece first) (right : Piece second) : Piece (first ++ second) where
  clean := clean_append.mpr ⟨left.clean,by rw [left.inside]; exact right.clean⟩
  inside := by rw [endMode_append,left.inside,right.inside]
  level := by
    intro front within
    rcases prefix_cases within with early | ⟨late,rfl,ends⟩
    · exact left.level front early
    · rw [depth_append,left.level first (List.prefix_refl first),left.inside,right.level late ends,add_zero]

theorem piece_nil : Piece [] where
  clean := trivial
  inside := rfl
  level := by
    intro front within
    rw [List.prefix_nil.mp within,depth]

theorem piece_char {c : Char} (quote : c ≠ '"') (slash : c ≠ '\\') : Piece [c] where
  clean := ⟨trivial,trivial⟩
  inside := by simp [endMode,Mode.next,quote,slash]
  level := by
    intro front within
    rcases List.prefix_cons_iff.mp within with rfl | ⟨rest,rfl,none⟩
    · rfl
    · rw [List.prefix_nil.mp none]
      rfl

theorem piece_pair {c : Char} (brace : c ≠ '\x7b') : Piece ['\\', c] where
  clean := ⟨trivial,brace,trivial⟩
  inside := rfl
  level := by
    intro front within
    rcases List.prefix_cons_iff.mp within with rfl | ⟨rest,rfl,short⟩
    · rfl
    · rcases List.prefix_cons_iff.mp short with rfl | ⟨last,rfl,none⟩
      · rfl
      · rw [List.prefix_nil.mp none]
        rfl

theorem hexDigit_plain (n : ℕ) : hexDigit n ≠ '"' ∧ hexDigit n ≠ '\\' := by
  have digits : ∀ d ∈ List.range 16, Nat.digitChar d ≠ '"' ∧ Nat.digitChar d ≠ '\\' := by decide
  exact digits _ (List.mem_range.mpr (Nat.mod_lt n (by omega)))

theorem piece_hexDigit (n : ℕ) : Piece [hexDigit n] := piece_char (hexDigit_plain n).1 (hexDigit_plain n).2

theorem piece_unicodeEscape (n : ℕ) : Piece (unicodeEscape n) := by
  have digits := piece_append (piece_hexDigit (n / 0x1000)) (piece_append (piece_hexDigit (n / 0x100))
    (piece_append (piece_hexDigit (n / 0x10)) (piece_hexDigit n)))
  exact piece_append (piece_pair (c := 'u') (by decide)) digits

theorem piece_escapeChar (c : Char) : Piece (escapeChar c) := by
  unfold escapeChar
  split
  · exact piece_pair (by decide)
  · rename_i quote
    split
    · exact piece_pair (by decide)
    · rename_i slash
      split_ifs
      · exact piece_pair (by decide)
      · exact piece_pair (by decide)
      · exact piece_pair (by decide)
      · exact piece_pair (by decide)
      · exact piece_pair (by decide)
      · exact piece_char quote slash
      · exact piece_unicodeEscape _
      · exact piece_append (piece_unicodeEscape _) (piece_unicodeEscape _)

theorem piece_flatMap (chars : List Char) : Piece (chars.flatMap escapeChar) := by
  induction chars with
  | nil => exact piece_nil
  | cons c chars ih => exact piece_append (piece_escapeChar c) ih

theorem closed_quoted (text : String) : Closed (quoted text) := by
  have body := piece_flatMap text.toList
  unfold quoted
  refine ⟨?_,?_,?_,?_⟩
  · refine ⟨by simp [Mode.Admits],?_⟩
    refine clean_append.mpr ⟨body.clean,?_⟩
    change Clean (endMode .inside _) _
    rw [body.inside]
    exact ⟨trivial,trivial⟩
  · change endMode .inside _ = _
    rw [endMode_append,body.inside]
    rfl
  · change 0 + depth .inside _ = 0
    rw [depth_append,body.level _ (List.prefix_refl _),body.inside]
    rfl
  · intro front within
    rcases List.prefix_cons_iff.mp within with rfl | ⟨rest,rfl,tail⟩
    · exact le_refl 0
    · change 0 ≤ 0 + depth .inside rest
      rcases prefix_cases tail with early | ⟨late,rfl,ends⟩
      · rw [body.level rest early,add_zero]
      · rw [depth_append,body.level _ (List.prefix_refl _),body.inside]
        rcases List.prefix_cons_iff.mp ends with rfl | ⟨last,rfl,none⟩
        · exact le_refl 0
        · rw [List.prefix_nil.mp none]
          exact le_refl 0

theorem closed_joined {texts : List (List Char)} (each : ∀ text ∈ texts, Closed text) : Closed (joined texts) := by
  have comma : Closed [',', ' '] := closed_plain (by simp)
  induction texts with
  | nil => exact closed_nil
  | cons text rest ih =>
    cases rest with
    | nil =>
      rw [joined]
      simpa using each text (by simp)
    | cons other rest =>
      have later := ih (fun text member => each text (by simp [List.mem_cons.mp member]))
      rw [joined,List.intersperse_cons_cons,List.flatten_cons,List.flatten_cons]
      exact closed_append (each text (by simp)) (closed_append comma later)

theorem closed_braced {text : List Char} (body : Closed text) :
    Closed (braced text) ∧ ∀ front, front <+: braced text → front ≠ [] → front ≠ braced text →
      0 < depth .outside front := by
  have deeper : ∀ front, front <+: braced text → front ≠ [] → front ≠ braced text → 0 < depth .outside front := by
    intro front within some proper
    rcases List.prefix_cons_iff.mp within with rfl | ⟨rest,rfl,inner⟩
    · exact absurd rfl some
    · rcases List.prefix_concat_iff.mp inner with rfl | inner
      · exact absurd rfl proper
      · change 0 < 1 + depth .outside rest
        have := body.above rest inner
        omega
  have level : depth .outside (braced text) = 0 := by
    change 1 + depth .outside (text ++ _) = 0
    rw [depth_append,body.level,body.outside]
    rfl
  refine ⟨⟨?_,?_,level,?_⟩,deeper⟩
  · refine ⟨by simp [Mode.Admits],clean_append.mpr ⟨body.clean,?_⟩⟩
    change Clean (endMode .outside text) _
    rw [body.outside]
    exact ⟨by simp [Mode.Admits],trivial⟩
  · change endMode .outside (text ++ _) = _
    rw [endMode_append,body.outside]
    rfl
  · intro front within
    by_cases empty : front = []
    · rw [empty,depth]
    · by_cases whole : front = braced text
      · rw [whole,level]
      · exact le_of_lt (deeper front within empty whole)

mutual

theorem closed_render : ∀ value : JsonValue, Closed (render value)
  | .null => closed_plain (by simp [render])
  | .bool true => closed_plain (by simp [render])
  | .bool false => closed_plain (by simp [render])
  | .number value => closed_plain value.plain
  | .string value => closed_quoted value
  | .list items =>
    have bracket : Closed ['['] := closed_plain (by simp)
    closed_append bracket (closed_append (closed_joined (closed_renderItems items)) (closed_plain (by simp)))
  | .dict members => (closed_braced (closed_joined (closed_renderMembers members))).1

theorem closed_renderItems : ∀ items : List JsonValue, ∀ text ∈ renderItems items, Closed text
  | [] => fun _ member => nomatch member
  | item :: rest => List.forall_mem_cons.mpr ⟨closed_render item,closed_renderItems rest⟩

theorem closed_renderMembers : ∀ members : List (String × JsonValue), ∀ text ∈ renderMembers members, Closed text
  | [] => fun _ member => nomatch member
  | (name, value) :: rest => List.forall_mem_cons.mpr
      ⟨closed_append (closed_append (closed_quoted name) (closed_plain (by simp))) (closed_render value),
        closed_renderMembers rest⟩

end

theorem opposite_scan {text : List Char} {other : Mode} (apart : mode ≠ other) (noEscape : mode ≠ .escaped)
    (noOther : other ≠ .escaped) (clean : Clean mode text) (cleanOther : Clean other text) :
    endMode mode text ≠ endMode other text := by
  induction text generalizing mode other with
  | nil => exact apart
  | cons c text ih =>
    obtain ⟨admitted,clean⟩ := clean
    obtain ⟨admittedOther,cleanOther⟩ := cleanOther
    have plain : c ≠ '\\' := by
      cases mode with
      | outside => exact admitted
      | inside =>
        cases other with
        | outside => exact admittedOther
        | inside => exact absurd rfl apart
        | escaped => exact absurd rfl noOther
      | escaped => exact absurd rfl noEscape
    have moves : ∀ m : Mode, m ≠ .escaped → m.next c = if c = '"' then (if m = .outside then .inside else .outside) else m := by
      intro m unescaped
      cases m with
      | outside => simp [Mode.next]
      | inside => simp [Mode.next,plain]
      | escaped => exact absurd rfl unescaped
    refine ih ?_ ?_ ?_ clean cleanOther
    · rw [moves mode noEscape,moves other noOther]
      by_cases quote : c = '"'
      · cases mode <;> cases other <;> simp_all
      · simpa [quote] using apart
    · rw [moves mode noEscape]
      split_ifs <;> simp [noEscape]
    · rw [moves other noOther]
      split_ifs <;> simp [noOther]

theorem braced_suffix {short long front : List Char} (closedShort : Closed short) (closedLong : Closed long)
    (ends : braced long = front ++ braced short) : front = [] := by
  by_contra some
  obtain ⟨outer,deeper⟩ := closed_braced closedLong
  obtain ⟨inner,-⟩ := closed_braced closedShort
  have proper : front ≠ braced long := by
    intro whole
    rw [← whole] at ends
    have := congrArg List.length ends
    simp [braced] at this
  have positive := deeper front (ends ▸ List.prefix_append front _) some proper
  have clean := outer.clean
  have outside := outer.outside
  have level := outer.level
  rw [ends,clean_append] at clean
  rw [ends,endMode_append] at outside
  rw [ends,depth_append] at level
  cases reached : endMode .outside front with
  | outside =>
    rw [reached,inner.level] at level
    omega
  | inside =>
    rw [reached] at clean outside
    have apart : Mode.inside ≠ .outside := by decide
    exact opposite_scan apart (by decide) (by decide) clean.2 inner.clean (outside.trans inner.outside.symm)
  | escaped =>
    rw [reached] at clean
    exact clean.2.1 rfl

theorem dumps_split {front other : List Char} {members changed : List (String × JsonValue)}
    (same : front ++ dumps members = other ++ dumps changed) : front = other ∧ dumps members = dumps changed := by
  have shape : ∀ members, ∃ text, dumps members = braced text ∧ Closed text := fun members =>
    ⟨_,rfl,closed_joined (closed_renderMembers _)⟩
  obtain ⟨text,written,closed⟩ := shape members
  obtain ⟨otherText,otherWritten,otherClosed⟩ := shape changed
  rw [written,otherWritten] at same ⊢
  rcases List.append_eq_append_iff.mp same with ⟨middle,longer,ends⟩ | ⟨middle,longer,ends⟩
  · have empty := braced_suffix otherClosed closed ends
    rw [empty] at longer ends
    exact ⟨by simpa using longer.symm,ends⟩
  · have empty := braced_suffix closed otherClosed ends
    rw [empty] at longer ends
    exact ⟨by simpa using longer,ends.symm⟩

end JsonText

end CloudLens.Library
