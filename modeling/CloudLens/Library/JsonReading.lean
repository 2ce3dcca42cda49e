import CloudLens.Library.JsonText

/-! The texts of JSON values are read in one way only: the characters between
quotes are read off one escape after the other, the first character of a value
says its kind, and an item ends where its delimiter stands. Sorted texts are
therefore equal exactly when their values are, up to the order of members. -/
namespace CloudLens.Library.JsonText

def hexValue (c : Char) : ℕ := (List.range 16).findIdx (fun d => Nat.digitChar d = c)

def fourDigits (a b c d : Char) : ℕ := 0x1000 * hexValue a + 0x100 * hexValue b + 0x10 * hexValue c + hexValue d

def unescaped (k : Char) : Char :=
  if k = 'n' then '\n'
  else if k = 'r' then '\r'
  else if k = 't' then '\t'
  else if k = 'f' then Char.ofNat 12
  else if k = 'b' then Char.ofNat 8
  else k

/-- A high surrogate is followed by the escape of a low one. -/
def readUnicode : List Char → Option (Char × List Char)
  | a :: b :: c :: d :: rest =>
    let n := fourDigits a b c d
    if 0xd800 ≤ n ∧ n < 0xdc00 then
      match rest with
      | _ :: _ :: e :: f :: g :: h :: rest => some (Char.ofNat (0x10000 + (n - 0xd800) * 0x400 + (fourDigits e f g h - 0xdc00)), rest)
      | _ => none
    else some (Char.ofNat n, rest)
  | _ => none

def readSlash : List Char → Option (Char × List Char)
  | [] => none
  | k :: rest => if k = 'u' then readUnicode rest else some (unescaped k, rest)

/-- The first character that a text inside quotes stands for, and what follows. -/
def readChar : List Char → Option (Char × List Char)
  | [] => none
  | c :: rest => if c = '\\' then readSlash rest else some (c, rest)

theorem hexValue_hexDigit (n : ℕ) : hexValue (hexDigit n) = n % 16 := by
  have each : ∀ d ∈ List.range 16, hexValue (Nat.digitChar d) = d := by decide
  exact each _ (List.mem_range.mpr (Nat.mod_lt n (by omega)))

theorem fourDigits_hexDigit (n : ℕ) (small : n < 0x10000) :
    fourDigits (hexDigit (n / 0x1000)) (hexDigit (n / 0x100)) (hexDigit (n / 0x10)) (hexDigit n) = n := by
  unfold fourDigits
  rw [hexValue_hexDigit,hexValue_hexDigit,hexValue_hexDigit,hexValue_hexDigit]
  omega

theorem toNat_bounds (c : Char) : c.toNat < 0x110000 ∧ ¬(0xd800 ≤ c.toNat ∧ c.toNat < 0xe000) := by
  have valid := c.valid
  unfold UInt32.isValidChar Nat.isValidChar at valid
  change (c.toNat < 0xd800 ∨ 0xdfff < c.toNat ∧ c.toNat < 0x110000) at valid
  omega

theorem readUnicode_basic {n : ℕ} (small : n < 0x10000) (plain : ¬(0xd800 ≤ n ∧ n < 0xdc00)) (rest : List Char) :
    readChar (unicodeEscape n ++ rest) = some (Char.ofNat n, rest) := by
  change readUnicode (hexDigit (n / 0x1000) :: hexDigit (n / 0x100) :: hexDigit (n / 0x10) :: hexDigit n :: rest) = _
  unfold readUnicode
  dsimp only
  rw [fourDigits_hexDigit n small,if_neg plain]

theorem readUnicode_pair {n m : ℕ} (high : 0xd800 ≤ n ∧ n < 0xdc00) (low : m < 0x10000) (rest : List Char) :
    readChar ((unicodeEscape n ++ unicodeEscape m) ++ rest) =
      some (Char.ofNat (0x10000 + (n - 0xd800) * 0x400 + (m - 0xdc00)), rest) := by
  change readUnicode (hexDigit (n / 0x1000) :: hexDigit (n / 0x100) :: hexDigit (n / 0x10) :: hexDigit n ::
    '\\' :: 'u' :: hexDigit (m / 0x1000) :: hexDigit (m / 0x100) :: hexDigit (m / 0x10) :: hexDigit m :: rest) = _
  unfold readUnicode
  dsimp only
  rw [fourDigits_hexDigit n (by omega),if_pos high,fourDigits_hexDigit m low]

theorem readChar_escapeChar (c : Char) (rest : List Char) : readChar (escapeChar c ++ rest) = some (c, rest) := by
  obtain ⟨small,scalar⟩ := toNat_bounds c
  unfold escapeChar
  split_ifs with quote slash newline carriage tab form back plain basic
  · rw [quote]
    rfl
  · rw [slash]
    rfl
  · rw [newline]
    rfl
  · rw [carriage]
    rfl
  · rw [tab]
    rfl
  · rw [← Char.ofNat_toNat c,form]
    rfl
  · rw [← Char.ofNat_toNat c,back]
    rfl
  · rw [List.singleton_append,readChar,if_neg slash]
  · rw [readUnicode_basic basic (by omega),Char.ofNat_toNat]
  · rw [readUnicode_pair (by omega) (by omega)]
    have whole : 0x10000 + (0xd800 + (c.toNat - 0x10000) / 0x400 - 0xd800) * 0x400 +
        (0xdc00 + (c.toNat - 0x10000) % 0x400 - 0xdc00) = c.toNat := by omega
    rw [whole,Char.ofNat_toNat]

theorem escapeChar_ne_quote (c : Char) (first second : List Char) : escapeChar c ++ first ≠ '"' :: second := by
  intro same
  have read := readChar_escapeChar c first
  rw [same,readChar,if_neg (by decide)] at read
  cases read
  cases same

theorem quoted_inj {first second : String} {rest later : List Char} (same : quoted first ++ rest = quoted second ++ later) :
    first = second ∧ rest = later := by
  have body : ∀ left right : List Char, left.flatMap escapeChar ++ '"' :: rest = right.flatMap escapeChar ++ '"' :: later →
      left = right ∧ rest = later := by
    intro left
    induction left with
    | nil =>
      intro right same
      cases right with
      | nil => exact ⟨rfl,(List.cons_inj_right _).mp same⟩
      | cons d right =>
        rw [List.flatMap_cons,List.append_assoc] at same
        exact absurd same.symm (escapeChar_ne_quote d _ _)
    | cons c left ih =>
      intro right same
      cases right with
      | nil =>
        rw [List.flatMap_cons,List.append_assoc] at same
        exact absurd same (escapeChar_ne_quote c _ _)
      | cons d right =>
        rw [List.flatMap_cons,List.append_assoc,List.flatMap_cons,List.append_assoc] at same
        have read := congrArg readChar same
        rw [readChar_escapeChar,readChar_escapeChar,Option.some.injEq,Prod.mk.injEq] at read
        obtain ⟨rfl,ends⟩ := read
        obtain ⟨rfl,tail⟩ := ih right ends
        exact ⟨rfl,tail⟩
  unfold quoted at same
  rw [List.cons_append,List.cons_append,List.append_assoc,List.append_assoc] at same
  obtain ⟨chars,tail⟩ := body _ _ ((List.cons_inj_right _).mp same)
  exact ⟨String.toList_inj.mp chars,tail⟩

theorem value_induct {motive : JsonValue → Prop} (null : motive .null) (bool : ∀ value, motive (.bool value))
    (number : ∀ value, motive (.number value)) (string : ∀ value, motive (.string value))
    (list : ∀ items, (∀ item ∈ items, motive item) → motive (.list items))
    (dict : ∀ members, (∀ member ∈ members, motive member.2) → motive (.dict members)) (value : JsonValue) : motive value := by
  refine @JsonValue.rec motive (fun items => ∀ item ∈ items, motive item) (fun members => ∀ member ∈ members, motive member.2)
    (fun member => motive member.2) null bool number string list dict ?_ ?_ ?_ ?_ ?_ value
  · exact fun _ inside => nomatch inside
  · intro first rest holds later
    exact List.forall_mem_cons.mpr ⟨holds,later⟩
  · exact fun _ inside => nomatch inside
  · intro first rest holds later
    exact List.forall_mem_cons.mpr ⟨holds,later⟩
  · exact fun _ _ holds => holds

/-- A numeral that is written like no other value and ends before the next item. -/
def ProperNumeral (value : NumeralText) : Prop :=
  (∀ c ∈ value.text, c ≠ ',' ∧ c ≠ ']') ∧ ∃ c ∈ value.text.head?, c ≠ 'n' ∧ c ≠ 't' ∧ c ≠ 'f' ∧ c ≠ '['

mutual

/-- Proper numerals at every depth. -/
def Proper : JsonValue → Prop
  | .number value => ProperNumeral value
  | .list items => ProperItems items
  | .dict members => ProperMembers members
  | _ => True

def ProperItems : List JsonValue → Prop
  | [] => True
  | item :: rest => Proper item ∧ ProperItems rest

def ProperMembers : List (String × JsonValue) → Prop
  | [] => True
  | (_, value) :: rest => Proper value ∧ ProperMembers rest

end

theorem properItems_iff (items : List JsonValue) : ProperItems items ↔ ∀ item ∈ items, Proper item := by
  induction items with
  | nil => simp [ProperItems]
  | cons item rest ih => simp [ProperItems,ih]

theorem properMembers_iff (members : List (String × JsonValue)) : ProperMembers members ↔ ∀ member ∈ members, Proper member.2 := by
  induction members with
  | nil => simp [ProperMembers]
  | cons member rest ih => simp [ProperMembers,ih]

theorem renderItems_eq_map (items : List JsonValue) : renderItems items = items.map render := by
  induction items with
  | nil => rfl
  | cons item rest ih => rw [renderItems,ih,List.map_cons]

def renderMember (member : String × JsonValue) : List Char := quoted member.1 ++ [':', ' '] ++ render member.2

theorem renderMembers_eq_map (members : List (String × JsonValue)) : renderMembers members = members.map renderMember := by
  induction members with
  | nil => rfl
  | cons member rest ih => rw [renderMembers,ih,List.map_cons,renderMember]

inductive Kind
  | null | yes | no | number | string | list | dict
  deriving DecidableEq

def kind : JsonValue → Kind
  | .null => .null
  | .bool true => .yes
  | .bool false => .no
  | .number _ => .number
  | .string _ => .string
  | .list _ => .list
  | .dict _ => .dict

def leadKind (c : Char) : Kind :=
  if c = 'n' then .null
  else if c = 't' then .yes
  else if c = 'f' then .no
  else if c = '"' then .string
  else if c = '[' then .list
  else if c = '\x7b' then .dict
  else .number

def Delimited (rest : List Char) : Prop := ∀ c ∈ rest.head?, c = ',' ∨ c = ']' ∨ c = '\x7d'

/-- A text that does not begin with what ends an item. -/
def Opens (text : List Char) : Prop := ∃ c tail, text = c :: tail ∧ c ≠ ',' ∧ c ≠ ']' ∧ c ≠ '\x7d'

theorem render_lead {value : JsonValue} (proper : Proper value) :
    ∃ c tail, render value = c :: tail ∧ leadKind c = kind value ∧ c ≠ ',' ∧ c ≠ ']' ∧ c ≠ '\x7d' := by
  cases value with
  | null => exact ⟨'n',_,rfl,rfl,by decide,by decide,by decide⟩
  | bool value =>
    cases value with
    | true => exact ⟨'t',_,rfl,rfl,by decide,by decide,by decide⟩
    | false => exact ⟨'f',_,rfl,rfl,by decide,by decide,by decide⟩
  | number value =>
    obtain ⟨free,c,first,null,yes,no,list⟩ := proper
    obtain ⟨tail,whole⟩ := List.head?_eq_some_iff.mp first
    have member : c ∈ value.text := whole ▸ List.mem_cons_self ..
    obtain ⟨quote,_,opening,closing⟩ := value.plain c member
    obtain ⟨comma,bracket⟩ := free c member
    refine ⟨c,tail,whole,?_,comma,bracket,closing⟩
    simp [leadKind,kind,null,yes,no,quote,list,opening]
  | string value => exact ⟨'"',_,rfl,rfl,by decide,by decide,by decide⟩
  | list items => exact ⟨'[',_,rfl,rfl,by decide,by decide,by decide⟩
  | dict members => exact ⟨'\x7b',_,rfl,rfl,by decide,by decide,by decide⟩

theorem opens_render {value : JsonValue} (proper : Proper value) : Opens (render value) := by
  obtain ⟨c,tail,written,_,free⟩ := render_lead proper
  exact ⟨c,tail,written,free⟩

theorem kind_of_append {first second : JsonValue} (one : Proper first) (two : Proper second) {rest later : List Char}
    (same : render first ++ rest = render second ++ later) : kind second = kind first := by
  obtain ⟨c,tail,written,lead,_⟩ := render_lead one
  obtain ⟨d,front,shown,leads,_⟩ := render_lead two
  rw [written,shown,List.cons_append,List.cons_append,List.cons.injEq] at same
  rw [← lead,← leads,same.1]

theorem append_delimited {left right rest later : List Char} (within : ∀ c ∈ left, ¬(c = ',' ∨ c = ']' ∨ c = '\x7d'))
    (inside : ∀ c ∈ right, ¬(c = ',' ∨ c = ']' ∨ c = '\x7d')) (delimited : Delimited rest) (closed : Delimited later)
    (same : left ++ rest = right ++ later) : left = right ∧ rest = later := by
  induction left generalizing right with
  | nil =>
    cases right with
    | nil => exact ⟨rfl,same⟩
    | cons d right =>
      rw [List.nil_append] at same
      rw [same] at delimited
      exact absurd (delimited d rfl) (inside d (List.mem_cons_self ..))
  | cons c left ih =>
    cases right with
    | nil =>
      rw [List.nil_append] at same
      rw [← same] at closed
      exact absurd (closed c rfl) (within c (List.mem_cons_self ..))
    | cons d right =>
      rw [List.cons_append,List.cons_append,List.cons.injEq] at same
      obtain ⟨rfl,tail⟩ := same
      obtain ⟨rfl,after⟩ := ih (fun e member => within e (List.mem_cons_of_mem _ member))
        (fun e member => inside e (List.mem_cons_of_mem _ member)) tail
      exact ⟨rfl,after⟩

theorem numeral_free {value : NumeralText} (proper : ProperNumeral value) : ∀ c ∈ value.text, ¬(c = ',' ∨ c = ']' ∨ c = '\x7d') := by
  intro c member
  obtain ⟨comma,bracket⟩ := proper.1 c member
  rintro (same | same | same)
  · exact comma same
  · exact bracket same
  · exact (value.plain c member).2.2.2 same

section Joined

variable {α : Type} {text : α → List Char} {close : Char}

def closedItems (text : α → List Char) (close : Char) (rest : List Char) (items : List α) : List Char :=
  joined (items.map text) ++ close :: rest

def afterFirst (text : α → List Char) (close : Char) (rest : List Char) : List α → List Char
  | [] => close :: rest
  | item :: items => ',' :: ' ' :: closedItems text close rest (item :: items)

theorem closedItems_cons (rest : List Char) (item : α) (items : List α) :
    closedItems text close rest (item :: items) = text item ++ afterFirst text close rest items := by
  cases items with
  | nil => simp [closedItems,joined,afterFirst]
  | cons other items => simp [closedItems,joined,afterFirst]

theorem delimited_afterFirst (closes : close = ']' ∨ close = '\x7d') (rest : List Char) (items : List α) :
    Delimited (afterFirst text close rest items) := by
  intro c first
  cases items with
  | nil =>
    cases first
    exact Or.inr closes
  | cons item items =>
    cases first
    exact Or.inl rfl

theorem closedItems_ne (closes : close = ']' ∨ close = '\x7d') {item : α} (opens : Opens (text item)) (items : List α)
    (rest later : List Char) : closedItems text close rest (item :: items) ≠ close :: later := by
  obtain ⟨c,tail,written,_,bracket,brace⟩ := opens
  rw [closedItems_cons,written]
  intro same
  obtain rfl | rfl := closes
  · exact bracket (List.cons.inj same).1
  · exact brace (List.cons.inj same).1

theorem closedItems_inj (closes : close = ']' ∨ close = '\x7d') {items others : List α} {rest later : List Char}
    (opens : ∀ item ∈ items, Opens (text item)) (opensOthers : ∀ item ∈ others, Opens (text item))
    (reads : ∀ item ∈ items, ∀ other ∈ others, ∀ {rest later}, Delimited rest → Delimited later →
      text item ++ rest = text other ++ later → item = other ∧ rest = later)
    (same : closedItems text close rest items = closedItems text close later others) : items = others ∧ rest = later := by
  induction items generalizing others with
  | nil =>
    cases others with
    | nil => exact ⟨rfl,(List.cons.inj same).2⟩
    | cons other others => exact absurd same.symm (closedItems_ne closes (opensOthers other (List.mem_cons_self ..)) others later rest)
  | cons item items ih =>
    cases others with
    | nil => exact absurd same (closedItems_ne closes (opens item (List.mem_cons_self ..)) items rest later)
    | cons other others =>
      rw [closedItems_cons,closedItems_cons] at same
      obtain ⟨rfl,after⟩ := reads item (List.mem_cons_self ..) other (List.mem_cons_self ..) (delimited_afterFirst closes rest items)
        (delimited_afterFirst closes later others) same
      have comma : close ≠ ',' := by
        obtain rfl | rfl := closes <;> decide
      cases items with
      | nil =>
        cases others with
        | nil => exact ⟨rfl,(List.cons.inj after).2⟩
        | cons next others => exact absurd (List.cons.inj after).1 comma
      | cons next items =>
        cases others with
        | nil => exact absurd (List.cons.inj after).1 (Ne.symm comma)
        | cons late others =>
          have tails := (List.cons.inj (List.cons.inj after).2).2
          obtain ⟨equal,ends⟩ := ih (fun e member => opens e (List.mem_cons_of_mem _ member))
            (fun e member => opensOthers e (List.mem_cons_of_mem _ member))
            (fun e member f inside => reads e (List.mem_cons_of_mem _ member) f (List.mem_cons_of_mem _ inside)) tails
          exact ⟨by rw [equal],ends⟩

end Joined

theorem render_list_append (items : List JsonValue) (rest : List Char) :
    render (.list items) ++ rest = '[' :: closedItems render ']' rest items := by
  simp [render,closedItems,renderItems_eq_map]

theorem render_dict_append (members : List (String × JsonValue)) (rest : List Char) :
    render (.dict members) ++ rest = '\x7b' :: closedItems renderMember '\x7d' rest members := by
  simp [render,braced,closedItems,renderMembers_eq_map]

theorem render_append_inj (value : JsonValue) : ∀ {other : JsonValue} {rest later : List Char}, Proper value → Proper other →
    Delimited rest → Delimited later → render value ++ rest = render other ++ later → value = other ∧ rest = later := by
  induction value using value_induct with
  | null =>
    intro other rest later one two _ _ same
    have alike := kind_of_append one two same
    cases other with
    | null => exact ⟨rfl,List.append_cancel_left same⟩
    | bool value => cases value <;> cases alike
    | _ => cases alike
  | bool value =>
    intro other rest later one two _ _ same
    have alike := kind_of_append one two same
    cases other with
    | bool answer =>
      have equal : value = answer := by
        cases value <;> cases answer <;> first | rfl | cases alike
      subst equal
      exact ⟨rfl,List.append_cancel_left same⟩
    | _ => cases value <;> cases alike
  | number value =>
    intro other rest later one two delimited closed same
    have alike := kind_of_append one two same
    cases other with
    | number numeral =>
      obtain ⟨texts,ends⟩ := append_delimited (numeral_free one) (numeral_free two) delimited closed same
      obtain ⟨text,plain⟩ := value
      obtain ⟨other,free⟩ := numeral
      dsimp only at texts
      subst texts
      exact ⟨rfl,ends⟩
    | bool value => cases value <;> cases alike
    | _ => cases alike
  | string value =>
    intro other rest later one two _ _ same
    have alike := kind_of_append one two same
    cases other with
    | string text =>
      obtain ⟨rfl,ends⟩ := quoted_inj same
      exact ⟨rfl,ends⟩
    | bool value => cases value <;> cases alike
    | _ => cases alike
  | list items ih =>
    intro other rest later one two _ _ same
    have alike := kind_of_append one two same
    cases other with
    | list others =>
      have each := (properItems_iff items).mp one
      have every := (properItems_iff others).mp two
      rw [render_list_append,render_list_append,List.cons.injEq] at same
      obtain ⟨rfl,ends⟩ := closedItems_inj (Or.inl rfl) (fun item member => opens_render (each item member))
        (fun item member => opens_render (every item member))
        (fun item member other inside => ih item member (each item member) (every other inside)) same.2
      exact ⟨rfl,ends⟩
    | bool value => cases value <;> cases alike
    | _ => cases alike
  | dict members ih =>
    intro other rest later one two _ _ same
    have alike := kind_of_append one two same
    cases other with
    | dict others =>
      have each := (properMembers_iff members).mp one
      have every := (properMembers_iff others).mp two
      have opens : ∀ member : String × JsonValue, Opens (renderMember member) := fun member =>
        ⟨'"',_,rfl,by decide,by decide,by decide⟩
      rw [render_dict_append,render_dict_append,List.cons.injEq] at same
      obtain ⟨rfl,ends⟩ := closedItems_inj (Or.inr rfl) (fun member _ => opens member) (fun member _ => opens member)
        (by
          intro member within other inside rest later delimited closed equal
          unfold renderMember at equal
          rw [List.append_assoc,List.append_assoc,List.append_assoc,List.append_assoc] at equal
          obtain ⟨name,tail⟩ := quoted_inj equal
          obtain ⟨value,ends⟩ := ih member within (each member within) (every other inside) delimited closed
            (List.append_cancel_left tail)
          exact ⟨Prod.ext name value,ends⟩) same.2
      exact ⟨rfl,ends⟩
    | bool value => cases value <;> cases alike
    | _ => cases alike

theorem render_inj {value other : JsonValue} (one : Proper value) (two : Proper other) (same : render value = render other) :
    value = other := by
  have ends : Delimited [] := fun c first => nomatch first
  exact (render_append_inj value one two ends ends (congrArg (· ++ []) same)).1

section Sorting

theorem sortItems_eq_map (items : List JsonValue) : sortItems items = items.map sortKeys := by
  induction items with
  | nil => rfl
  | cons item rest ih => rw [sortItems,ih,List.map_cons]

theorem sortMembers_eq_map (members : List (String × JsonValue)) :
    sortMembers members = members.map (fun member => (member.1, sortKeys member.2)) := by
  induction members with
  | nil => rfl
  | cons member rest ih => rw [sortMembers,ih,List.map_cons]

theorem proper_sortKeys (value : JsonValue) (proper : Proper value) : Proper (sortKeys value) := by
  induction value using value_induct with
  | null => exact proper
  | bool value => exact proper
  | number value => exact proper
  | string value => exact proper
  | list items ih =>
    apply (properItems_iff _).mpr
    rw [sortItems_eq_map]
    intro sorted member
    obtain ⟨item,inside,rfl⟩ := List.mem_map.mp member
    exact ih item inside ((properItems_iff items).mp proper item inside)
  | dict members ih =>
    apply (properMembers_iff _).mpr
    rw [sortMembers_eq_map]
    intro sorted member
    obtain ⟨item,inside,rfl⟩ := List.mem_map.mp ((List.mem_insertionSort _).mp member)
    exact ih item inside ((properMembers_iff members).mp proper item inside)

/-- `json.dumps(value, sort_keys=True)` of any value. -/
def dumpsValue (value : JsonValue) : List Char := render (sortKeys value)

theorem dumpsValue_inj {value other : JsonValue} (one : Proper value) (two : Proper other) :
    dumpsValue value = dumpsValue other ↔ sortKeys value = sortKeys other :=
  ⟨render_inj (proper_sortKeys value one) (proper_sortKeys other two),congrArg render⟩

end Sorting

end CloudLens.Library.JsonText
