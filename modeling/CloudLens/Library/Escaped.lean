import Mathlib.Data.List.Basic
import Mathlib.Data.List.Infix
import Mathlib.Tactic.Linarith

/-! Texts of fields between separators, where an escape takes the letter after
it literally. A text that was put together without escaping is read back as its
parts exactly when no part has an escape or a separator in it: every letter that
is read costs one, and an escape costs one more. Below, pairs of a key and a value
stand one after the other with a blank between them: a separator follows each key,
and a value ends at the last blank before the next key. -/
namespace CloudLens.Library.Escaped

variable {α : Type} [DecidableEq α] (esc sep blank : α)

/-- The fields between the separators that are not escaped, as they are written. -/
def split : List α → List (List α)
  | [] => [[]]
  | c :: rest =>
    if c = esc then
      match rest with
      | [] => [[c]]
      | d :: rest => (split rest).modifyHead fun field => c :: d :: field
    else if c = sep then [] :: split rest
    else (split rest).modifyHead fun field => c :: field

/-- An escape is dropped and the letter after it kept. -/
def unescape : List α → List α
  | [] => []
  | c :: rest =>
    if c = esc then
      match rest with
      | [] => []
      | d :: rest => d :: unescape rest
    else c :: unescape rest

/-- The text ends in an escape that waits for its letter. -/
def pending : List α → Bool
  | [] => false
  | c :: rest =>
    if c = esc then
      match rest with
      | [] => true
      | _ :: rest => pending rest
    else pending rest

variable {esc sep blank} {text front back : List α}

@[simp] theorem split_escape (d : α) (rest : List α) :
    split esc sep (esc :: d :: rest) = (split esc sep rest).modifyHead fun field => esc :: d :: field := by
  rw [split,if_pos rfl]

theorem split_separator (distinct : sep ≠ esc) (rest : List α) : split esc sep (sep :: rest) = [] :: split esc sep rest := by
  rw [split.eq_def]
  simp only [if_neg distinct,if_pos]

theorem split_letter {c : α} (other : c ≠ esc) (plain : c ≠ sep) (rest : List α) :
    split esc sep (c :: rest) = (split esc sep rest).modifyHead fun field => c :: field := by
  rw [split.eq_def]
  simp only [if_neg other,if_neg plain]

theorem pending_letter {c : α} (other : c ≠ esc) (rest : List α) : pending esc (c :: rest) = pending esc rest := by
  rw [pending.eq_def]
  simp only [if_neg other]

theorem unescape_letter {c : α} (other : c ≠ esc) (rest : List α) : unescape esc (c :: rest) = c :: unescape esc rest := by
  rw [unescape.eq_def]
  simp only [if_neg other]

theorem split_ne_nil (esc sep : α) (text : List α) : split esc sep text ≠ [] := by
  fun_induction split esc sep text <;> simp_all

omit [DecidableEq α] in
theorem intercalate_modifyHead {fields : List (List α)} (some : fields ≠ []) (c : α) :
    List.intercalate [sep] (fields.modifyHead fun field => c :: field) = c :: List.intercalate [sep] fields := by
  obtain ⟨field,rest,rfl⟩ := List.exists_cons_of_ne_nil some
  rw [List.modifyHead_cons,List.intercalate_cons_cons_left]

theorem intercalate_split (esc sep : α) (text : List α) : List.intercalate [sep] (split esc sep text) = text := by
  fun_induction split esc sep text with
  | case1 => rfl
  | case2 => rfl
  | case3 d rest ih =>
    have twice : (split esc sep rest).modifyHead (fun field => esc :: d :: field) =
        ((split esc sep rest).modifyHead fun field => d :: field).modifyHead fun field => esc :: field :=
      List.modifyHead_modifyHead.symm
    rw [twice,intercalate_modifyHead (by simpa using split_ne_nil esc sep rest),intercalate_modifyHead (split_ne_nil esc sep rest),ih]
  | case4 rest _ ih =>
    rw [List.intercalate_cons_of_ne_nil (split_ne_nil esc sep rest),ih]
    rfl
  | case5 c rest _ _ ih => rw [intercalate_modifyHead (split_ne_nil esc sep rest),ih]

omit [DecidableEq α] in
theorem length_intercalate_last (sep : α) (fields : List (List α)) (last : List α) :
    fields.length + last.length ≤ (List.intercalate [sep] (fields ++ [last])).length := by
  induction fields with
  | nil => simp
  | cons field fields ih =>
    rw [List.cons_append,List.intercalate_cons_of_ne_nil (by simp)]
    simp only [List.length_append,List.length_cons,List.length_nil] at ih ⊢
    omega

theorem split_of_last {fields : List (List α)} {last : List α} (shape : split esc sep text = fields ++ [last])
    (long : text.length ≤ last.length) : split esc sep text = [text] ∧ last = text := by
  have lengths := length_intercalate_last sep fields last
  rw [← shape,intercalate_split] at lengths
  obtain rfl := List.length_eq_zero_iff.mp (show fields.length = 0 by omega)
  have whole := intercalate_split esc sep text
  rw [shape,List.nil_append,List.intercalate_singleton] at whole
  exact ⟨by rw [shape,whole]; rfl,whole⟩

theorem split_settled (distinct : sep ≠ esc) (settled : pending esc front = false) (back : List α) :
    split esc sep (front ++ sep :: back) = split esc sep front ++ split esc sep back := by
  fun_induction pending esc front with
  | case1 => exact split_separator distinct back
  | case2 => cases settled
  | case3 d rest ih =>
    obtain ⟨field,fields,shape⟩ := List.exists_cons_of_ne_nil (split_ne_nil esc sep rest)
    rw [List.cons_append,List.cons_append,split_escape,ih settled,split_escape,shape]
    rfl
  | case4 c rest other ih =>
    by_cases ends : c = sep
    · rw [ends,List.cons_append,split_separator distinct,ih settled,split_separator distinct]
      rfl
    · obtain ⟨field,fields,shape⟩ := List.exists_cons_of_ne_nil (split_ne_nil esc sep rest)
      rw [List.cons_append,split_letter other ends,ih settled,split_letter other ends,shape]
      rfl

theorem split_pending (distinct : sep ≠ esc) (unfinished : pending esc front = true) :
    ∃ fields last, split esc sep front = fields ++ [last] ∧ pending esc last = true ∧
      ∀ c back, split esc sep (front ++ c :: back) =
        fields ++ (split esc sep back).modifyHead fun field => last ++ c :: field := by
  fun_induction pending esc front with
  | case1 => cases unfinished
  | case2 =>
    refine ⟨[],[esc],?_,?_,fun c back => ?_⟩
    · rw [split.eq_def]
      simp
    · rw [pending.eq_def]
      simp
    · exact split_escape c back
  | case3 d rest ih =>
    obtain ⟨fields,last,shape,waits,more⟩ := ih unfinished
    cases fields with
    | nil =>
      refine ⟨[],esc :: d :: last,?_,?_,fun c back => ?_⟩
      · rw [split_escape,shape]
        rfl
      · rw [pending,if_pos rfl,waits]
      · rw [List.cons_append,List.cons_append,split_escape,more,List.nil_append,List.modifyHead_modifyHead]
        rfl
    | cons field fields =>
      refine ⟨(esc :: d :: field) :: fields,last,?_,waits,fun c back => ?_⟩
      · rw [split_escape,shape]
        rfl
      · rw [List.cons_append,List.cons_append,split_escape,more]
        rfl
  | case4 a rest other ih =>
    obtain ⟨fields,last,shape,waits,more⟩ := ih unfinished
    by_cases ends : a = sep
    · refine ⟨[] :: fields,last,?_,waits,fun c back => ?_⟩
      · rw [ends,split_separator distinct,shape]
        rfl
      · rw [ends,List.cons_append,split_separator distinct,more]
        rfl
    · cases fields with
      | nil =>
        refine ⟨[],a :: last,?_,?_,fun c back => ?_⟩
        · rw [split_letter other ends,shape]
          rfl
        · rw [pending_letter other,waits]
        · rw [List.cons_append,split_letter other ends,more,List.nil_append,List.modifyHead_modifyHead]
          rfl
      | cons field fields =>
        refine ⟨(a :: field) :: fields,last,?_,waits,fun c back => ?_⟩
        · rw [split_letter other ends,shape]
          rfl
        · rw [List.cons_append,split_letter other ends,more]
          rfl

theorem pending_append {c : α} (other : c ≠ esc) (front : List α) : pending esc (front ++ [c]) = false := by
  fun_induction pending esc front with
  | case1 => rw [List.nil_append,pending_letter other]; rfl
  | case2 =>
    rw [List.singleton_append,pending,if_pos rfl]
    rfl
  | case3 d rest ih => rw [List.cons_append,List.cons_append,pending,if_pos rfl,ih]
  | case4 d rest plain ih => rw [List.cons_append,pending_letter plain,ih]

section Plain

variable (plain : esc ∉ text)
include plain

theorem pending_plain : pending esc text = false := by
  induction text with
  | nil => rfl
  | cons c rest ih =>
    obtain ⟨other,rest⟩ := not_or.mp (List.mem_cons.not.mp plain)
    rw [pending_letter (Ne.symm other),ih rest]

theorem unescape_plain : unescape esc text = text := by
  induction text with
  | nil => rfl
  | cons c rest ih =>
    obtain ⟨other,rest⟩ := not_or.mp (List.mem_cons.not.mp plain)
    rw [unescape_letter (Ne.symm other),ih rest]

theorem split_plain (whole : sep ∉ text) : split esc sep text = [text] := by
  induction text with
  | nil => rfl
  | cons c rest ih =>
    obtain ⟨other,plain⟩ := not_or.mp (List.mem_cons.not.mp plain)
    obtain ⟨apart,whole⟩ := not_or.mp (List.mem_cons.not.mp whole)
    rw [split_letter (Ne.symm other) (Ne.symm apart),ih plain whole]
    rfl

theorem separator_free {field : List α} (member : field ∈ split esc sep text) : sep ∉ field := by
  induction text generalizing field with
  | nil =>
    rw [List.mem_singleton.mp member]
    exact List.not_mem_nil
  | cons c rest ih =>
    obtain ⟨other,plain⟩ := not_or.mp (List.mem_cons.not.mp plain)
    by_cases ends : c = sep
    · rw [ends,split_separator (ends ▸ Ne.symm other)] at member
      rcases List.mem_cons.mp member with rfl | member
      · exact List.not_mem_nil
      · exact ih plain member
    · rw [split_letter (Ne.symm other) ends] at member
      obtain ⟨first,fields,shape⟩ := List.exists_cons_of_ne_nil (split_ne_nil esc sep rest)
      rw [shape,List.modifyHead_cons] at member
      rcases List.mem_cons.mp member with rfl | member
      · rintro (_ | ⟨_,inside⟩)
        · exact ends rfl
        · exact ih plain (shape ▸ List.mem_cons_self) inside
      · exact ih plain (shape ▸ List.mem_cons_of_mem _ member)

end Plain

theorem length_unescape_le (esc : α) (text : List α) : (unescape esc text).length ≤ text.length := by
  fun_induction unescape esc text with
  | case1 => exact le_refl _
  | case2 => exact Nat.zero_le _
  | case3 d rest ih =>
    simp only [List.length_cons]
    omega
  | case4 c rest other ih =>
    simp only [List.length_cons]
    omega

theorem plain_of_length (same : text.length ≤ (unescape esc text).length) : esc ∉ text := by
  fun_induction unescape esc text with
  | case1 => exact List.not_mem_nil
  | case2 => simp at same
  | case3 d rest ih =>
    have shorter := length_unescape_le esc rest
    simp only [List.length_cons] at same
    omega
  | case4 c rest other ih =>
    simp only [List.length_cons] at same
    have plain := ih (by omega)
    rintro (_ | ⟨_,inside⟩)
    · exact other rfl
    · exact plain inside

theorem length_unescape_pending (unfinished : pending esc front = true) (c : α) (back : List α) :
    (unescape esc back).length < (unescape esc (front ++ c :: back)).length := by
  fun_induction pending esc front with
  | case1 => cases unfinished
  | case2 =>
    rw [List.singleton_append,unescape,if_pos rfl]
    exact Nat.lt_succ_self _
  | case3 d rest ih =>
    rw [List.cons_append,List.cons_append,unescape,if_pos rfl]
    exact (ih unfinished).trans (Nat.lt_succ_self _)
  | case4 a rest other ih =>
    rw [List.cons_append,unescape_letter other]
    exact (ih unfinished).trans (Nat.lt_succ_self _)

theorem mem_of_unescape {c : α} (member : c ∈ unescape esc text) : c ∈ text := by
  fun_induction unescape esc text with
  | case1 => exact member
  | case2 => cases member
  | case3 d rest ih =>
    rcases List.mem_cons.mp member with rfl | member
    · exact List.mem_cons_of_mem _ List.mem_cons_self
    · exact List.mem_cons_of_mem _ (List.mem_cons_of_mem _ (ih member))
  | case4 d rest other ih =>
    rcases List.mem_cons.mp member with rfl | member
    · exact List.mem_cons_self
    · exact List.mem_cons_of_mem _ (ih member)

variable (blank) in
def breakLast : List α → Option (List α × List α)
  | [] => none
  | c :: rest =>
    match breakLast rest with
    | some (front, back) => some (c :: front, back)
    | none => if c = blank then some ([], rest) else none

variable (esc blank) in
def readPairs (key : List α) : List (List α) → Option (List (List α × List α))
  | [] => none
  | [last] => some [(key, unescape esc last)]
  | segment :: segments =>
    match breakLast blank segment with
    | none => none
    | some (value, next) => (readPairs next segments).map fun pairs => (key, unescape esc value) :: pairs

variable (esc sep blank) in
def parsePairs (text : List α) : Option (List (List α × List α)) :=
  match split esc sep text with
  | [] => none
  | key :: segments => readPairs esc blank key segments

variable (sep blank) in
/-- The pairs as they are written without any escape. -/
def written (pairs : List (List α × List α)) : List α :=
  List.intercalate [blank] (pairs.map fun pair => pair.1 ++ sep :: pair.2)

theorem breakLast_shape (broken : breakLast blank text = some (front, back)) : text = front ++ blank :: back := by
  induction text generalizing front with
  | nil => cases broken
  | cons c rest ih =>
    rw [breakLast] at broken
    split at broken
    · next found =>
      obtain ⟨rfl,rfl⟩ := Prod.mk.inj (Option.some.inj broken)
      rw [ih found]
      rfl
    · split at broken
      · next first =>
        obtain ⟨rfl,rfl⟩ := Prod.mk.inj (Option.some.inj broken)
        rw [first]
        rfl
      · cases broken

theorem breakLast_none (free : blank ∉ text) : breakLast blank text = none := by
  induction text with
  | nil => rfl
  | cons c rest ih =>
    obtain ⟨other,free⟩ := not_or.mp (List.mem_cons.not.mp free)
    rw [breakLast,ih free]
    exact if_neg (Ne.symm other)

theorem breakLast_append (free : blank ∉ back) (front : List α) :
    breakLast blank (front ++ blank :: back) = some (front, back) := by
  induction front with
  | nil => simp [breakLast,breakLast_none free]
  | cons c front ih => rw [List.cons_append,breakLast,ih]

omit [DecidableEq α] in
theorem written_cons (pair : List α × List α) {pairs : List (List α × List α)} (more : pairs ≠ []) :
    written sep blank (pair :: pairs) = pair.1 ++ sep :: pair.2 ++ blank :: written sep blank pairs := by
  rw [written,List.map_cons,List.intercalate_cons_of_ne_nil (by simpa using more)]
  simp [written]

omit [DecidableEq α] in
theorem intercalate_append (sep : α) (front field : List α) (fields : List (List α)) :
    List.intercalate [sep] ((front ++ field) :: fields) = front ++ List.intercalate [sep] (field :: fields) := by
  cases fields with
  | nil => simp
  | cons next rest => simp only [List.intercalate_cons_cons,List.append_assoc]

omit [DecidableEq α] in
theorem intercalate_step (key value next : List α) (segments : List (List α)) :
    List.intercalate [sep] (key :: (value ++ blank :: next) :: segments) =
      key ++ sep :: value ++ blank :: List.intercalate [sep] (next :: segments) := by
  have moved := intercalate_append sep (value ++ [blank]) next segments
  rw [List.append_assoc,List.singleton_append] at moved
  rw [List.intercalate_cons_cons,moved]
  simp

theorem readPairs_ne_nil {key : List α} {segments : List (List α)} {pairs : List (List α × List α)}
    (read : readPairs esc blank key segments = some pairs) : pairs ≠ [] := by
  rintro rfl
  fun_cases readPairs esc blank key segments with
  | case1 => cases read
  | case2 last => cases read
  | case3 => simp_all [readPairs]
  | case4 => simp_all [readPairs]

theorem readPairs_segments {key : List α} {segments : List (List α)} {pairs : List (List α × List α)}
    (read : readPairs esc blank key segments = some pairs) : segments ≠ [] := by
  rintro rfl
  cases read

theorem readPairs_head {key : List α} {segments : List (List α)} {pair : List α × List α} {rest : List (List α × List α)}
    (read : readPairs esc blank key segments = some (pair :: rest)) : key = pair.1 := by
  fun_cases readPairs esc blank key segments with
  | case1 => cases read
  | case2 last =>
    obtain ⟨rfl,_⟩ := List.cons.inj (Option.some.inj read)
    rfl
  | case3 => simp_all [readPairs]
  | case4 segment segments more value next broken =>
    rw [readPairs,broken] at read
    · obtain ⟨tail,_,same⟩ := Option.map_eq_some_iff.mp read
      rw [← (List.cons.inj same).1]
    · exact more

theorem readPairs_length (sep : α) {key : List α} {segments : List (List α)} {pairs : List (List α × List α)}
    (read : readPairs esc blank key segments = some pairs) :
    (written sep blank pairs).length ≤ (List.intercalate [sep] (key :: segments)).length ∧
      ((List.intercalate [sep] (key :: segments)).length ≤ (written sep blank pairs).length →
        List.intercalate [sep] (key :: segments) = written sep blank pairs ∧ ∀ pair ∈ pairs, esc ∉ pair.2) := by
  fun_induction readPairs esc blank key segments generalizing pairs with
  | case1 => cases read
  | case2 key last =>
    obtain rfl := Option.some.inj read
    have shorter := length_unescape_le esc last
    simp only [written,List.map_cons,List.map_nil,List.intercalate_singleton,List.intercalate_cons_cons,
      List.length_append,List.length_cons,List.length_nil,List.forall_mem_singleton]
    refine ⟨by omega,fun same => ?_⟩
    have plain : esc ∉ last := plain_of_length (by omega)
    rw [unescape_plain plain]
    exact ⟨by simp,plain⟩
  | case3 => cases read
  | case4 key segment segments more value next broken ih =>
    obtain ⟨rest,inner,rfl⟩ := Option.map_eq_some_iff.mp read
    obtain ⟨shorter,equal⟩ := ih inner
    have shrinks := length_unescape_le esc value
    rw [breakLast_shape broken,written_cons _ (readPairs_ne_nil inner),intercalate_step]
    simp only [List.length_append,List.length_cons,List.forall_mem_cons]
    refine ⟨by omega,fun same => ?_⟩
    obtain ⟨shape,plain⟩ := equal (by omega)
    have plainValue : esc ∉ value := plain_of_length (by omega)
    rw [unescape_plain plainValue,shape]
    exact ⟨rfl,plainValue,plain⟩

theorem readPairs_subset {key : List α} {segments : List (List α)} {pairs : List (List α × List α)}
    (read : readPairs esc blank key segments = some pairs) : ∀ pair ∈ pairs, ∃ segment ∈ segments, pair.2 ⊆ segment := by
  fun_induction readPairs esc blank key segments generalizing pairs with
  | case1 => cases read
  | case2 key last =>
    obtain rfl := Option.some.inj read
    rw [List.forall_mem_singleton]
    exact ⟨last,List.mem_cons_self,fun _ => mem_of_unescape⟩
  | case3 => cases read
  | case4 key segment segments more value next broken ih =>
    obtain ⟨rest,inner,rfl⟩ := Option.map_eq_some_iff.mp read
    rw [List.forall_mem_cons]
    refine ⟨⟨segment,List.mem_cons_self,fun c member => ?_⟩,fun pair member => ?_⟩
    · rw [breakLast_shape broken]
      exact List.mem_append_left _ (mem_of_unescape member)
    · obtain ⟨source,among,inside⟩ := ih inner pair member
      exact ⟨source,List.mem_cons_of_mem _ among,inside⟩

omit [DecidableEq α] in
theorem mem_written {c : α} {pairs : List (List α × List α)} (member : c ∈ written sep blank pairs) :
    c = blank ∨ c = sep ∨ ∃ pair ∈ pairs, c ∈ pair.1 ∨ c ∈ pair.2 := by
  induction pairs with
  | nil => cases member
  | cons pair rest ih =>
    by_cases more : rest = []
    · subst more
      simp only [written,List.map_cons,List.map_nil,List.intercalate_singleton,List.mem_append,List.mem_cons] at member
      rcases member with key | rfl | value
      · exact .inr (.inr ⟨pair,List.mem_cons_self,.inl key⟩)
      · exact .inr (.inl rfl)
      · exact .inr (.inr ⟨pair,List.mem_cons_self,.inr value⟩)
    · simp only [written_cons pair more,List.mem_append,List.mem_cons] at member
      rcases member with (key | rfl | value) | rfl | member
      · exact .inr (.inr ⟨pair,List.mem_cons_self,.inl key⟩)
      · exact .inr (.inl rfl)
      · exact .inr (.inr ⟨pair,List.mem_cons_self,.inr value⟩)
      · exact .inl rfl
      · rcases ih member with same | same | ⟨source,among,inside⟩
        · exact .inl same
        · exact .inr (.inl same)
        · exact .inr (.inr ⟨source,List.mem_cons_of_mem _ among,inside⟩)

omit [DecidableEq α] in
theorem subset_written {pairs : List (List α × List α)} {pair : List α × List α} (among : pair ∈ pairs) :
    pair.2 ⊆ written sep blank pairs := by
  induction pairs with
  | nil => cases among
  | cons first rest ih =>
    intro c member
    by_cases more : rest = []
    · subst more
      rw [List.mem_singleton.mp among] at member
      simp [written,member]
    · rw [written_cons first more]
      rcases List.mem_cons.mp among with rfl | among
      · simp [member]
      · simp [ih among member]

section Reading

variable {pairs : List (List α × List α)}

theorem parsePairs_segments (read : parsePairs esc sep blank text = some pairs) :
    ∃ key segments, split esc sep text = key :: segments ∧ readPairs esc blank key segments = some pairs := by
  obtain ⟨key,segments,shape⟩ := List.exists_cons_of_ne_nil (split_ne_nil esc sep text)
  rw [parsePairs,shape] at read
  exact ⟨key,segments,shape,read⟩

theorem length_written_le (read : parsePairs esc sep blank text = some pairs) :
    (written sep blank pairs).length ≤ text.length := by
  obtain ⟨key,segments,shape,inner⟩ := parsePairs_segments read
  have shorter := (readPairs_length sep inner).1
  rw [← shape,intercalate_split] at shorter
  exact shorter

/-- A text that is read as these pairs and is no longer than they are when written
plainly is how they are written, and no value has an escape or a separator. -/
theorem plain_of_parsePairs (read : parsePairs esc sep blank text = some pairs) (keys : ∀ pair ∈ pairs, esc ∉ pair.1)
    (distinct : sep ≠ esc) (other : blank ≠ esc) (short : text.length ≤ (written sep blank pairs).length) :
    text = written sep blank pairs ∧ esc ∉ text ∧ ∀ pair ∈ pairs, sep ∉ pair.2 := by
  obtain ⟨key,segments,shape,inner⟩ := parsePairs_segments read
  have equal := (readPairs_length sep inner).2
  rw [← shape,intercalate_split] at equal
  obtain ⟨same,values⟩ := equal short
  have plain : esc ∉ text := by
    intro inside
    rw [same] at inside
    rcases mem_written inside with rfl | rfl | ⟨pair,among,key | value⟩
    · exact other rfl
    · exact distinct rfl
    · exact keys pair among key
    · exact values pair among value
  refine ⟨same,plain,fun pair among separated => ?_⟩
  obtain ⟨segment,member,inside⟩ := readPairs_subset inner pair among
  exact separator_free plain (shape ▸ List.mem_cons_of_mem key member) (inside separated)

theorem split_plain_append (plain : esc ∉ front) (whole : sep ∉ front) (back : List α) :
    split esc sep (front ++ back) = (split esc sep back).modifyHead fun field => front ++ field := by
  induction front with
  | nil =>
    obtain ⟨field,fields,shape⟩ := List.exists_cons_of_ne_nil (split_ne_nil esc sep back)
    rw [List.nil_append,shape]
    rfl
  | cons c front ih =>
    obtain ⟨other,plain⟩ := not_or.mp (List.mem_cons.not.mp plain)
    obtain ⟨apart,whole⟩ := not_or.mp (List.mem_cons.not.mp whole)
    rw [List.cons_append,split_letter (Ne.symm other) (Ne.symm apart),ih plain whole,List.modifyHead_modifyHead]
    rfl

theorem parsePairs_written (nonempty : pairs ≠ []) (distinct : sep ≠ esc) (other : blank ≠ esc) (apart : blank ≠ sep)
    (keys : ∀ pair ∈ pairs, esc ∉ pair.1 ∧ sep ∉ pair.1 ∧ blank ∉ pair.1)
    (values : ∀ pair ∈ pairs, esc ∉ pair.2 ∧ sep ∉ pair.2) :
    parsePairs esc sep blank (written sep blank pairs) = some pairs := by
  induction pairs with
  | nil => exact absurd rfl nonempty
  | cons pair rest ih =>
    obtain ⟨⟨plainKey,wholeKey,_⟩,keys⟩ := List.forall_mem_cons.mp keys
    obtain ⟨⟨plainValue,wholeValue⟩,values⟩ := List.forall_mem_cons.mp values
    have first (back : List α) : split esc sep (pair.1 ++ sep :: back) = pair.1 :: split esc sep back := by
      rw [split_settled distinct (pending_plain plainKey),split_plain plainKey wholeKey]
      rfl
    cases rest with
    | nil =>
      simp only [written,List.map_cons,List.map_nil,List.intercalate_singleton]
      rw [parsePairs,first,split_plain plainValue wholeValue]
      simp only [readPairs,unescape_plain plainValue]
    | cons next rest =>
      obtain ⟨key,segments,shape,inner⟩ := parsePairs_segments (ih (List.cons_ne_nil _ _) keys values)
      obtain ⟨plainNext,wholeNext,unbroken⟩ := keys next List.mem_cons_self
      obtain rfl := readPairs_head inner
      obtain ⟨segment,others,rfl⟩ := List.exists_cons_of_ne_nil (readPairs_segments inner)
      have unescaped : esc ∉ pair.2 ++ [blank] := by simpa [plainValue] using Ne.symm other
      have undivided : sep ∉ pair.2 ++ [blank] := by simpa [wholeValue] using Ne.symm apart
      rw [written_cons pair (List.cons_ne_nil _ _),List.append_assoc,List.cons_append,parsePairs,first,
        List.append_cons,split_plain_append unescaped undivided,shape]
      simp only [List.modifyHead_cons,List.append_assoc,List.singleton_append,readPairs,breakLast_append unbroken,inner,
        Option.map_some,unescape_plain plainValue]

end Reading

end CloudLens.Library.Escaped
