import Mathlib.Data.Finset.Sort
import Mathlib.Data.List.DropRight
import Mathlib.Data.List.Infix
import Mathlib.Data.String.Basic
import Mathlib.Tactic.Linarith

/-! Words over characters: splitting at a separator, cutting before the last
occurrence of a separator word, and reading and writing decimal numerals. An
integer literal may be surrounded by blanks, carry a sign, and have single
underscores between its digits. Sets of names are listed in the order of their
characters. -/
namespace CloudLens.Library.Text

def splitOn (sep : Char) : List Char → List (List Char)
  | [] => [[]]
  | c :: rest =>
    if c = sep then [] :: splitOn sep rest
    else match splitOn sep rest with
      | [] => [[c]]
      | field :: fields => (c :: field) :: fields

def cutLast (sep : List Char) : List Char → Option (List Char)
  | [] => none
  | c :: rest =>
    match cutLast sep rest with
    | some front => some (c :: front)
    | none => if sep.isPrefixOf (c :: rest) then some [] else none

def beforeLast (sep word : String) : String :=
  match cutLast sep.toList word.toList with
  | some front => String.ofList front
  | none => word

def digitChar (n : ℕ) : Char := Nat.digitChar (n % 10)

def digitValue (c : Char) : Option ℕ :=
  if '0' ≤ c ∧ c ≤ '9' then some (c.toNat - '0'.toNat) else none

def numeral (word : List Char) : Option ℕ :=
  if word = [] then none
  else word.foldlM (fun value c => (digitValue c).map (10 * value + ·)) 0

/-- First and last of the runs of blanks outside ASCII. -/
def blankRuns : List (ℕ × ℕ) :=
  [(133, 133), (160, 160), (5760, 5760), (8192, 8202), (8232, 8233), (8239, 8239), (8287, 8287), (12288, 12288)]

def blankCode (n : ℕ) : Bool :=
  (9 ≤ n && n ≤ 13) || (28 ≤ n && n ≤ 32) || (128 ≤ n && blankRuns.any (fun run => run.1 ≤ n && n ≤ run.2))

def isBlank (c : Char) : Bool := blankCode c.toNat

def strip (word : List Char) : List Char := (word.dropWhile isBlank).rdropWhile isBlank

def stripped (word : String) : String := String.ofList (strip word.toList)

def groupedNumeral (word : List Char) : Option ℕ :=
  if word.head? = some '_' ∨ word.getLast? = some '_' ∨ ['_', '_'] <:+: word then none
  else numeral (word.filter (fun c => c ≠ '_'))

def parseInt (word : List Char) : Option ℤ :=
  match strip word with
  | '+' :: digits => (groupedNumeral digits).map Int.ofNat
  | '-' :: digits => (groupedNumeral digits).map (fun n => -Int.ofNat n)
  | digits => (groupedNumeral digits).map Int.ofNat

theorem digitValue_digitChar (n : ℕ) : digitValue (digitChar n) = some (n % 10) := by
  have digits : ∀ d ∈ List.range 10, digitValue (Nat.digitChar d) = some d := by decide
  exact digits _ (List.mem_range.mpr (Nat.mod_lt n (by omega)))

theorem digitChar_ne_dash (n : ℕ) : digitChar n ≠ '-' := by
  have digits : ∀ d ∈ List.range 10, Nat.digitChar d ≠ '-' := by decide
  exact digits _ (List.mem_range.mpr (Nat.mod_lt n (by omega)))

theorem digitChar_lt {a b : ℕ} : digitChar a < digitChar b ↔ a % 10 < b % 10 := by
  have small : ∀ x y : Fin 10, Nat.digitChar x < Nat.digitChar y ↔ x < y := by decide
  exact small ⟨a % 10,Nat.mod_lt _ (by omega)⟩ ⟨b % 10,Nat.mod_lt _ (by omega)⟩

theorem digitChar_eq_iff {a b : ℕ} : digitChar a = digitChar b ↔ a % 10 = b % 10 := by
  rw [← not_iff_not,← ne_eq,← ne_eq,ne_iff_lt_or_gt,ne_iff_lt_or_gt]
  exact or_congr digitChar_lt digitChar_lt

theorem splitOn_field (sep : Char) (field rest : List Char) (free : ∀ c ∈ field, c ≠ sep) :
    splitOn sep (field ++ sep :: rest) = field :: splitOn sep rest := by
  induction field with
  | nil => simp [splitOn]
  | cons c field ih =>
    have tail := ih (fun d member => free d (by simp [member]))
    simp [splitOn,free c (by simp),tail]

theorem splitOn_last (sep : Char) (field : List Char) (free : ∀ c ∈ field, c ≠ sep) :
    splitOn sep field = [field] := by
  induction field with
  | nil => rfl
  | cons c field ih =>
    have tail := ih (fun d member => free d (by simp [member]))
    simp [splitOn,free c (by simp),tail]

private theorem digitChar_plain (n : ℕ) :
    isBlank (digitChar n) = false ∧ digitChar n ≠ '_' ∧ digitChar n ≠ '+' ∧ digitChar n ≠ '-' := by
  have digits : ∀ d ∈ List.range 10, isBlank (Nat.digitChar d) = false ∧ Nat.digitChar d ≠ '_' ∧
      Nat.digitChar d ≠ '+' ∧ Nat.digitChar d ≠ '-' := by decide
  exact digits _ (List.mem_range.mpr (Nat.mod_lt n (by omega)))

theorem last_separator {sep : Char} {front other back rest : List Char} (same : front ++ sep :: back = other ++ sep :: rest)
    (absent : sep ∉ back) (missing : sep ∉ rest) : front = other ∧ back = rest := by
  rcases List.append_eq_append_iff.mp same with ⟨middle,longer,ends⟩ | ⟨middle,longer,ends⟩
  · cases middle with
    | nil => exact ⟨by rw [longer,List.append_nil],(List.cons.inj ends).2⟩
    | cons c middle =>
      rw [List.cons_append,List.cons.injEq] at ends
      exact absurd (ends.2 ▸ List.mem_append_right middle List.mem_cons_self) absent
  · cases middle with
    | nil => exact ⟨by rw [longer,List.append_nil],(List.cons.inj ends).2.symm⟩
    | cons c middle =>
      rw [List.cons_append,List.cons.injEq] at ends
      exact absurd (ends.2 ▸ List.mem_append_right middle List.mem_cons_self) missing

theorem strip_strip (word : List Char) : strip (strip word) = strip word := by
  unfold strip
  have front : ((word.dropWhile isBlank).rdropWhile isBlank).dropWhile isBlank = (word.dropWhile isBlank).rdropWhile isBlank := by
    rw [List.dropWhile_eq_self_iff]
    intro nonempty
    obtain ⟨rest,split⟩ := List.rdropWhile_prefix isBlank (word.dropWhile isBlank)
    have first := List.dropWhile_idempotent isBlank word
    rw [List.dropWhile_eq_self_iff] at first
    have whole : 0 < (word.dropWhile isBlank).length := by
      rw [← split,List.length_append]
      omega
    rw [List.IsPrefix.getElem ⟨rest,split⟩ nonempty]
    exact first whole
  rw [front,List.rdropWhile_idempotent]

theorem stripped_stripped (word : String) : stripped (stripped word) = stripped word := by
  rw [stripped,stripped,String.toList_ofList,strip_strip]

private theorem strip_plain {word : List Char} (plain : ∀ c ∈ word, isBlank c = false) : strip word = word := by
  have front : word.dropWhile isBlank = word := by
    cases word with
    | nil => rfl
    | cons c rest => simp [plain c (by simp)]
  rw [strip,front,List.rdropWhile_eq_self_iff]
  intro nonempty
  rw [plain _ (List.getLast_mem nonempty)]
  exact Bool.false_ne_true

private theorem plain_of_digits {word : List Char} (digits : ∀ c ∈ word, ∃ n, c = digitChar n) :
    ∀ c ∈ word, isBlank c = false ∧ c ≠ '_' ∧ c ≠ '+' ∧ c ≠ '-' := by
  intro c member
  obtain ⟨n,rfl⟩ := digits c member
  exact digitChar_plain n

private theorem groupedNumeral_digits {word : List Char} (digits : ∀ c ∈ word, ∃ n, c = digitChar n) :
    groupedNumeral word = numeral word := by
  have plain := plain_of_digits digits
  have kept : word.filter (fun c => c ≠ '_') = word := by
    rw [List.filter_eq_self]
    intro c member
    simpa using (plain c member).2.1
  rw [groupedNumeral,if_neg,kept]
  rintro (first | last | pair)
  · exact (plain '_' (List.mem_of_mem_head? first)).2.1 rfl
  · exact (plain '_' (List.mem_of_mem_getLast? last)).2.1 rfl
  · exact (plain '_' (pair.subset (by simp))).2.1 rfl

theorem parseInt_digits {word : List Char} (digits : ∀ c ∈ word, ∃ n, c = digitChar n) :
    parseInt word = (numeral word).map Int.ofNat := by
  have plain := plain_of_digits digits
  rw [parseInt,strip_plain (fun c member => (plain c member).1)]
  split
  · exact absurd rfl (plain '+' (by simp)).2.2.1
  · exact absurd rfl (plain '-' (by simp)).2.2.2
  · rw [groupedNumeral_digits digits]

theorem numeral_toDigits (n : ℕ) :
    (∀ c ∈ Nat.toDigits 10 n, ∃ d, c = digitChar d) ∧ numeral (Nat.toDigits 10 n) = some n := by
  have folded : (∀ c ∈ Nat.toDigits 10 n, ∃ d, c = digitChar d) ∧
      (Nat.toDigits 10 n).foldlM (fun value c => (digitValue c).map (10 * value + ·)) 0 = some n := by
    induction n using Nat.strong_induction_on with
    | _ n smaller =>
      have digit : ∀ m < 10, Nat.digitChar m = digitChar m := by decide
      by_cases small : n < 10
      · rw [Nat.toDigits_of_lt_base small,digit n small]
        refine ⟨fun c member => ⟨n,List.mem_singleton.mp member⟩,?_⟩
        simp [digitValue_digitChar,Nat.mod_eq_of_lt small]
      · obtain ⟨digits,read⟩ := smaller (n / 10) (by omega)
        rw [Nat.toDigits_of_base_le (by omega) (not_lt.mp small),digit _ (Nat.mod_lt n (by omega))]
        refine ⟨?_,?_⟩
        · intro c member
          rcases List.mem_append.mp member with front | back
          · exact digits c front
          · exact ⟨_,List.mem_singleton.mp back⟩
        · rw [List.foldlM_append,read]
          simp [digitValue_digitChar]
          omega
  refine ⟨folded.1,?_⟩
  rw [numeral,if_neg Nat.toDigits_ne_nil]
  exact folded.2

def sortedNames (names : Finset String) : List String :=
  names.sort

end CloudLens.Library.Text
