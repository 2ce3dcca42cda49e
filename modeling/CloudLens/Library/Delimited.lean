import Mathlib.Data.List.Basic
import Mathlib.Data.List.Range
import Mathlib.Tactic.Tauto

/-! Delimited text: its lines, and the reader that makes records of cells from lines. A
cell in quotes may go on over the end of a line; where no cell holds a line break each
line is a record of its own. Numbers that lines are given by counting some of them. -/
namespace CloudLens.Library.Delimited

abbrev Line : Type := List Char

section Lines

/-- What ends a line, beside a return that is followed by a feed. -/
def isLineBreak (c : Char) : Bool :=
  c = '\n' || c = '\r' || c.toNat = 11 || c.toNat = 12 || (28 ≤ c.toNat && c.toNat ≤ 30) || c.toNat = 0x85 || c.toNat = 0x2028 ||
    c.toNat = 0x2029

def prepend (c : Char) : List Line → List Line
  | [] => [[c]]
  | line :: lines => (c :: line) :: lines

def splitLines : List Char → List Line
  | [] => []
  | '\r' :: '\n' :: rest => [] :: splitLines rest
  | c :: rest => if isLineBreak c then [] :: splitLines rest else prepend c (splitLines rest)

/-- The lines of a text that is joined from lines, each with whether a feed ends it. A
text that ends in a feed has no line behind it. -/
def fedLines : List Line → List (Line × Bool)
  | [] => []
  | [line] => if line = [] then [] else [(line, false)]
  | line :: rest => (line, true) :: fedLines rest

theorem fedLines_cons {line : Line} {lines : List Line} (more : lines ≠ []) : fedLines (line :: lines) = (line, true) :: fedLines lines := by
  cases lines with
  | nil => exact absurd rfl more
  | cons next lines => rfl

end Lines

section Records

inductive Mode
  | startRecord | startField | inField | inQuotedField | quoteInQuotedField
  deriving DecidableEq

structure Reader where
  mode : Mode
  field : List Char
  fields : List (List Char)

namespace Reader

def fresh : Reader := ⟨.startRecord,[],[]⟩

variable (delimiter : Char) (reader : Reader)

def save (mode : Mode) : Reader := ⟨mode,[],reader.fields ++ [reader.field]⟩

def add (c : Char) (mode : Mode) : Reader := { reader with field := reader.field ++ [c], mode }

/-- Quotes stand at the start of a field, and are doubled inside of it. -/
def process (c : Char) : Reader :=
  match reader.mode with
  | .startRecord | .startField =>
    if c = '"' then { reader with mode := .inQuotedField }
    else if c = delimiter then reader.save .startField
    else reader.add c .inField
  | .inField => if c = delimiter then reader.save .startField else reader.add c .inField
  | .inQuotedField => if c = '"' then { reader with mode := .quoteInQuotedField } else reader.add c .inQuotedField
  | .quoteInQuotedField =>
    if c = '"' then reader.add c .inQuotedField
    else if c = delimiter then reader.save .startField
    else reader.add c .inField

/-- The end of a line, which a quoted field takes in where a feed makes it. -/
def finish (fed : Bool) : Reader :=
  match reader.mode with
  | .startRecord => reader
  | .inQuotedField => if fed then reader.add '\n' .inQuotedField else reader
  | _ => reader.save .startRecord

def readLine (line : Line) (fed : Bool) : Reader := (line.foldl (process delimiter) reader).finish fed

end Reader

open Reader

def recordsFrom (delimiter : Char) (reader : Reader) : List (Line × Bool) → List (List (List Char))
  | [] => if reader.mode = .inQuotedField then [reader.fields ++ [reader.field]] else []
  | (line, fed) :: rest =>
    let after := reader.readLine delimiter line fed
    if after.mode = .startRecord then after.fields :: recordsFrom delimiter fresh rest else recordsFrom delimiter after rest

def records (delimiter : Char) (lines : List (Line × Bool)) : List (List (List Char)) := recordsFrom delimiter fresh lines

/-- The record of a line that stands alone. -/
def lineRecord (delimiter : Char) (line : Line) : List (List Char) :=
  let after := fresh.readLine delimiter line false
  if after.mode = .startRecord then after.fields else after.fields ++ [after.field]

variable {delimiter : Char} {reader : Reader}

/-- A field that goes on, or one that is saved, holds a line break. -/
def Reader.Broken (reader : Reader) : Prop := '\n' ∈ reader.field ∨ ∃ cell ∈ reader.fields, '\n' ∈ cell

theorem save_broken {mode : Mode} (broken : reader.Broken) : ∃ cell ∈ (reader.save mode).fields, '\n' ∈ cell := by
  rcases broken with held | ⟨cell,member,held⟩
  · exact ⟨reader.field,List.mem_append_right _ List.mem_cons_self,held⟩
  · exact ⟨cell,List.mem_append_left _ member,held⟩

theorem add_broken {c : Char} {mode : Mode} (broken : reader.Broken) : (reader.add c mode).Broken :=
  broken.imp_left (List.mem_append_left _)

theorem process_started (c : Char) : (reader.process delimiter c).mode ≠ .startRecord := by
  unfold process
  split
  all_goals split_ifs
  all_goals exact Mode.noConfusion

theorem process_broken (c : Char) (broken : reader.Broken) : (reader.process delimiter c).Broken := by
  unfold process
  split
  all_goals split_ifs
  all_goals first
    | exact broken
    | exact Or.inr (save_broken broken)
    | exact add_broken broken

theorem foldl_process_started {line : Line} (started : reader.mode ≠ .startRecord ∨ line ≠ []) :
    (line.foldl (process delimiter) reader).mode ≠ .startRecord := by
  induction line generalizing reader with
  | nil => exact started.resolve_right (fun some => some rfl)
  | cons c line ih => exact ih (Or.inl (process_started c))

theorem foldl_process_broken {line : Line} (broken : reader.Broken) : (line.foldl (process delimiter) reader).Broken := by
  induction line generalizing reader with
  | nil => exact broken
  | cons c line ih => exact ih (process_broken c broken)

theorem finish_cases (reader : Reader) (fed : Bool) : (reader.mode = .startRecord ∧ reader.finish fed = reader) ∨
    (reader.mode = .inQuotedField ∧ reader.finish fed = if fed then reader.add '\n' .inQuotedField else reader) ∨
      reader.mode ≠ .startRecord ∧ reader.mode ≠ .inQuotedField ∧ reader.finish fed = reader.save .startRecord := by
  obtain ⟨mode,field,fields⟩ := reader
  cases mode with
  | startRecord => exact Or.inl ⟨rfl,rfl⟩
  | inQuotedField => exact Or.inr (Or.inl ⟨rfl,rfl⟩)
  | startField => exact Or.inr (Or.inr ⟨Mode.noConfusion,Mode.noConfusion,rfl⟩)
  | inField => exact Or.inr (Or.inr ⟨Mode.noConfusion,Mode.noConfusion,rfl⟩)
  | quoteInQuotedField => exact Or.inr (Or.inr ⟨Mode.noConfusion,Mode.noConfusion,rfl⟩)

theorem finish_mode (fed : Bool) : (reader.finish fed).mode = if reader.mode = .inQuotedField then .inQuotedField else .startRecord := by
  rcases finish_cases reader fed with ⟨start,same⟩ | ⟨quoted,same⟩ | ⟨-,unquoted,same⟩
  · rw [same,start]
    rfl
  · rw [same,if_pos quoted]
    split
    · rfl
    · exact quoted
  · rw [same,if_neg unquoted]
    rfl

theorem finish_broken (fed : Bool) (started : reader.mode ≠ .startRecord) (broken : reader.Broken) : (reader.finish fed).Broken ∧
    ((reader.finish fed).mode = .startRecord → ∃ cell ∈ (reader.finish fed).fields, '\n' ∈ cell) := by
  rcases finish_cases reader fed with ⟨start,-⟩ | ⟨quoted,same⟩ | ⟨-,-,same⟩
  · exact absurd start started
  · refine ⟨?_,fun closed => ?_⟩
    · rw [same]
      split
      · exact add_broken broken
      · exact broken
    · rw [finish_mode,if_pos quoted] at closed
      cases closed
  · rw [same]
    exact ⟨Or.inr (save_broken broken),fun _ => save_broken broken⟩

theorem recordsFrom_broken {lines : List (Line × Bool)} (quoted : reader.mode = .inQuotedField) (broken : reader.Broken) :
    ∃ record ∈ recordsFrom delimiter reader lines, ∃ cell ∈ record, '\n' ∈ cell := by
  induction lines generalizing reader with
  | nil =>
    rw [recordsFrom,if_pos quoted]
    exact ⟨_,List.mem_singleton.mpr rfl,@save_broken _ .startRecord broken⟩
  | cons item rest ih =>
    obtain ⟨line,fed⟩ := item
    have started : (line.foldl (process delimiter) reader).mode ≠ .startRecord :=
      foldl_process_started (Or.inl (by rw [quoted]; exact Mode.noConfusion))
    have after := finish_broken fed started (@foldl_process_broken delimiter _ line broken)
    have mode := @finish_mode (line.foldl (process delimiter) reader) fed
    rw [recordsFrom,readLine]
    by_cases closed : ((line.foldl (process delimiter) reader).finish fed).mode = .startRecord
    · rw [if_pos closed]
      exact ⟨_,List.mem_cons_self,after.2 closed⟩
    · rw [if_neg closed]
      refine ih ?_ after.1
      rw [mode] at closed ⊢
      split at closed
      · rw [if_pos ‹_›]
      · exact absurd rfl closed

theorem records_fedLines (lines : List Line) (unbroken : ∀ record ∈ records delimiter (fedLines lines), ∀ cell ∈ record, '\n' ∉ cell) :
    records delimiter (fedLines lines) = (fedLines lines).map (fun item => lineRecord delimiter item.1) := by
  induction lines with
  | nil => rfl
  | cons line lines ih =>
    have mode := fun fed => @finish_mode (line.foldl (process delimiter) fresh) fed
    have cases := fun fed => finish_cases (line.foldl (process delimiter) fresh) fed
    cases lines with
    | nil =>
      unfold fedLines
      by_cases none : line = []
      · rw [if_pos none]
        rfl
      · rw [if_neg none,records,recordsFrom,List.map_singleton,lineRecord,readLine]
        by_cases quoted : (line.foldl (process delimiter) fresh).mode = .inQuotedField
        · have going : ((line.foldl (process delimiter) fresh).finish false).mode = .inQuotedField := by rw [mode,if_pos quoted]
          rw [going,if_neg Mode.noConfusion,if_neg Mode.noConfusion,recordsFrom,if_pos going]
        · have closed : ((line.foldl (process delimiter) fresh).finish false).mode = .startRecord := by rw [mode,if_neg quoted]
          rw [if_pos closed,if_pos closed]
          rfl
    | cons next rest =>
      rw [fedLines_cons (List.cons_ne_nil next rest)] at unbroken ⊢
      rw [records,recordsFrom,readLine] at unbroken ⊢
      by_cases quoted : (line.foldl (process delimiter) fresh).mode = .inQuotedField
      · have going : ((line.foldl (process delimiter) fresh).finish true).mode = .inQuotedField := by rw [mode,if_pos quoted]
        have held : '\n' ∈ ((line.foldl (process delimiter) fresh).finish true).field := by
          rcases cases true with ⟨start,-⟩ | ⟨-,same⟩ | ⟨-,unquoted,-⟩
          · rw [start] at quoted
            cases quoted
          · rw [same,if_pos rfl]
            exact List.mem_append_right _ List.mem_cons_self
          · exact absurd quoted unquoted
        rw [if_neg (by rw [going]; exact Mode.noConfusion)] at unbroken
        obtain ⟨record,member,cell,inside,broken⟩ := @recordsFrom_broken delimiter _ (fedLines (next :: rest)) going (Or.inl held)
        exact absurd broken (unbroken record member cell inside)
      · have closed : ∀ fed, ((line.foldl (process delimiter) fresh).finish fed).mode = .startRecord := by
          intro fed
          rw [mode,if_neg quoted]
        have alike : (line.foldl (process delimiter) fresh).finish true = (line.foldl (process delimiter) fresh).finish false := by
          rcases cases true with ⟨start,same⟩ | ⟨bare,-⟩ | ⟨started,-,same⟩
          · rcases cases false with ⟨-,again⟩ | ⟨bare,-⟩ | ⟨started,-,-⟩
            · rw [same,again]
            · exact absurd bare quoted
            · exact absurd start started
          · exact absurd bare quoted
          · rcases cases false with ⟨start,-⟩ | ⟨bare,-⟩ | ⟨-,-,again⟩
            · exact absurd start started
            · exact absurd bare quoted
            · rw [same,again]
        rw [if_pos (closed true)] at unbroken ⊢
        have later := ih (fun record member => unbroken record (List.mem_cons_of_mem _ member))
        rw [List.map_cons,lineRecord,readLine,if_pos (closed false),← later,alike]
        rfl

theorem lineRecord_eq_nil_iff {line : Line} : lineRecord delimiter line = [] ↔ line = [] := by
  constructor
  · intro none
    by_contra some
    have started : (line.foldl (process delimiter) fresh).mode ≠ .startRecord := foldl_process_started (Or.inr some)
    rw [lineRecord,readLine] at none
    rcases finish_cases (line.foldl (process delimiter) fresh) false with ⟨start,-⟩ | ⟨quoted,same⟩ | ⟨-,-,same⟩
    · exact started start
    · rw [same,if_neg Bool.false_ne_true,if_neg started] at none
      exact List.cons_ne_nil _ _ (List.append_eq_nil_iff.mp none).2
    · rw [same] at none
      exact List.cons_ne_nil _ _ (List.append_eq_nil_iff.mp none).2
  · rintro rfl
    rfl

end Records

section Counted

variable {α : Type} (counts : α → Bool)

/-- The numbers of the items that count, where the first item has the number given. -/
def numbersFrom : ℕ → List α → List ℕ
  | _, [] => []
  | n, item :: rest => if counts item then n :: numbersFrom (n + 1) rest else numbersFrom (n + 1) rest

variable {counts}

theorem numbersFrom_ge {n m : ℕ} {items : List α} (member : m ∈ numbersFrom counts n items) : n ≤ m := by
  induction items generalizing n with
  | nil => cases member
  | cons item rest ih =>
    rw [numbersFrom] at member
    split at member
    · rcases List.mem_cons.mp member with rfl | inside
      · exact le_rfl
      · exact (Nat.le_succ n).trans (ih inside)
    · exact (Nat.le_succ n).trans (ih member)

theorem numbersFrom_eq_nil_iff {n : ℕ} {items : List α} : numbersFrom counts n items = [] ↔ ∀ item ∈ items, counts item = false := by
  induction items generalizing n with
  | nil => exact iff_of_true rfl (fun item member => by cases member)
  | cons item rest ih =>
    rw [numbersFrom,List.forall_mem_cons]
    by_cases counted : counts item = true
    · rw [if_pos counted]
      exact iff_of_false (List.cons_ne_nil _ _) (fun none => Bool.false_ne_true (none.1.symm.trans counted))
    · rw [if_neg counted,ih]
      exact (and_iff_right (Bool.eq_false_iff.mpr counted)).symm

theorem numbersFrom_eq_range_iff {n : ℕ} {items : List α} : numbersFrom counts n items = List.range' n (numbersFrom counts n items).length ↔
    ∃ rows rest, items = rows ++ rest ∧ (∀ row ∈ rows, counts row = true) ∧ ∀ item ∈ rest, counts item = false := by
  induction items generalizing n with
  | nil => exact iff_of_true rfl ⟨[],[],rfl,fun row member => (by cases member),fun item member => (by cases member)⟩
  | cons item rest ih =>
    rw [numbersFrom]
    by_cases counted : counts item = true
    · rw [if_pos counted,List.length_cons,List.range'_succ,List.cons.injEq,ih]
      constructor
      · rintro ⟨-,rows,others,rfl,all,none⟩
        exact ⟨item :: rows,others,rfl,List.forall_mem_cons.mpr ⟨counted,all⟩,none⟩
      · rintro ⟨rows,others,split,all,none⟩
        cases rows with
        | nil =>
          rw [List.nil_append] at split
          have idle := none item (split ▸ List.mem_cons_self)
          rw [counted] at idle
          cases idle
        | cons row rows =>
          rw [List.cons_append,List.cons.injEq] at split
          exact ⟨rfl,rows,others,split.2,(List.forall_mem_cons.mp all).2,none⟩
    · rw [if_neg counted]
      have idle : counts item = false := Bool.eq_false_iff.mpr counted
      constructor
      · intro same
        refine ⟨[],item :: rest,rfl,fun row member => (by cases member),List.forall_mem_cons.mpr ⟨idle,?_⟩⟩
        rw [← numbersFrom_eq_nil_iff (n := n + 1)]
        cases numbers : numbersFrom counts (n + 1) rest with
        | nil => rfl
        | cons first others =>
          rw [numbers,List.length_cons,List.range'_succ,List.cons.injEq] at same
          have late := @numbersFrom_ge _ counts (n + 1) _ _ (numbers ▸ List.mem_cons_self)
          omega
      · rintro ⟨rows,others,split,all,none⟩
        cases rows with
        | nil =>
          rw [List.nil_append] at split
          rw [← split,List.forall_mem_cons] at none
          rw [numbersFrom_eq_nil_iff.mpr none.2]
          rfl
        | cons row rows =>
          rw [List.cons_append,List.cons.injEq] at split
          exact absurd ((List.forall_mem_cons.mp all).1) (split.1 ▸ counted)

theorem numbersFrom_filter (n : ℕ) (items : List α) :
    ((items.zipIdx n).filter (fun item => counts item.1)).map Prod.snd = numbersFrom counts n items := by
  induction items generalizing n with
  | nil => rfl
  | cons item rest ih =>
    rw [List.zipIdx_cons,List.filter_cons,numbersFrom,← ih]
    split
    · rfl
    · rfl

theorem enumerated_eq_iff {β : Type} {n : ℕ} {items : List α} {f : α → β} {g : α → ℕ} :
    (items.zipIdx n).map (fun item => (item.2, f item.1)) = items.map (fun item => (g item, f item)) ↔
      items.map g = List.range' n (items.map g).length := by
  induction items generalizing n with
  | nil => exact iff_of_true rfl rfl
  | cons item rest ih =>
    rw [List.zipIdx_cons,List.map_cons,List.map_cons,List.map_cons,List.length_cons,List.range'_succ,List.cons.injEq,List.cons.injEq,ih,
      Prod.mk.injEq,and_iff_left rfl,eq_comm (a := n)]

end Counted

end CloudLens.Library.Delimited
