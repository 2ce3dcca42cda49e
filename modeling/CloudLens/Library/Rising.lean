import Mathlib.Order.Monotone.Basic

/-! Fallible functions that rise. On the inputs it is for, such a function either
always fails in the same way or always returns, and what it returns rises with
its input. Chains of rising functions rise, so a pipeline is checked one stage at
a time. -/
namespace CloudLens.Library.Rising

variable {α β γ Failure : Type} [Preorder α] [Preorder β] [Preorder γ]

def Rises (within : α → Prop) (compute : α → Except Failure β) : Prop :=
  (∃ failed, ∀ a, within a → compute a = .error failed) ∨
    ∃ result : α → β, Monotone result ∧ ∀ a, within a → compute a = .ok (result a)

variable {within : α → Prop} {compute other : α → Except Failure β}

theorem rises_ok {result : α → β} (mono : Monotone result) : Rises within (fun a => (.ok (result a) : Except Failure β)) :=
  Or.inr ⟨result,mono,fun _ _ => rfl⟩

theorem rises_error (failed : Failure) : Rises within (fun _ => (.error failed : Except Failure β)) :=
  Or.inl ⟨failed,fun _ _ => rfl⟩

theorem Rises.congr (rises : Rises within compute) (same : ∀ a, within a → other a = compute a) : Rises within other := by
  rcases rises with ⟨failed,fails⟩ | ⟨result,mono,returns⟩
  · exact Or.inl ⟨failed,fun a inside => (same a inside).trans (fails a inside)⟩
  · exact Or.inr ⟨result,mono,fun a inside => (same a inside).trans (returns a inside)⟩

theorem Rises.narrow {narrower : α → Prop} (rises : Rises within compute) (inside : ∀ a, narrower a → within a) :
    Rises narrower compute := by
  rcases rises with ⟨failed,fails⟩ | ⟨result,mono,returns⟩
  · exact Or.inl ⟨failed,fun a here => fails a (inside a here)⟩
  · exact Or.inr ⟨result,mono,fun a here => returns a (inside a here)⟩

theorem Rises.map (rises : Rises within compute) {next : β → γ} (mono : Monotone next) :
    Rises within (fun a => (compute a).map next) := by
  rcases rises with ⟨failed,fails⟩ | ⟨result,rising,returns⟩
  · refine Or.inl ⟨failed,?_⟩
    intro a inside
    dsimp only
    rw [fails a inside]
    rfl
  · refine Or.inr ⟨next ∘ result,mono.comp rising,?_⟩
    intro a inside
    dsimp only
    rw [returns a inside]
    rfl

theorem Rises.mapError {Other : Type} (rises : Rises within compute) (rename : Failure → Other) :
    Rises within (fun a => (compute a).mapError rename) := by
  rcases rises with ⟨failed,fails⟩ | ⟨result,rising,returns⟩
  · refine Or.inl ⟨rename failed,?_⟩
    intro a inside
    dsimp only
    rw [fails a inside]
    rfl
  · refine Or.inr ⟨result,rising,?_⟩
    intro a inside
    dsimp only
    rw [returns a inside]
    rfl

theorem Rises.bind {between : β → Prop} {next : β → Except Failure γ} (rises : Rises within compute)
    (lands : ∀ a b, within a → compute a = .ok b → between b) (later : Rises between next) :
    Rises within (fun a => (compute a).bind next) := by
  rcases rises with ⟨failed,fails⟩ | ⟨result,rising,returns⟩
  · refine Or.inl ⟨failed,?_⟩
    intro a inside
    dsimp only
    rw [fails a inside]
    rfl
  · have arrives : ∀ a, within a → between (result a) := fun a inside => lands a _ inside (returns a inside)
    rcases later with ⟨failed,fails⟩ | ⟨final,mono,ends⟩
    · refine Or.inl ⟨failed,?_⟩
      intro a inside
      dsimp only
      rw [returns a inside]
      exact fails _ (arrives a inside)
    · refine Or.inr ⟨final ∘ result,mono.comp rising,?_⟩
      intro a inside
      dsimp only
      rw [returns a inside]
      exact ends _ (arrives a inside)

theorem Rises.comp {next : β → Except Failure γ} {result : α → β} (rises : Rises (fun _ => True) next) (mono : Monotone result) :
    Rises within (fun a => next (result a)) :=
  Rises.bind (rises_ok mono) (fun _ _ _ _ => trivial) rises

theorem rises_read {Read : Type} (read : Except Failure Read) {next : Read → α → Except Failure β}
    (rises : ∀ r, read = .ok r → Rises within (next r)) : Rises within (fun a => read.bind (fun r => next r a)) := by
  cases read with
  | error failed => exact Or.inl ⟨failed,fun _ _ => rfl⟩
  | ok r => exact rises r rfl

theorem Rises.le (rises : Rises within compute) {a b : α} {x y : β} (below : a ≤ b) (insideLow : within a) (insideHigh : within b)
    (low : compute a = .ok x) (high : compute b = .ok y) : x ≤ y := by
  rcases rises with ⟨failed,fails⟩ | ⟨result,mono,returns⟩
  · rw [fails a insideLow] at low
    cases low
  · rw [returns a insideLow] at low
    rw [returns b insideHigh] at high
    cases low
    cases high
    exact mono below

theorem Rises.returns_iff (rises : Rises within compute) {a b : α} (insideLow : within a) (insideHigh : within b) :
    (∃ x, compute a = .ok x) ↔ ∃ y, compute b = .ok y := by
  rcases rises with ⟨failed,fails⟩ | ⟨result,_,returns⟩
  · rw [fails a insideLow,fails b insideHigh]
  · rw [returns a insideLow,returns b insideHigh]
    exact ⟨fun _ => ⟨_,rfl⟩,fun _ => ⟨_,rfl⟩⟩

end CloudLens.Library.Rising
