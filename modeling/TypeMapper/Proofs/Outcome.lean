import Mathlib.Data.List.Forall2
import TypeMapper.Routine.Obstacle
/-!
# What computations give

A computation that may fail is judged by what it gives if it does not. The judgement says nothing
about a failure, so a branch that fails meets any demand.

* `Gives`: whatever a computation gives has a property.
* `Gives.bind`, `map`, `gives_mapM`, `gives_mapM_forall₂`: it goes through the ways to put
  computations together.
* `gives_ofOption`, `gives_bind_ofOption`: emissions of values that may be missing.
-/

namespace TypeMapper

variable {ε α β : Type} {P : α → Prop} {Q : β → Prop}

/-- Whatever a computation gives has a property. -/
def Gives (P : α → Prop) (x : Except ε α) : Prop := ∀ a, x = .ok a → P a

theorem gives_ok {a : α} (h : P a) : Gives P (.ok a : Except ε α) := by
  rintro _ ⟨⟩
  exact h

theorem gives_error (e : ε) : Gives P (.error e) := nofun

theorem Gives.imp {R : α → Prop} {x : Except ε α} (h : Gives P x) (hPR : ∀ a, P a → R a) :
    Gives R x := fun a ha => hPR a (h a ha)

/-- A computation put behind another may rely on what that one gives. -/
theorem Gives.bind {x : Except ε α} {f : α → Except ε β} (hx : Gives P x)
    (hf : ∀ a, P a → Gives Q (f a)) : Gives Q (x >>= f) := by
  cases x with
  | error e => exact gives_error e
  | ok a => exact hf a (hx a rfl)

theorem Gives.map {x : Except ε α} {f : α → β} (hx : Gives P x) (hf : ∀ a, P a → Q (f a)) :
    Gives Q (x.map f) := by
  cases x with
  | error e => exact gives_error e
  | ok a => exact gives_ok (hf a (hx a rfl))

/-- Computations on what is related to a list give results that are related to it one by one. -/
theorem gives_mapM_forall₂ {γ : Type} {R : α → γ → Prop} {S : α → β → Prop} {f : γ → Except ε β}
    {xs : List α} {ys : List γ} (h : List.Forall₂ R xs ys) (hf : ∀ x y, R x y → Gives (S x) (f y)) :
    Gives (List.Forall₂ S xs) (ys.mapM f) := by
  induction h with
  | nil => exact gives_ok .nil
  | cons hxy _ ih =>
      rw [List.mapM_cons]
      refine (hf _ _ hxy).bind fun b hb => ?_
      exact ih.bind fun bs hbs => gives_ok (.cons hb hbs)

/-- Computations one after the other give results one by one. -/
theorem gives_mapM {R : α → β → Prop} {f : α → Except ε β} {xs : List α}
    (h : ∀ x ∈ xs, Gives (R x) (f x)) : Gives (List.Forall₂ R xs) (xs.mapM f) := by
  have hsame : List.Forall₂ (fun x y => x = y ∧ x ∈ xs) xs xs :=
    List.forall₂_same.mpr fun x hx => ⟨rfl, hx⟩
  refine gives_mapM_forall₂ hsame ?_
  rintro x _ ⟨rfl, hx⟩
  exact h x hx

theorem exists_of_mem_left {R : α → β → Prop} {xs : List α} {ys : List β}
    (h : List.Forall₂ R xs ys) {x : α} (hx : x ∈ xs) : ∃ y ∈ ys, R x y := by
  induction h with
  | nil => exact absurd hx List.not_mem_nil
  | cons hxy _ ih =>
      rcases List.mem_cons.mp hx with rfl | hx
      · exact ⟨_, List.mem_cons_self, hxy⟩
      · obtain ⟨y, hy, hr⟩ := ih hx
        exact ⟨y, List.mem_cons_of_mem _ hy, hr⟩

theorem exists_of_mem_right {R : α → β → Prop} {xs : List α} {ys : List β}
    (h : List.Forall₂ R xs ys) {y : β} (hy : y ∈ ys) : ∃ x ∈ xs, R x y :=
  exists_of_mem_left h.flip hy

/-- A computation of which nothing is known. -/
theorem gives_true (x : Except ε α) : Gives (fun _ => True) x := fun _ _ => trivial

/-- A computation gives what it gives. -/
theorem gives_self (x : Except ε α) : Gives (fun a => x = .ok a) x := fun _ => id

/-- What is there once the failure is forgotten is what the computation gives. -/
theorem eq_ok_of_toOption {x : Except ε α} {a : α} (h : x.toOption = some a) : x = .ok a := by
  cases x with
  | error e => cases h
  | ok b => exact congrArg Except.ok (Option.some.inj h)

/-- What may be missing is given where it is there. -/
theorem gives_ofOption (x : Option α) (e : SpellingError) :
    Gives (fun a => x = some a) (Emit.ofOption x e) := fun _ h => Emit.ofOption_eq_ok.mp h

/-- What is known to be there is what is given. -/
theorem gives_bind_ofOption {x : Option α} {a : α} (h : x = some a) {e : SpellingError}
    {f : α → Emit β} (hf : Gives Q (f a)) : Gives Q (Emit.ofOption x e >>= f) := by
  rw [h]
  exact hf

end TypeMapper
