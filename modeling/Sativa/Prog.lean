import Mathlib.Tactic.Lemma
import Mathlib.Order.Basic

/-!
Programs over a state that may throw.

A throw keeps everything written before it, as an exception in C++ does: only `atomically`
takes the state back. The `_ok` and `_error` lemmas invert a run step by step; they are
stated as equivalences so that `simp` and `obtain` can peel a program apart.
-/

namespace Sativa

lemma except_bind_ok {ε α β : Type} {x : Except ε α} {f : α → Except ε β} {b : β} :
    (x >>= f) = .ok b ↔ ∃ a, x = .ok a ∧ f a = .ok b := by
  rcases x with e | a
  · exact ⟨fun h => (by cases h), fun ⟨_, h, _⟩ => (by cases h)⟩
  · exact ⟨fun h => ⟨a, rfl, h⟩, fun ⟨_, h, h'⟩ => (by cases h; exact h')⟩

lemma except_map_ok {ε α β : Type} {x : Except ε α} {f : α → β} {b : β} :
    f <$> x = .ok b ↔ ∃ a, x = .ok a ∧ f a = b := by
  rcases x with e | a
  · exact ⟨fun h => (by cases h), fun ⟨_, h, _⟩ => (by cases h)⟩
  · exact ⟨fun h => ⟨a, rfl, (by cases h; rfl)⟩, fun ⟨_, h, h'⟩ => (by cases h; rw [← h']; rfl)⟩

lemma except_toOption_bind {ε α β : Type} (x : Except ε α) (f : α → Except ε β) :
    (x >>= f).toOption = x.toOption.bind fun a => (f a).toOption := by
  cases x <;> rfl

/-- A program over states `σ` that returns an `α` or throws an `ε`. -/
structure Prog (ε σ α : Type) where
  run : σ → Except ε α × σ

namespace Prog

variable {ε ε' σ τ α β : Type}

instance : Monad (Prog ε σ) where
  pure a := ⟨fun s => (.ok a, s)⟩
  bind x f := ⟨fun s => match x.run s with
    | (.ok a, s') => (f a).run s'
    | (.error e, s') => (.error e, s')⟩

def fail (e : ε) : Prog ε σ α := ⟨fun s => (.error e, s)⟩

def get : Prog ε σ σ := ⟨fun s => (.ok s, s)⟩

def modify (f : σ → σ) : Prog ε σ Unit := ⟨fun s => (.ok (), f s)⟩

def throwIf (c : Prop) [Decidable c] (e : ε) : Prog ε σ Unit :=
  if c then fail e else pure ()

/-- `if(c) { x }`. -/
def when (c : Prop) [Decidable c] (x : Prog ε σ Unit) : Prog ε σ Unit := if c then x else pure ()

def ofExcept (x : Except ε α) : Prog ε σ α := ⟨fun s => (x, s)⟩

/-- Compute something from the state. -/
def reads (f : σ → Except ε α) : Prog ε σ α := ⟨fun s => (f s, s)⟩

/-- Run `x` as one unit: if it throws, the state is what it was before. -/
def atomically (x : Prog ε σ α) : Prog ε σ α :=
  ⟨fun s => match x.run s with
    | (.ok a, s') => (.ok a, s')
    | (.error e, _) => (.error e, s)⟩

/-- Run `x` on a part of the state. -/
def zoom (part : σ → τ) (put : τ → σ → σ) (wrap : ε → ε') (x : Prog ε τ α) : Prog ε' σ α :=
  ⟨fun s => ((x.run (part s)).1.mapError wrap, put (x.run (part s)).2 s)⟩

variable {x : Prog ε σ α} {f : α → Prog ε σ β} {s s' : σ} {a : α} {b : β} {e : ε}

@[ext] lemma ext {x y : Prog ε σ α} (h : ∀ s, x.run s = y.run s) : x = y := by
  obtain ⟨x⟩ := x
  obtain ⟨y⟩ := y
  congr
  exact funext h

/-! ### Running forward -/

@[simp] lemma run_pure : (pure a : Prog ε σ α).run s = (.ok a, s) := rfl
@[simp] lemma run_fail : (fail e : Prog ε σ α).run s = (.error e, s) := rfl
@[simp] lemma run_get : (get : Prog ε σ σ).run s = (.ok s, s) := rfl
@[simp] lemma run_modify (g : σ → σ) : (modify g : Prog ε σ Unit).run s = (.ok (), g s) := rfl
@[simp] lemma run_ofExcept (y : Except ε α) : (ofExcept y : Prog ε σ α).run s = (y, s) := rfl

@[simp] lemma run_reads (g : σ → Except ε α) : (reads g : Prog ε σ α).run s = (g s, s) := rfl

lemma run_bind : (x >>= f).run s = match x.run s with
    | (.ok a, s') => (f a).run s'
    | (.error e, s') => (.error e, s') := rfl

lemma run_bind_of_ok (h : x.run s = (.ok a, s')) : (x >>= f).run s = (f a).run s' := by
  rw [run_bind, h]

lemma run_bind_of_error (h : x.run s = (.error e, s')) : (x >>= f).run s = (.error e, s') := by
  rw [run_bind, h]

instance : LawfulMonad (Prog ε σ) := LawfulMonad.mk' (Prog ε σ)
  (fun x => ext fun s => by
    show (x >>= fun a => pure a).run s = x.run s
    rcases hx : x.run s with ⟨_ | a, s'⟩
    · exact run_bind_of_error hx
    · exact run_bind_of_ok hx)
  (fun _ _ => rfl)
  (fun x g h => ext fun s => by
    rcases hx : x.run s with ⟨_ | a, s'⟩
    · rw [run_bind_of_error hx, run_bind_of_error (run_bind_of_error hx)]
    · rw [run_bind_of_ok hx, run_bind, run_bind_of_ok hx, run_bind])

lemma run_map (g : α → β) : (g <$> x).run s = ((x.run s).1.map g, (x.run s).2) := by
  rw [map_eq_pure_bind, run_bind]
  rcases x.run s with ⟨e | a, s'⟩ <;> rfl

lemma run_ofExcept_bind {y : Except ε α} : (ofExcept y >>= f).run s = match y with
    | .ok a => (f a).run s
    | .error e => (.error e, s) := by cases y <;> rfl

/-! What is computed without the state can be computed first. -/

lemma ofExcept_bind (y : Except ε α) (g : α → Except ε β) :
    (ofExcept (y >>= g) : Prog ε σ β) = ofExcept y >>= fun a => ofExcept (g a) := by
  cases y <;> rfl

lemma ofExcept_ok_eq : (ofExcept (.ok a) : Prog ε σ α) = pure a := rfl

lemma ofExcept_guard {c : Prop} [Decidable c] {y : Except ε α} :
    (ofExcept (if c then .error e else y) : Prog ε σ α) =
      throwIf c e >>= fun _ => ofExcept y := by
  by_cases h : c <;> simp only [throwIf, h, if_true, if_false] <;> rfl

lemma throwIf_pos {c : Prop} [Decidable c] (h : c) : (throwIf c e : Prog ε σ Unit) = fail e :=
  if_pos h

lemma throwIf_neg {c : Prop} [Decidable c] (h : ¬ c) :
    (throwIf c e : Prog ε σ Unit) = pure () := if_neg h

@[simp] lemma fail_bind : (fail e >>= f) = fail e := rfl

/-! ### Reading a run backward -/

lemma bind_ok : (x >>= f).run s = (.ok b, s') ↔
    ∃ a s₁, x.run s = (.ok a, s₁) ∧ (f a).run s₁ = (.ok b, s') := by
  rcases hx : x.run s with ⟨e | a, s₁⟩
  · rw [run_bind_of_error hx]; simp
  · rw [run_bind_of_ok hx]
    exact ⟨fun h => ⟨a, s₁, rfl, h⟩, fun ⟨_, _, h, h'⟩ => by cases h; exact h'⟩

lemma throwIf_ok {c : Prop} [Decidable c] {u : Unit} :
    (throwIf c e : Prog ε σ Unit).run s = (.ok u, s') ↔ ¬ c ∧ s = s' := by
  by_cases h : c
  · rw [throwIf_pos h]; simp [h]
  · rw [throwIf_neg h]; simp [h]

lemma when_ok {c : Prop} [Decidable c] {x : Prog ε σ Unit} {u : Unit} :
    (when c x).run s = (.ok u, s') ↔ c ∧ x.run s = (.ok u, s') ∨ ¬ c ∧ s = s' := by
  by_cases h : c <;> simp [when, h]

lemma ofExcept_ok {y : Except ε α} :
    (ofExcept y : Prog ε σ α).run s = (.ok a, s') ↔ y = .ok a ∧ s = s' := by
  simp

lemma atomically_ok : (atomically x).run s = (.ok a, s') ↔ x.run s = (.ok a, s') := by
  rcases hx : x.run s with ⟨e | a, s₁⟩ <;> simp [atomically, hx]

lemma atomically_error (h : (atomically x).run s = (.error e, s')) : s' = s := by
  rcases hx : x.run s with ⟨e | a, s₁⟩ <;> simp [atomically, hx] at h
  exact h.2.symm

/-! ### Programs that keep the state -/

/-- `x` never writes, whether it returns or throws. -/
def ReadOnly (x : Prog ε σ α) : Prop := ∀ s, (x.run s).2 = s

/-- `x` either returns or leaves the state as it was. -/
def Atomic (x : Prog ε σ α) : Prop := ∀ s e s', x.run s = (.error e, s') → s' = s

lemma readOnly_fail : ReadOnly (fail e : Prog ε σ α) := fun _ => rfl

lemma readOnly_get : ReadOnly (get : Prog ε σ σ) := fun _ => rfl

lemma readOnly_ofExcept (y : Except ε α) : ReadOnly (ofExcept y : Prog ε σ α) := fun _ => rfl

lemma readOnly_throwIf (c : Prop) [Decidable c] : ReadOnly (throwIf c e : Prog ε σ Unit) := by
  intro s
  by_cases h : c
  · rw [throwIf_pos h, run_fail]
  · rw [throwIf_neg h, run_pure]

lemma ReadOnly.bind (hx : ReadOnly x) (hf : ∀ a, ReadOnly (f a)) : ReadOnly (x >>= f) := by
  intro s
  have hs := hx s
  rcases hr : x.run s with ⟨e | a, s₁⟩
  · rw [run_bind_of_error hr]
    rwa [hr] at hs
  · rw [run_bind_of_ok hr]
    rw [hr] at hs
    exact (hf a s₁).trans hs

lemma ReadOnly.atomic (hx : ReadOnly x) : Atomic x := by
  intro s e s' h
  have := hx s
  rwa [h] at this

lemma atomic_atomically (x : Prog ε σ α) : Atomic (atomically x) := fun _ _ _ => atomically_error

/-- After reading, an atomic program is still atomic. -/
lemma ReadOnly.bind_atomic (hx : ReadOnly x) (hf : ∀ a, Atomic (f a)) : Atomic (x >>= f) := by
  intro s e s' h
  rcases hr : x.run s with ⟨e₀ | a, s₁⟩
  · have hs : s₁ = s := by simpa [hr] using hx s
    rw [run_bind_of_error hr] at h
    rw [← (Prod.mk.inj h).2, hs]
  · have hs : s₁ = s := by simpa [hr] using hx s
    rw [run_bind_of_ok hr] at h
    rw [hf a _ _ _ h, hs]

/-! ### Programs along which a measure does not decrease -/

section Mono

variable {β' : Type} [Preorder β'] {g : σ → β'}

/-- No run of `x` decreases `g`, whether it returns or throws. -/
def Mono (g : σ → β') (x : Prog ε σ α) : Prop := ∀ s, g s ≤ g (x.run s).2

lemma ReadOnly.mono (hx : ReadOnly x) : Mono g x := fun s => by rw [hx s]

lemma Mono.bind (hx : Mono g x) (hf : ∀ a, Mono g (f a)) : Mono g (x >>= f) := by
  intro s
  have hs := hx s
  rcases hr : x.run s with ⟨e | a, s₁⟩
  · rw [run_bind_of_error hr]
    rwa [hr] at hs
  · rw [run_bind_of_ok hr]
    rw [hr] at hs
    exact hs.trans (hf a s₁)

lemma Mono.when {c : Prop} [Decidable c] {x : Prog ε σ Unit} (hx : c → Mono g x) :
    Mono g (when c x) := by
  by_cases h : c
  · rw [Prog.when, if_pos h]
    exact hx h
  · rw [Prog.when, if_neg h]
    exact fun _ => le_refl _

lemma Mono.atomically (hx : Mono g x) : Mono g (atomically x) := by
  intro s
  have hs := hx s
  rcases hr : x.run s with ⟨e | a, s₁⟩
  · simp [Prog.atomically, hr]
  · simpa [Prog.atomically, hr] using hs

end Mono

end Prog

end Sativa
