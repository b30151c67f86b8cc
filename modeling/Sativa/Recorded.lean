import Sativa.Rules

/-!
Programs with a record of what they touch.

The record only grows: what a program has touched stays there when its changes are taken back. A
program with a record accounts for one without if the two do the same to the state.
-/

namespace Sativa

/-- A state, and what was touched so far. -/
structure Recorded (σ τ : Type) where
  state : σ
  record : List τ

namespace Prog

variable {ε σ τ α β : Type}

/-- Put `l` on the record. -/
def note (l : List τ) : Prog ε (Recorded σ τ) Unit :=
  modify fun s => { s with record := s.record ++ l }

/-- Run `x`, which touches `rows` of the state that it finds if it returns. -/
def touching (rows : σ → List τ) (x : Prog ε σ α) : Prog ε (Recorded σ τ) α :=
  ⟨fun s => match x.run s.state with
    | (.ok a, s') => (.ok a, ⟨s', s.record ++ rows s.state⟩)
    | (.error e, s') => (.error e, ⟨s', s.record⟩)⟩

/-- Run `x`, which touches nothing. -/
abbrev plain (x : Prog ε σ α) : Prog ε (Recorded σ τ) α := touching (fun _ => []) x

/-- Run `x` as one unit. If it throws, the state is what it was before, but the record is not. -/
def undoing (x : Prog ε (Recorded σ τ) α) : Prog ε (Recorded σ τ) α :=
  ⟨fun s => match x.run s with
    | (.ok a, s') => (.ok a, s')
    | (.error e, s') => (.error e, ⟨s.state, s'.record⟩)⟩

/-- `x` does to the state what `p` does. -/
def Accounts (x : Prog ε (Recorded σ τ) α) (p : Prog ε σ α) : Prop :=
  ∀ s, ((x.run s).1, (x.run s).2.state) = p.run s.state

section Accounts

variable {x : Prog ε (Recorded σ τ) α} {p : Prog ε σ α} {f : α → Prog ε (Recorded σ τ) β}
  {g : α → Prog ε σ β} {c : Prop} [Decidable c]

lemma accounts_pure (a : α) : (pure a : Prog ε (Recorded σ τ) α).Accounts (pure a) := fun _ => rfl

lemma accounts_fail (e : ε) : (fail e : Prog ε (Recorded σ τ) α).Accounts (fail e) := fun _ => rfl

lemma accounts_touching (rows : σ → List τ) (p : Prog ε σ α) : (touching rows p).Accounts p := by
  intro s
  unfold touching
  rcases hp : p.run s.state with ⟨e | a, s'⟩ <;> simp [hp]

lemma accounts_throwIf (e : ε) :
    (throwIf c e : Prog ε (Recorded σ τ) Unit).Accounts (throwIf c e) := by
  unfold throwIf
  split_ifs
  · exact accounts_fail e
  · exact accounts_pure ()

lemma Accounts.when {x : Prog ε (Recorded σ τ) Unit} {p : Prog ε σ Unit} (hx : x.Accounts p) :
    (when c x).Accounts (when c p) := by
  unfold Prog.when
  split_ifs
  · exact hx
  · exact accounts_pure ()

lemma Accounts.bind (hx : x.Accounts p) (hf : ∀ a, (f a).Accounts (g a)) :
    (x >>= f).Accounts (p >>= g) := by
  intro s
  have hs := hx s
  rcases hr : x.run s with ⟨e | a, s'⟩
  · rw [hr] at hs
    rw [run_bind_of_error hr, run_bind_of_error hs.symm]
  · rw [hr] at hs
    rw [run_bind_of_ok hr, run_bind_of_ok hs.symm]
    exact hf a s'

lemma Accounts.undoing (hx : x.Accounts p) : x.undoing.Accounts (atomically p) := by
  intro s
  have hs := hx s
  unfold Prog.undoing Prog.atomically
  rcases hr : x.run s with ⟨e | a, s'⟩ <;> rw [hr] at hs <;> simp [hr, ← hs]

end Accounts

/-! ### Rules for what is on the record -/

namespace Ensures

variable {P : Recorded σ τ → Prop} {Q : α → Recorded σ τ → Prop} {E E' : ε → Recorded σ τ → Prop}

lemma note {l : List τ} {Q : Unit → Recorded σ τ → Prop}
    (h : ∀ s, P s → Q () ⟨s.state, s.record ++ l⟩) : Ensures P (note l) Q E := modify h

lemma touching {rows : σ → List τ} {x : Prog ε σ α}
    (hok : ∀ s a s', P s → x.run s.state = (.ok a, s') → Q a ⟨s', s.record ++ rows s.state⟩)
    (herror : ∀ s e s', P s → x.run s.state = (.error e, s') → E e ⟨s', s.record⟩) :
    Ensures P (touching rows x) Q E := by
  intro s hs
  unfold Prog.touching
  rcases hx : x.run s.state with ⟨e | a, s'⟩
  · simpa [hx, Post] using herror s e s' hs hx
  · simpa [hx, Post] using hok s a s' hs hx

lemma mem_touching {rows : σ → List τ} {x : Prog ε σ α} {t : τ} :
    Keeps (fun s => t ∈ s.record) (Prog.touching rows x) fun _ s => t ∈ s.record :=
  touching (fun _ _ _ h _ => List.mem_append_left _ h) fun _ _ _ h _ => h

lemma undoing {x : Prog ε (Recorded σ τ) α} (h : Ensures P x Q E)
    (hE : ∀ s e s', P s → E e s' → E' e ⟨s.state, s'.record⟩) : Ensures P x.undoing Q E' := by
  intro s hs
  have hpost := h s hs
  unfold Prog.undoing
  rcases hx : x.run s with ⟨e | a, s'⟩ <;> rw [hx] at hpost
  · simpa [hx, Post] using hE s e s' hs hpost
  · simpa [hx, Post] using hpost

end Ensures

end Prog

end Sativa
