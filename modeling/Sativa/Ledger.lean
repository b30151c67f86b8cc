import Sativa.Rules
import Mathlib

/-!
Programs that call out, with a log of the calls.

The answers are those of an oracle that sees all calls before. What a call takes or gives back is
counted for every resource: the books are balanced if the counts are what the state says is in use,
and no count was ever negative.
-/

namespace Sativa

/-- A state, and the calls so far with their answers. -/
structure Logged (κ σ : Type) where
  state : σ
  log : List (κ × ℤ)

namespace Prog

variable {ε ε' κ σ α : Type}

/-- Make a call. -/
def call (oracle : List (κ × ℤ) → κ → ℤ) (c : κ) : Prog ε (Logged κ σ) ℤ :=
  ⟨fun s => (.ok (oracle s.log c), ⟨s.state, s.log ++ [(c, oracle s.log c)]⟩)⟩

/-- Throw an answer that is not `0`. -/
def check (oracle : List (κ × ℤ) → κ → ℤ) (c : κ) : Prog ℤ (Logged κ σ) Unit := do
  let ret ← call oracle c
  throwIf (ret ≠ 0) ret

/-- Do not look at the answer. -/
def perform (oracle : List (κ × ℤ) → κ → ℤ) (c : κ) : Prog ε (Logged κ σ) Unit := do
  let _ ← call oracle c

/-- Change the state. -/
def update (f : σ → σ) : Prog ε (Logged κ σ) Unit := modify fun s => { s with state := f s.state }

/-- Go on with `handler` if `x` throws. -/
def rescue (x : Prog ε σ α) (handler : ε → Prog ε' σ α) : Prog ε' σ α :=
  ⟨fun s => match x.run s with
    | (.ok a, s') => (.ok a, s')
    | (.error e, s') => (handler e).run s'⟩

namespace Ensures

variable {P : Logged κ σ → Prop} {E : ε → Logged κ σ → Prop} {oracle : List (κ × ℤ) → κ → ℤ} {c : κ}

lemma call {Q : ℤ → Logged κ σ → Prop}
    (h : ∀ s, P s → Q (oracle s.log c) ⟨s.state, s.log ++ [(c, oracle s.log c)]⟩) :
    Ensures P (Prog.call oracle c) Q E := h

lemma perform {Q : Unit → Logged κ σ → Prop}
    (h : ∀ s a, P s → Q () ⟨s.state, s.log ++ [(c, a)]⟩) : Ensures P (Prog.perform oracle c) Q E :=
  bind (call (Q := fun _ => Q ()) fun s hs => h s _ hs) fun _ => pure fun _ hs => hs

lemma keeps_perform (h : ∀ s a, P s → P ⟨s.state, s.log ++ [(c, a)]⟩) :
    Keeps P (Prog.perform oracle c) E := perform h

lemma keeps_check (h : ∀ s a, P s → P ⟨s.state, s.log ++ [(c, a)]⟩) :
    Keeps P (Prog.check oracle c) fun _ => P :=
  bind (call (Q := fun _ => P) fun s hs => h s _ hs) fun _ =>
    throwIf (fun _ hs _ => hs) fun _ hs _ => hs

lemma update {f : σ → σ} {Q : Unit → Logged κ σ → Prop}
    (h : ∀ s, P s → Q () ⟨f s.state, s.log⟩) : Ensures P (Prog.update f) Q E := h

lemma rescue {P : σ → Prop} {x : Prog ε σ α} {handler : ε → Prog ε' σ α} {Q : α → σ → Prop}
    {E : ε → σ → Prop} {E' : ε' → σ → Prop} (hx : Ensures P x Q E)
    (hhandler : ∀ e, Ensures (E e) (handler e) Q E') : Ensures P (x.rescue handler) Q E' := by
  intro s hs
  have hpost := hx s hs
  unfold Prog.rescue
  rcases hr : x.run s with ⟨e | a, s'⟩ <;> rw [hr] at hpost
  · simpa [hr] using hhandler e s' hpost
  · simpa [hr, Post] using hpost

end Ensures

end Prog

section Books

variable {κ ρ σ : Type} {delta : κ × ℤ → ρ → ℤ} {uses : σ → ρ → ℤ} {s : Logged κ σ} {state : σ}
  {c : κ × ℤ}

/-- One of `res`, and nothing else. -/
def one [DecidableEq ρ] (res r : ρ) : ℤ := if r = res then 1 else 0

lemma one_nonneg [DecidableEq ρ] (res r : ρ) : 0 ≤ one res r := by
  unfold one
  split_ifs <;> omega

lemma sum_nonneg_of_map {α : Type} (l : List α) {f : α → ℤ} (h : ∀ a, 0 ≤ f a) :
    0 ≤ (l.map f).sum :=
  List.sum_nonneg fun x hx => by
    obtain ⟨a, -, rfl⟩ := List.mem_map.mp hx
    exact h a

/-- What the calls have taken of `r`, less what they have given back. -/
def net (delta : κ × ℤ → ρ → ℤ) (log : List (κ × ℤ)) (r : ρ) : ℤ :=
  (log.map fun c => delta c r).sum

@[simp] lemma net_nil (r : ρ) : net delta [] r = 0 := rfl

@[simp] lemma net_snoc (log : List (κ × ℤ)) (r : ρ) :
    net delta (log ++ [c]) r = net delta log r + delta c r := by
  simp [net]

/-- The counts are what is in use, and were never negative. -/
structure Balanced (delta : κ × ℤ → ρ → ℤ) (uses : σ → ρ → ℤ) (s : Logged κ σ) : Prop where
  nonneg : ∀ log, log <+: s.log → ∀ r, 0 ≤ net delta log r
  balance : ∀ r, net delta s.log r = uses s.state r

lemma Balanced.init (h : ∀ r, uses state r = 0) : Balanced delta uses ⟨state, []⟩ where
  nonneg log hlog r := by rw [List.prefix_nil.mp hlog, net_nil]
  balance r := (h r).symm

lemma Balanced.call (h : Balanced delta uses s) (hnonneg : ∀ r, 0 ≤ uses s.state r + delta c r) :
    Balanced delta (fun state r => uses state r + delta c r) ⟨s.state, s.log ++ [c]⟩ := by
  have hbalance : ∀ r, net delta (s.log ++ [c]) r = uses s.state r + delta c r := by
    intro r
    rw [net_snoc, h.balance]
  refine ⟨fun log hlog r => ?_, hbalance⟩
  rcases List.prefix_concat_iff.mp hlog with rfl | hold
  · rw [hbalance]
    exact hnonneg r
  · exact h.nonneg log hold r

lemma Balanced.congr {σ' : Type} {uses' : σ' → ρ → ℤ} {state' : σ'} (h : Balanced delta uses s)
    (huses : ∀ r, uses' state' r = uses s.state r) : Balanced delta uses' ⟨state', s.log⟩ :=
  ⟨h.nonneg, fun r => (h.balance r).trans (huses r).symm⟩

lemma Balanced.idle (h : Balanced delta uses s) (hc : ∀ r, delta c r = 0) :
    Balanced delta uses ⟨s.state, s.log ++ [c]⟩ := by
  refine (h.call fun r => ?_).congr fun r => ?_
  · rw [hc, add_zero, ← h.balance]
    exact h.nonneg _ (List.prefix_refl _) r
  · rw [hc, add_zero]

end Books

end Sativa
