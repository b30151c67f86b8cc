import Mathlib.Tactic.Lemma
import Mathlib.Data.Nat.Notation
import Mathlib.Data.List.Induction

/-!
Deterministic machines and their runs.

Whatever a machine does not decide by itself is part of the event it gets, so that a
statement about all runs is one about all environments. The rules say how an invariant and a
relation with the history are carried from one step to whole runs.
-/

namespace Sativa

/-- A machine with states `σ`, events `ι` and answers `ω`. -/
structure Machine (σ ι ω : Type) where
  init : σ
  step : σ → ι → ω × σ

namespace Machine

variable {σ ι ω : Type} {m : Machine σ ι ω} {h : List (ι × ω)} {s : σ}

/-- `h` is a history of `m`, the events with their answers, that ends in state `s`. -/
inductive Run (m : Machine σ ι ω) : List (ι × ω) → σ → Prop
  | init : Run m [] m.init
  | snoc {h : List (ι × ω)} {s : σ} (e : ι) (run : Run m h s) :
      Run m (h ++ [(e, (m.step s e).1)]) (m.step s e).2

def Reachable (m : Machine σ ι ω) (s : σ) : Prop := ∃ h, Run m h s

lemma Reachable.init : m.Reachable m.init := ⟨[], .init⟩

lemma Reachable.step (hs : m.Reachable s) (e : ι) : m.Reachable (m.step s e).2 := by
  obtain ⟨h, hr⟩ := hs
  exact ⟨_, hr.snoc e⟩

/-- What holds at first and is kept by every step holds of every reachable state. -/
lemma Reachable.invariant {P : σ → Prop} (hs : m.Reachable s) (init : P m.init)
    (step : ∀ s e, m.Reachable s → P s → P (m.step s e).2) : P s := by
  obtain ⟨h, hr⟩ := hs
  induction hr with
  | init => exact init
  | snoc e hr ih => exact step _ e ⟨_, hr⟩ ih

/-- Reachable by events that are `ok` in the states they come in. -/
inductive ReachableBy (m : Machine σ ι ω) (ok : σ → ι → Prop) : σ → Prop
  | init : ReachableBy m ok m.init
  | step {s : σ} {e : ι} (hs : ReachableBy m ok s) (he : ok s e) : ReachableBy m ok (m.step s e).2

lemma ReachableBy.invariant {ok : σ → ι → Prop} {P : σ → Prop} (hs : m.ReachableBy ok s)
    (init : P m.init) (step : ∀ s e, P s → ok s e → P (m.step s e).2) : P s := by
  induction hs with
  | init => exact init
  | step _ he ih => exact step _ _ ih he

/-- The same along a run, for a relation with the history. -/
lemma Run.relation {R : List (ι × ω) → σ → Prop} (hr : Run m h s) (init : R [] m.init)
    (step : ∀ h s e, Run m h s → R h s → R (h ++ [(e, (m.step s e).1)]) (m.step s e).2) :
    R h s := by
  induction hr with
  | init => exact init
  | snoc e hr ih => exact step _ _ e hr ih

/-- The history and the state after the events `es`. -/
def exec (m : Machine σ ι ω) (es : List ι) : List (ι × ω) × σ :=
  es.foldl (fun r e => (r.1 ++ [(e, (m.step r.2 e).1)], (m.step r.2 e).2)) ([], m.init)

lemma run_exec (es : List ι) : Run m (m.exec es).1 (m.exec es).2 := by
  induction es using List.reverseRecOn with
  | nil => exact .init
  | append_singleton es e ih =>
    rw [exec, List.foldl_append]
    exact ih.snoc e

lemma Run.eq_exec (hr : Run m h s) : m.exec (h.map Prod.fst) = (h, s) := by
  induction hr with
  | init => rfl
  | snoc e _ ih =>
    unfold exec at ih ⊢
    rw [List.map_append, List.foldl_append, ih]
    rfl

/-- The state after the events `es` in state `s`. -/
def after (m : Machine σ ι ω) (s : σ) (es : List ι) : σ := es.foldl (fun s e => (m.step s e).2) s

lemma Reachable.after (hs : m.Reachable s) (es : List ι) : m.Reachable (m.after s es) := by
  induction es generalizing s with
  | nil => exact hs
  | cons e es ih => exact ih (hs.step e)

lemma Reachable.exists_after (hs : m.Reachable s) : ∃ es, m.after m.init es = s := by
  obtain ⟨h, hr⟩ := hs
  induction hr with
  | init => exact ⟨[], rfl⟩
  | snoc e _ ih =>
    obtain ⟨es, rfl⟩ := ih
    exact ⟨es ++ [e], List.foldl_append⟩

/-- A property is kept along the events, or some event among them breaks it. -/
lemma after_or_break {P : σ → Prop} {B : σ → ι → Prop} (es : List ι) (hs : m.Reachable s) (hp : P s)
    (step : ∀ s e, m.Reachable s → P s → B s e ∨ P (m.step s e).2) :
    P (m.after s es) ∨ ∃ before e rest, es = before ++ e :: rest ∧ B (m.after s before) e := by
  induction es generalizing s with
  | nil => exact .inl hp
  | cons e es ih =>
    rcases step s e hs hp with hb | hp'
    · exact .inr ⟨[], e, es, rfl, hb⟩
    · rcases ih (hs.step e) hp' with h | ⟨before, e', rest, rfl, hb⟩
      · exact .inl h
      · exact .inr ⟨e :: before, e', rest, rfl, hb⟩

end Machine

end Sativa
