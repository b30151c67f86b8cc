import Sativa.Machine

/-!
Systems that allow steps, and machines that only take steps that are allowed.

A specification relates a state, an event and an answer with the states that may follow. A machine
is simulated if each of its steps, in the states that are related, is one of the specification.
Then its histories are histories of the specification.
-/

namespace Sativa

/-- A specification with states `τ`, events `ι` and answers `ω`. -/
structure Spec (τ ι ω : Type) where
  init : τ
  step : τ → ι → ω → τ → Prop

variable {σ τ ι ω : Type}

/-- The specification allows the history, which ends in the state. -/
inductive Spec.Run (S : Spec τ ι ω) : List (ι × ω) → τ → Prop
  | init : Run S [] S.init
  | snoc {h : List (ι × ω)} {a a' : τ} {e : ι} {o : ω} (run : Run S h a) (step : S.step a e o a') :
      Run S (h ++ [(e, o)]) a'

namespace Machine

/-- A history of `m` whose events are `ok` in the states they come in. -/
inductive RunBy (m : Machine σ ι ω) (ok : σ → ι → Prop) : List (ι × ω) → σ → Prop
  | init : RunBy m ok [] m.init
  | snoc {h : List (ι × ω)} {s : σ} {e : ι} (run : RunBy m ok h s) (he : ok s e) :
      RunBy m ok (h ++ [(e, (m.step s e).1)]) (m.step s e).2

/-- `R` relates each step of `m`, by an event that is `ok`, to a step that `S` allows. -/
structure Simulates (m : Machine σ ι ω) (ok : σ → ι → Prop) (S : Spec τ ι ω) (R : σ → τ → Prop) :
    Prop where
  init : R m.init S.init
  step : ∀ s a e, R s a → ok s e → ∃ a', S.step a e (m.step s e).1 a' ∧ R (m.step s e).2 a'

variable {m : Machine σ ι ω} {ok : σ → ι → Prop} {S : Spec τ ι ω} {R : σ → τ → Prop}
  {h : List (ι × ω)} {s : σ}

/-- Histories of the machine are histories of the specification. -/
lemma Simulates.run (hsim : m.Simulates ok S R) (hr : m.RunBy ok h s) :
    ∃ a, S.Run h a ∧ R s a := by
  induction hr with
  | init => exact ⟨S.init, .init, hsim.init⟩
  | snoc _ he ih =>
    obtain ⟨a, hrun, hR⟩ := ih
    obtain ⟨a', hstep, hR'⟩ := hsim.step _ a _ hR he
    exact ⟨a', hrun.snoc hstep, hR'⟩

end Machine

end Sativa
