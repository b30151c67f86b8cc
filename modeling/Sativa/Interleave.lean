import Sativa.Machine
import Sativa.Steps

/-!
Threads that share a database connection.

Calls that take the lock run one at a time, statement by statement. Calls that do not take it are
one statement each and come at any time, also inside the transaction of the holder of the lock,
whose rollback then undoes them. This module says what the calls have to be like to be ordered
one after the other, and how such calls are built.
-/

namespace Sativa

/-- The calls of the threads: `prog` are the calls with the lock, `hit` those without. A call
without the lock that `changes` nothing, or fails, leaves the state alone. -/
structure System (ε σ ι δ α : Type) where
  init : σ
  prog : ι → Steps ε σ α
  hit : δ → σ → Except ε α × σ
  changes : δ → σ → Bool
  unchanged : ∀ {d s}, changes d s = false → (hit d s).2 = s
  failed : ∀ {d s e}, (hit d s).1 = .error e → (hit d s).2 = s

/-- The call that holds the lock. -/
structure Holder (ε σ ι α : Type) where
  thread : ℕ
  call : ι
  left : Steps ε σ α
  saved : Option σ
  /-- another call has changed something since the transaction began -/
  disturbed : Bool

/-- The connection, the call that holds its lock, and what the calls have returned so far. -/
structure Shared (ε σ ι δ α : Type) where
  state : σ
  holder : Option (Holder ε σ ι α)
  returned : List ((ι ⊕ δ) × Except ε α)

inductive ThreadEvent (ι δ : Type)
  /-- the thread takes the lock for a call -/
  | call (thread : ℕ) (c : ι)
  /-- the thread that has the lock comes to its next statement -/
  | next (thread : ℕ)
  /-- a call without the lock -/
  | other (thread : ℕ) (d : δ)

namespace System

variable {ε σ ι δ α : Type} (sys : System ε σ ι δ α)

/-- One call after the other. -/
def sequential : Machine σ (ι ⊕ δ) (Except ε α) where
  init := sys.init
  step s
    | .inl c => (((sys.prog c).run ⟨none, s⟩).1, ((sys.prog c).run ⟨none, s⟩).2.state)
    | .inr d => sys.hit d s

/-- One statement, a `BEGIN`, a `COMMIT` or a `ROLLBACK` of the holder. -/
def advance (s : σ) (r : Holder ε σ ι α) : σ × Holder ε σ ι α :=
  match r.left with
  | .done _ => (s, r)
  | .stmt act next => (act s, { r with left := next s })
  | .begin next => (s, { r with left := next, saved := some s, disturbed := false })
  | .commit next => (s, { r with left := next, saved := none })
  | .rollback next => (r.saved.getD s, { r with left := next, saved := none })

/-- A call that is done returns and gives the lock back. -/
def settle (returned : List ((ι ⊕ δ) × Except ε α)) (x : σ × Holder ε σ ι α) :
    Shared ε σ ι δ α :=
  match x.2.left with
  | .done answer => ⟨x.1, none, returned ++ [(.inl x.2.call, answer)]⟩
  | _ => ⟨x.1, some x.2, returned⟩

/-- The threads. What a thread cannot do now is without effect. -/
def threads : Machine (Shared ε σ ι δ α) (ThreadEvent ι δ) Unit where
  init := ⟨sys.init, none, []⟩
  step s e := ((), match e, s.holder with
    | .call t c, none => settle s.returned (s.state, ⟨t, c, sys.prog c, none, false⟩)
    | .call _ _, some _ => s
    | .next t, some r => if r.thread = t then settle s.returned (advance s.state r) else s
    | .next _, none => s
    | .other t d, holder =>
      if holder.any (·.thread == t) then s
      else ⟨(sys.hit d s.state).2,
        holder.map fun r => { r with disturbed := r.disturbed || sys.changes d s.state },
        s.returned ++ [(.inr d, (sys.hit d s.state).1)]⟩)

/-- The next statement is no rollback of a transaction in which another call has changed
something. -/
def Undisturbed (s : Shared ε σ ι δ α) : ThreadEvent ι δ → Prop
  | .next _ => ∀ r next, s.holder = some r → r.left = .rollback next → r.disturbed = false
  | _ => True

/-! ### What the calls have to be like -/

/-- The calls `l` without the lock lead from one state to the other. -/
inductive Hits (s : σ) : List ((ι ⊕ δ) × Except ε α) → σ → Prop
  | nil : Hits s [] s
  | snoc {s' : σ} {l : List ((ι ⊕ δ) × Except ε α)} (d : δ) (h : Hits s l s') :
      Hits s (l ++ [(.inr d, (sys.hit d s').1)]) (sys.hit d s').2

variable {β : Type}

/-- All ways to go on end in an exception. -/
def Failing : Steps ε σ β → Prop
  | .done r => ∃ e, r = .error e
  | .stmt _ next => ∀ s, Failing (next s)
  | .begin next => Failing next
  | .commit next => Failing next
  | .rollback next => Failing next

/-- A statement right after another call could as well have come right before it, unless it makes
its own call fail. -/
def Mover (act : σ → σ) (next : σ → Steps ε σ β) : Prop :=
  ∀ d s, Failing (next (sys.hit d s).2) ∨ next (sys.hit d s).2 = next s ∧
    sys.hit d (act s) = ((sys.hit d s).1, act (sys.hit d s).2)

/-- The call happened before: all its statements can be moved back to where that was. -/
def Movable : Steps ε σ β → Prop
  | .done _ => True
  | .stmt act next => sys.Mover act next ∧ ∀ s, Movable (next s)
  | .begin next => Movable next
  | .commit next => Movable next
  | .rollback next => Movable next

/-- The call is still to happen, at the next statement or later. Until then its statements read
what other calls do not change. -/
def Ahead : Steps ε σ β → Prop
  | .done _ => True
  | .stmt act next => ∀ s, sys.Movable (next s) ∨
      (∀ l s', sys.Hits s l s' → act s' = s' ∧ next s' = next s) ∧ Ahead (next s)
  | .begin next => Ahead next
  | .commit next => sys.Movable next
  | .rollback next => sys.Movable next

/-- A statement does not take from another call what it would change. -/
def Keeps (act : σ → σ) : Prop := ∀ d s, sys.changes d (act s) = false →
  sys.changes d s = false ∧ (sys.hit d s).1 = (sys.hit d (act s)).1

/-- In a transaction, which ends the call. -/
def Inside : Steps ε σ β → Prop
  | .done _ => False
  | .stmt act next => sys.Keeps act ∧ ∀ s, Inside (next s)
  | .begin _ => False
  | .commit next => ∃ a, next = .done (.ok a)
  | .rollback next => ∃ e, next = .done (.error e)

/-- Not in a transaction, where a call only reads. -/
def Outside : Steps ε σ β → Prop
  | .done _ => True
  | .stmt act next => (∀ s, act s = s) ∧ ∀ s, Outside (next s)
  | .begin next => sys.Inside next
  | .commit _ => False
  | .rollback _ => False

/-! ### How such calls are built -/

/-- A program that returns right after another call could as well have run right before it. -/
def Moves (p : Prog ε σ β) : Prop := ∀ d s b s', p.run (sys.hit d s).2 = (.ok b, s') →
  ∃ s₁, p.run s = (.ok b, s₁) ∧ sys.hit d s₁ = ((sys.hit d s).1, s')

/-- Statements that keep what other calls would change. -/
def Plain : Steps ε σ β → Prop
  | .done _ => True
  | .stmt act next => sys.Keeps act ∧ ∀ s, Plain (next s)
  | .begin _ => False
  | .commit _ => False
  | .rollback _ => False

variable {sys}

section Building

variable {γ : Type} {x : Steps ε σ β} {p : Prog ε σ β} {f : β → Steps ε σ γ}
  {g : β → Prog ε σ γ} {k : Except ε β → Steps ε σ γ} {start fault : Option ε}

lemma Moves.bind (hp : sys.Moves p) (hg : ∀ b, sys.Moves (g b)) : sys.Moves (p >>= g) := by
  intro d s c s' h
  obtain ⟨b, s₂, hb, hc⟩ := Prog.bind_ok.mp h
  obtain ⟨s₁, hb₁, hhit⟩ := hp d s b s₂ hb
  have hs₂ : (sys.hit d s₁).2 = s₂ := by rw [hhit]
  obtain ⟨s₃, hc₃, hhit₃⟩ := hg b d s₁ c s' (hs₂ ▸ hc)
  refine ⟨s₃, Prog.bind_ok.mpr ⟨b, s₁, hb₁, hc₃⟩, ?_⟩
  rw [hhit₃, hhit]

lemma moves_of_const {r : Except ε β} (h : ∀ s, p.run s = (r, s)) : sys.Moves p := by
  intro d s b s' hb
  rw [h] at hb
  obtain ⟨rfl, rfl⟩ := Prod.mk.inj hb
  exact ⟨s, h s, rfl⟩

/-! Calls that happened before -/

lemma failing_andThen (hx : Failing x) (hk : ∀ e, Failing (k (.error e))) :
    Failing (x.andThen k) := by
  induction x with
  | done r =>
    obtain ⟨e, rfl⟩ := hx
    exact hk e
  | stmt act next ih => exact fun s => ih s (hx s)
  | begin next ih => exact ih hx
  | commit next ih => exact ih hx
  | rollback next ih => exact ih hx

lemma movable_andThen (hx : sys.Movable x) (hfail : ∀ e, Failing (k (.error e)))
    (hk : ∀ r, sys.Movable (k r)) : sys.Movable (x.andThen k) := by
  induction x with
  | done r => exact hk r
  | stmt act next ih =>
    refine ⟨fun d s => ?_, fun s => ih s (hx.2 s)⟩
    rcases hx.1 d s with h | ⟨hnext, hhit⟩
    · exact .inl (failing_andThen h hfail)
    · exact .inr ⟨congrArg (·.andThen k) hnext, hhit⟩
  | begin next ih => exact ih hx
  | commit next ih => exact ih hx
  | rollback next ih => exact ih hx

lemma movable_onOk (hf : ∀ b, sys.Movable (f b)) (r : Except ε β) :
    sys.Movable (Steps.onOk f r) := by
  cases r with
  | error e => trivial
  | ok b => exact hf b

lemma movable_bind (hx : sys.Movable x) (hf : ∀ b, sys.Movable (f b)) : sys.Movable (x >>= f) :=
  movable_andThen hx (fun e => ⟨e, rfl⟩) (movable_onOk hf)

lemma movable_atom (hp : sys.Moves p) : sys.Movable (.atom p) := by
  refine ⟨fun d s => ?_, fun s => trivial⟩
  rcases hr : p.run (sys.hit d s).2 with ⟨e | b, s'⟩
  · exact .inl ⟨e, by rw [hr]⟩
  · obtain ⟨s₁, hs₁, hhit⟩ := hp d s b s' hr
    exact .inr ⟨by simp only [hr, hs₁], by simp only [hr, hs₁, hhit]⟩

lemma movable_when {c : Prop} [Decidable c] {x : Steps ε σ Unit} (hx : sys.Movable x) :
    sys.Movable (.when c x) := by
  unfold Steps.when
  split_ifs
  · exact hx
  · trivial

lemma movable_endTransaction (r : Except ε β) : sys.Movable (Steps.endTransaction fault r) := by
  rcases r with e | b
  · trivial
  · rcases fault with _ | e
    · trivial
    · exact ⟨fun _ _ => .inl ⟨e, rfl⟩, fun _ => trivial⟩

lemma movable_inTransaction (hx : sys.Movable x) :
    sys.Movable (x.andThen (Steps.endTransaction fault)) :=
  movable_andThen hx (fun e => ⟨e, rfl⟩) movable_endTransaction

lemma movable_transaction (hx : sys.Movable x) : sys.Movable (.transaction start fault x) := by
  rcases start with _ | e
  · exact movable_inTransaction hx
  · exact ⟨fun _ _ => .inl ⟨e, rfl⟩, fun _ => trivial⟩

/-! Calls that are still to happen -/

lemma ahead_onOk (hx : sys.Ahead x) (g : β → γ) : sys.Ahead (x >>= fun b => pure (g b)) := by
  have hmov : ∀ y : Steps ε σ β, sys.Movable y → sys.Movable (y >>= fun b => pure (g b)) :=
    fun y hy => movable_bind hy fun _ => trivial
  induction x with
  | done r => rcases r with e | b <;> trivial
  | stmt act next ih =>
    intro s
    rcases hx s with h | ⟨hstable, hahead⟩
    · exact .inl (hmov _ h)
    · refine .inr ⟨fun l s' hl => ?_, ih s hahead⟩
      obtain ⟨hact, hnext⟩ := hstable l s' hl
      exact ⟨hact, congrArg (· >>= fun b => pure (g b)) hnext⟩
  | begin next ih => exact ih hx
  | commit next => exact hmov _ hx
  | rollback next => exact hmov _ hx

lemma ahead_throwIf {c : Prop} [Decidable c] {e : ε} {f : Unit → Steps ε σ γ}
    (hf : sys.Ahead (f ())) : sys.Ahead (Steps.throwIf c e >>= f) := by
  unfold Steps.throwIf
  split_ifs
  · trivial
  · exact hf

/-- A transaction happens at its first statement. -/
lemma ahead_transaction (hf : ∀ b, sys.Movable (f b)) :
    sys.Ahead (.transaction start fault (.atom p >>= f)) := by
  rcases start with _ | e
  · intro s
    have hnext : sys.Movable (Steps.onOk f (p.run s).1) := movable_onOk hf _
    exact .inl (movable_inTransaction hnext)
  · exact fun _ => .inl trivial

/-! Calls that change nothing outside a transaction -/

lemma keeps_id : sys.Keeps id := fun _ _ h => ⟨h, rfl⟩

lemma plain_atom (hp : sys.Keeps fun s => (p.run s).2) : sys.Plain (.atom p) :=
  ⟨hp, fun _ => trivial⟩

lemma plain_bind (hx : sys.Plain x) (hf : ∀ b, sys.Plain (f b)) : sys.Plain (x >>= f) := by
  induction x with
  | done r =>
    rcases r with e | b
    · trivial
    · exact hf b
  | stmt act next ih => exact ⟨hx.1, fun s => ih s (hx.2 s)⟩
  | begin next => cases hx
  | commit next => cases hx
  | rollback next => cases hx

lemma plain_when {c : Prop} [Decidable c] {x : Steps ε σ Unit} (hx : sys.Plain x) :
    sys.Plain (.when c x) := by
  unfold Steps.when
  split_ifs
  · exact hx
  · trivial

lemma inside_endTransaction (hx : sys.Plain x) :
    sys.Inside (x.andThen (Steps.endTransaction fault)) := by
  induction x with
  | done r =>
    rcases r with e | b
    · exact ⟨e, rfl⟩
    · rcases fault with _ | e
      · exact ⟨b, rfl⟩
      · exact ⟨keeps_id, fun _ => ⟨e, rfl⟩⟩
  | stmt act next ih => exact ⟨hx.1, fun s => ih s (hx.2 s)⟩
  | begin next => cases hx
  | commit next => cases hx
  | rollback next => cases hx

lemma outside_transaction (hx : sys.Plain x) : sys.Outside (.transaction start fault x) := by
  rcases start with _ | e
  · exact inside_endTransaction hx
  · exact ⟨fun _ => rfl, fun _ => trivial⟩

lemma outside_throwIf {c : Prop} [Decidable c] {e : ε} {f : Unit → Steps ε σ γ}
    (hf : sys.Outside (f ())) : sys.Outside (Steps.throwIf c e >>= f) := by
  unfold Steps.throwIf
  split_ifs
  · trivial
  · exact hf

lemma inside_onOk (hx : sys.Inside x) (g : β → γ) : sys.Inside (x >>= fun b => pure (g b)) := by
  induction x with
  | done r => cases hx
  | stmt act next ih => exact ⟨hx.1, fun s => ih s (hx.2 s)⟩
  | begin next => cases hx
  | commit next =>
    obtain ⟨b, rfl⟩ := hx
    exact ⟨g b, rfl⟩
  | rollback next =>
    obtain ⟨e, rfl⟩ := hx
    exact ⟨e, rfl⟩

lemma outside_onOk (hx : sys.Outside x) (g : β → γ) : sys.Outside (x >>= fun b => pure (g b)) := by
  induction x with
  | done r => rcases r with e | b <;> trivial
  | stmt act next ih => exact ⟨hx.1, fun s => ih s (hx.2 s)⟩
  | begin next => exact inside_onOk hx g
  | commit next => cases hx
  | rollback next => cases hx

end Building

end System

end Sativa
