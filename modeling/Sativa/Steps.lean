import Sativa.Prog

/-!
Programs as a database connection sees them, one statement at a time.

A transaction belongs to the connection, not to the program that began it: what others do on the
connection in the meantime is undone with it. Run without interruption, the steps of a program
are a `Prog` again.
-/

namespace Sativa

/-- What is left of a program. What a statement does and how the program goes on depend on the
state that the statement finds. -/
inductive Steps (ε σ α : Type)
  | done (r : Except ε α)
  | stmt (act : σ → σ) (next : σ → Steps ε σ α)
  | begin (next : Steps ε σ α)
  | commit (next : Steps ε σ α)
  | rollback (next : Steps ε σ α)

/-- A connection: its state, and the state at the beginning of the open transaction. -/
structure Conn (σ : Type) where
  saved : Option σ
  state : σ

namespace Steps

variable {ε σ α β : Type}

/-- Go on with `k`, also after an exception. -/
def andThen : Steps ε σ α → (Except ε α → Steps ε σ β) → Steps ε σ β
  | done r, k => k r
  | stmt act next, k => stmt act fun s => (next s).andThen k
  | begin next, k => begin (next.andThen k)
  | commit next, k => commit (next.andThen k)
  | rollback next, k => rollback (next.andThen k)

/-- Go on with `f` after a normal return. -/
def onOk (f : α → Steps ε σ β) : Except ε α → Steps ε σ β
  | .ok a => f a
  | .error e => done (.error e)

instance : Monad (Steps ε σ) where
  pure a := done (.ok a)
  bind x f := x.andThen (onOk f)

/-- A program that the database sees as one statement. -/
def atom (x : Prog ε σ α) : Steps ε σ α := stmt (fun s => (x.run s).2) fun s => done (x.run s).1

def throwIf (c : Prop) [Decidable c] (e : ε) : Steps ε σ Unit :=
  if c then done (.error e) else pure ()

def when (c : Prop) [Decidable c] (x : Steps ε σ Unit) : Steps ε σ Unit := if c then x else pure ()

/-- The end of a transaction. `COMMIT` may fail. -/
def endTransaction (fault : Option ε) : Except ε α → Steps ε σ α
  | .error e => rollback (done (.error e))
  | .ok a => match fault with
    | none => commit (done (.ok a))
    | some e => stmt id fun _ => rollback (done (.error e))

/-- The scope of a transaction. `BEGIN` may fail too. -/
def transaction (start fault : Option ε) (body : Steps ε σ α) : Steps ε σ α :=
  match start with
  | none => begin (body.andThen (endTransaction fault))
  | some e => stmt id fun _ => done (.error e)

/-- The steps without anything in between. -/
def run : Steps ε σ α → Conn σ → Except ε α × Conn σ
  | done r, c => (r, c)
  | stmt act next, c => (next c.state).run ⟨c.saved, act c.state⟩
  | begin next, c => next.run ⟨some c.state, c.state⟩
  | commit next, c => next.run ⟨none, c.state⟩
  | rollback next, c => next.run ⟨none, c.saved.getD c.state⟩

lemma run_andThen (x : Steps ε σ α) (k : Except ε α → Steps ε σ β) (c : Conn σ) :
    (x.andThen k).run c = (k (x.run c).1).run (x.run c).2 := by
  induction x generalizing c with
  | done r => rfl
  | stmt act next ih => exact ih c.state _
  | begin next ih => exact ih _
  | commit next ih => exact ih _
  | rollback next ih => exact ih _

/-! ### Steps that implement a program -/

/-- Without interruption, `x` does what `p` does, in a transaction or not. -/
def Implements (x : Steps ε σ α) (p : Prog ε σ α) : Prop :=
  ∀ saved s, x.run ⟨saved, s⟩ = ((p.run s).1, ⟨saved, (p.run s).2⟩)

section Implements

variable {x : Steps ε σ α} {p : Prog ε σ α} {f : α → Steps ε σ β} {g : α → Prog ε σ β}

lemma implements_atom (p : Prog ε σ α) : (atom p).Implements p := fun _ _ => rfl

lemma implements_pure (a : α) : (pure a : Steps ε σ α).Implements (pure a) := fun _ _ => rfl

lemma implements_fail (e : ε) : (done (.error e) : Steps ε σ α).Implements (.fail e) :=
  fun _ _ => rfl

lemma run_bind_of_run {saved : Option σ} {s : σ}
    (hx : x.run ⟨saved, s⟩ = ((p.run s).1, ⟨saved, (p.run s).2⟩))
    (hf : ∀ a s, (f a).run ⟨saved, s⟩ = (((g a).run s).1, ⟨saved, ((g a).run s).2⟩)) :
    (x >>= f).run ⟨saved, s⟩ = (((p >>= g).run s).1, ⟨saved, ((p >>= g).run s).2⟩) := by
  change (x.andThen (onOk f)).run _ = _
  rw [run_andThen, hx]
  rcases hr : p.run s with ⟨e | a, s'⟩
  · rw [Prog.run_bind_of_error hr]
    rfl
  · rw [Prog.run_bind_of_ok hr]
    exact hf a s'

lemma Implements.bind (hx : x.Implements p) (hf : ∀ a, (f a).Implements (g a)) :
    (x >>= f).Implements (p >>= g) :=
  fun saved s => run_bind_of_run (hx saved s) fun a => hf a saved

lemma implements_throwIf {c : Prop} [Decidable c] (e : ε) :
    (throwIf c e : Steps ε σ Unit).Implements (.throwIf c e) := by
  unfold throwIf Prog.throwIf
  split_ifs
  · exact implements_fail e
  · exact implements_pure ()

lemma Implements.when {c : Prop} [Decidable c] {x : Steps ε σ Unit} {p : Prog ε σ Unit}
    (hx : x.Implements p) : (when c x).Implements (.when c p) := by
  unfold Steps.when Prog.when
  split_ifs
  · exact hx
  · exact implements_pure ()

lemma run_transaction (hx : x.Implements p) (start fault : Option ε) (s : σ) :
    (transaction start fault x).run ⟨none, s⟩ = match start, p.run s, fault with
      | some e, _, _ => (.error e, ⟨none, s⟩)
      | none, (.error e, _), _ => (.error e, ⟨none, s⟩)
      | none, (.ok _, _), some e => (.error e, ⟨none, s⟩)
      | none, (.ok a, s'), none => (.ok a, ⟨none, s'⟩) := by
  rcases start with _ | e
  · change (x.andThen (endTransaction fault)).run ⟨some s, s⟩ = _
    rw [run_andThen, hx]
    rcases p.run s with ⟨e | a, s'⟩
    · rfl
    · rcases fault with _ | e <;> rfl
  · rfl

end Implements

end Steps

end Sativa
