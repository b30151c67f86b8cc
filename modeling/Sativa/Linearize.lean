import Sativa.Interleave
import Mathlib.Data.List.Perm.Basic

/-!
When threads that share a connection behave as if their calls came one after the other.

The rule asks two things: every call has a statement that it can be thought to happen at, and no
rollback undoes what is not the call's own. Then the calls that returned normally can be put in
an order in which they return the same and lead to the same state.
-/

namespace Sativa

namespace System

variable {ε σ ι δ α : Type} {sys : System ε σ ι δ α}

/-! ### The order of the calls -/

/-- The calls of `l` that returned normally, in some order, lead to the state. -/
def Ordered (sys : System ε σ ι δ α) (l : List ((ι ⊕ δ) × Except ε α)) (s : σ) : Prop :=
  ∃ h, sys.sequential.Run h s ∧ h.Perm (l.filter fun p => p.2.isOk)

section Ordered

variable {l ds : List ((ι ⊕ δ) × Except ε α)} {s s' : σ} {c : ι} {a : α} {e : ε}

lemma ordered_init : sys.Ordered [] sys.init := ⟨[], .init, by simp⟩

lemma Ordered.ok {event : ι ⊕ δ} (h : sys.Ordered l s)
    (hstep : sys.sequential.step s event = (.ok a, s')) :
    sys.Ordered (l ++ [(event, .ok a)]) s' := by
  obtain ⟨h, hrun, hperm⟩ := h
  have hsnoc := hrun.snoc event
  rw [hstep] at hsnoc
  refine ⟨_, hsnoc, ?_⟩
  rw [List.filter_append]
  exact hperm.append (.refl _)

lemma Ordered.error {event : ι ⊕ δ} (h : sys.Ordered l s) :
    sys.Ordered (l ++ [(event, .error e)]) s := by
  obtain ⟨h, hrun, hperm⟩ := h
  refine ⟨h, hrun, ?_⟩
  rw [List.filter_append]
  exact hperm.trans (.of_eq (List.append_nil _).symm)

lemma Ordered.hit (h : sys.Ordered l s) (d : δ) :
    sys.Ordered (l ++ [(.inr d, (sys.hit d s).1)]) (sys.hit d s).2 := by
  rcases hd : (sys.hit d s).1 with e | a
  · rw [sys.failed hd]
    exact h.error
  · exact h.ok (Prod.ext hd rfl)

lemma Ordered.hits (h : sys.Ordered l s) (hd : sys.Hits s ds s') : sys.Ordered (l ++ ds) s' := by
  induction hd with
  | nil => rwa [List.append_nil]
  | snoc d _ ih =>
    rw [← List.append_assoc]
    exact ih.hit d

lemma Ordered.perm {l' : List ((ι ⊕ δ) × Except ε α)} (h : sys.Ordered l s) (hl : l.Perm l') :
    sys.Ordered l' s := by
  obtain ⟨h, hrun, hperm⟩ := h
  exact ⟨h, hrun, hperm.trans (hl.filter _)⟩

end Ordered

/-! ### Statements and calls that come right before them -/

section Moving

variable {ds : List ((ι ⊕ δ) × Except ε α)} {act : σ → σ} {next : σ → Steps ε σ α} {s s' : σ}

lemma Mover.hits (h : sys.Mover act next) (hd : sys.Hits s ds s') :
    Failing (next s') ∨ next s' = next s ∧ sys.Hits (act s) ds (act s') := by
  induction hd with
  | nil => exact .inr ⟨rfl, .nil⟩
  | @snoc s' l d _ ih =>
    rcases h d s' with hfail | ⟨hnext, hhit⟩
    · exact .inl hfail
    rcases ih with hfail | ⟨hnext', hhits⟩
    · exact .inl (hnext ▸ hfail)
    · have hsnoc := hhits.snoc d
      rw [hhit] at hsnoc
      exact .inr ⟨hnext.trans hnext', hsnoc⟩

lemma Hits.trans {s₁ s₂ s₃ : σ} {l l' : List ((ι ⊕ δ) × Except ε α)} (h : sys.Hits s₁ l s₂)
    (h' : sys.Hits s₂ l' s₃) : sys.Hits s₁ (l ++ l') s₃ := by
  induction h' with
  | nil => rwa [List.append_nil]
  | snoc d _ ih =>
    rw [← List.append_assoc]
    exact ih.snoc d

end Moving

/-! ### Where a call stands -/

/-- A call in progress fails, is still to happen, or happened before the last calls `ds` without
the lock. -/
inductive Placed (sys : System ε σ ι δ α) (c : ι) (l : List ((ι ⊕ δ) × Except ε α))
    (left : Steps ε σ α) (s : σ) : Prop
  | failing (h : Failing left) : Placed sys c l left s
  | ahead (h : sys.Ahead left) (ordered : sys.Ordered l s)
      (same : ∀ ds s', sys.Hits s ds s' →
        ∃ saved, (sys.prog c).run ⟨none, s'⟩ = left.run ⟨saved, s'⟩) : Placed sys c l left s
  | behind {s₀ s₁ : σ} {l₀ ds : List ((ι ⊕ δ) × Except ε α)} {saved : Option σ}
      (h : sys.Movable left) (list : l = l₀ ++ ds) (ordered : sys.Ordered l₀ s₀)
      (same : (sys.prog c).run ⟨none, s₀⟩ = left.run ⟨saved, s₁⟩) (hits : sys.Hits s₁ ds s) :
      Placed sys c l left s

section Placed

variable {c : ι} {l : List ((ι ⊕ δ) × Except ε α)} {left n : Steps ε σ α} {s : σ}
  {act : σ → σ} {next : σ → Steps ε σ α}

lemma Placed.start (h : sys.Ahead (sys.prog c)) (ho : sys.Ordered l s) :
    sys.Placed c l (sys.prog c) s :=
  .ahead h ho fun _ _ _ => ⟨none, rfl⟩

lemma Placed.hit (h : sys.Placed c l left s) (d : δ) :
    sys.Placed c (l ++ [(.inr d, (sys.hit d s).1)]) left (sys.hit d s).2 := by
  have hone : sys.Hits s ([] ++ [(.inr d, (sys.hit d s).1)]) (sys.hit d s).2 := .snoc d .nil
  cases h with
  | failing h => exact .failing h
  | ahead h ho hsame =>
    exact .ahead h (ho.hit d) fun ds s' hd => hsame _ s' (hone.trans hd)
  | behind h hl ho hsame hd =>
    exact .behind h (by rw [hl, List.append_assoc]) ho hsame (hd.snoc d)

lemma Placed.stmt (h : sys.Placed c l (.stmt act next) s) : sys.Placed c l (next s) (act s) := by
  cases h with
  | failing h => exact .failing (h s)
  | ahead h ho hsame =>
    obtain ⟨saved, hs⟩ := hsame [] s .nil
    rcases h s with hmov | ⟨hstable, hahead⟩
    -- this is where the call happens
    · exact .behind hmov (List.append_nil l).symm ho hs .nil
    · rw [(hstable [] s .nil).1]
      refine .ahead hahead ho fun ds s' hd => ?_
      obtain ⟨saved', hs'⟩ := hsame ds s' hd
      obtain ⟨hact, hnext⟩ := hstable ds s' hd
      refine ⟨saved', hs'.trans ?_⟩
      rw [Steps.run, hact, hnext]
  | behind h hl ho hsame hd =>
    rcases h.1.hits hd with hfail | ⟨hnext, hd'⟩
    · exact .failing hfail
    · rw [hnext]
      exact .behind (h.2 _) hl ho hsame hd'

lemma Placed.begin (h : sys.Placed c l (.begin n) s) : sys.Placed c l n s := by
  cases h with
  | failing h => exact .failing h
  | ahead h ho hsame =>
    refine .ahead h ho fun ds s' hd => ?_
    obtain ⟨saved, hs⟩ := hsame ds s' hd
    exact ⟨some s', hs⟩
  | behind h hl ho hsame hd => exact .behind h hl ho hsame hd

lemma Placed.commit (h : sys.Placed c l (.commit n) s) : sys.Placed c l n s := by
  cases h with
  | failing h => exact .failing h
  | ahead h ho hsame =>
    obtain ⟨saved, hs⟩ := hsame [] s .nil
    exact .behind h (List.append_nil l).symm ho hs .nil
  | behind h hl ho hsame hd => exact .behind h hl ho hsame hd

/-- When a call returns, it takes the place where it happened. -/
lemma Placed.finish {a : α} (h : sys.Placed c l (.done (.ok a)) s) :
    sys.Ordered (l ++ [(.inl c, .ok a)]) s := by
  have hstep : ∀ {s₀ s₁ saved}, (sys.prog c).run ⟨none, s₀⟩ =
      (Steps.done (.ok a)).run ⟨saved, s₁⟩ → sys.sequential.step s₀ (.inl c) = (.ok a, s₁) := by
    intro s₀ s₁ saved hs
    change (((sys.prog c).run ⟨none, s₀⟩).1, ((sys.prog c).run ⟨none, s₀⟩).2.state) = _
    rw [hs]
    rfl
  cases h with
  | failing h =>
    obtain ⟨e, he⟩ := h
    cases he
  | ahead h ho hsame =>
    obtain ⟨saved, hs⟩ := hsame [] s .nil
    exact ho.ok (hstep hs)
  | @behind _ _ l₀ ds _ h hl ho hsame hd =>
    have hswap : (l₀ ++ [(Sum.inl c, Except.ok a)] ++ ds).Perm
        (l ++ [(Sum.inl c, Except.ok a)]) := by
      rw [hl, List.append_assoc, List.append_assoc]
      exact List.perm_append_comm.append_left l₀
    exact ((ho.ok (hstep hsame)).hits hd).perm hswap

end Placed

/-! ### What a call in progress can be undone to -/

/-- Outside a transaction, the call has not changed anything. Inside one, neither the call nor,
if the transaction is not disturbed, the others have changed anything in the state that was
saved. -/
inductive Undoable (sys : System ε σ ι δ α) (disturbed : Bool) (l : List ((ι ⊕ δ) × Except ε α)) :
    Option σ → Steps ε σ α → σ → Prop
  | outside {left : Steps ε σ α} {s : σ} (h : sys.Outside left) (ordered : sys.Ordered l s) :
      Undoable sys disturbed l none left s
  | inside {left : Steps ε σ α} {s s₀ : σ} (h : sys.Inside left)
      (ordered : disturbed = false → sys.Ordered l s₀)
      (below : disturbed = false → ∀ d, sys.changes d s = false →
        sys.changes d s₀ = false ∧ (sys.hit d s₀).1 = (sys.hit d s).1) :
      Undoable sys disturbed l (some s₀) left s

section Undoable

variable {disturbed : Bool} {l : List ((ι ⊕ δ) × Except ε α)} {saved : Option σ}
  {left n : Steps ε σ α} {s s₀ : σ} {act : σ → σ} {next : σ → Steps ε σ α}

lemma Undoable.hit (h : sys.Undoable disturbed l saved left s) (d : δ) :
    sys.Undoable (disturbed || sys.changes d s) (l ++ [(.inr d, (sys.hit d s).1)]) saved left
      (sys.hit d s).2 := by
  cases h with
  | outside h ho => exact .outside h (ho.hit d)
  | inside h ho hbelow =>
    refine .inside h (fun hdist => ?_) fun hdist => ?_
    · obtain ⟨hdist, hsame⟩ := Bool.or_eq_false_iff.mp hdist
      obtain ⟨hsame₀, hanswer⟩ := hbelow hdist d hsame
      have hhit := (ho hdist).hit d
      rwa [hanswer, sys.unchanged hsame₀] at hhit
    · obtain ⟨hdist, hsame⟩ := Bool.or_eq_false_iff.mp hdist
      rw [sys.unchanged hsame]
      exact hbelow hdist

lemma Undoable.stmt (h : sys.Undoable disturbed l saved (.stmt act next) s) :
    sys.Undoable disturbed l saved (next s) (act s) := by
  cases h with
  | outside h ho => exact .outside (h.2 s) ((h.1 s).symm ▸ ho)
  | inside h ho hbelow =>
    refine .inside (h.2 s) ho fun hdist d hd => ?_
    obtain ⟨hs, hanswer⟩ := h.1 d s hd
    obtain ⟨hs₀, hanswer₀⟩ := hbelow hdist d hs
    exact ⟨hs₀, hanswer₀.trans hanswer⟩

lemma Undoable.begin (h : sys.Undoable disturbed l saved (.begin n) s) :
    sys.Undoable false l (some s) n s := by
  cases h with
  | outside h ho => exact .inside h (fun _ => ho) fun _ d hd => ⟨hd, rfl⟩
  | inside h => cases h

lemma Undoable.throw {e : ε} (h : sys.Undoable disturbed l saved (.done (.error e)) s) :
    sys.Ordered l s := by
  cases h with
  | outside _ ho => exact ho
  | inside h => cases h

lemma Undoable.commit (h : sys.Undoable disturbed l saved (.commit n) s) :
    ∃ a, n = .done (.ok a) := by
  cases h with
  | outside h => cases h
  | inside h => exact h

/-- A rollback is the end of a call that throws, and nothing has happened if the transaction was
not disturbed. -/
lemma Undoable.rollback (h : sys.Undoable disturbed l saved (.rollback n) s)
    (hdist : disturbed = false) :
    (∃ e, n = .done (.error e)) ∧ sys.Ordered l (saved.getD s) := by
  cases h with
  | outside h => cases h
  | inside h ho => exact ⟨h, ho hdist⟩

end Undoable

/-! ### Runs of the threads -/

/-- What holds of the threads as long as no other call is undone. -/
def Consistent (sys : System ε σ ι δ α) (s : Shared ε σ ι δ α) : Prop :=
  match s.holder with
  | none => sys.Ordered s.returned s.state
  | some r => sys.Placed r.call s.returned r.left s.state ∧
      sys.Undoable r.disturbed s.returned r.saved r.left s.state

section Consistent

variable {l : List ((ι ⊕ δ) × Except ε α)} {s : σ} {r : Holder ε σ ι α} {t : ℕ}

lemma consistent_settle (hp : sys.Placed r.call l r.left s)
    (hu : (∀ a, r.left ≠ .done (.ok a)) → sys.Undoable r.disturbed l r.saved r.left s) :
    sys.Consistent (settle l (s, r)) := by
  obtain ⟨thread, c, left, saved, disturbed⟩ := r
  cases left with
  | done answer =>
    rcases answer with e | a
    · have hu := hu fun a h => by cases h
      exact hu.throw.error
    · exact hp.finish
  | stmt act next => exact ⟨hp, hu fun a h => by cases h⟩
  | begin n => exact ⟨hp, hu fun a h => by cases h⟩
  | commit n => exact ⟨hp, hu fun a h => by cases h⟩
  | rollback n => exact ⟨hp, hu fun a h => by cases h⟩

lemma consistent_advance (hp : sys.Placed r.call l r.left s)
    (hu : sys.Undoable r.disturbed l r.saved r.left s)
    (hok : ∀ next, r.left = .rollback next → r.disturbed = false) :
    sys.Consistent (settle l (advance s r)) := by
  obtain ⟨thread, c, left, saved, disturbed⟩ := r
  cases left with
  | done answer => exact consistent_settle hp fun _ => hu
  | stmt act next => exact consistent_settle hp.stmt fun _ => hu.stmt
  | begin n => exact consistent_settle hp.begin fun _ => hu.begin
  | commit n =>
    obtain ⟨a, rfl⟩ := hu.commit
    exact consistent_settle hp.commit fun hne => absurd rfl (hne a)
  | rollback n =>
    obtain ⟨⟨e, rfl⟩, ho⟩ := hu.rollback (hok n rfl)
    exact consistent_settle (.failing ⟨e, rfl⟩) fun _ => .outside trivial ho

lemma consistent_step (hprog : ∀ c, sys.Outside (sys.prog c) ∧ sys.Ahead (sys.prog c))
    {s : Shared ε σ ι δ α} (h : sys.Consistent s) {e : ThreadEvent ι δ} (hok : Undisturbed s e) :
    sys.Consistent (sys.threads.step s e).2 := by
  obtain ⟨s, holder, l⟩ := s
  cases e with
  | call t c =>
    cases holder with
    | some r => exact h
    | none =>
      exact consistent_settle (Placed.start (hprog c).2 h) fun _ => .outside (hprog c).1 h
  | next t =>
    cases holder with
    | none => exact h
    | some r =>
      change sys.Consistent (if r.thread = t then settle l (advance s r) else ⟨s, some r, l⟩)
      split_ifs
      · exact consistent_advance h.1 h.2 fun n => hok r n rfl
      · exact h
  | other t d =>
    change sys.Consistent (if holder.any (·.thread == t) then _ else _)
    split_ifs
    · exact h
    · cases holder with
      | none => exact Ordered.hit h d
      | some r => exact ⟨h.1.hit d, h.2.hit d⟩

/-- **Rule**: if every call can be thought to happen at one of its statements, and no rollback
undoes what another call has changed, then whenever no call is in progress, the calls that
returned normally have returned what they return one after the other in some order, which leads
to the state. -/
theorem ordered_of_undisturbed (hprog : ∀ c, sys.Outside (sys.prog c) ∧ sys.Ahead (sys.prog c))
    {s : Shared ε σ ι δ α} (h : sys.threads.ReachableBy Undisturbed s)
    (hidle : s.holder = none) : sys.Ordered s.returned s.state := by
  have hc : sys.Consistent s := h.invariant ordered_init fun _ _ hc => consistent_step hprog hc
  obtain ⟨s, holder, l⟩ := s
  cases hidle
  exact hc

end Consistent

end System

end Sativa
