import Sativa.Prog

/-!
Pre- and postconditions of programs, and programs that agree until one of them stops.

There is one rule for each way to build a program. `Ensures` is about one program that returns or
throws; `Agrees` compares two that differ in places where one of them gives up; `Decided` is about
programs whose choices do not depend on the state.
-/

namespace Sativa

namespace Prog

variable {ε σ α β : Type} {x y : Prog ε σ α} {f g : α → Prog ε σ β} {P P' : σ → Prop}
  {Q Q' : α → σ → Prop} {R : β → σ → Prop} {E E' : ε → σ → Prop} {a : α} {e : ε}

/-- `Q` of what is returned, and `E` of what is thrown. -/
def Post (Q : α → σ → Prop) (E : ε → σ → Prop) : Except ε α × σ → Prop
  | (.ok a, s) => Q a s
  | (.error e, s) => E e s

/-- Where `P` holds, `x` returns with `Q` or throws with `E`. -/
def Ensures (P : σ → Prop) (x : Prog ε σ α) (Q : α → σ → Prop) (E : ε → σ → Prop) : Prop :=
  ∀ s, P s → Post Q E (x.run s)

/-- Where `P` holds it still holds after `x`. -/
abbrev Keeps (P : σ → Prop) (x : Prog ε σ α) (E : ε → σ → Prop) : Prop :=
  Ensures P x (fun _ => P) E

namespace Ensures

lemma pure (h : ∀ s, P s → Q a s) : Ensures P (pure a) Q E := h

lemma fail (h : ∀ s, P s → E e s) : Ensures P (fail e : Prog ε σ α) Q E := h

lemma get {Q : σ → σ → Prop} (h : ∀ s, P s → Q s s) : Ensures P (get : Prog ε σ σ) Q E := h

lemma modify {k : σ → σ} {Q : Unit → σ → Prop} (h : ∀ s, P s → Q () (k s)) :
    Ensures P (modify k) Q E := h

lemma ofExcept {z : Except ε α} (hok : ∀ a s, P s → z = .ok a → Q a s)
    (herror : ∀ e s, P s → z = .error e → E e s) : Ensures P (ofExcept z) Q E := by
  intro s hs
  rcases z with e | a
  · exact herror e s hs rfl
  · exact hok a s hs rfl

lemma throwIf {c : Prop} [Decidable c] {Q : Unit → σ → Prop} (herror : ∀ s, P s → c → E e s)
    (hok : ∀ s, P s → ¬ c → Q () s) : Ensures P (throwIf c e) Q E := by
  intro s hs
  by_cases hc : c
  · rw [throwIf_pos hc]
    exact herror s hs hc
  · rw [throwIf_neg hc]
    exact hok s hs hc

lemma when {c : Prop} [Decidable c] {x : Prog ε σ Unit} {Q : Unit → σ → Prop}
    (hx : c → Ensures P x Q E) (hok : ∀ s, P s → ¬ c → Q () s) : Ensures P (when c x) Q E := by
  by_cases hc : c
  · rw [Prog.when, if_pos hc]
    exact hx hc
  · rw [Prog.when, if_neg hc]
    exact pure fun s hs => hok s hs hc

lemma when_neg {c : Prop} [Decidable c] {x : Prog ε σ Unit} (hc : ¬ c) :
    Keeps P (Prog.when c x) E := when (fun h => absurd h hc) fun _ hs _ => hs

lemma bind (hx : Ensures P x Q E) (hf : ∀ a, Ensures (Q a) (f a) R E) :
    Ensures P (x >>= f) R E := by
  intro s hs
  have hpost := hx s hs
  rcases hr : x.run s with ⟨e | a, s₁⟩
  · rw [hr] at hpost
    rw [run_bind_of_error hr]
    exact hpost
  · rw [hr] at hpost
    rw [run_bind_of_ok hr]
    exact hf a s₁ hpost

lemma bind_fact {φ : α → Prop} (hx : Ensures P x (fun a s => Q a s ∧ φ a) E)
    (hf : ∀ a, φ a → Ensures (Q a) (f a) R E) : Ensures P (x >>= f) R E :=
  hx.bind fun a s hs => hf a hs.2 s hs.1

lemma weaken (h : Ensures P x Q E) (hP : ∀ s, P' s → P s) (hQ : ∀ a s, Q a s → Q' a s)
    (hE : ∀ e s, E e s → E' e s) : Ensures P' x Q' E' := by
  intro s hs
  have hpost := h s (hP s hs)
  rcases hr : x.run s with ⟨e | a, s₁⟩ <;> rw [hr] at hpost
  · exact hE e s₁ hpost
  · exact hQ a s₁ hpost

lemma state (h : Ensures P x (fun _ => P') fun _ => P') {s : σ} (hs : P s) : P' (x.run s).2 := by
  have hpost := h s hs
  rcases hr : x.run s with ⟨e | a, s₁⟩ <;> rw [hr] at hpost <;> exact hpost

lemma trivial : Ensures P x (fun _ _ => True) fun _ _ => True := by
  intro s _
  rcases x.run s with ⟨e | a, s₁⟩ <;> exact True.intro

/-- A loop over a list with an invariant. -/
lemma forM {ι : Type} {l : List ι} {body : ι → Prog ε σ PUnit}
    (h : ∀ i ∈ l, Keeps P (body i) E) : Keeps P (l.forM body) E := by
  induction l with
  | nil => exact pure fun s hs => hs
  | cons i l ih =>
    change Keeps P (body i >>= fun _ => l.forM body) E
    exact (h i (by simp)).bind fun _ => ih fun j hj => h j (List.mem_cons_of_mem _ hj)

/-- A loop over a list with the positions, where the invariant depends on the position. -/
lemma forM_zipIdx {ι : Type} {l : List ι} {body : ι × ℕ → Prog ε σ PUnit} {I : ℕ → σ → Prop}
    (k : ℕ) (h : ∀ i m, Ensures (I m) (body (i, m)) (fun _ => I (m + 1)) E) :
    Ensures (I k) ((l.zipIdx k).forM body) (fun _ => I (k + l.length)) E := by
  induction l generalizing k with
  | nil => exact pure fun s hs => hs
  | cons i l ih =>
    have hrest := ih (k + 1)
    rw [Nat.add_assoc, Nat.add_comm 1] at hrest
    exact (h i k).bind fun _ => hrest

lemma forM_range {body : ℕ → Prog ε σ PUnit} {I : ℕ → σ → Prop} {n : ℕ}
    (h : ∀ i < n, Ensures (I i) (body i) (fun _ => I (i + 1)) E) :
    Ensures (I 0) ((List.range n).forM body) (fun _ => I n) E := by
  induction n with
  | zero => exact pure fun _ hs => hs
  | succ n ih =>
    have hsplit : (List.range (n + 1)).forM body =
        (List.range n).forM body >>= fun _ => [n].forM body := by
      rw [List.range_succ]
      exact List.forM_append
    rw [hsplit]
    refine (ih fun i hi => h i (Nat.lt_succ_of_lt hi)).bind fun _ => ?_
    exact (h n (Nat.lt_succ_self n)).bind fun _ => pure fun _ hs => hs

end Ensures

/-! ### Programs that agree -/

/-- Where `I` holds, `x` and `y` do the same and `I` holds again if they return; or `y` stops, and
`x` goes on to a state with `B`. -/
def Agrees (I B : σ → Prop) (Stop : ε → σ → Prop) (x y : Prog ε σ α) : Prop :=
  ∀ s, I s → (x.run s = y.run s ∧ Post (fun _ => I) (fun _ _ => True) (x.run s)) ∨
    (B (x.run s).2 ∧ Post (fun _ _ => False) Stop (y.run s))

namespace Agrees

variable {I B : σ → Prop} {Stop : ε → σ → Prop}

lemma refl (h : Keeps I x fun _ _ => True) : Agrees I B Stop x x :=
  fun s hs => .inl ⟨rfl, h s hs⟩

lemma ite {c : Prop} [Decidable c] {x' y' : Prog ε σ α} (h : Agrees I B Stop x y)
    (h' : Agrees I B Stop x' y') :
    Agrees I B Stop (if c then x else x') (if c then y else y') := by
  by_cases hc : c
  · rwa [if_pos hc, if_pos hc]
  · rwa [if_neg hc, if_neg hc]

lemma when {c : Prop} [Decidable c] {x y : Prog ε σ Unit} (h : Agrees I B Stop x y) :
    Agrees I B Stop (when c x) (when c y) :=
  h.ite (refl (Ensures.pure fun _ hs => hs))

lemma bind_left (hx : Keeps I x fun _ _ => True) (hf : ∀ a, Agrees I B Stop (f a) (g a)) :
    Agrees I B Stop (x >>= f) (x >>= g) := by
  intro s hs
  have hpost := hx s hs
  rcases hr : x.run s with ⟨e | a, s₁⟩
  · rw [run_bind_of_error hr, run_bind_of_error hr]
    exact .inl ⟨rfl, trivial⟩
  · rw [hr] at hpost
    rw [run_bind_of_ok hr, run_bind_of_ok hr]
    exact hf a s₁ hpost

lemma bind (hx : Agrees I B Stop x y) (hf : ∀ a, Agrees I B Stop (f a) (g a))
    (hb : ∀ a, Keeps B (f a) fun _ => B) : Agrees I B Stop (x >>= f) (y >>= g) := by
  intro s hs
  rcases hx s hs with ⟨hsame, hpost⟩ | ⟨hbad, hstop⟩
  · rcases hr : x.run s with ⟨e | a, s₁⟩
    · rw [run_bind_of_error hr, run_bind_of_error (hsame ▸ hr)]
      exact .inl ⟨rfl, trivial⟩
    · rw [run_bind_of_ok hr, run_bind_of_ok (hsame ▸ hr)]
      rw [hr] at hpost
      exact hf a s₁ hpost
  · right
    rcases hr : y.run s with ⟨e | a, s₁⟩
    · rw [hr] at hstop
      rw [run_bind_of_error hr]
      refine ⟨?_, hstop⟩
      rcases hrx : x.run s with ⟨e' | a', s₂⟩ <;> rw [hrx] at hbad
      · rwa [run_bind_of_error hrx]
      · rw [run_bind_of_ok hrx]
        exact (hb a').state hbad
    · rw [hr] at hstop
      exact hstop.elim

lemma forM {ι : Type} {l : List ι} {body body' : ι → Prog ε σ PUnit}
    (h : ∀ i, Agrees I B Stop (body i) (body' i)) (hb : ∀ i, Keeps B (body i) fun _ => B) :
    Agrees I B Stop (l.forM body) (l.forM body') := by
  induction l with
  | nil => exact refl (Ensures.pure fun s hs => hs)
  | cons i l ih =>
    change Agrees I B Stop (body i >>= fun _ => l.forM body) (body' i >>= fun _ => l.forM body')
    exact (h i).bind (fun _ => ih) fun _ => Ensures.forM fun j _ => hb j

end Agrees

/-! ### Programs that are decided before they run -/

/-- In any state, `x` returns exactly if there is a value with which `y` returns, and then does the
same. -/
def Decided {ν : Type} (x : Prog ε σ PUnit) (v : Option ν) (y : ν → Prog ε σ PUnit) : Prop :=
  ∀ s s', x.run s = (.ok ⟨⟩, s') ↔ ∃ a, v = some a ∧ (y a).run s = (.ok ⟨⟩, s')

namespace Decided

variable {ν μ : Type} {x x' : Prog ε σ PUnit} {v : Option ν} {w : Option μ}
  {y : ν → Prog ε σ PUnit} {z : μ → Prog ε σ PUnit} {e : ε}

lemma some {a : ν} (h : x = y a) : Decided x (some a) y := by
  intro s s'
  rw [h]
  constructor
  · intro hrun
    exact ⟨a, rfl, hrun⟩
  · rintro ⟨_, ha, hrun⟩
    obtain rfl := Option.some.inj ha
    exact hrun

lemma fail : Decided (fail e) none y := by
  intro s s'
  constructor
  · intro h
    cases h
  · rintro ⟨_, h, -⟩
    cases h

lemma throwIf_bind {c : Prop} [Decidable c] (h : ¬ c → Decided x v y) :
    Decided (throwIf c e >>= fun _ => x) (if c then none else v) y := by
  split_ifs with hc
  · rw [throwIf_pos hc, fail_bind]
    exact fail
  · rw [throwIf_neg hc]
    exact h hc

lemma ofExcept_bind {α : Type} {r : Except ε α} {f : α → Prog ε σ PUnit} {g : α → Option ν}
    (h : ∀ a, Decided (f a) (g a) y) : Decided (ofExcept r >>= f) (r.toOption.bind g) y := by
  rcases r with e | a
  · exact fail
  · exact h a

lemma map {g : ν → μ} (h : Decided x v y) (hy : ∀ a, y a = z (g a)) :
    Decided x (v.map g) z := by
  intro s s'
  rw [h s s']
  constructor
  · rintro ⟨a, ha, hrun⟩
    exact ⟨g a, by rw [ha]; rfl, hy a ▸ hrun⟩
  · rintro ⟨_, hb, hrun⟩
    obtain ⟨a, ha, rfl⟩ := Option.map_eq_some_iff.mp hb
    exact ⟨a, ha, (hy a).symm ▸ hrun⟩

lemma bind (hx : Decided x v y) (hx' : Decided x' w z) :
    Decided (x >>= fun _ => x') (v.bind fun a => w.map (Prod.mk a))
      (fun p => y p.1 >>= fun _ => z p.2) := by
  intro s s'
  rw [bind_ok]
  constructor
  · rintro ⟨⟨⟩, s₁, hrun, hrun'⟩
    obtain ⟨a, rfl, ha⟩ := (hx s s₁).mp hrun
    obtain ⟨b, rfl, hb⟩ := (hx' s₁ s').mp hrun'
    exact ⟨(a, b), rfl, bind_ok.mpr ⟨⟨⟩, s₁, ha, hb⟩⟩
  · rintro ⟨⟨a, b⟩, hab, hrun⟩
    obtain ⟨_, ha, hmap⟩ := Option.bind_eq_some_iff.mp hab
    obtain ⟨_, hb, hpair⟩ := Option.map_eq_some_iff.mp hmap
    obtain ⟨rfl, rfl⟩ := Prod.mk.inj hpair
    obtain ⟨⟨⟩, s₁, hy, hz⟩ := bind_ok.mp hrun
    exact ⟨⟨⟩, s₁, (hx s s₁).mpr ⟨_, ha, hy⟩, (hx' s₁ s').mpr ⟨_, hb, hz⟩⟩

lemma value_eq {v' : Option ν} (h : Decided x v y) (hv : v = v') : Decided x v' y := hv ▸ h

lemma cons {ι : Type} {i : ι} {l : List ι} {g : ι → Option ν} {p q : List ν → Prog ε σ PUnit}
    (hx : Decided x (g i) y) (hx' : Decided x' (l.mapM g) p)
    (hy : ∀ a as, (y a >>= fun _ => p as) = q (a :: as)) :
    Decided (x >>= fun _ => x') ((i :: l).mapM g) q := by
  refine ((hx.bind hx').map (g := fun c => c.1 :: c.2) fun c => hy c.1 c.2).value_eq ?_
  rw [List.mapM_cons]
  rcases g i with _ | a
  · rfl
  · cases l.mapM g <;> rfl

lemma forM {ι : Type} {l : List ι} {body : ι → Prog ε σ PUnit} {g : ι → Option ν}
    (h : ∀ i, Decided (body i) (g i) y) :
    Decided (l.forM body) (l.mapM g) (fun as => as.forM y) := by
  induction l with
  | nil => exact some rfl
  | cons i l ih => exact (h i).cons ih fun _ _ => rfl

end Decided

end Prog

end Sativa
