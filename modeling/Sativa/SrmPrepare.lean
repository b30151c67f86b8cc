import Sativa.Ledger
import Sativa.Machine

/-!
The core of the system resource manager as a subdevice of the remote processor: what it has
registered between `prepare` and `unprepare`.
-/

namespace Sativa.SrmCore

open Sativa Prog

/-- What is called. The answer `0` is success, but for `wait`, where it is that time is up;
`bindStatus` is what the binding of the children has left. -/
inductive KCall
  | populate
  | depopulate
  | masterAdd (children : ℕ)
  | masterDel
  | wait
  | bindStatus
  | registerDriver
  | unregisterDriver
  deriving DecidableEq

abbrev Kernel := List (KCall × ℤ) → KCall → ℤ

/-- `rproc_srm_core`. -/
structure Core where
  prepared : ℕ

abbrev World := Logged KCall Core

abbrev CoreProg := Prog ℤ World

def ETIMEDOUT : ℤ := 110

section Core

variable (kernel : Kernel)

/-- After `component_master_add_with_match`. -/
def bindChildren : CoreProg Unit := do
  let time ← call kernel .wait
  .throwIf (time = 0) (-ETIMEDOUT)
  check kernel .bindStatus
  check kernel .registerDriver

/-- `rproc_srm_core_prepare`, with so many available children. -/
def prepare (children : ℕ) : CoreProg Unit := do
  check kernel .populate
  .when (children ≠ 0) (.rescue (do
      check kernel (.masterAdd children)
      .rescue (bindChildren kernel) fun ret => do
        perform kernel .masterDel
        .fail ret)
    fun ret => do
      perform kernel .depopulate
      .fail ret)
  .update fun core => { core with prepared := core.prepared + 1 }

/-- `rproc_srm_core_unprepare`. -/
def unprepare : CoreProg Unit := do
  let w ← .get
  .when (w.state.prepared ≠ 0) do
    .update fun core => { core with prepared := core.prepared - 1 }
    perform kernel .unregisterDriver
    perform kernel .masterDel
    perform kernel .depopulate

/-- Removing the core unprepares it. -/
inductive Event
  | prepare (children : ℕ)
  | unprepare
  | remove

def step (w : World) : Event → ℤ × World
  | .prepare children => match (prepare kernel children).run w with
    | (.ok (), w') => (0, w')
    | (.error ret, w') => (ret, w')
  | .unprepare | .remove => (0, ((unprepare kernel).run w).2)

def machine : Machine World Event ℤ := ⟨⟨⟨0⟩, []⟩, step kernel⟩

end Core

/-! ### What is registered -/

/-- How often something is registered. -/
structure Registered where
  populated : ℕ
  master : ℕ
  driver : ℕ
  deriving DecidableEq

namespace Registered

/-- What a call does. Taking back what is not registered does nothing, apart from a warning. -/
def after (v : Registered) : KCall × ℤ → Registered
  | (.populate, ret) => if ret = 0 then { v with populated := v.populated + 1 } else v
  | (.depopulate, _) => { v with populated := v.populated - 1 }
  | (.masterAdd _, ret) => if ret = 0 then { v with master := v.master + 1 } else v
  | (.masterDel, _) => { v with master := v.master - 1 }
  | (.registerDriver, ret) => if ret = 0 then { v with driver := v.driver + 1 } else v
  | (.unregisterDriver, _) => { v with driver := v.driver - 1 }
  | (.wait, _) | (.bindStatus, _) => v

end Registered

def registered (log : List (KCall × ℤ)) : Registered := log.foldl Registered.after ⟨0, 0, 0⟩

/-- What an event leaves of the preparations with children. Unpreparing takes one back, if there is
one, whatever the last preparation was. -/
def holds (m : ℕ) : Event × ℤ → ℕ
  | (.prepare children, ret) => if children ≠ 0 ∧ ret = 0 then m + 1 else m
  | (.unprepare, _) | (.remove, _) => m - 1

def held (h : List (Event × ℤ)) : ℕ := h.foldl holds 0

/-- The core was prepared without children. -/
def Childless (x : Event × ℤ) : Prop := x = (.prepare 0, 0)

section Books

variable {kernel : Kernel} {v : Registered} {c : KCall} {n m : ℕ} {w : World}
  {h : List (Event × ℤ)}

/-- What is registered, and how often the core is prepared. -/
def Counts (n : ℕ) (v : Registered) (w : World) : Prop :=
  w.state.prepared = n ∧ registered w.log = v

lemma registered_snoc {log : List (KCall × ℤ)} {x : KCall × ℤ} :
    registered (log ++ [x]) = (registered log).after x := List.foldl_concat _ _ _ _

lemma held_snoc {x : Event × ℤ} : held (h ++ [x]) = holds (held h) x :=
  List.foldl_concat _ _ _ _

lemma counts_call {E : ℤ → World → Prop} : Ensures (Counts n v) (call kernel c)
    (fun a => Counts n (v.after (c, a))) E :=
  Ensures.call fun w hw => ⟨hw.1, by rw [registered_snoc, hw.2]⟩

lemma counts_perform {E : ℤ → World → Prop} {v' : Registered} (h : ∀ a, v.after (c, a) = v') :
    Ensures (Counts n v) (perform kernel c) (fun _ => Counts n v') E :=
  counts_call.bind fun a => Ensures.pure fun _ hw => h a ▸ hw

lemma counts_check {v' : Registered} (h₀ : v.after (c, 0) = v')
    (h : ∀ a, a ≠ 0 → v.after (c, a) = v) :
    Ensures (Counts n v) (check kernel c) (fun _ => Counts n v')
      fun ret w => ret ≠ 0 ∧ Counts n v w := by
  refine counts_call.bind fun a => Ensures.throwIf (fun w hw ha => ⟨ha, ?_⟩) fun w hw ha => ?_
  · rwa [h a ha] at hw
  · rwa [not_not.mp ha, h₀] at hw

lemma counts_bindChildren : Ensures (Counts n v) (bindChildren kernel)
    (fun _ => Counts n { v with driver := v.driver + 1 }) fun ret w => ret ≠ 0 ∧ Counts n v w := by
  refine counts_call.bind fun time => ?_
  refine Ensures.bind (Q := fun _ => Counts n v) (Ensures.throwIf (fun w hw _ => ⟨by decide, hw⟩)
    fun w hw _ => hw) fun _ => ?_
  exact (counts_check rfl fun _ _ => rfl).bind fun _ => counts_check rfl fun a ha => if_neg ha

lemma counts_takeBack {v' : Registered} {ret : ℤ} {Q : Unit → World → Prop}
    (h : ∀ a, v.after (c, a) = v') :
    Ensures (fun w => ret ≠ 0 ∧ Counts n v w) (do perform kernel c; .fail ret) Q
      fun ret w => ret ≠ 0 ∧ Counts n v' w := by
  intro w hw
  exact ((counts_perform h).bind fun _ => Ensures.fail fun _ hw' => ⟨hw.1, hw'⟩) w hw.2

lemma counts_prepare {children : ℕ} : Ensures (Counts n ⟨n, m, m⟩) (prepare kernel children)
    (fun _ => Counts (n + 1)
      ⟨n + 1, if children = 0 then m else m + 1, if children = 0 then m else m + 1⟩)
    fun ret w => ret ≠ 0 ∧ Counts n ⟨n, m, m⟩ w := by
  refine (counts_check rfl fun a ha => (by exact if_neg ha)).bind fun _ => ?_
  refine Ensures.bind (Q := fun _ => Counts n
    ⟨n + 1, if children = 0 then m else m + 1, if children = 0 then m else m + 1⟩) ?_ fun _ =>
      Ensures.update fun w hw => ⟨congrArg (· + 1) hw.1, hw.2⟩
  refine Ensures.when (fun hchildren => ?_) fun w hw hchildren => ?_
  · rw [if_neg hchildren]
    refine Ensures.rescue (E := fun ret w => ret ≠ 0 ∧ Counts n ⟨n + 1, m, m⟩ w) ?_
      fun ret => counts_takeBack fun a => rfl
    -- the master that is taken back after an error is the one that was added before
    refine (counts_check rfl fun a ha => (by exact if_neg ha)).bind fun _ => ?_
    exact counts_bindChildren.rescue fun ret => counts_takeBack fun a => rfl
  · rw [if_pos (not_not.mp hchildren)]
    exact hw

lemma counts_unprepare (hn : n ≠ 0) : Ensures (Counts n ⟨n, m, m⟩) (unprepare kernel)
    (fun _ => Counts (n - 1) ⟨n - 1, m - 1, m - 1⟩) fun _ _ => False := by
  refine Ensures.bind (Ensures.get (Q := fun w w' => Counts n ⟨n, m, m⟩ w' ∧ w.state.prepared = n)
    fun w hw => ⟨hw, hw.1⟩) fun w => ?_
  refine Ensures.when (fun _ => ?_) fun w' hw hzero => absurd (hw.2 ▸ hn) hzero
  refine Ensures.bind (Q := fun _ => Counts (n - 1) ⟨n, m, m⟩)
    (Ensures.update fun w' hw => ⟨congrArg (· - 1) hw.1.1, hw.1.2⟩) fun _ => ?_
  exact (counts_perform fun a => rfl).bind fun _ => (counts_perform fun a => rfl).bind fun _ =>
    counts_perform fun a => rfl

/-- Without anything prepared there is nothing left to take back. -/
lemma run_unprepare (hle : m ≤ w.state.prepared)
    (hw : Counts w.state.prepared ⟨w.state.prepared, m, m⟩ w) :
    Counts (w.state.prepared - 1) ⟨w.state.prepared - 1, m - 1, m - 1⟩
      ((unprepare kernel).run w).2 := by
  by_cases hzero : w.state.prepared = 0
  · have hrun : (unprepare kernel).run w = (.ok (), w) := by
      unfold unprepare
      rw [Prog.run_bind_of_ok Prog.run_get, Prog.when, if_neg (not_not.mpr hzero)]
      rfl
    have hm : m - 1 = m := by omega
    have hprepared : w.state.prepared - 1 = w.state.prepared := by omega
    rw [hrun, hm, hprepared]
    exact hw
  · have hpost := @counts_unprepare kernel _ m hzero w hw
    rcases hrun : (unprepare kernel).run w with ⟨ret | ⟨⟩, w'⟩
    · rw [hrun] at hpost
      exact hpost.elim
    · rwa [hrun] at hpost

lemma step_prepare {children : ℕ} (hw : Counts n ⟨n, m, m⟩ w) :
    ((step kernel w (.prepare children)).1 ≠ 0 ∧
      Counts n ⟨n, m, m⟩ (step kernel w (.prepare children)).2) ∨
    ((step kernel w (.prepare children)).1 = 0 ∧ Counts (n + 1)
      ⟨n + 1, if children = 0 then m else m + 1, if children = 0 then m else m + 1⟩
        (step kernel w (.prepare children)).2) := by
  have hpost := @counts_prepare kernel n m children w hw
  simp only [step]
  rcases hrun : (prepare kernel children).run w with ⟨ret | ⟨⟩, w'⟩
  · rw [hrun] at hpost
    exact .inl hpost
  · rw [hrun] at hpost
    exact .inr ⟨rfl, hpost⟩

variable (kernel) in
lemma counts_step (ev : Event) (hle : held h ≤ w.state.prepared)
    (hw : Counts w.state.prepared ⟨w.state.prepared, held h, held h⟩ w) :
    held (h ++ [(ev, (step kernel w ev).1)]) ≤ (step kernel w ev).2.state.prepared ∧
      Counts (step kernel w ev).2.state.prepared ⟨(step kernel w ev).2.state.prepared,
        held (h ++ [(ev, (step kernel w ev).1)]), held (h ++ [(ev, (step kernel w ev).1)])⟩
          (step kernel w ev).2 := by
  rw [held_snoc]
  cases ev with
  | prepare children =>
    rcases @step_prepare kernel _ _ _ children hw with ⟨hret, hcounts⟩ | ⟨hret, hcounts⟩
    · -- a preparation that failed took everything back
      have hsame : holds (held h) (.prepare children, (step kernel w (.prepare children)).1) =
          held h := if_neg fun hno => hret hno.2
      rw [hsame, hcounts.1]
      exact ⟨hle, hcounts⟩
    · -- without children the count goes up and nothing is registered
      have hmore : holds (held h) (.prepare children, (step kernel w (.prepare children)).1) =
          if children = 0 then held h else held h + 1 := by
        simp only [holds, hret, and_true]
        split_ifs <;> first | rfl | contradiction
      rw [hmore, hcounts.1]
      refine ⟨?_, hcounts⟩
      split_ifs <;> omega
  | unprepare | remove =>
    have hcounts := @run_unprepare kernel _ w hle hw
    change held h - 1 ≤ ((unprepare kernel).run w).2.state.prepared ∧
      Counts ((unprepare kernel).run w).2.state.prepared
        ⟨((unprepare kernel).run w).2.state.prepared, held h - 1, held h - 1⟩
        ((unprepare kernel).run w).2
    rw [hcounts.1]
    exact ⟨Nat.sub_le_sub_right hle 1, hcounts⟩

/-- A core that was never prepared without children has registered as often as it is prepared. -/
lemma held_step (ev : Event) (hn : ¬ Childless (ev, (step kernel w ev).1))
    (hheld : held h = w.state.prepared)
    (hw : Counts w.state.prepared ⟨w.state.prepared, held h, held h⟩ w) :
    held (h ++ [(ev, (step kernel w ev).1)]) = (step kernel w ev).2.state.prepared := by
  have hunprepare : ((unprepare kernel).run w).2.state.prepared = w.state.prepared - 1 :=
    (run_unprepare hheld.le hw).1
  rw [held_snoc, hheld]
  cases ev with
  | prepare children =>
    rcases @step_prepare kernel _ _ _ children hw with ⟨hret, hcounts⟩ | ⟨hret, hcounts⟩
    · exact (if_neg fun hno => hret hno.2).trans hcounts.1.symm
    · -- the two counts part only where there were no children, which is excluded here
      have hchildren : children ≠ 0 := fun hzero => hn (by rw [Childless, hret, hzero])
      exact (if_pos ⟨hchildren, hret⟩).trans hcounts.1.symm
  | unprepare | remove => exact hunprepare.symm

end Books

/-- **What the core has registered**: in every run, the children are populated as often as the core
is prepared. The master and the driver are registered as often as there are preparations with
children that are held, and unpreparing takes such a one back even if the last preparation was one
without. That is no more often than the core is prepared, and as often if it was never prepared
without children. -/
theorem registered_eq (kernel : Kernel) {h : List (Event × ℤ)} {w : World}
    (hr : (machine kernel).Run h w) :
    registered w.log = ⟨w.state.prepared, held h, held h⟩ ∧ held h ≤ w.state.prepared ∧
      ((∀ x ∈ h, ¬ Childless x) → held h = w.state.prepared) := by
  have hbooks : held h ≤ w.state.prepared ∧
      Counts w.state.prepared ⟨w.state.prepared, held h, held h⟩ w ∧
        ((∀ x ∈ h, ¬ Childless x) → held h = w.state.prepared) := by
    refine hr.relation (R := fun h w => held h ≤ w.state.prepared ∧
      Counts w.state.prepared ⟨w.state.prepared, held h, held h⟩ w ∧
        ((∀ x ∈ h, ¬ Childless x) → held h = w.state.prepared))
      ⟨le_refl _, ⟨rfl, rfl⟩, fun _ => rfl⟩ fun h w ev _ ih => ?_
    obtain ⟨hle, hcounts, hall⟩ := ih
    obtain ⟨hle', hcounts'⟩ := counts_step kernel ev hle hcounts
    refine ⟨hle', hcounts', fun hnone => ?_⟩
    rw [List.forall_mem_append, List.forall_mem_singleton] at hnone
    exact held_step ev hnone.2 (hall hnone.1) hcounts
  exact ⟨hbooks.2.1.2, hbooks.1, hbooks.2.2⟩

/-- Everything succeeds. -/
def sampleKernel : Kernel := fun _ c => if c = .wait then 1 else 0

/-- The core is prepared with children and without, and unprepared once. -/
def sampleEvents : List Event := [.prepare 2, .prepare 0, .unprepare]

theorem registered_eq_sample :
    ((machine sampleKernel).exec sampleEvents).2.state.prepared = 1 ∧
      registered ((machine sampleKernel).exec sampleEvents).2.log = ⟨1, 0, 0⟩ := by
  have heq := (registered_eq sampleKernel ((machine sampleKernel).run_exec sampleEvents)).1
  have hheld : held ((machine sampleKernel).exec sampleEvents).1 = 0 := by decide
  have hprepared : ((machine sampleKernel).exec sampleEvents).2.state.prepared = 1 := by decide
  rw [hheld, hprepared] at heq
  exact ⟨hprepared, heq⟩

end Sativa.SrmCore
