import Sativa.SrmBooks

/-!
The flags of a device: which clocks and regulators it says are enabled.
-/

namespace Sativa.Srm

open Sativa Prog

/-- The entry with its flag set to `b`. -/
def Info.flagged (b : Bool) (info : Info) : Info := { info with enabled := b }

/-- All flags of a list are `b`. -/
def Dev.All (k : Kind) (b : Bool) (dev : Dev) : Prop := ∀ info ∈ dev.infos k, info.enabled = b

/-- Nothing but flags of a list differs. -/
structure SameBut (k : Kind) (dev dev' : Dev) : Prop where
  name : dev'.name = dev.name
  earlyBoot : dev'.earlyBoot = dev.earlyBoot
  irqs : dev'.irqs = dev.irqs
  other : ∀ k', k' ≠ k → dev'.infos k' = dev.infos k'
  fixed : (dev'.infos k).map (Info.flagged false) = (dev.infos k).map (Info.flagged false)

section Flags

variable {k k' : Kind} {b : Bool} {dev dev' dev'' : Dev} {i : ℕ} {info : Info} {l : List Info}

lemma SameBut.refl : SameBut k dev dev := ⟨rfl, rfl, rfl, fun _ _ => rfl, rfl⟩

lemma SameBut.trans (h : SameBut k dev dev') (h' : SameBut k dev' dev'') : SameBut k dev dev'' where
  name := h'.name.trans h.name
  earlyBoot := h'.earlyBoot.trans h.earlyBoot
  irqs := h'.irqs.trans h.irqs
  other k' hne := (h'.other k' hne).trans (h.other k' hne)
  fixed := h'.fixed.trans h.fixed

lemma map_flagged_modify :
    (l.modify i fun info => { info with enabled := b }).map (Info.flagged false) =
      l.map (Info.flagged false) := by
  induction l generalizing i with
  | nil => simp
  | cons a l ih => cases i <;> simp [Info.flagged, ih]

lemma sameBut_setEnabled : SameBut k dev (dev.setEnabled k i b) where
  name := rfl
  earlyBoot := rfl
  irqs := rfl
  other k' hne := Dev.infos_setEnabled hne
  fixed := by rw [Dev.infos_setEnabled_self, map_flagged_modify]

lemma Dev.All.sameBut (h : dev.All k' b) (hs : SameBut k dev dev') (hne : k' ≠ k) :
    dev'.All k' b := by
  intro info hinfo
  rw [hs.other k' hne] at hinfo
  exact h info hinfo

lemma SameBut.length (h : SameBut k dev dev') (k' : Kind) :
    (dev'.infos k').length = (dev.infos k').length := by
  rcases eq_or_ne k' k with rfl | hne
  · have hlength := congrArg List.length h.fixed
    rwa [List.length_map, List.length_map] at hlength
  · rw [h.other k' hne]

/-! ### Loops over the entries -/

variable {kernel : Kernel} {E : ℤ → World → Prop} {c : KCall}

lemma ensures_forEachEntry {I : ℕ → World → Prop} {n : ℕ} {body : ℕ → Info → DevProg Unit}
    (hlength : ∀ i w, I i w → (w.state.infos k).length = n)
    (h : ∀ i info, Ensures (fun w => I i w ∧ (w.state.infos k)[i]? = some info) (body i info)
      (fun _ => I (i + 1)) E) :
    Ensures (I 0) (forEachEntry k body) (fun _ => I n) E := by
  unfold forEachEntry
  refine Ensures.bind (Ensures.get (Q := fun w w' => I 0 w' ∧ (w.state.infos k).length = n)
    fun w hw => ⟨hw, hlength 0 w hw⟩) fun w => ?_
  intro w' hw
  obtain ⟨hI, hn⟩ := hw
  rw [hn]
  refine Ensures.forM_range (fun i hi => ?_) w' hI
  refine Ensures.bind (Ensures.get (Q := fun w w' => I i w' ∧ w = w') fun w hw => ⟨hw, rfl⟩)
    fun w => ?_
  rcases hinfo : (w.state.infos k)[i]? with _ | info
  · refine Ensures.pure fun w' hw => ?_
    obtain ⟨hI, rfl⟩ := hw
    have hlen := hlength i w hI
    have := List.getElem?_eq_none_iff.mp hinfo
    omega
  · exact (h i info).weaken (fun w' hw => ⟨hw.1, hw.2 ▸ hinfo⟩) (fun _ _ hw => hw)
      fun _ _ hw => hw

lemma keeps_call {P : World → Prop} (hP : ∀ w a, P w → P ⟨w.state, w.log ++ [(c, a)]⟩) :
    Ensures P (call kernel c) (fun _ => P) E := Ensures.call fun w hw => hP w _ hw

/-- The first `i` entries of a list have `φ`. -/
def Dev.First (k : Kind) (φ : Info → Prop) (i : ℕ) (dev : Dev) : Prop :=
  ∀ j info, j < i → (dev.infos k)[j]? = some info → φ info

/-- The calls of a loop are `C`, and it has changed nothing but flags of the list. -/
def Passed (k : Kind) (dev : Dev) (log : List (KCall × ℤ)) (C : KCall × ℤ → Prop)
    (φ : List (KCall × ℤ) → Info → Prop) (i : ℕ) (w : World) : Prop :=
  SameBut k dev w.state ∧ ∃ calls, w.log = log ++ calls ∧ (∀ x ∈ calls, C x) ∧
    w.state.First k (φ calls) i

variable {log calls : List (KCall × ℤ)} {C : KCall × ℤ → Prop}
  {φ : List (KCall × ℤ) → Info → Prop} {w : World} {x : KCall × ℤ}

lemma Dev.first_zero {φ : Info → Prop} : dev.First k φ 0 :=
  fun _ _ hj => absurd hj (Nat.not_lt_zero _)

lemma Dev.First.succ {φ : Info → Prop} (h : dev.First k φ i) (hi : (dev.infos k)[i]? = some info)
    (hφ : φ info) : dev.First k φ (i + 1) := by
  intro j info' hj hinfo
  rcases Nat.lt_succ_iff_lt_or_eq.mp hj with hlt | rfl
  · exact h j info' hlt hinfo
  · cases hi.symm.trans hinfo
    exact hφ

lemma Dev.First.set {φ : Info → Prop} (h : dev.First k φ i)
    (hφ : ∀ info : Info, φ { info with enabled := b }) :
    (dev.setEnabled k i b).First k φ (i + 1) := by
  intro j info hj hinfo
  rw [Dev.infos_setEnabled_self, List.getElem?_modify] at hinfo
  obtain ⟨info₀, hinfo₀, rfl⟩ := Option.map_eq_some_iff.mp hinfo
  rcases Nat.lt_succ_iff_lt_or_eq.mp hj with hlt | rfl
  · rw [if_neg (Nat.ne_of_gt hlt)]
    exact h j info₀ hlt hinfo₀
  · rw [if_pos rfl]
    exact hφ info₀

lemma Passed.call (hmono : ∀ calls x info, φ calls info → φ (calls ++ [x]) info)
    (h : Passed k dev log C φ i w) (hx : C x) :
    Passed k dev log C φ i ⟨w.state, w.log ++ [x]⟩ := by
  obtain ⟨hs, calls, hlog, hcalls, hfirst⟩ := h
  refine ⟨hs, calls ++ [x], by rw [hlog, List.append_assoc], ?_, fun j info hj hinfo =>
    hmono _ _ _ (hfirst j info hj hinfo)⟩
  exact List.forall_mem_append.mpr ⟨hcalls, List.forall_mem_singleton.mpr hx⟩

lemma Passed.succ (h : Passed k dev log C φ i w) (hi : (w.state.infos k)[i]? = some info)
    (hφ : ∀ calls, φ calls info) : Passed k dev log C φ (i + 1) w := by
  obtain ⟨hs, calls, hlog, hcalls, hfirst⟩ := h
  exact ⟨hs, calls, hlog, hcalls, hfirst.succ hi (hφ calls)⟩

lemma Passed.set (h : Passed k dev log C φ i w)
    (hφ : ∀ calls (info : Info), φ calls { info with enabled := b }) :
    Passed k dev log C φ (i + 1) ⟨w.state.setEnabled k i b, w.log⟩ := by
  obtain ⟨hs, calls, hlog, hcalls, hfirst⟩ := h
  exact ⟨hs.trans sameBut_setEnabled, calls, hlog, hcalls, hfirst.set (hφ calls)⟩

/-- The loop is at its end. -/
def Swept (k : Kind) (dev : Dev) (log : List (KCall × ℤ)) (C : KCall × ℤ → Prop)
    (φ : List (KCall × ℤ) → Info → Prop) (w : World) : Prop :=
  SameBut k dev w.state ∧ ∃ calls, w.log = log ++ calls ∧ (∀ x ∈ calls, C x) ∧
    ∀ info ∈ w.state.infos k, φ calls info

lemma ensures_setFlags {body : ℕ → Info → DevProg Unit}
    (h : ∀ i info, Ensures
      (fun w => Passed k dev log C φ i w ∧ (w.state.infos k)[i]? = some info)
      (body i info) (fun _ => Passed k dev log C φ (i + 1)) E) :
    Ensures (fun w => w = ⟨dev, log⟩) (forEachEntry k body)
      (fun _ => Swept k dev log C φ) E := by
  refine (ensures_forEachEntry (I := Passed k dev log C φ) (n := (dev.infos k).length)
    (fun i w hw => hw.1.length k) h).weaken (fun w hw => ?_) (fun _ w hw => ?_) fun _ _ hw => hw
  · subst hw
    exact ⟨.refl, [], by rw [List.append_nil], fun _ hx => absurd hx List.not_mem_nil,
      Dev.first_zero⟩
  · obtain ⟨hs, calls, hlog, hcalls, hfirst⟩ := hw
    refine ⟨hs, calls, hlog, hcalls, fun info hinfo => ?_⟩
    obtain ⟨j, hj, rfl⟩ := List.mem_iff_getElem.mp hinfo
    exact hfirst j _ (hs.length k ▸ hj) (List.getElem?_eq_getElem hj)

/-! ### What the functions do to the flags -/

abbrev NoClock (x : KCall × ℤ) : Prop := ∀ clk, x.1 ≠ .clkPrepareEnable clk

abbrev NoRegu (x : KCall × ℤ) : Prop := ∀ regu, x.1 ≠ .regulatorEnable regu

/-- Only a regulator that was not disabled when that was asked for is still enabled. -/
def StuckOn (kernel : Kernel) (calls : List (KCall × ℤ)) (r : Info) : Prop :=
  r.enabled = true → ∃ log, kernel log (.regulatorDisable r.handle) ≠ 0 ∧
    (.regulatorDisable r.handle, kernel log (.regulatorDisable r.handle)) ∈ calls

lemma flags_clocksUnsetup : Ensures (fun w => w = ⟨dev, log⟩) (clocksUnsetup kernel)
    (fun _ => Swept .clock dev log (fun x => NoClock x ∧ NoRegu x) fun _ c => c.enabled = false)
    E := by
  refine ensures_setFlags fun i c => Ensures.when (fun _ => ?_) fun w hw hoff => ?_
  · refine (keeps_call fun _ _ hw => ⟨hw.1.call (fun _ _ _ => id) ⟨nofun, nofun⟩, hw.2⟩).bind
      fun _ => ?_
    refine (Ensures.keeps_perform fun _ _ hw =>
      ⟨hw.1.call (fun _ _ _ => id) ⟨nofun, nofun⟩, hw.2⟩).bind fun _ =>
        Ensures.update fun w hw => ?_
    exact hw.1.set fun _ _ => rfl
  · exact hw.1.succ hw.2 fun _ => Bool.not_eq_true _ ▸ hoff

lemma flags_clocksSetup : Ensures (fun w => w = ⟨dev, log⟩) (clocksSetup kernel)
    (fun _ => Swept .clock dev log (fun x => (∀ clk, x.1 = .clkPrepareEnable clk → x.2 = 0) ∧
      NoRegu x) fun _ c => c.enabled = true)
    fun ret w => SameBut .clock dev w.state ∧ w.state.All .clock false ∧ ∃ calls,
      w.log = log ++ calls ∧ (∃ clk, (.clkPrepareEnable clk, ret) ∈ calls) ∧
        ∀ x ∈ calls, NoRegu x := by
  set C : KCall × ℤ → Prop := fun x => (∀ clk, x.1 = .clkPrepareEnable clk → x.2 = 0) ∧ NoRegu x
  refine ensures_setFlags fun i c => Ensures.when (fun _ => ?_) fun w hw hon => ?_
  · refine (keeps_call fun _ _ hw => ⟨hw.1.call (fun _ _ _ => id) ⟨nofun, nofun⟩, hw.2⟩).bind
      fun parent => ?_
    -- a call that fails is not one of those that the loop goes on after
    refine Ensures.bind (Q := fun ret w => ∃ w', w = ⟨w'.state, w'.log ++
        [(.clkPrepareEnable parent, ret)]⟩ ∧ Passed .clock dev log C (fun _ c => c.enabled = true)
          i w') (Ensures.call fun w hw => ⟨w, rfl, hw.1⟩) fun ret => ?_
    refine Ensures.bind (Q := fun _ => Passed .clock dev log C (fun _ c => c.enabled = true) i)
      (Ensures.when (fun hret => ?_) fun w hw hret => ?_)
      fun _ => Ensures.update fun w hw => hw.set fun _ _ => rfl
    · refine Ensures.bind (Q := fun _ w => SameBut .clock dev w.state ∧ w.state.All .clock false ∧
        ∃ calls, w.log = log ++ calls ∧ (∃ clk, (.clkPrepareEnable clk, ret) ∈ calls) ∧
          ∀ x ∈ calls, NoRegu x) ?_ fun _ => Ensures.fail fun _ hw => hw
      intro w hw
      obtain ⟨w', rfl, hs, calls, hlog, hcalls, -⟩ := hw
      refine (flags_clocksUnsetup.weaken (fun _ h => h) (fun _ w h => ?_) fun _ _ h => h) _ rfl
      obtain ⟨hs', calls', hlog', hcalls', hoff⟩ := h
      refine ⟨hs.trans hs', hoff, calls ++ [(.clkPrepareEnable parent, ret)] ++ calls', ?_,
        ⟨parent, by simp⟩, ?_⟩
      · rw [hlog', hlog]
        simp
      · simp only [List.forall_mem_append, List.forall_mem_singleton]
        exact ⟨⟨fun x hx => (hcalls x hx).2, nofun⟩, fun x hx => (hcalls' x hx).2⟩
    · obtain ⟨w', rfl, hpassed⟩ := hw
      exact hpassed.call (fun _ _ _ => id) ⟨fun _ _ => not_not.mp hret, nofun⟩
  · exact hw.1.succ hw.2 fun _ => Bool.not_eq_false _ ▸ hon

lemma flags_regusUnsetup : Ensures (fun w => w = ⟨dev, log⟩) (regusUnsetup kernel)
    (fun _ => Swept .regu dev log (fun x => NoClock x ∧ NoRegu x) (StuckOn kernel)) E := by
  -- a call that failed stays in the log, so that what is stuck stays stuck
  have hmono : ∀ (calls : List (KCall × ℤ)) (x : KCall × ℤ) (r : Info), StuckOn kernel calls r →
      StuckOn kernel (calls ++ [x]) r := by
    intro calls x r h hon
    obtain ⟨before, hret, hmem⟩ := h hon
    exact ⟨before, hret, List.mem_append_left _ hmem⟩
  refine ensures_setFlags fun i r => Ensures.when (fun _ => ?_) fun w hw hoff => ?_
  -- the only call of the sweep disables a regulator
  · have hquiet : ∀ ret : ℤ, NoClock (.regulatorDisable r.handle, ret) ∧
        NoRegu (.regulatorDisable r.handle, ret) :=
      fun _ => ⟨fun _ h => (by cases h), fun _ h => (by cases h)⟩
    refine Ensures.bind (Q := fun ret w => ∃ w', w = ⟨w'.state, w'.log ++
        [(.regulatorDisable r.handle, ret)]⟩ ∧ kernel w'.log (.regulatorDisable r.handle) = ret ∧
          Passed .regu dev log (fun x => NoClock x ∧ NoRegu x) (StuckOn kernel) i w' ∧
            (w'.state.infos .regu)[i]? = some r)
      (Ensures.call fun w hw => ⟨w, rfl, rfl, hw⟩) fun ret => ?_
    -- a disabled one is marked off; one that could not be disabled is where the log names it
    refine Ensures.when (fun _ => Ensures.update fun w hw => ?_) fun w hw hret => ?_
    · obtain ⟨w', rfl, -, hpassed, -⟩ := hw
      exact (hpassed.call hmono (hquiet _)).set fun _ _ hon => by cases hon
    · obtain ⟨w', rfl, rfl, ⟨hs, calls, hlog, hcalls, hfirst⟩, hr⟩ := hw
      refine ⟨hs, calls ++ [(.regulatorDisable r.handle, kernel w'.log _)],
        by rw [hlog, List.append_assoc], ?_, ?_⟩
      · exact List.forall_mem_append.mpr ⟨hcalls, List.forall_mem_singleton.mpr (hquiet _)⟩
      · have hearlier : w'.state.First .regu (StuckOn kernel (calls ++
            [(.regulatorDisable r.handle, kernel w'.log (.regulatorDisable r.handle))])) i :=
          fun j info hj hinfo => hmono _ _ _ (hfirst j info hj hinfo)
        exact hearlier.succ hr fun _ => ⟨w'.log, hret, by simp⟩
  · exact hw.1.succ hw.2 fun _ hon => absurd hon hoff

lemma ensures_offInHw {P : World → Prop} {r : Info}
    (hP : ∀ w a, P w → P ⟨w.state, w.log ++ [(.regulatorIsEnabled r.handle, a)]⟩) :
    Ensures P (offInHw kernel r) (fun off w => P w ∧ (off = true → w.state.earlyBoot = true))
      E := by
  refine Ensures.bind (Ensures.get (Q := fun w w' => P w' ∧ w'.state = w.state)
    fun _ hw => ⟨hw, rfl⟩) fun w => ?_
  split_ifs with hearly
  · refine (Ensures.call (Q := fun _ w' => P w' ∧ w'.state = w.state)
      fun w' hw => ⟨hP _ _ hw.1, hw.2⟩).bind
        fun _ => Ensures.pure fun w' hw => ⟨hw.1, fun _ => ?_⟩
    rw [hw.2, hearly]
  · exact Ensures.pure fun w' hw => ⟨hw.1, fun hno => by cases hno⟩

lemma StuckOn.append_left {r : Info} (h : StuckOn kernel calls r) (before : List (KCall × ℤ)) :
    StuckOn kernel (before ++ calls) r := by
  intro hon
  obtain ⟨log, hret, hmem⟩ := h hon
  exact ⟨log, hret, List.mem_append_right _ hmem⟩

/-- All regulators are enabled, but for those that were off when the processor was found running. -/
lemma flags_regusSetup : Ensures (fun w => w = ⟨dev, log⟩) (regusSetup kernel)
    (fun _ => Swept .regu dev log NoClock fun _ r => dev.earlyBoot = false → r.enabled = true)
    fun ret w => SameBut .regu dev w.state ∧ ∃ calls, w.log = log ++ calls ∧
      (∃ regu, (.regulatorEnable regu, ret) ∈ calls) ∧ (∀ x ∈ calls, NoClock x) ∧
        ∀ r ∈ w.state.infos .regu, StuckOn kernel calls r := by
  set φ : List (KCall × ℤ) → Info → Prop := fun _ r => dev.earlyBoot = false → r.enabled = true
  have hmono : ∀ calls x info, φ calls info → φ (calls ++ [x]) info := fun _ _ _ => id
  refine ensures_setFlags fun i r => Ensures.when (fun _ => ?_) fun w hw hon =>
    hw.1.succ hw.2 fun _ _ => Bool.not_eq_false _ ▸ hon
  refine (ensures_offInHw fun _ _ hw =>
    ⟨hw.1.call hmono fun _ h => (by cases h), hw.2⟩).bind fun off => Ensures.when (fun _ => ?_)
      fun w hw hoff => hw.1.1.succ hw.1.2 fun _ hboot => ?_
  · refine Ensures.bind (Q := fun ret w => ∃ w', w = ⟨w'.state, w'.log ++
        [(.regulatorEnable r.handle, ret)]⟩ ∧ Passed .regu dev log NoClock φ i w')
      (Ensures.call fun w hw => ⟨w, rfl, hw.1.1⟩) fun ret => ?_
    refine Ensures.bind (Q := fun _ => Passed .regu dev log NoClock φ i)
      (Ensures.when (fun _ => ?_) fun w hw _ => ?_)
      fun _ => Ensures.update fun w hw => hw.set fun _ _ _ => rfl
    -- regulator_enable failed: the regulators so far are disabled before the error is returned
    · refine Ensures.bind (Q := fun _ w => SameBut .regu dev w.state ∧ ∃ calls,
        w.log = log ++ calls ∧ (∃ regu, (.regulatorEnable regu, ret) ∈ calls) ∧
          (∀ x ∈ calls, NoClock x) ∧ ∀ r ∈ w.state.infos .regu, StuckOn kernel calls r) ?_
        fun _ => Ensures.fail fun _ hw => hw
      intro w hw
      obtain ⟨w', rfl, hs, calls, hlog, hcalls, -⟩ := hw
      refine (flags_regusUnsetup.weaken (fun _ h => h) (fun _ w h => ?_) fun _ _ h => h) _ rfl
      obtain ⟨hs', calls', hlog', hcalls', hstuck⟩ := h
      refine ⟨hs.trans hs', calls ++ [(.regulatorEnable r.handle, ret)] ++ calls', ?_,
        ⟨r.handle, by simp⟩, ?_, fun r hr => (hstuck r hr).append_left _⟩
      · rw [hlog', hlog]
        simp
      · simp only [List.forall_mem_append, List.forall_mem_singleton]
        exact ⟨⟨hcalls, fun _ h => by cases h⟩, fun x hx => (hcalls' x hx).1⟩
    · obtain ⟨w', rfl, hpassed⟩ := hw
      exact hpassed.call hmono fun _ h => by cases h
  -- one that is left alone is off in hardware, which is asked for an early boot only
  · have hearly := hw.2 (Bool.not_eq_false _ ▸ hoff)
    rw [hw.1.1.1.earlyBoot, hboot] at hearly
    cases hearly

/-! ### Binding, unbinding and messages -/

/-- The same entries but for their flags. -/
def Fixed (dev dev' : Dev) : Prop :=
  dev'.name = dev.name ∧
    ∀ k, (dev'.infos k).map (Info.flagged false) = (dev.infos k).map (Info.flagged false)

lemma SameBut.toFixed (h : SameBut k dev dev') : Fixed dev dev' := by
  refine ⟨h.name, fun k' => ?_⟩
  rcases eq_or_ne k' k with rfl | hne
  · exact h.fixed
  · rw [h.other k' hne]

lemma Fixed.trans (h : Fixed dev dev') (h' : Fixed dev' dev'') : Fixed dev dev'' :=
  ⟨h'.1.trans h.1, fun k => (h'.2 k).trans (h.2 k)⟩

/-- What is left by a bind that has made these calls, has returned `ret` and fails. -/
inductive BindFailed (kernel : Kernel) (calls : List (KCall × ℤ)) (ret : ℤ) (dev dev' : Dev) : Prop
  /-- a clock could not be enabled; no regulator was asked for -/
  | clock {clk : ℤ} (failed : (.clkPrepareEnable clk, ret) ∈ calls) (regus : ∀ x ∈ calls, NoRegu x)
      (off : dev'.All .clock false) (same : dev'.infos .regu = dev.infos .regu)
  /-- a regulator could not be enabled; the clocks could -/
  | regu {regu : ℤ} (failed : (.regulatorEnable regu, ret) ∈ calls)
      (clocks : ∀ x ∈ calls, ∀ clk, x.1 = .clkPrepareEnable clk → x.2 = 0)
      (on : dev'.All .clock true) (left : ∀ r ∈ dev'.infos .regu, StuckOn kernel calls r)

lemma BindFailed.clocks {ret : ℤ} (h : BindFailed kernel calls ret dev dev') :
    dev'.All .clock true ∨ dev'.All .clock false := by
  cases h with
  | clock failed regus off same => exact .inr off
  | regu failed clocks on left => exact .inl on

/-- **How a device is bound**: if that succeeds all is enabled, but for the regulators that were
found off. If a clock fails no clock is enabled and no regulator was touched; and if a regulator
fails no regulator is enabled that could be disabled, but all clocks still are. -/
lemma flags_devBind : Ensures (fun w => w = ⟨dev, log⟩) (devBind kernel)
    (fun _ w => Fixed dev w.state ∧ w.state.All .clock true ∧
      ∀ r ∈ w.state.infos .regu, dev.earlyBoot = false → r.enabled = true)
    fun ret w => Fixed dev w.state ∧ ∃ calls, w.log = log ++ calls ∧
      BindFailed kernel calls ret dev w.state := by
  refine (flags_clocksSetup.weaken (fun _ hw => hw) (fun _ _ hw => hw) fun _ w hw => ?_).bind
    fun _ => ?_
  · obtain ⟨hs, hoff, calls, hlog, ⟨clk, hfailed⟩, hregus⟩ := hw
    exact ⟨hs.toFixed, calls, hlog, .clock hfailed hregus hoff (hs.other _ (by decide))⟩
  intro w hw
  obtain ⟨hs, calls, hlog, hcalls, hon⟩ := hw
  have hclocks : ∀ {dev' : Dev}, SameBut .regu w.state dev' → dev'.All .clock true :=
    fun h => Dev.All.sameBut hon h (show Kind.clock ≠ .regu by decide)
  refine (flags_regusSetup.weaken (fun _ h => h) (fun _ w' h => ?_) fun ret w' h => ?_) w rfl
  · obtain ⟨hs', calls', -, -, hregus⟩ := h
    exact ⟨hs.toFixed.trans hs'.toFixed, hclocks hs', hs.earlyBoot ▸ hregus⟩
  · obtain ⟨hs', calls', hlog', ⟨regu, hfailed⟩, hquiet, hstuck⟩ := h
    refine ⟨hs.toFixed.trans hs'.toFixed, calls ++ calls', by rw [hlog', hlog, List.append_assoc],
      .regu (List.mem_append_right _ hfailed) (List.forall_mem_append.mpr
        ⟨fun x hx => (hcalls x hx).1, fun x hx clk h => absurd h (hquiet x hx clk)⟩) (hclocks hs')
        fun r hr => (hstuck r hr).append_left _⟩

lemma error_devBind :
    Ensures (fun _ => True) (devBind kernel) (fun _ _ => True) fun ret _ => ret ≠ 0 := by
  -- both loops return only what a failed call returned, and they test it against zero
  have hskip : ∀ {α : Type} {c : KCall} {x : ℤ → DevProg α} {Q : α → World → Prop},
      (∀ a, Ensures (fun _ => True) (x a) Q fun ret _ => ret ≠ 0) →
        Ensures (fun _ => True) (call kernel c >>= x) Q fun ret _ => ret ≠ 0 :=
    fun hx => Ensures.bind (Ensures.call fun _ _ => trivial) hx
  have hfail : ∀ {x : DevProg Unit} {ret : ℤ}, ret ≠ 0 →
      Ensures (fun _ => True) x (fun _ _ => True) (fun _ _ => False) →
        Ensures (fun _ => True) (do x; .fail ret : DevProg Unit) (fun _ _ => True)
          fun ret _ => ret ≠ 0 :=
    fun hret hx => (hx.weaken (fun _ h => h) (fun _ _ h => h) fun _ _ h => h.elim).bind fun _ =>
      Ensures.fail fun _ _ => hret
  refine Ensures.bind (Q := fun _ _ => True) ?_ fun _ => ?_
  · refine keeps_forEachEntry fun i c => Ensures.when (fun _ => ?_) fun _ _ _ => trivial
    refine Ensures.weaken (hskip fun _ => hskip fun ret => ?_) (fun _ _ => trivial)
      (fun _ _ h => h) fun _ _ h => h
    refine Ensures.bind (Q := fun _ _ => True) (Ensures.when (fun hret => hfail hret fun w _ => ?_)
      fun _ _ _ => trivial) fun _ => Ensures.update fun _ _ => trivial
    exact (flags_clocksUnsetup.weaken (fun _ h => h) (fun _ _ _ => trivial) fun _ _ h => h) w rfl
  · refine keeps_forEachEntry fun i r => Ensures.when (fun _ => ?_) fun _ _ _ => trivial
    refine Ensures.bind (Q := fun _ _ => True) ((ensures_offInHw fun _ _ h => h).weaken
      (fun _ _ => trivial) (fun _ _ _ => trivial) fun _ _ h => h) fun off =>
        Ensures.when (fun _ => ?_) fun _ _ _ => trivial
    refine hskip fun ret => ?_
    refine Ensures.bind (Q := fun _ _ => True) (Ensures.when (fun hret => hfail hret fun w _ => ?_)
      fun _ _ _ => trivial) fun _ => Ensures.update fun _ _ => trivial
    exact (flags_regusUnsetup.weaken (fun _ h => h) (fun _ _ _ => trivial) fun _ _ h => h) w rfl

lemma flags_devUnbind : Ensures (fun w => w = ⟨dev, log⟩) (devUnbind kernel)
    (fun _ w => Fixed dev w.state ∧ w.state.All .clock false ∧ ∃ calls,
      ∀ r ∈ w.state.infos .regu, StuckOn kernel calls r) E := by
  refine flags_regusUnsetup.bind fun _ => ?_
  intro w hw
  obtain ⟨hs, calls, -, -, hstuck⟩ := hw
  refine (flags_clocksUnsetup.weaken (fun _ h => h) (fun _ w' h => ?_) fun _ _ h => h) w rfl
  obtain ⟨hs', calls', -, -, hoff⟩ := h
  refine ⟨hs.toFixed.trans hs'.toFixed, hoff, calls, ?_⟩
  rw [hs'.other .regu (by decide)]
  exact hstuck

end Flags

/-! ### Probing -/

/-- The entries are numbered, and their names are strings. -/
structure Dev.Numbered (dev : Dev) : Prop where
  index : ∀ k i (info : Info), (dev.infos k)[i]? = some info → info.index = UInt32.ofNat i
  name : ∀ k, ∀ info ∈ dev.infos k, 0 ∉ info.name

/-- A device as it is after the probe. -/
def Dev.Fresh (dev : Dev) : Prop := dev.AllOff ∧ dev.Numbered

section Probe

variable {k : Kind} {dev dev' : Dev} {info : Info} {kernel : Kernel} {E : ℤ → World → Prop}
  {c : KCall} {np : Option Node}

lemma Dev.Fresh.add (h : dev.Fresh) (hindex : info.index = .ofNat (dev.infos k).length)
    (hname : 0 ∉ info.name) (hoff : info.enabled = false) : (dev.add k info).Fresh := by
  refine ⟨h.1.add hoff, fun k' i info' hi => ?_, fun k' info' hinfo => ?_⟩
  · rcases eq_or_ne k' k with rfl | hne
    · rw [Dev.infos_add_self] at hi
      rcases Nat.lt_or_ge i (dev.infos k').length with hlt | hge
      · rw [List.getElem?_append_left hlt] at hi
        exact h.2.index _ _ _ hi
      · rw [List.getElem?_append_right hge] at hi
        rw [List.getElem?_singleton] at hi
        split_ifs at hi with hzero
        cases hi
        rw [hindex, show i = (dev.infos k').length by omega]
    · rw [Dev.infos_add hne] at hi
      exact h.2.index _ _ _ hi
  · rcases eq_or_ne k' k with rfl | hne
    · rw [Dev.infos_add_self] at hinfo
      rcases List.mem_append.mp hinfo with hold | hnew
      · exact h.2.name _ _ hold
      · rw [List.mem_singleton.mp hnew]
        exact hname
    · rw [Dev.infos_add hne] at hinfo
      exact h.2.name _ _ hinfo

lemma Dev.Numbered.fixed (h : dev.Numbered) (hfixed : Fixed dev dev') : dev'.Numbered := by
  have hinfo : ∀ (k : Kind) (i : ℕ) (info' : Info), (dev'.infos k)[i]? = some info' →
      ∃ info : Info, (dev.infos k)[i]? = some info ∧ info'.flagged false = info.flagged false := by
    intro k i info' hi
    have hmap := congrArg (fun l : List Info => l[i]?) (hfixed.2 k)
    simp only [List.getElem?_map, hi, Option.map_some] at hmap
    obtain ⟨info, hinfo, heq⟩ := Option.map_eq_some_iff.mp hmap.symm
    exact ⟨info, hinfo, heq.symm⟩
  refine ⟨fun k i info' hi => ?_, fun k info' hmem => ?_⟩
  · obtain ⟨info, hold, heq⟩ := hinfo k i info' hi
    have hindex : (info'.flagged false).index = (info.flagged false).index := by rw [heq]
    exact Eq.trans hindex (h.index k i info hold)
  · obtain ⟨i, hi⟩ := List.mem_iff_getElem?.mp hmem
    obtain ⟨info, hold, heq⟩ := hinfo k i info' hi
    have hname : (info'.flagged false).name = (info.flagged false).name := by rw [heq]
    change 0 ∉ (info'.flagged false).name
    rw [hname]
    exact h.name k info (List.mem_of_getElem? hold)

lemma keeps_allocate {P : World → Prop} (hP : ∀ w c a, P w → P ⟨w.state, w.log ++ [(c, a)]⟩) :
    Keeps P (allocate kernel) fun _ _ => True :=
  (keeps_call fun _ _ hw => hP _ _ _ hw).bind fun _ => Ensures.throwIf (fun _ _ _ => trivial)
    fun _ hw _ => hw

lemma ensures_then_fail {x : DevProg Unit} {ret : ℤ} {Q : Unit → World → Prop} :
    Ensures (fun _ => True) (do x; .fail ret) Q fun _ _ => True :=
  Ensures.bind Ensures.trivial fun _ => Ensures.fail fun _ _ => trivial

lemma fresh_clocksGet : Ensures (fun w => w.state.Fresh ∧ ∀ k, w.state.infos k = [])
    (clocksGet kernel np) (fun _ w => w.state.Fresh ∧ w.state.infos .regu = [])
    fun _ _ => True := by
  cases np with
  | none => exact Ensures.pure fun w hw => ⟨hw.1, hw.2 _⟩
  | some np =>
    refine Ensures.rescue (E := fun _ _ => True) ?_ fun ret => ensures_then_fail
    refine (Ensures.forM_zipIdx (I := fun n w => (w.state.Fresh ∧ w.state.infos .regu = []) ∧
      (w.state.infos .clock).length = n) 0 fun name n => ?_).weaken
      (fun w hw => ⟨⟨hw.1, hw.2 _⟩, by rw [hw.2]; rfl⟩) (fun _ _ hw => hw.1) fun _ _ hw => hw
    refine (keeps_allocate fun _ _ _ hw => hw).bind fun _ => ?_
    refine (keeps_call fun _ _ hw => hw).bind fun clk => ?_
    refine Ensures.bind (Q := fun _ w => (w.state.Fresh ∧ w.state.infos .regu = []) ∧
      (w.state.infos .clock).length = n) (Ensures.throwIf (fun _ _ _ => trivial) fun _ hw _ => hw)
      fun _ => Ensures.update fun w hw => ?_
    have hname : 0 ∉ (name.map CString.bytes).getD [] := by
      cases name with
      | none => simp
      | some name => exact name.nulFree
    refine ⟨⟨hw.1.1.add (by rw [hw.2]) hname rfl, ?_⟩, ?_⟩
    · rw [Dev.infos_add (by decide)]
      exact hw.1.2
    · rw [Dev.infos_add_self, List.length_append, hw.2]
      rfl

lemma fresh_regusGet : Ensures (fun w => w.state.Fresh) (regusGet kernel np)
    (fun _ w => w.state.Fresh) fun _ _ => True := by
  cases np with
  | none => exact Ensures.pure fun w hw => hw
  | some np =>
    refine Ensures.rescue (E := fun _ _ => True) (Ensures.forM fun p _ => ?_)
      fun ret => ensures_then_fail
    refine Ensures.when (fun _ => ?_) fun _ hw _ => hw
    refine (keeps_allocate fun _ _ _ hw => hw).bind fun _ => ?_
    refine (keeps_call fun _ _ hw => hw).bind fun regu => ?_
    refine Ensures.bind (Q := fun _ w => w.state.Fresh) (Ensures.throwIf (fun _ _ _ => trivial)
      fun _ hw _ => hw) fun _ => Ensures.update fun w hw => hw.add rfl (fun h => ?_) rfl
    exact p.nulFree (List.mem_of_mem_take h)

lemma Dev.Fresh.irqs (h : dev.Fresh) (irqs : List ℤ) : Dev.Fresh { dev with irqs } :=
  ⟨h.1, ⟨h.2.index, h.2.name⟩⟩

lemma fresh_irqsPut : Keeps (fun w => w.state.Fresh) (irqsPut kernel) E := by
  refine Ensures.bind (Ensures.get (Q := fun _ w => w.state.Fresh) fun _ hw => hw) fun w => ?_
  exact Ensures.forM fun irq _ => (Ensures.keeps_perform fun _ _ hw => hw).bind fun _ =>
    Ensures.update fun w hw => hw.irqs _

lemma fresh_irqsGet : Ensures (fun w => w.state.Fresh) (irqsGet kernel np)
    (fun _ w => w.state.Fresh) fun _ _ => True := by
  cases np with
  | none => exact Ensures.pure fun w hw => hw
  | some np =>
    refine (keeps_call fun _ _ hw => hw).bind fun nr => ?_
    refine Ensures.bind (Q := fun _ w => w.state.Fresh) (Ensures.get fun _ hw => hw) fun w =>
      Ensures.when (fun _ => ?_) fun _ hw _ => hw
    refine Ensures.rescue (E := fun _ w => w.state.Fresh) (Ensures.forM fun i _ => ?_) fun ret => ?_
    · refine Ensures.bind (Q := fun _ w => w.state.Fresh) ?_ fun _ => ?_
      · exact (keeps_call fun _ _ hw => hw).bind fun _ => Ensures.throwIf (fun _ hw _ => hw)
          fun _ hw _ => hw
      refine (keeps_call fun _ _ hw => hw).bind fun irq => ?_
      refine Ensures.bind (Q := fun _ w => w.state.Fresh) (Ensures.throwIf (fun _ hw _ => hw)
        fun _ hw _ => hw) fun _ => ?_
      refine (Ensures.keeps_check fun _ _ hw => hw).bind fun _ => ?_
      exact (Ensures.keeps_perform fun _ _ hw => hw).bind
        fun _ => Ensures.update fun w hw => hw.irqs _
    · exact fresh_irqsPut.bind fun _ => Ensures.throwIf (fun _ _ _ => trivial) fun _ hw _ => hw

lemma fresh_devProbe : Ensures (fun w => w.state.IsEmpty) (devProbe kernel np)
    (fun _ w => w.state.Fresh) fun _ _ => True := by
  have hempty : ∀ dev : Dev, dev.IsEmpty → dev.Fresh := fun dev h =>
    ⟨h.allOff, ⟨fun k i info hi => (by rw [h.1] at hi; cases hi),
      fun k info hi => (by rw [h.1] at hi; cases hi)⟩⟩
  refine (keeps_allocate fun _ _ _ hw => hw).bind fun _ => ?_
  refine (fresh_clocksGet.weaken (fun w hw => ⟨hempty _ hw, hw.1⟩) (fun _ _ hw => hw)
    fun _ _ hw => hw).bind fun _ => ?_
  refine Ensures.rescue (E := fun _ _ => True) ?_ fun ret => ensures_then_fail
  refine (fresh_regusGet.weaken (fun w hw => hw.1) (fun _ _ hw => hw) fun _ _ hw => hw).bind
    fun _ => fresh_irqsGet.bind fun _ => ?_
  exact (keeps_call fun _ _ hw => hw).bind fun ret => Ensures.when
    (fun _ => ensures_then_fail.weaken (fun _ _ => trivial) (fun _ _ hw => hw) fun _ _ hw => hw)
    fun _ hw _ => hw

end Probe

end Sativa.Srm
