import Sativa.SrmDevices

/-!
What the resource manager takes from the kernel, and gives back.
-/

namespace Sativa.Srm

open Sativa Prog

/-- What is counted: the handles that were got, the clocks and regulators that were enabled, and the
interrupts. -/
inductive Res
  | ref (k : Kind) (handle : ℤ)
  | on (k : Kind) (target : ℤ)
  | irq (irq : ℤ)
  deriving DecidableEq

/-- What a call with its answer takes. -/
def delta : KCall × ℤ → Res → ℤ
  | (.ofClkGet _, clk), r => if clk < 0 then 0 else one (.ref .clock clk) r
  | (.clkPut clk, _), r => -one (.ref .clock clk) r
  | (.clkPrepareEnable clk, ret), r => if ret = 0 then one (.on .clock clk) r else 0
  | (.clkDisableUnprepare clk, _), r => -one (.on .clock clk) r
  | (.devmRegulatorGet _, regu), r => if regu < 0 then 0 else one (.ref .regu regu) r
  | (.devmRegulatorPut regu, _), r => -one (.ref .regu regu) r
  | (.regulatorEnable regu, ret), r => if ret = 0 then one (.on .regu regu) r else 0
  | (.regulatorDisable regu, ret), r => if ret = 0 then -one (.on .regu regu) r else 0
  | (.devmRequestIrq irq, ret), r => if ret = 0 then one (.irq irq) r else 0
  | (.devmFreeIrq irq, _), r => -one (.irq irq) r
  | _, _ => 0

section Uses

variable (parent : ℤ → ℤ)

/-- What is enabled for an entry. -/
def target (k : Kind) (handle : ℤ) : ℤ := match k with
  | .clock => parent handle
  | .regu => handle

def Dev.refs (dev : Dev) (k : Kind) (r : Res) : ℤ :=
  ((dev.infos k).map fun info => one (.ref k info.handle) r).sum

/-- What is enabled by the device. -/
def Dev.enabled (dev : Dev) (k : Kind) (r : Res) : ℤ :=
  ((dev.infos k).map fun info =>
    if info.enabled then one (.on k (target parent k info.handle)) r else 0).sum

def Dev.interrupts (dev : Dev) (r : Res) : ℤ := (dev.irqs.map fun irq => one (.irq irq) r).sum

def Dev.got (dev : Dev) (r : Res) : ℤ := dev.refs .clock r + dev.refs .regu r + dev.interrupts r

def Dev.anyEnabled (dev : Dev) (r : Res) : ℤ :=
  dev.enabled parent .clock r + dev.enabled parent .regu r

def Dev.uses (dev : Dev) (r : Res) : ℤ := dev.got r + dev.anyEnabled parent r

/-- A device whose memory is released has the clocks still, and what is enabled. -/
def Entry.uses (e : Entry) (r : Res) : ℤ :=
  if e.phase = .freed then e.dev.refs .clock r + e.dev.anyEnabled parent r else e.dev.uses parent r

/-- What is in use: by the devices on the chain, and left behind by those that were removed. -/
def Devices.uses (s : Devices) (r : Res) : ℤ :=
  (s.chain.map fun e => e.uses parent r).sum + (s.removed.map fun d => d.anyEnabled parent r).sum

end Uses

/-! ### Counting -/

section Counting

variable {parent : ℤ → ℤ} {dev : Dev} {k k' : Kind} {r : Res} {i : ℕ} {info : Info} {b : Bool}

lemma le_sum_of_getElem? {α : Type} {l : List α} {i : ℕ} {a : α} {f : α → ℤ} (h : ∀ a, 0 ≤ f a)
    (ha : l[i]? = some a) : f a ≤ (l.map f).sum := by
  refine List.single_le_sum (fun x hx => ?_) _ (List.mem_map_of_mem (List.mem_of_getElem? ha))
  obtain ⟨a, -, rfl⟩ := List.mem_map.mp hx
  exact h a

lemma sum_modify {α : Type} {l : List α} {i : ℕ} {a : α} {g : α → α} (f : α → ℤ)
    (ha : l[i]? = some a) : ((l.modify i g).map f).sum = (l.map f).sum - f a + f (g a) := by
  induction l generalizing i with
  | nil => cases ha
  | cons b l ih =>
    cases i with
    | zero =>
      cases ha
      simp only [List.modify_zero_cons, List.map_cons, List.sum_cons]
      omega
    | succ i =>
      have hrest := ih (i := i) (by simpa using ha)
      simp only [List.modify_succ_cons, List.map_cons, List.sum_cons, hrest]
      omega

lemma enabledTerm_nonneg (k : Kind) (r : Res) (info : Info) :
    0 ≤ if info.enabled then one (.on k (target parent k info.handle)) r else 0 := by
  split_ifs
  · exact one_nonneg _ _
  · exact le_refl _

lemma Dev.got_nonneg : 0 ≤ dev.got r := by
  unfold Dev.got Dev.refs Dev.interrupts
  have h₁ := sum_nonneg_of_map (dev.infos .clock) fun info => one_nonneg (.ref .clock info.handle) r
  have h₂ := sum_nonneg_of_map (dev.infos .regu) fun info => one_nonneg (.ref .regu info.handle) r
  have h₃ := sum_nonneg_of_map dev.irqs fun irq => one_nonneg (.irq irq) r
  omega

lemma Dev.enabled_nonneg : 0 ≤ dev.enabled parent k r :=
  sum_nonneg_of_map _ (enabledTerm_nonneg k r)

lemma Dev.anyEnabled_nonneg : 0 ≤ dev.anyEnabled parent r :=
  add_nonneg Dev.enabled_nonneg Dev.enabled_nonneg

lemma Dev.uses_nonneg : 0 ≤ dev.uses parent r := add_nonneg Dev.got_nonneg Dev.anyEnabled_nonneg

lemma Dev.infos_setEnabled (h : k' ≠ k) : (dev.setEnabled k i b).infos k' = dev.infos k' :=
  Function.update_of_ne h _ _

@[simp] lemma Dev.infos_setEnabled_self : (dev.setEnabled k i b).infos k =
    (dev.infos k).modify i fun info => { info with enabled := b } := Function.update_self _ _ _

lemma Dev.got_setEnabled (hi : (dev.infos k)[i]? = some info) :
    (dev.setEnabled k i b).got r = dev.got r := by
  have hrefs : ∀ k', (dev.setEnabled k i b).refs k' r = dev.refs k' r := by
    intro k'
    unfold Dev.refs
    rcases eq_or_ne k' k with rfl | hne
    · rw [Dev.infos_setEnabled_self, sum_modify _ hi]
      exact sub_add_cancel _ _
    · rw [Dev.infos_setEnabled hne]
  unfold Dev.got
  rw [hrefs, hrefs]
  rfl

/-- What is enabled by an entry. -/
def Info.on (parent : ℤ → ℤ) (k : Kind) (info : Info) (r : Res) : ℤ :=
  if info.enabled then one (.on k (target parent k info.handle)) r else 0

lemma Dev.uses_setEnabled (hi : (dev.infos k)[i]? = some info) :
    (dev.setEnabled k i b).uses parent r = dev.uses parent r - info.on parent k r +
      Info.on parent k { info with enabled := b } r := by
  have hself : (dev.setEnabled k i b).enabled parent k r = dev.enabled parent k r -
      info.on parent k r + Info.on parent k { info with enabled := b } r := by
    unfold Dev.enabled
    rw [Dev.infos_setEnabled_self, sum_modify _ hi]
    rfl
  have hother : ∀ k', k' ≠ k →
      (dev.setEnabled k i b).enabled parent k' r = dev.enabled parent k' r := by
    intro k' hne
    unfold Dev.enabled
    rw [Dev.infos_setEnabled hne]
  unfold Dev.uses Dev.anyEnabled
  rw [Dev.got_setEnabled hi]
  cases k with
  | clock =>
    rw [hself, hother .regu (by decide)]
    omega
  | regu =>
    rw [hself, hother .clock (by decide)]
    omega

lemma Dev.on_le_uses (hi : (dev.infos k)[i]? = some info) :
    info.on parent k r ≤ dev.uses parent r := by
  have hle : info.on parent k r ≤ dev.enabled parent k r :=
    le_sum_of_getElem? (enabledTerm_nonneg k r) hi
  have hclock : 0 ≤ dev.enabled parent .clock r := Dev.enabled_nonneg
  have hregu : 0 ≤ dev.enabled parent .regu r := Dev.enabled_nonneg
  have hgot : 0 ≤ dev.got r := Dev.got_nonneg
  unfold Dev.uses Dev.anyEnabled
  cases k <;> omega

end Counting

/-! ### Rules for the driver -/

section Rules

variable {kernel : Kernel} {E : ℤ → World → Prop} {k : Kind} {c : KCall}

lemma keeps_forEachEntry {P : World → Prop} {body : ℕ → Info → DevProg Unit}
    (h : ∀ i info, Ensures (fun w => P w ∧ (w.state.infos k)[i]? = some info) (body i info)
      (fun _ => P) E) : Keeps P (forEachEntry k body) E := by
  unfold forEachEntry
  refine Ensures.bind (Ensures.get (Q := fun _ => P) fun w hw => hw) fun w => ?_
  refine Ensures.forM fun i _ => ?_
  refine Ensures.bind (Ensures.get (Q := fun w w' => P w' ∧ w = w') fun w hw => ⟨hw, rfl⟩)
    fun w => ?_
  rcases hi : (w.state.infos k)[i]? with _ | info
  · exact Ensures.pure fun w' hw => hw.1
  · exact (h i info).weaken (fun w' hw => ⟨hw.1, hw.2 ▸ hi⟩) (fun _ _ hw => hw) fun _ _ hw => hw

lemma ensures_call {P : World → Prop} {ψ : ℤ → Prop}
    (hP : ∀ w a, P w → P ⟨w.state, w.log ++ [(c, a)]⟩) (hψ : ∀ log, ψ (kernel log c)) :
    Ensures P (call kernel c) (fun a w => P w ∧ ψ a) E :=
  Ensures.call fun w hw => ⟨hP w _ hw, hψ _⟩

end Rules

/-! ### The books of a device -/

section Books

variable {kernel : Kernel} {parent : ℤ → ℤ} {rest : Res → ℤ} {E : ℤ → World → Prop} {k : Kind}
  {c : KCall} {i : ℕ} {info : Info} {w : World}

/-- The device is what is in use beside `rest`. -/
def Accounted (parent : ℤ → ℤ) (rest : Res → ℤ) (w : World) : Prop :=
  Balanced delta (fun dev r => rest r + dev.uses parent r) w

/-- The same, with an entry at its position. -/
def AccountedAt (parent : ℤ → ℤ) (rest : Res → ℤ) (k : Kind) (i : ℕ) (info : Info) (w : World) :
    Prop := Accounted parent rest w ∧ (w.state.infos k)[i]? = some info

lemma Accounted.idle {a : ℤ} (h : Accounted parent rest w) (hc : ∀ r, delta (c, a) r = 0) :
    Accounted parent rest ⟨w.state, w.log ++ [(c, a)]⟩ := Balanced.idle h hc

lemma AccountedAt.idle {a : ℤ} (h : AccountedAt parent rest k i info w)
    (hc : ∀ r, delta (c, a) r = 0) :
    AccountedAt parent rest k i info ⟨w.state, w.log ++ [(c, a)]⟩ := ⟨h.1.idle hc, h.2⟩

/-- And a call was made. -/
def Called (parent : ℤ → ℤ) (rest : Res → ℤ) (k : Kind) (i : ℕ) (info : Info) (c : KCall) (a : ℤ)
    (w : World) : Prop :=
  ∃ w₀, AccountedAt parent rest k i info w₀ ∧ w = ⟨w₀.state, w₀.log ++ [(c, a)]⟩

lemma ensures_called :
    Ensures (AccountedAt parent rest k i info) (call kernel c) (Called parent rest k i info c) E :=
  Ensures.call fun w hw => ⟨w, hw, rfl⟩

lemma ensures_performed : Ensures (AccountedAt parent rest k i info) (perform kernel c)
    (fun _ w => ∃ a, Called parent rest k i info c a w) E :=
  Ensures.bind ensures_called fun a => Ensures.pure fun _ hw => ⟨a, hw⟩

lemma ensures_checked : Ensures (AccountedAt parent rest k i info) (check kernel c)
    (fun _ => Called parent rest k i info c 0)
    fun a w => a ≠ 0 ∧ Called parent rest k i info c a w :=
  Ensures.bind ensures_called fun _ => Ensures.throwIf (fun _ hw ha => ⟨ha, hw⟩) fun _ hw ha =>
    not_not.mp ha ▸ hw

lemma Called.idle {a : ℤ} (h : Called parent rest k i info c a w) (hc : ∀ r, delta (c, a) r = 0) :
    AccountedAt parent rest k i info w := by
  obtain ⟨w₀, hw, rfl⟩ := h
  exact hw.idle hc

lemma Called.switch {a : ℤ} {b : Bool} (h : Called parent rest k i info c a w)
    (hrest : ∀ r, 0 ≤ rest r)
    (hc : ∀ r, delta (c, a) r =
      Info.on parent k { info with enabled := b } r - info.on parent k r) :
    Accounted parent rest ⟨w.state.setEnabled k i b, w.log⟩ := by
  obtain ⟨w₀, hw, rfl⟩ := h
  refine Balanced.congr (Balanced.call hw.1 fun r => ?_) fun r => ?_
  · have hle : info.on parent k r ≤ w₀.state.uses parent r := Dev.on_le_uses hw.2
    have hnonneg : 0 ≤ Info.on parent k { info with enabled := b } r :=
      enabledTerm_nonneg k r { info with enabled := b }
    have := hrest r
    rw [hc]
    omega
  · dsimp only
    rw [Dev.uses_setEnabled hw.2, hc]
    omega

variable (hrest : ∀ r, 0 ≤ rest r)
  (hparent : ∀ log clk, kernel log (.clkGetParent clk) = parent clk)

include hparent in
lemma ensures_getParent : Ensures (AccountedAt parent rest .clock i info)
    (call kernel (.clkGetParent info.handle))
    (fun a w => AccountedAt parent rest .clock i info w ∧ a = parent info.handle) E :=
  ensures_call (fun _ _ hw => hw.idle fun _ => rfl) fun log => hparent log _

include hrest hparent in
lemma accounted_clocksUnsetup : Keeps (Accounted parent rest) (clocksUnsetup kernel) E := by
  refine keeps_forEachEntry fun i c => Ensures.when (fun hon => ?_) fun _ hw _ => hw.1
  refine (ensures_getParent hparent).bind_fact fun clk hclk => ?_
  refine ensures_performed.bind fun _ => Ensures.update fun w hw => ?_
  obtain ⟨a, hw⟩ := hw
  refine hw.switch hrest fun r => ?_
  simp [delta, Info.on, hon, hclk, target]

include hrest hparent in
lemma accounted_clocksSetup :
    Keeps (Accounted parent rest) (clocksSetup kernel) fun _ => Accounted parent rest := by
  refine keeps_forEachEntry fun i c => Ensures.when (fun hoff => ?_) fun _ hw _ => hw.1
  refine (ensures_getParent hparent).bind_fact fun clk hclk => ?_
  refine ensures_called.bind fun ret => ?_
  refine Ensures.bind (Q := fun _ w => ret = 0 ∧
    Called parent rest .clock i c (.clkPrepareEnable clk) ret w)
    (Ensures.when (fun hret => ?_) fun _ hw hret => ⟨not_not.mp hret, hw⟩) fun _ => ?_
  · refine Ensures.bind (Q := fun _ => Accounted parent rest) ?_
      fun _ => Ensures.fail fun _ hw => hw
    exact (accounted_clocksUnsetup hrest hparent).weaken
      (fun _ hw => (hw.idle fun _ => if_neg hret).1) (fun _ _ hw => hw) fun _ _ hw => hw
  · refine Ensures.update fun w hw => hw.2.switch hrest fun r => ?_
    simp [delta, Info.on, hoff, hclk, hw.1, target]

include hrest in
lemma accounted_regusUnsetup : Keeps (Accounted parent rest) (regusUnsetup kernel) E := by
  refine keeps_forEachEntry fun i r => Ensures.when (fun hon => ?_) fun _ hw _ => hw.1
  refine ensures_called.bind fun ret => Ensures.when (fun hret => ?_) fun _ hw hret => ?_
  · refine Ensures.update fun w hw => hw.switch hrest fun res => ?_
    simp [delta, Info.on, hon, hret, target]
  · exact (hw.idle fun _ => if_neg hret).1

lemma keeps_offInHw {r : Info} : Keeps (AccountedAt parent rest k i info) (offInHw kernel r) E := by
  refine Ensures.bind (Ensures.get (Q := fun _ => AccountedAt parent rest k i info) fun _ hw => hw)
    fun w => ?_
  split_ifs
  · exact Ensures.bind ensures_called fun _ => Ensures.pure fun _ hw => hw.idle fun _ => rfl
  · exact Ensures.pure fun _ hw => hw

include hrest in
lemma accounted_regusSetup :
    Keeps (Accounted parent rest) (regusSetup kernel) fun _ => Accounted parent rest := by
  refine keeps_forEachEntry fun i r => Ensures.when (fun hoff => ?_) fun _ hw _ => hw.1
  refine keeps_offInHw.bind fun off => Ensures.when (fun _ => ?_) fun _ hw _ => hw.1
  refine ensures_called.bind fun ret => ?_
  refine Ensures.bind (Q := fun _ w => ret = 0 ∧
    Called parent rest .regu i r (.regulatorEnable r.handle) ret w)
    (Ensures.when (fun hret => ?_) fun _ hw hret => ⟨not_not.mp hret, hw⟩) fun _ => ?_
  · refine Ensures.bind (Q := fun _ => Accounted parent rest) ?_
      fun _ => Ensures.fail fun _ hw => hw
    exact (accounted_regusUnsetup hrest).weaken
      (fun _ hw => (hw.idle fun _ => if_neg hret).1) (fun _ _ hw => hw) fun _ _ hw => hw
  · refine Ensures.update fun w hw => hw.2.switch hrest fun res => ?_
    simp [delta, Info.on, hoff, hw.1, target]

lemma find_some {dev : Dev} {index : UInt32} {name : Bytes} {found : Info × ℕ}
    (h : find k dev index name = some found) : (dev.infos k)[found.2]? = some found.1 :=
  List.mem_zipIdx_iff_getElem?.mp (List.mem_of_find?_eq_some h)

lemma ensures_findOrFail {cfg : Cfg} {name : Bytes} :
    Ensures (Accounted parent rest) (findOrFail k cfg name)
      (fun found => AccountedAt parent rest k found.2 found.1) fun _ => Accounted parent rest := by
  refine Ensures.bind (Ensures.get (Q := fun w w' => Accounted parent rest w' ∧ w = w')
    fun w hw => ⟨hw, rfl⟩) fun w => ?_
  rcases hfound : find k w.state cfg.index name with _ | found
  · exact Ensures.fail fun _ hw => hw.1
  · exact Ensures.pure fun w' hw => ⟨hw.1, hw.2 ▸ find_some hfound⟩

lemma accounted_clockSetCfg {cfg : Cfg} {name : Bytes} :
    Keeps (Accounted parent rest) (clockSetCfg kernel cfg name) fun _ => Accounted parent rest := by
  refine ensures_findOrFail.bind fun ⟨c, i⟩ => Ensures.when (fun _ => ?_) fun _ hw _ => hw.1
  refine ensures_called.bind fun rate => Ensures.when (fun _ => ?_) fun _ hw _ =>
    (hw.idle fun _ => rfl).1
  exact ensures_checked.weaken (fun _ hw => hw.idle fun _ => rfl)
    (fun _ _ hw => (hw.idle fun _ => rfl).1) fun _ _ hw => (hw.2.idle fun _ => rfl).1

lemma accounted_clockGetCfg {cfg : Cfg} {name : Bytes} :
    Ensures (Accounted parent rest) (clockGetCfg kernel cfg name) (fun _ => Accounted parent rest)
      fun _ => Accounted parent rest := by
  refine ensures_findOrFail.bind fun ⟨c, i⟩ => ensures_called.bind fun rate => ?_
  exact Ensures.pure fun _ hw => (hw.idle fun _ => rfl).1

include hrest in
lemma accounted_reguSwitch {r : Info} {enable : UInt32} :
    Ensures (AccountedAt parent rest .regu i r) (reguSwitch kernel r i enable)
      (fun _ => Accounted parent rest) fun _ => Accounted parent rest := by
  unfold reguSwitch
  split_ifs with hoff hon
  · refine Ensures.bind (ensures_checked.weaken (fun _ hw => hw) (fun _ _ hw => hw)
      fun _ _ hw => (hw.2.idle fun _ => if_neg hw.1).1) fun _ => ?_
    refine Ensures.update fun w hw => hw.switch hrest fun res => ?_
    simp [delta, Info.on, hoff.1, target]
  · refine Ensures.bind (ensures_checked.weaken (fun _ hw => hw) (fun _ _ hw => hw)
      fun _ _ hw => (hw.2.idle fun _ => if_neg hw.1).1) fun _ => ?_
    refine Ensures.update fun w hw => hw.switch hrest fun res => ?_
    simp [delta, Info.on, hon.1, target]
  · exact Ensures.pure fun _ hw => hw.1

include hrest in
lemma accounted_reguSetCfg {cfg : Cfg} {name : Bytes} :
    Keeps (Accounted parent rest) (reguSetCfg kernel cfg name) fun _ => Accounted parent rest := by
  refine ensures_findOrFail.bind fun ⟨r, i⟩ => (accounted_reguSwitch hrest).bind fun _ => ?_
  exact Ensures.when (fun _ => Ensures.keeps_check fun _ _ hw => hw.idle fun _ => rfl)
    fun _ hw _ => hw

lemma accounted_reguGetCfg {cfg : Cfg} {name : Bytes} :
    Ensures (Accounted parent rest) (reguGetCfg kernel cfg name) (fun _ => Accounted parent rest)
      fun _ => Accounted parent rest := by
  refine ensures_findOrFail.bind fun ⟨r, i⟩ => ensures_called.bind fun v => ?_
  exact Ensures.pure fun _ hw => (hw.idle fun _ => rfl).1

include hrest in
lemma accounted_answer {msg : Msg} {past stack : Bytes} :
    Ensures (Accounted parent rest) (answer kernel msg past stack) (fun _ => Accounted parent rest)
      fun _ => Accounted parent rest := by
  have hclock : ∀ cfg name, Ensures (Accounted parent rest)
      (clockGetCfg kernel cfg name >>= fun cfg => pure { msg with cfg })
      (fun _ => Accounted parent rest) fun _ => Accounted parent rest := fun cfg name =>
    accounted_clockGetCfg.bind fun _ => Ensures.pure fun _ hw => hw
  have hregu : ∀ cfg name, Ensures (Accounted parent rest)
      (reguGetCfg kernel cfg name >>= fun cfg => pure { msg with cfg })
      (fun _ => Accounted parent rest) fun _ => Accounted parent rest := fun cfg name =>
    accounted_reguGetCfg.bind fun _ => Ensures.pure fun _ hw => hw
  unfold answer
  split_ifs
  · exact accounted_clockSetCfg.bind fun _ => hclock _ _
  · exact (accounted_reguSetCfg hrest).bind fun _ => hregu _ _
  · exact Ensures.fail fun _ hw => hw
  · exact hclock _ _
  · exact hregu _ _
  · exact Ensures.fail fun _ hw => hw
  · exact Ensures.fail fun _ hw => hw

include hrest in
lemma accounted_notifyCb {msg : Msg} {past stack : Bytes} :
    Ensures (Accounted parent rest) (notifyCb kernel msg past stack)
      (fun _ => Accounted parent rest) fun _ _ => False := by
  refine Ensures.bind (Ensures.get (Q := fun _ => Accounted parent rest) fun _ hw => hw) fun w => ?_
  split_ifs
  · refine Ensures.bind (Q := fun _ => Accounted parent rest)
      ((accounted_answer hrest).rescue fun _ => Ensures.pure fun _ hw => hw) fun o => ?_
    refine Ensures.bind (Q := fun _ => Accounted parent rest)
      (Ensures.call fun w hw => hw.idle fun _ => rfl) fun _ => Ensures.pure fun _ hw => hw
  · exact Ensures.pure fun _ hw => hw

include hrest hparent in
lemma accounted_devBind :
    Keeps (Accounted parent rest) (devBind kernel) fun _ => Accounted parent rest :=
  (accounted_clocksSetup hrest hparent).bind fun _ => accounted_regusSetup hrest

include hrest hparent in
lemma accounted_devUnbind : Keeps (Accounted parent rest) (devUnbind kernel) E :=
  (accounted_regusUnsetup hrest).bind fun _ => accounted_clocksUnsetup hrest hparent

end Books

/-! ### Getting and putting -/

section Getting

variable {kernel : Kernel} {rest : Res → ℤ} {E : ℤ → World → Prop} {k k' : Kind} {c : KCall}
  {info : Info} {infos : List Info} {r : Res} {w : World} {dev : Dev} {F : Dev → Prop}

/-- What the device got is in use beside `rest`, and `F` holds. -/
def Got (rest : Res → ℤ) (F : Dev → Prop) (w : World) : Prop :=
  Balanced delta (fun dev r => rest r + dev.got r) w ∧ F w.state

/-- And a call was made. -/
def GotCalled (rest : Res → ℤ) (F : Dev → Prop) (c : KCall) (a : ℤ) (w : World) : Prop :=
  ∃ w₀, Got rest F w₀ ∧ w = ⟨w₀.state, w₀.log ++ [(c, a)]⟩

lemma ensures_gotCalled : Ensures (Got rest F) (call kernel c) (GotCalled rest F c) E :=
  Ensures.call fun w hw => ⟨w, hw, rfl⟩

lemma ensures_gotPerformed :
    Ensures (Got rest F) (perform kernel c) (fun _ w => ∃ a, GotCalled rest F c a w) E :=
  Ensures.bind ensures_gotCalled fun a => Ensures.pure fun _ hw => ⟨a, hw⟩

lemma GotCalled.idle {a : ℤ} (h : GotCalled rest F c a w) (hc : ∀ r, delta (c, a) r = 0) :
    Got rest F w := by
  obtain ⟨w₀, hw, rfl⟩ := h
  exact ⟨hw.1.idle hc, hw.2⟩

lemma GotCalled.change {a : ℤ} {f : Dev → Dev} {F' : Dev → Prop} (h : GotCalled rest F c a w)
    (hrest : ∀ r, 0 ≤ rest r)
    (hc : ∀ r, (f w.state).got r = w.state.got r + delta (c, a) r)
    (hF : F w.state → F' (f w.state)) : Got rest F' ⟨f w.state, w.log⟩ := by
  obtain ⟨w₀, hw, rfl⟩ := h
  change ∀ r, (f w₀.state).got r = w₀.state.got r + delta (c, a) r at hc
  refine ⟨Balanced.congr (Balanced.call hw.1 fun r => ?_) fun r => ?_, hF hw.2⟩
  · have hnonneg : 0 ≤ (f w₀.state).got r := Dev.got_nonneg
    have := hrest r
    rw [hc] at hnonneg
    omega
  · dsimp only
    rw [hc]
    omega

lemma Dev.infos_add (h : k' ≠ k) : (dev.add k info).infos k' = dev.infos k' :=
  Function.update_of_ne h _ _

@[simp] lemma Dev.infos_add_self : (dev.add k info).infos k = dev.infos k ++ [info] :=
  Function.update_self _ _ _

lemma Dev.infos_del (h : k' ≠ k) : (dev.del k).infos k' = dev.infos k' :=
  Function.update_of_ne h _ _

@[simp] lemma Dev.infos_del_self : (dev.del k).infos k = (dev.infos k).tail :=
  Function.update_self _ _ _

lemma Dev.got_of_infos {dev dev' : Dev} {v : ℤ} (hk : dev'.refs k r = dev.refs k r + v)
    (hother : ∀ k', k' ≠ k → dev'.infos k' = dev.infos k') (hirqs : dev'.irqs = dev.irqs) :
    dev'.got r = dev.got r + v := by
  have hrefs : ∀ k', k' ≠ k → dev'.refs k' r = dev.refs k' r := by
    intro k' hne
    rw [Dev.refs, hother k' hne, Dev.refs]
  unfold Dev.got Dev.interrupts
  rw [hirqs]
  cases k with
  | clock =>
    rw [hk, hrefs .regu (by decide)]
    omega
  | regu =>
    rw [hk, hrefs .clock (by decide)]
    omega

lemma Dev.got_add : (dev.add k info).got r = dev.got r + one (.ref k info.handle) r := by
  refine Dev.got_of_infos (k := k) ?_ (fun k' hne => Dev.infos_add hne) rfl
  simp [Dev.refs]

lemma Dev.got_del (h : dev.infos k = info :: infos) :
    (dev.del k).got r = dev.got r + -one (.ref k info.handle) r := by
  refine Dev.got_of_infos (k := k) ?_ (fun k' hne => Dev.infos_del hne) rfl
  simp [Dev.refs, h]

variable (hrest : ∀ r, 0 ≤ rest r)

lemma ensures_put {release : ℤ → KCall}
    (hrelease : ∀ handle a r, delta (release handle, a) r = -one (.ref k handle) r)
    (hrest : ∀ r, 0 ≤ rest r) (hF : ∀ dev, F dev → F (dev.del k)) :
    Ensures (Got rest F) (put kernel k release)
      (fun _ => Got rest fun dev => F dev ∧ dev.infos k = []) E := by
  refine Ensures.bind (Ensures.get (Q := fun w w' => Got rest (fun dev => F dev ∧
    dev.infos k = w.state.infos k) w') fun w hw => ⟨hw.1, hw.2, rfl⟩) fun w => ?_
  generalize w.state.infos k = l
  induction l with
  | nil => exact Ensures.pure fun _ hw => hw
  | cons info l ih =>
    change Ensures _ ((do perform kernel (release info.handle); update (Dev.del k)) >>=
      fun _ => l.forM _) _ _
    refine Ensures.bind
      (Ensures.bind ensures_gotPerformed fun _ => Ensures.update fun w hw => ?_)
      fun _ => ih
    obtain ⟨a, hw⟩ := hw
    have hl : w.state.infos k = info :: l := by
      obtain ⟨w₀, hw₀, rfl⟩ := hw
      exact hw₀.2.2
    refine hw.change hrest (fun r => ?_) fun h => ⟨hF _ h.1, ?_⟩
    · rw [Dev.got_del hl, hrelease]
    · rw [Dev.infos_del_self, hl, List.tail_cons]

include hrest in
lemma ensures_irqsPut (hF : ∀ dev : Dev, F dev → F { dev with irqs := dev.irqs.tail }) :
    Ensures (Got rest F) (irqsPut kernel) (fun _ => Got rest fun dev => F dev ∧ dev.irqs = [])
      E := by
  refine Ensures.bind (Ensures.get (Q := fun w w' => Got rest (fun dev => F dev ∧
    dev.irqs = w.state.irqs) w') fun w hw => ⟨hw.1, hw.2, rfl⟩) fun w => ?_
  -- by induction on the list that was read at first, kept equal to the field at every step
  generalize w.state.irqs = l
  induction l with
  | nil => exact Ensures.pure fun _ hw => hw
  | cons irq l ih =>
    change Ensures _ ((do
      perform kernel (.devmFreeIrq irq)
      update fun dev => { dev with irqs := dev.irqs.tail } : DevProg Unit) >>=
        fun _ => l.forM _) _ _
    refine Ensures.bind
      (Ensures.bind ensures_gotPerformed fun _ => Ensures.update fun w hw => ?_)
      fun _ => ih
    obtain ⟨a, hw⟩ := hw
    have hl : w.state.irqs = irq :: l := by
      obtain ⟨w₀, hw₀, rfl⟩ := hw
      exact hw₀.2.2
    refine hw.change (f := fun dev => { dev with irqs := dev.irqs.tail }) hrest (fun r => ?_)
      fun h => ⟨hF _ h.1, ?_⟩
    · simp only [Dev.got, Dev.refs, Dev.interrupts, hl, List.tail_cons, List.map_cons,
        List.sum_cons, delta]
      omega
    · simp [hl]

/-- Nothing is got any more. -/
def Dev.IsEmpty (dev : Dev) : Prop := (∀ k, dev.infos k = []) ∧ dev.irqs = []

include hrest in
lemma ensures_putAll : Ensures (Got rest fun _ => True) (putAll kernel)
    (fun _ => Got rest Dev.IsEmpty) E := by
  refine (ensures_irqsPut hrest fun _ h => h).bind fun _ => ?_
  refine (ensures_put (F := fun dev => True ∧ dev.irqs = []) (fun _ _ _ => rfl) hrest
    fun _ h => h).bind fun _ => ?_
  refine (ensures_put (F := fun dev => (True ∧ dev.irqs = []) ∧ dev.infos .regu = [])
    (fun _ _ _ => rfl) hrest fun dev h => ⟨h.1, ?_⟩).weaken (fun _ hw => hw) (fun _ w hw => ?_)
    fun _ _ hw => hw
  · rw [Dev.infos_del (by decide), h.2]
  · refine ⟨hw.1, fun k => ?_, hw.2.1.1.2⟩
    cases k with
    | clock => exact hw.2.2
    | regu => exact hw.2.1.2

/-- No flag is set. -/
def Dev.AllOff (dev : Dev) : Prop := ∀ k, ∀ info ∈ dev.infos k, info.enabled = false

lemma Dev.AllOff.add (h : dev.AllOff) (hinfo : info.enabled = false) : (dev.add k info).AllOff := by
  intro k' info' hmem
  rcases eq_or_ne k' k with rfl | hne
  · rw [Dev.infos_add_self] at hmem
    rcases List.mem_append.mp hmem with hold | hnew
    · exact h _ _ hold
    · rw [List.mem_singleton.mp hnew]
      exact hinfo
  · rw [Dev.infos_add hne] at hmem
    exact h _ _ hmem

lemma Dev.AllOff.del (h : dev.AllOff) : (dev.del k).AllOff := by
  intro k' info' hmem
  rcases eq_or_ne k' k with rfl | hne
  · rw [Dev.infos_del_self] at hmem
    exact h _ _ (List.mem_of_mem_tail hmem)
  · rw [Dev.infos_del hne] at hmem
    exact h _ _ hmem

lemma Dev.AllOff.anyEnabled {parent : ℤ → ℤ} (h : dev.AllOff) : dev.anyEnabled parent r = 0 := by
  have hzero : ∀ k, dev.enabled parent k r = 0 := by
    intro k
    refine List.sum_eq_zero fun x hx => ?_
    obtain ⟨info, hinfo, rfl⟩ := List.mem_map.mp hx
    rw [if_neg]
    simp [h k info hinfo]
  rw [Dev.anyEnabled, hzero, hzero, add_zero]

lemma ensures_allocate :
    Ensures (Got rest F) (allocate kernel) (fun _ => Got rest F) fun _ => Got rest F :=
  ensures_gotCalled.bind fun _ => Ensures.throwIf (fun _ hw _ => hw.idle fun _ => rfl)
    fun _ hw _ => hw.idle fun _ => rfl

lemma ensures_get {ret : ℤ} {x : Dev → ℤ → Info} (hrest : ∀ r, 0 ≤ rest r)
    (hc : ∀ a r, delta (c, a) r = if a < 0 then 0 else one (.ref k a) r)
    (hx : ∀ dev a, (x dev a).handle = a ∧ (x dev a).enabled = false)
    (hF : ∀ dev info, F dev → info.enabled = false → F (dev.add k info)) :
    Ensures (Got rest F) (do
        let handle ← call kernel c
        .throwIf (handle < 0) ret
        .update fun dev => dev.add k (x dev handle))
      (fun _ => Got rest F) fun _ => Got rest F := by
  refine ensures_gotCalled.bind fun handle => ?_
  refine Ensures.bind (Q := fun _ w => ¬ handle < 0 ∧ GotCalled rest F c handle w)
    (Ensures.throwIf (fun _ hw hneg => hw.idle fun r => ?_) fun _ hw hpos => ⟨hpos, hw⟩) fun _ => ?_
  · rw [hc, if_pos hneg]
  · refine Ensures.update fun w hw => hw.2.change (f := fun dev => dev.add k (x dev handle)) hrest
      (fun r => ?_) fun h => hF _ _ h (hx _ _).2
    rw [Dev.got_add, (hx _ _).1, hc, if_neg hw.1]

/-- Only clocks were got. -/
def Dev.OnlyClocks (dev : Dev) : Prop := (dev.infos .regu = [] ∧ dev.irqs = []) ∧ dev.AllOff

include hrest in
lemma ensures_clocksGet {np : Option Node} : Ensures (Got rest Dev.OnlyClocks) (clocksGet kernel np)
    (fun _ => Got rest Dev.OnlyClocks) fun _ => Got rest Dev.IsEmpty := by
  cases np with
  | none => exact Ensures.pure fun _ hw => hw
  | some np =>
    refine Ensures.rescue (E := fun _ => Got rest Dev.OnlyClocks) (Ensures.forM fun p _ => ?_)
      fun ret => ?_
    · refine ensures_allocate.bind fun _ => ensures_get hrest (fun _ _ => rfl)
        (fun _ _ => ⟨rfl, rfl⟩) fun dev info h hinfo => ⟨⟨?_, h.1.2⟩, h.2.add hinfo⟩
      rw [Dev.infos_add (by decide)]
      exact h.1.1
    · refine (ensures_put (fun _ _ _ => rfl) hrest fun dev h => ⟨⟨?_, h.1.2⟩, h.2.del⟩).bind
        fun _ => Ensures.fail fun w hw => ⟨hw.1, fun k => ?_, hw.2.1.1.2⟩
      · cases k with
        | clock => exact hw.2.2
        | regu => exact hw.2.1.1.1
      · rw [Dev.infos_del (by decide)]
        exact h.1.1

include hrest in
lemma ensures_regusGet {np : Option Node} : Ensures (Got rest Dev.AllOff) (regusGet kernel np)
    (fun _ => Got rest Dev.AllOff) fun _ => Got rest Dev.AllOff := by
  cases np with
  | none => exact Ensures.pure fun _ hw => hw
  | some np =>
    refine Ensures.rescue (E := fun _ => Got rest Dev.AllOff) (Ensures.forM fun p _ => ?_)
      fun ret => ?_
    · refine Ensures.when (fun _ => ?_) fun _ hw _ => hw
      exact ensures_allocate.bind fun _ => ensures_get hrest (fun _ _ => rfl)
        (fun _ _ => ⟨rfl, rfl⟩) fun dev info h hinfo => h.add hinfo
    · exact (ensures_put (fun _ _ _ => rfl) hrest fun dev h => h.del).bind
        fun _ => Ensures.fail fun w hw => ⟨hw.1, hw.2.1⟩

include hrest in
lemma ensures_irqsGet {np : Option Node} : Ensures (Got rest Dev.AllOff) (irqsGet kernel np)
    (fun _ => Got rest Dev.AllOff) fun _ => Got rest Dev.AllOff := by
  cases np with
  | none => exact Ensures.pure fun _ hw => hw
  | some np =>
    refine ensures_gotCalled.bind fun nr => ?_
    refine Ensures.bind (Q := fun _ => Got rest Dev.AllOff)
      (Ensures.get fun _ hw => hw.idle fun _ => rfl) fun w => Ensures.when (fun _ => ?_)
        fun _ hw _ => hw
    refine Ensures.rescue (E := fun _ => Got rest Dev.AllOff) (Ensures.forM fun i _ => ?_)
      fun ret => ?_
    · refine ensures_allocate.bind fun _ => ensures_gotCalled.bind fun irq => ?_
      refine Ensures.bind (Q := fun _ => Got rest Dev.AllOff)
        (Ensures.throwIf (fun _ hw _ => hw.idle fun _ => rfl) fun _ hw _ => hw.idle fun _ => rfl)
        fun _ => ?_
      -- the interrupt is in use before it is on the list
      refine Ensures.bind (Q := fun _ => Got (fun r => rest r + one (.irq irq) r) Dev.AllOff)
        (ensures_gotCalled.bind fun ret => Ensures.throwIf
          (fun _ hw hret => hw.idle fun _ => if_neg hret) fun w hw hret => ?_) fun _ => ?_
      · obtain ⟨w₀, hw, rfl⟩ := hw
        have hret : ret = 0 := not_not.mp hret
        refine ⟨(Balanced.call hw.1 fun r => ?_).congr fun r => ?_, hw.2⟩
        · have hgot : 0 ≤ w₀.state.got r := Dev.got_nonneg
          have := hrest r
          have := one_nonneg (.irq irq) r
          rw [delta, if_pos hret]
          omega
        · simp only [delta, if_pos hret]
          omega
      · refine ensures_gotPerformed.bind fun _ => Ensures.update fun w hw => ?_
        obtain ⟨a, hw⟩ := hw
        have hidle := hw.idle fun _ => rfl
        refine ⟨hidle.1.congr fun r => ?_, hidle.2⟩
        simp only [Dev.got, Dev.refs, Dev.interrupts, List.map_append, List.sum_append,
          List.map_cons, List.map_nil, List.sum_singleton]
        omega
    · exact (ensures_irqsPut hrest fun _ h => h).bind fun _ =>
        Ensures.throwIf (fun w hw _ => ⟨hw.1, hw.2.1⟩) fun w hw _ => ⟨hw.1, hw.2.1⟩

lemma Dev.IsEmpty.got (h : dev.IsEmpty) : dev.got r = 0 := by
  simp [Dev.got, Dev.refs, Dev.interrupts, h.1, h.2]

lemma Dev.IsEmpty.allOff (h : dev.IsEmpty) : dev.AllOff := fun k info hmem => by
  rw [h.1] at hmem
  cases hmem

include hrest in
/-- A probe that fails has put all that it got. -/
lemma ensures_devProbe {np : Option Node} : Ensures (Got rest Dev.IsEmpty) (devProbe kernel np)
    (fun _ => Got rest Dev.AllOff) fun _ => Got rest Dev.IsEmpty := by
  refine ensures_allocate.bind fun _ => ?_
  refine Ensures.bind (Q := fun _ => Got rest Dev.OnlyClocks) ((ensures_clocksGet hrest).weaken
    (fun w hw => ⟨hw.1, ⟨hw.2.1 _, hw.2.2⟩, hw.2.allOff⟩) (fun _ _ hw => hw) fun _ _ hw => hw)
    fun _ => ?_
  refine Ensures.rescue (E := fun _ => Got rest fun _ => True) ?_ fun ret =>
    (ensures_putAll hrest).bind fun _ => Ensures.fail fun _ hw => hw
  have htrue : ∀ w, Got rest Dev.AllOff w → Got rest (fun _ => True) w :=
    fun w hw => ⟨hw.1, trivial⟩
  refine Ensures.bind (Q := fun _ => Got rest Dev.AllOff) ((ensures_regusGet hrest).weaken
    (fun w hw => ⟨hw.1, hw.2.2⟩) (fun _ _ hw => hw) fun _ w hw => htrue w hw) fun _ => ?_
  refine Ensures.bind (Q := fun _ => Got rest Dev.AllOff) ((ensures_irqsGet hrest).weaken
    (fun _ hw => hw) (fun _ _ hw => hw) fun _ w hw => htrue w hw) fun _ => ?_
  refine ensures_gotCalled.bind fun ret => Ensures.when (fun _ => ?_) fun _ hw _ =>
    hw.idle fun _ => rfl
  refine Ensures.bind (ensures_gotPerformed.weaken (fun _ hw => hw.idle fun _ => rfl)
    (fun _ _ hw => hw) fun _ _ hw => hw) fun _ => Ensures.fail fun w hw => ?_
  obtain ⟨a, hw⟩ := hw
  exact htrue w (hw.idle fun _ => rfl)

include hrest in
lemma ensures_devRemove : Ensures (Got rest fun _ => True) (devRemove kernel)
    (fun _ => Got rest Dev.IsEmpty) E := by
  refine Ensures.bind ensures_gotPerformed fun _ => (ensures_putAll hrest).weaken (fun w hw => ?_)
    (fun _ _ hw => hw) fun _ _ hw => hw
  obtain ⟨a, hw⟩ := hw
  exact hw.idle fun _ => rfl

end Getting

end Sativa.Srm
