import Sativa.SrmMessages

/-!
Whole runs of the resource manager.

What was taken from the kernel is what the devices have, or left behind; and nothing is left behind
as long as nothing fails after the clocks are enabled.
-/

namespace Sativa.Srm

open Sativa Prog

section Lists

variable {α : Type} {l : List α} {i : ℕ} {a b : α}

lemma sum_set (f : α → ℤ) (ha : l[i]? = some a) :
    ((l.set i b).map f).sum = (l.map f).sum - f a + f b := by
  rw [List.set_eq_modify]
  exact sum_modify f ha

lemma sum_eraseIdx (f : α → ℤ) (ha : l[i]? = some a) :
    ((l.eraseIdx i).map f).sum = (l.map f).sum - f a := by
  induction l generalizing i with
  | nil => cases ha
  | cons b l ih =>
    cases i with
    | zero =>
      cases ha
      simp
    | succ i =>
      have hrest := ih (i := i) (by simpa using ha)
      simp only [List.eraseIdx_cons_succ, List.map_cons, List.sum_cons, hrest]
      omega

end Lists

section Balance

variable {kernel : Kernel} {parent : ℤ → ℤ} {s : System} {i : ℕ} {e : Entry} {r : Res}

lemma Entry.uses_nonneg : 0 ≤ e.uses parent r := by
  unfold Entry.uses
  split_ifs
  · exact add_nonneg (sum_nonneg_of_map _ fun info => one_nonneg _ _) Dev.anyEnabled_nonneg
  · exact Dev.uses_nonneg

/-- What others have in use. -/
def others (parent : ℤ → ℤ) (s : Devices) (e : Entry) (r : Res) : ℤ :=
  s.uses parent r - e.uses parent r

lemma others_nonneg (he : s.state.chain[i]? = some e) (r : Res) :
    0 ≤ others parent s.state e r := by
  have hle : e.uses parent r ≤ (s.state.chain.map fun e => e.uses parent r).sum :=
    le_sum_of_getElem? (fun _ => Entry.uses_nonneg) he
  have hremoved : 0 ≤ (s.state.removed.map fun d => d.anyEnabled parent r).sum :=
    sum_nonneg_of_map _ fun _ => Dev.anyEnabled_nonneg
  unfold others Devices.uses
  omega

lemma accounted_of_balanced (h : Balanced delta (Devices.uses parent) s)
    (hphase : e.phase ≠ .freed) :
    Accounted parent (others parent s.state e) ⟨e.dev, s.log⟩ := by
  refine Balanced.congr h fun r => ?_
  have huses : e.uses parent r = e.dev.uses parent r := if_neg hphase
  simp only [others, huses]
  omega

lemma balanced_setEntry {e' : Entry} {log : List (KCall × ℤ)} {σ : Type} {uses : σ → Res → ℤ}
    {state : σ} (he : s.state.chain[i]? = some e)
    (h : Balanced delta uses ⟨state, log⟩)
    (huses : ∀ r, uses state r = others parent s.state e r + e'.uses parent r) :
    Balanced delta (Devices.uses parent) (setEntry i e' log s) := by
  refine Balanced.congr h fun r => ?_
  rw [huses]
  simp only [Devices.uses, others, sum_set _ he]
  omega

variable (hparent : ∀ log clk, kernel log (.clkGetParent clk) = parent clk)

lemma onEntry_ind {ok : Entry → Prop} [DecidablePred ok] {f : Entry → System → Answer × System}
    {P : Answer × System → Prop} (hrefused : P (.refused, s))
    (hf : ∀ e, s.state.chain[i]? = some e → ok e → onEntry i ok f s = f e s → P (f e s)) :
    P (onEntry i ok f s) := by
  rcases he : s.state.chain[i]? with _ | e
  · have hrun : onEntry i ok f s = (.refused, s) := by rw [onEntry, he]
    rwa [hrun]
  · by_cases hok : ok e
    · have hrun : onEntry i ok f s = f e s := by
        rw [onEntry, he]
        exact if_pos hok
      rw [hrun]
      exact hf e he hok hrun
    · have hrun : onEntry i ok f s = (.refused, s) := by
        rw [onEntry, he]
        exact if_neg hok
      rwa [hrun]

lemma ensures_giveBack {α : Type} {c : α → KCall} {res : α → Res} {base : Res → ℤ}
    {E : ℤ → World → Prop} (hbase : ∀ r, 0 ≤ base r)
    (hc : ∀ x a r, delta (c x, a) r = -one (res x) r) (l : List α) :
    Ensures (Balanced delta fun (_ : Dev) r => base r + (l.map fun x => one (res x) r).sum)
      (l.forM fun x => perform kernel (c x)) (fun _ => Balanced delta fun (_ : Dev) r => base r)
      E := by
  induction l with
  | nil => exact Ensures.pure fun w hw => hw.congr fun r => by simp
  | cons x l ih =>
    change Ensures _ (perform kernel (c x) >>= fun _ => l.forM _) _ _
    refine Ensures.bind (Ensures.bind (Ensures.call (Q := fun _ =>
      Balanced delta fun (_ : Dev) r => base r + (l.map fun x => one (res x) r).sum)
      fun w hw => ?_) fun _ => Ensures.pure fun _ hw => hw) fun _ => ih
    have hl : ∀ r, 0 ≤ (l.map fun x => one (res x) r).sum := fun r =>
      sum_nonneg_of_map l fun x => one_nonneg _ _
    refine (Balanced.call hw fun r => ?_).congr fun r => ?_
    · have := hbase r
      have := hl r
      simp only [hc, List.map_cons, List.sum_cons]
      omega
    · simp only [hc, List.map_cons, List.sum_cons]
      omega

/-- What the driver core releases is what is not left behind. -/
lemma run_devresRelease {rest : Res → ℤ} {dev : Dev} {log : List (KCall × ℤ)}
    (hrest : ∀ r, 0 ≤ rest r) (h : Accounted parent rest ⟨dev, log⟩) :
    Post (fun _ => Balanced delta fun (_ : Dev) r =>
        rest r + (dev.refs .clock r + dev.anyEnabled parent r)) (fun _ _ => False)
      ((devresRelease kernel).run ⟨dev, log⟩) := by
  have hkept : ∀ r, 0 ≤ rest r + (dev.refs .clock r + dev.anyEnabled parent r) := fun r =>
    add_nonneg (hrest r) (add_nonneg (sum_nonneg_of_map _ fun info => one_nonneg _ _)
      Dev.anyEnabled_nonneg)
  have hkept' : ∀ r, 0 ≤ (rest r + (dev.refs .clock r + dev.anyEnabled parent r)) +
      ((dev.infos .regu).reverse.map fun info => one (.ref .regu info.handle) r).sum := fun r =>
    add_nonneg (hkept r) (sum_nonneg_of_map _ fun info => one_nonneg _ _)
  have hbooks : Balanced delta (fun (_ : Dev) r => rest r + (dev.refs .clock r +
      dev.anyEnabled parent r) + ((dev.infos .regu).reverse.map fun info =>
        one (.ref .regu info.handle) r).sum + (dev.irqs.reverse.map fun irq =>
          one (.irq irq) r).sum) ⟨dev, log⟩ := by
    refine h.congr fun r => ?_
    simp only [List.map_reverse, List.sum_reverse, Dev.uses, Dev.got, Dev.refs, Dev.interrupts]
    omega
  exact Ensures.bind (ensures_giveBack hkept' (fun _ _ _ => rfl) _)
    (fun _ => ensures_giveBack hkept (fun _ _ _ => rfl) _) _ hbooks

lemma balanced_added {ret : ℤ} (h : Balanced delta (Devices.uses parent) s) :
    Balanced delta (Devices.uses parent) (added kernel i ret s).2 := by
  refine onEntry_ind (P := fun r => Balanced delta (Devices.uses parent) r.2) h fun e he hok _ => ?_
  have hphase : e.phase ≠ .freed := by
    rw [hok.1]
    decide
  have hacc := accounted_of_balanced h hphase
  split_ifs
  · refine balanced_setEntry he hacc fun r => ?_
    rfl
  · have hpost := @run_devresRelease kernel _ _ _ _ (others_nonneg he) hacc
    rcases hrun : (devresRelease kernel).run ⟨e.dev, s.log⟩ with ⟨ret' | ⟨⟩, w⟩
    · rw [hrun] at hpost
      exact hpost.elim
    · rw [hrun] at hpost
      exact balanced_setEntry he hpost fun r => rfl

include hparent in
lemma balanced_bind (h : Balanced delta (Devices.uses parent) s) :
    Balanced delta (Devices.uses parent) (bind kernel i s).2 := by
  refine onEntry_ind (P := fun r => Balanced delta (Devices.uses parent) r.2) h fun e he hok _ => ?_
  have hacc := (accounted_devBind (others_nonneg he) hparent).state (accounted_of_balanced h hok.1)
  exact balanced_setEntry he hacc fun r => by rw [Entry.uses, if_neg hok.1]

include hparent in
lemma balanced_unbind (h : Balanced delta (Devices.uses parent) s)
    (hbound : ∀ e ∈ s.state.chain, e.bound = true → e.phase ≠ .freed) :
    Balanced delta (Devices.uses parent) (unbind kernel i s).2 := by
  refine onEntry_ind (P := fun r => Balanced delta (Devices.uses parent) r.2) h fun e he hok _ => ?_
  have hphase := hbound e (List.mem_of_getElem? he) hok
  have hacc :=
    (accounted_devUnbind (others_nonneg he) hparent).state (accounted_of_balanced h hphase)
  exact balanced_setEntry he hacc fun r => by rw [Entry.uses, if_neg hphase]

lemma balanced_remove (h : Balanced delta (Devices.uses parent) s) :
    Balanced delta (Devices.uses parent) (remove kernel i s).2 := by
  refine onEntry_ind (P := fun r => Balanced delta (Devices.uses parent) r.2) h fun e he hok _ => ?_
  have hphase : e.phase ≠ .freed := by
    rw [hok.1]
    decide
  have hacc := accounted_of_balanced h hphase
  have hrest : ∀ r, 0 ≤ others parent s.state e r + e.dev.anyEnabled parent r := fun r =>
    add_nonneg (others_nonneg he r) Dev.anyEnabled_nonneg
  have hgot : Got (fun r => others parent s.state e r + e.dev.anyEnabled parent r)
      (fun _ => True) ⟨e.dev, s.log⟩ := by
    refine ⟨hacc.congr fun r => ?_, trivial⟩
    dsimp only
    rw [Dev.uses]
    omega
  have hpost : Got (fun r => others parent s.state e r + e.dev.anyEnabled parent r) Dev.IsEmpty
      ((devRemove kernel).run ⟨e.dev, s.log⟩).2 := (ensures_devRemove hrest).state hgot
  refine hpost.1.congr fun r => ?_
  rw [hpost.2.got, add_zero]
  simp only [Devices.uses, others, sum_eraseIdx _ he, List.map_append, List.sum_append,
    List.map_cons, List.map_nil, List.sum_singleton]
  omega

lemma Devices.uses_nonneg {s : Devices} : 0 ≤ s.uses parent r :=
  add_nonneg (sum_nonneg_of_map _ fun _ => Entry.uses_nonneg)
    (sum_nonneg_of_map _ fun _ => Dev.anyEnabled_nonneg)

lemma balanced_probe {name : Bytes} {earlyBoot : Bool} {np : Option Node}
    (h : Balanced delta (Devices.uses parent) s) :
    Balanced delta (Devices.uses parent) (probe kernel name earlyBoot np s).2 := by
  have hempty : (Dev.blank name earlyBoot).IsEmpty := ⟨fun _ => rfl, rfl⟩
  have hgot : Got (s.state.uses parent) Dev.IsEmpty ⟨.blank name earlyBoot, s.log⟩ :=
    ⟨h.congr fun r => by rw [hempty.got, add_zero], hempty⟩
  have hpost := @ensures_devProbe kernel _ (fun r => Devices.uses_nonneg) np _ hgot
  unfold probe
  rcases hrun : (devProbe kernel np).run ⟨.blank name earlyBoot, s.log⟩ with ⟨ret | ⟨⟩, w⟩
  · rw [hrun] at hpost
    refine hpost.1.congr fun r => ?_
    rw [hpost.2.got, add_zero]
  · rw [hrun] at hpost
    refine hpost.1.congr fun r => ?_
    have huses : Entry.uses parent ⟨w.state, false, .adding⟩ r = w.state.got r := by
      rw [Entry.uses, if_neg (by decide : Phase.adding ≠ .freed), Dev.uses, hpost.2.anyEnabled,
        add_zero]
    simp only [Devices.uses, List.map_append, List.sum_append, List.map_cons, List.map_nil,
      List.sum_singleton, huses]
    omega

/-- The devices before one in the chain are in use beside those behind it. -/
lemma balanced_callChain {msg : Msg} {past stack : Bytes} {es : List Entry}
    {log : List (KCall × ℤ)} {base : Res → ℤ} (hbase : ∀ r, 0 ≤ base r)
    (h : Balanced delta (fun es r => base r + (es.map fun e : Entry => e.uses parent r).sum)
      ⟨es, log⟩) :
    Balanced delta (fun es r => base r + (es.map fun e : Entry => e.uses parent r).sum)
      ⟨(callChain kernel msg past stack es log).2.1,
        (callChain kernel msg past stack es log).2.2⟩ := by
  -- the devices already passed go into base, those behind are a frame for the call of this one
  induction es generalizing log base with
  | nil => exact h
  | cons e es ih =>
    unfold callChain
    split_ifs with hphase
    · exact h
    have hes : ∀ r, 0 ≤ (es.map fun e : Entry => e.uses parent r).sum := fun r =>
      sum_nonneg_of_map _ fun _ => Entry.uses_nonneg
    have hacc : Accounted parent (fun r => base r + (es.map fun e => e.uses parent r).sum)
        ⟨e.dev, log⟩ := by
      refine h.congr fun r => ?_
      simp only [List.map_cons, List.sum_cons, Entry.uses, if_neg hphase]
      omega
    have hpost := @accounted_notifyCb kernel _ _ (fun r => add_nonneg (hbase r) (hes r)) msg past
      stack _ hacc
    rcases hrun : (notifyCb kernel msg past stack).run ⟨e.dev, log⟩ with ⟨no | result, w⟩
    · exact no.elim
    rw [hrun] at hpost
    have hhead : ∀ r, Entry.uses parent { e with dev := w.state } r = w.state.uses parent r :=
      fun r => if_neg hphase
    cases result with
    | done =>
      have hbase' : ∀ r, 0 ≤ base r + w.state.uses parent r := fun r =>
        add_nonneg (hbase r) Dev.uses_nonneg
      -- the message was not for this device, which joins base
      have htail := ih hbase' (hpost.congr fun r => by dsimp only; omega)
      refine htail.congr fun r => ?_
      simp only [List.map_cons, List.sum_cons, hhead]
      omega
    -- the rest of the chain is not called
    | stop | bad =>
      refine hpost.congr fun r => ?_
      simp only [List.map_cons, List.sum_cons, hhead]
      omega

lemma balanced_rpmsgSrmCb {msg : Msg} {past stack : Bytes}
    (h : Balanced delta (Devices.uses parent) s) :
    Balanced delta (Devices.uses parent) (rpmsgSrmCb kernel msg past stack s).2 := by
  have hremoved : ∀ r, 0 ≤ (s.state.removed.map fun d => d.anyEnabled parent r).sum := fun r =>
    sum_nonneg_of_map _ fun _ => Dev.anyEnabled_nonneg
  have hchain := @balanced_callChain kernel _ msg past stack s.state.chain s.log _ hremoved
    (h.congr fun r => add_comm _ _)
  unfold rpmsgSrmCb
  generalize callChain kernel msg past stack s.state.chain s.log = r at hchain ⊢
  obtain ⟨result, chain, log⟩ := r
  have hbooks : Balanced delta (Devices.uses parent) ⟨{ s.state with chain }, log⟩ :=
    hchain.congr fun r => by simp only [Devices.uses]; omega
  cases result with
  | none => exact hbooks
  | some result =>
    cases result with
    | done => exact hbooks.idle fun _ => rfl
    | stop => exact hbooks
    | bad => exact hbooks

end Balance

/-! ### What a step does to the chain -/

/-- An entry after an event in `s`. -/
inductive Became (kernel : Kernel) (s : System) : Event → Entry → Prop
  | kept {ev : Event} {e : Entry} (he : e ∈ s.state.chain) : Became kernel s ev e
  | probed {name : Bytes} {earlyBoot : Bool} {np : Option Node} {dev : Dev} (fresh : dev.Fresh) :
      Became kernel s (.probe name earlyBoot np) ⟨dev, false, .adding⟩
  | added {i : ℕ} {e : Entry} (he : e ∈ s.state.chain) (hphase : e.phase = .adding) :
      Became kernel s (.added i 0) { e with phase := .ready }
  | freed {i : ℕ} {ret : ℤ} {e : Entry} (he : e ∈ s.state.chain) (hret : ret ≠ 0)
      (hbound : e.bound = false)
      (hanswer : (step kernel s (.added i ret)).1 = .ret ret) :
      Became kernel s (.added i ret) { e with phase := .freed }
  | bound {i : ℕ} {e : Entry} {dev : Dev} (he : e ∈ s.state.chain) (hphase : e.phase ≠ .freed)
      (fixed : Fixed e.dev dev) (clocks : dev.All .clock true) :
      Became kernel s (.bind i) { e with dev, bound := true }
  | bindFailed {i : ℕ} {calls : List (KCall × ℤ)} {ret : ℤ} {e : Entry} {dev : Dev}
      (he : e ∈ s.state.chain) (hphase : e.phase ≠ .freed) (hbound : e.bound = false)
      (hret : ret ≠ 0) (hanswer : (step kernel s (.bind i)).1 = .ret ret) (fixed : Fixed e.dev dev)
      (left : BindFailed kernel calls ret e.dev dev) :
      Became kernel s (.bind i) { e with dev, bound := false }
  | unbound {i : ℕ} {calls : List (KCall × ℤ)} {e : Entry} {dev : Dev} (he : e ∈ s.state.chain)
      (fixed : Fixed e.dev dev) (clocks : dev.All .clock false)
      (regus : ∀ r ∈ dev.infos .regu, StuckOn kernel calls r) :
      Became kernel s (.unbind i) { e with dev, bound := false }
  | messaged {msg : Msg} {past stack : Bytes} {e : Entry} {dev : Dev} (he : e ∈ s.state.chain)
      (same : SameBut .regu e.dev dev) : Became kernel s (.message msg past stack) { e with dev }

section Inversion

variable {kernel : Kernel} {s : System} {i : ℕ} {e e' : Entry} {ev : Event}

lemma sameBut_of_replied {msg reply : Msg} {past stack : Bytes} {dev dev' : Dev}
    (h : Replied msg past stack dev dev' reply) : SameBut .regu dev dev' := by
  rcases h with hanswered | ⟨-, hfailed⟩
  · cases hanswered with
    | clock | regu => exact .refl
    | switched => exact sameBut_setEnabled
  · cases hfailed with
    | same => exact .refl
    | switched => exact sameBut_setEnabled

lemma mem_setEntry {log : List (KCall × ℤ)} (h : e' ∈ (setEntry i e log s).state.chain) :
    e' ∈ s.state.chain ∨ e' = e := List.mem_or_eq_of_mem_set h

lemma became_probe {name : Bytes} {earlyBoot : Bool} {np : Option Node}
    (h : e' ∈ (probe kernel name earlyBoot np s).2.state.chain) :
    Became kernel s (.probe name earlyBoot np) e' := by
  have hpost := @fresh_devProbe kernel np ⟨.blank name earlyBoot, s.log⟩ ⟨fun _ => rfl, rfl⟩
  unfold probe at h
  rcases hrun : (devProbe kernel np).run ⟨.blank name earlyBoot, s.log⟩ with ⟨ret | ⟨⟩, w⟩
  · rw [hrun] at h
    exact .kept h
  · rw [hrun] at h hpost
    rcases List.mem_append.mp h with hold | hnew
    · exact .kept hold
    · rw [List.mem_singleton.mp hnew]
      exact .probed hpost

lemma became_added {ret : ℤ} :
    ∀ e' ∈ (added kernel i ret s).2.state.chain, Became kernel s (.added i ret) e' := by
  refine onEntry_ind (P := fun r => ∀ e' ∈ r.2.state.chain, Became kernel s (.added i ret) e')
    (fun _ h => .kept h) fun e he hok hrun e' h => ?_
  have hmem := List.mem_of_getElem? he
  split_ifs at h with hret
  · rcases mem_setEntry h with hold | rfl
    · exact .kept hold
    · subst hret
      exact .added hmem hok.1
  · rcases mem_setEntry h with hold | rfl
    · exact .kept hold
    · have hanswer := congrArg Prod.fst hrun
      rw [if_neg hret] at hanswer
      exact .freed hmem hret (hok.2.resolve_left hret) hanswer

lemma became_bind : ∀ e' ∈ (bind kernel i s).2.state.chain, Became kernel s (.bind i) e' := by
  refine onEntry_ind (P := fun r => ∀ e' ∈ r.2.state.chain, Became kernel s (.bind i) e')
    (fun _ h => .kept h) fun e he hok hrun e' h => ?_
  have hmem := List.mem_of_getElem? he
  have hpost := @flags_devBind e.dev kernel s.log ⟨e.dev, s.log⟩ rfl
  have herror := @error_devBind kernel ⟨e.dev, s.log⟩ trivial
  rcases hbind : (devBind kernel).run ⟨e.dev, s.log⟩ with ⟨ret | ⟨⟩, w⟩
  · rw [hbind] at h hpost herror
    simp only [hbind] at hrun
    rcases mem_setEntry h with hold | rfl
    · exact .kept hold
    · obtain ⟨hfixed, calls, -, hfailed⟩ := hpost
      exact .bindFailed hmem hok.1 hok.2 herror (congrArg Prod.fst hrun) hfixed hfailed
  · rw [hbind] at h hpost
    rcases mem_setEntry h with hold | rfl
    · exact .kept hold
    · exact .bound hmem hok.1 hpost.1 hpost.2.1

lemma became_unbind : ∀ e' ∈ (unbind kernel i s).2.state.chain, Became kernel s (.unbind i) e' := by
  refine onEntry_ind (P := fun r => ∀ e' ∈ r.2.state.chain, Became kernel s (.unbind i) e')
    (fun _ h => .kept h) fun e he hok hrun e' h => ?_
  have hmem := List.mem_of_getElem? he
  have hpost := @flags_devUnbind e.dev kernel
    (fun _ w => Fixed e.dev w.state ∧ w.state.All .clock false ∧ ∃ calls,
      ∀ r ∈ w.state.infos .regu, StuckOn kernel calls r) s.log ⟨e.dev, s.log⟩ rfl
  rcases mem_setEntry h with hold | rfl
  · exact .kept hold
  · rcases hunbind : (devUnbind kernel).run ⟨e.dev, s.log⟩ with ⟨ret | ⟨⟩, w⟩ <;>
      rw [hunbind] at hpost <;> obtain ⟨hfixed, hclocks, calls, hregus⟩ := hpost <;>
      exact .unbound hmem hfixed hclocks hregus

lemma became_remove : ∀ e' ∈ (remove kernel i s).2.state.chain, Became kernel s (.remove i) e' := by
  refine onEntry_ind (P := fun r => ∀ e' ∈ r.2.state.chain, Became kernel s (.remove i) e')
    (fun _ h => .kept h) fun e he hok hrun e' h => .kept (List.mem_of_mem_eraseIdx h)

lemma became_message {msg : Msg} {past stack : Bytes} :
    ∀ e' ∈ (rpmsgSrmCb kernel msg past stack s).2.state.chain,
      Became kernel s (.message msg past stack) e' := by
  have hchain : ∀ e' ∈ (callChain kernel msg past stack s.state.chain s.log).2.1,
      Became kernel s (.message msg past stack) e' := by
    rcases hfind : s.state.chain.findIdx? (Entry.takes (msg.deviceIdStr past)) with _ | i
    · rw [callChain_of_none (List.findIdx?_eq_none_iff.mp hfind)]
      exact fun _ h => .kept h
    · obtain ⟨e, he, hfreed, htaken⟩ := @callChain_of_some kernel msg past stack _ s.log _ hfind
      by_cases hphase : e.phase = .freed
      · rw [hfreed hphase]
        exact fun _ h => .kept h
      · obtain ⟨-, dev', reply, log', ⟨result, -, hrun⟩, hreplied, -⟩ := htaken hphase
        rw [hrun]
        intro e' h
        rcases List.mem_or_eq_of_mem_set h with hold | rfl
        · exact .kept hold
        · exact .messaged (List.mem_of_getElem? he) (sameBut_of_replied hreplied)
  unfold rpmsgSrmCb
  split <;> rename_i hrun <;> rw [hrun] at hchain <;> exact hchain

/-- All that a step can do to an entry. -/
lemma became_of_mem (h : e' ∈ (step kernel s ev).2.state.chain) : Became kernel s ev e' := by
  cases ev with
  | probe name earlyBoot np => exact became_probe h
  | added i ret => exact became_added e' h
  | bind i => exact became_bind e' h
  | unbind i => exact became_unbind e' h
  | remove i => exact became_remove e' h
  | message msg past stack => exact became_message e' h

end Inversion

/-! ### Invariants -/

/-- What holds of every entry of the chain. -/
structure Entry.Sound (e : Entry) : Prop where
  alive : e.bound = true → e.phase ≠ .freed
  clocks : e.dev.All .clock true ∨ e.dev.All .clock false
  boundClocks : e.bound = true → e.dev.All .clock true
  numbered : e.dev.Numbered

section Invariants

variable {kernel : Kernel} {parent : ℤ → ℤ} {s : System} {e : Entry} {ev : Event}
  {h : List (Event × Answer)}

lemma Became.sound {e' : Entry} (hb : Became kernel s ev e') (hs : ∀ e ∈ s.state.chain, e.Sound) :
    e'.Sound := by
  -- one case for each way an entry comes about
  cases hb with
  | kept he => exact hs _ he
  | probed fresh =>
    exact ⟨fun _ => nofun, .inr (fresh.1 .clock), nofun, fresh.2⟩
  | added he hphase =>
    have hold := hs _ he
    exact ⟨fun _ => nofun, hold.clocks, hold.boundClocks, hold.numbered⟩
  | freed he hret hbound hanswer =>
    have hold := hs _ he
    -- freed while the component is still there: it was not bound, so that nothing has to be alive
    exact ⟨fun hon => (by cases hbound.symm.trans hon), hold.clocks, hold.boundClocks,
      hold.numbered⟩
  | bound he hphase fixed clocks =>
    -- bind and unbind put all clocks on or all off, a failed bind as well
    exact ⟨fun _ => hphase, .inl clocks, fun _ => clocks, (hs _ he).numbered.fixed fixed⟩
  | bindFailed he hphase hbound hret hanswer fixed left =>
    exact ⟨nofun, left.clocks, nofun, (hs _ he).numbered.fixed fixed⟩
  | unbound he fixed clocks regus =>
    exact ⟨nofun, .inr clocks, nofun,
      (hs _ he).numbered.fixed fixed⟩
  | messaged he same =>
    have hold := hs _ he
    have hclocks : ∀ {b}, Dev.All .clock b _ → Dev.All .clock b _ := fun hall =>
      Dev.All.sameBut hall same (by decide)
    exact ⟨hold.alive, hold.clocks.imp hclocks hclocks, fun hon => hclocks (hold.boundClocks hon),
      hold.numbered.fixed same.toFixed⟩

lemma sound_of_reachable (hs : (machine kernel).Reachable s) : ∀ e ∈ s.state.chain, e.Sound :=
  hs.invariant (P := fun s => ∀ e ∈ s.state.chain, e.Sound)
    (fun _ he => absurd he List.not_mem_nil) fun _ _ _ hold _ he => (became_of_mem he).sound hold

lemma balanced_step (hparent : ∀ log clk, kernel log (.clkGetParent clk) = parent clk)
    (h : Balanced delta (Devices.uses parent) s) (hs : ∀ e ∈ s.state.chain, e.Sound) :
    Balanced delta (Devices.uses parent) (step kernel s ev).2 := by
  cases ev with
  | probe name earlyBoot np => exact balanced_probe h
  | added i ret => exact balanced_added h
  | bind i => exact balanced_bind hparent h
  | unbind i => exact balanced_unbind hparent h fun e he hon => (hs e he).alive hon
  | remove i => exact balanced_remove h
  | message msg past stack => exact balanced_rpmsgSrmCb h

lemma balanced_of_reachable (hparent : ∀ log clk, kernel log (.clkGetParent clk) = parent clk)
    (hs : (machine kernel).Reachable s) : Balanced delta (Devices.uses parent) s :=
  hs.invariant (P := Balanced delta (Devices.uses parent)) (.init fun _ => rfl)
    fun _ _ hreach hold => balanced_step hparent hold (sound_of_reachable hreach)

end Invariants

/-- **Nothing is given back that was not taken**: as long as no clock changes its parent, in every
run whatever fails, no call gives back more than was taken before, and what was taken is what the
devices on the chain have, and what those left enabled that were removed. -/
theorem uses_balanced (kernel : Kernel) (parent : ℤ → ℤ)
    (hparent : ∀ log clk, kernel log (.clkGetParent clk) = parent clk)
    {h : List (Event × Answer)} {s : System} (hr : (machine kernel).Run h s) :
    (∀ log, log <+: s.log → ∀ r, 0 ≤ net delta log r) ∧
      ∀ r, net delta s.log r = s.state.uses parent r := by
  have hbooks := balanced_of_reachable hparent ⟨h, hr⟩
  exact ⟨hbooks.nonneg, hbooks.balance⟩

/-- A kernel that gives all that it is asked for; the parent of clock `1` is `101`. -/
def sampleKernel : Kernel := fun _ c => match c with
  | .kzalloc => 1
  | .ofClkGet i => i + 1
  | .clkGetParent clk => clk + 100
  | .devmRegulatorGet _ => 7
  | .platformIrqCount => 1
  | .platformGetIrq i => i + 40
  | _ => 0

/-- A node with one clock and one regulator. -/
def sampleNode : Option Node := some ⟨[none], [⟨ascii "v-supply", by decide, by decide⟩]⟩

/-- A device is probed and bound. -/
def sampleEvents : List Event :=
  [.probe (ascii "soc:m4:dac") false sampleNode, .added 0 0, .bind 0]

theorem uses_balanced_sample :
    net delta ((machine sampleKernel).exec sampleEvents).2.log (.on .clock 101) =
      ((machine sampleKernel).exec sampleEvents).2.state.uses (· + 100) (.on .clock 101) :=
  (uses_balanced sampleKernel (· + 100) (fun _ _ => rfl)
    ((machine sampleKernel).run_exec sampleEvents)).2 _

/-! ### When nothing is left behind -/

/-- Nothing fails after the clocks are enabled, and messages come while all devices are bound. -/
def Smooth (kernel : Kernel) (s : System) : Event → Prop
  | .bind i => ∀ ret, (step kernel s (.bind i)).1 = .ret ret → ret = 0
  | .added _ ret => ret = 0
  | .message _ _ _ => ∀ e ∈ s.state.chain, e.bound = true
  | _ => True

/-- What is not bound has nothing enabled, and what was removed left nothing enabled. -/
structure Devices.Tidy (s : Devices) : Prop where
  unbound : ∀ e ∈ s.chain, e.bound = false → e.dev.AllOff
  alive : ∀ e ∈ s.chain, e.phase ≠ .freed
  removed : ∀ dev ∈ s.removed, dev.AllOff

section Tidy

variable {kernel : Kernel} {s : System} {e : Entry} {ev : Event}

lemma allOff_of_flags {dev : Dev} (hclocks : dev.All .clock false)
    (hregus : ∀ r ∈ dev.infos .regu, r.enabled = false) : dev.AllOff := by
  intro k info hinfo
  cases k with
  | clock => exact hclocks info hinfo
  | regu => exact hregus info hinfo

lemma StuckOn.off {calls : List (KCall × ℤ)} {r : Info} (h : StuckOn kernel calls r)
    (hdisable : ∀ log regu, kernel log (.regulatorDisable regu) = 0) : r.enabled = false := by
  rcases hon : r.enabled with _ | _
  · rfl
  · obtain ⟨log, hne, -⟩ := h hon
    exact absurd (hdisable log r.handle) hne

lemma Became.tidy (hb : Became kernel s ev e) (hs : s.state.Tidy) (hev : Smooth kernel s ev)
    (hdisable : ∀ log regu, kernel log (.regulatorDisable regu) = 0) :
    (e.bound = false → e.dev.AllOff) ∧ e.phase ≠ .freed := by
  cases hb with
  | kept he => exact ⟨hs.unbound _ he, hs.alive _ he⟩
  | probed fresh => exact ⟨fun _ => fresh.1, nofun⟩
  | added he hphase =>
    have hold := hs.unbound _ he
    exact ⟨hold, nofun⟩
  | freed he hret hbound hanswer => exact absurd hev hret
  | bound he hphase fixed clocks => exact ⟨nofun, hphase⟩
  | bindFailed he hphase hbound hret hanswer fixed left => exact absurd (hev _ hanswer) hret
  | unbound he fixed clocks regus =>
    have halive := hs.alive _ he
    exact ⟨fun _ => allOff_of_flags clocks fun r hr => (regus r hr).off hdisable, halive⟩
  | messaged he same =>
    have halive := hs.alive _ he
    exact ⟨fun hno => (by cases (hev _ he).symm.trans hno), halive⟩

lemma removed_of_step {dev : Dev} (h : dev ∈ (step kernel s ev).2.state.removed) :
    dev ∈ s.state.removed ∨ ∃ e ∈ s.state.chain, e.bound = false ∧ e.dev = dev := by
  cases ev with
  | probe name earlyBoot np =>
    change dev ∈ (probe kernel name earlyBoot np s).2.state.removed at h
    unfold probe at h
    split at h <;> exact .inl h
  | added i ret =>
    refine onEntry_ind (P := fun r => dev ∈ r.2.state.removed → _) .inl (fun e he hok _ h => ?_) h
    split_ifs at h <;> exact .inl h
  | bind i | unbind i =>
    exact onEntry_ind (P := fun r => dev ∈ r.2.state.removed → _) .inl
      (fun e he hok _ h => .inl h) h
  | remove i =>
    refine onEntry_ind (P := fun r => dev ∈ r.2.state.removed → _) .inl (fun e he hok _ h => ?_) h
    rcases List.mem_append.mp h with hold | hnew
    · exact .inl hold
    · exact .inr ⟨e, List.mem_of_getElem? he, hok.2, (List.mem_singleton.mp hnew).symm⟩
  | message msg past stack =>
    change dev ∈ (rpmsgSrmCb kernel msg past stack s).2.state.removed at h
    unfold rpmsgSrmCb at h
    split at h <;> exact .inl h

lemma Devices.Tidy.step (hs : s.state.Tidy) (hev : Smooth kernel s ev)
    (hdisable : ∀ log regu, kernel log (.regulatorDisable regu) = 0) :
    (Srm.step kernel s ev).2.state.Tidy where
  unbound _ he := ((became_of_mem he).tidy hs hev hdisable).1
  alive _ he := ((became_of_mem he).tidy hs hev hdisable).2
  removed dev hdev := by
    rcases removed_of_step hdev with hold | ⟨e, he, hbound, rfl⟩
    · exact hs.removed dev hold
    · exact hs.unbound e he hbound

end Tidy

/-- **Nothing is left behind**: as long as no device fails to be bound or added, regulators can be
disabled and messages come only while all devices are bound, what is not bound has nothing enabled;
and when all devices are removed all is given back. -/
theorem all_given_back (kernel : Kernel) (parent : ℤ → ℤ)
    (hparent : ∀ log clk, kernel log (.clkGetParent clk) = parent clk)
    (hdisable : ∀ log regu, kernel log (.regulatorDisable regu) = 0) {s : System}
    (hs : (machine kernel).ReachableBy (Smooth kernel) s) :
    (∀ e ∈ s.state.chain, e.bound = false → e.dev.AllOff) ∧
      (s.state.chain = [] → ∀ r, net delta s.log r = 0) := by
  have hinv : (machine kernel).Reachable s ∧ s.state.Tidy := by
    refine hs.invariant (P := fun s => (machine kernel).Reachable s ∧ s.state.Tidy)
      ⟨.init, ?_⟩ fun s ev h hev => ⟨h.1.step ev, h.2.step hev hdisable⟩
    exact ⟨fun _ he => absurd he List.not_mem_nil, fun _ he => absurd he List.not_mem_nil,
      fun _ he => absurd he List.not_mem_nil⟩
  refine ⟨hinv.2.unbound, fun hempty r => ?_⟩
  rw [(balanced_of_reachable hparent hinv.1).balance, Devices.uses, hempty, List.map_nil,
    List.sum_nil, zero_add]
  refine List.sum_eq_zero fun x hx => ?_
  obtain ⟨dev, hdev, rfl⟩ := List.mem_map.mp hx
  exact (hinv.2.removed dev hdev).anyEnabled

/-- A request to switch the regulator off. -/
def sampleMsg : Msg where
  messageType := RPROC_SRM_MSG_SETCONFIG
  deviceId := .ofFn fun i => (ascii "dac").getD i 0
  rscType := RPROC_SRM_RSC_REGU
  cfg := ⟨U32_MAX, .ofFn fun i => (ascii "v").getD i 0, 0, 0, 0, 0⟩

/-! A device that is probed, bound, asked to switch its regulator off, unbound and removed. -/

def sampleProbed : System :=
  (step sampleKernel ⟨⟨[], []⟩, []⟩ (.probe (ascii "soc:m4:dac") false sampleNode)).2

def sampleAdded : System := (step sampleKernel sampleProbed (.added 0 0)).2

def sampleBound : System := (step sampleKernel sampleAdded (.bind 0)).2

def sampleMessaged : System := (step sampleKernel sampleBound (.message sampleMsg [] [])).2

def sampleUnbound : System := (step sampleKernel sampleMessaged (.unbind 0)).2

def sampleRemoved : System := (step sampleKernel sampleUnbound (.remove 0)).2

lemma smooth_step {kernel : Kernel} {s : System} {ev : Event}
    (hs : (machine kernel).ReachableBy (Smooth kernel) s) (hev : Smooth kernel s ev) :
    (machine kernel).ReachableBy (Smooth kernel) (step kernel s ev).2 := .step hs hev

theorem all_given_back_sample : net delta sampleRemoved.log (.ref .clock 1) = 0 := by
  have hprobed : (machine sampleKernel).ReachableBy (Smooth sampleKernel) sampleProbed :=
    smooth_step .init trivial
  have hadded : (machine sampleKernel).ReachableBy (Smooth sampleKernel) sampleAdded :=
    smooth_step hprobed rfl
  have hanswer : (step sampleKernel sampleAdded (.bind 0)).1 = .ret 0 := by decide +kernel
  have hbound : (machine sampleKernel).ReachableBy (Smooth sampleKernel) sampleBound :=
    smooth_step hadded fun ret h => by cases hanswer.symm.trans h; rfl
  have hall : ∀ e ∈ sampleBound.state.chain, e.bound = true := by decide +kernel
  have hmessaged : (machine sampleKernel).ReachableBy (Smooth sampleKernel) sampleMessaged :=
    smooth_step hbound hall
  have hunbound : (machine sampleKernel).ReachableBy (Smooth sampleKernel) sampleUnbound :=
    smooth_step hmessaged trivial
  have hremoved : (machine sampleKernel).ReachableBy (Smooth sampleKernel) sampleRemoved :=
    smooth_step hunbound trivial
  have hempty : sampleRemoved.state.chain = [] := by
    refine List.length_eq_zero_iff.mp ?_
    decide +kernel
  exact (all_given_back sampleKernel (· + 100) (fun _ _ => rfl) (fun _ _ => rfl) hremoved).2
    hempty _

/-! ### Devices that are not bound -/

section Unbound

variable {kernel : Kernel} {s : System} {i : ℕ} {e : Entry}

lemma getElem?_setEntry {e' : Entry} {log : List (KCall × ℤ)} (he : s.state.chain[i]? = some e) :
    (setEntry i e' log s).state.chain[i]? = some e' := by
  have hlt := (List.getElem?_eq_some_iff.mp he).1
  exact List.getElem?_set_self hlt

end Unbound

lemma reachable_step {kernel : Kernel} {s : System} {ev : Event}
    (hs : (machine kernel).Reachable s) : (machine kernel).Reachable (step kernel s ev).2 :=
  hs.step ev

lemma reachable_sampleBound : (machine sampleKernel).Reachable sampleBound := by
  have hprobed : (machine sampleKernel).Reachable sampleProbed := reachable_step .init
  have hadded : (machine sampleKernel).Reachable sampleAdded := reachable_step hprobed
  exact reachable_step hadded

section Freed

variable {kernel : Kernel} {s : System} {ev : Event} {i j : ℕ} {e : Entry}
  {h : List (Event × Answer)}

/-- The chain has a device whose memory is released. -/
def Devices.HasFreed (s : Devices) : Prop := ∃ e ∈ s.chain, e.phase = .freed

/-- `component_add` has failed for a device, and the answer. -/
def AddFailed (x : Event × Answer) : Prop := ∃ i ret, ret ≠ 0 ∧ x = (.added i ret, .ret ret)

lemma Became.freed_or {e' : Entry} (hb : Became kernel s ev e') (hphase : e'.phase = .freed) :
    s.state.HasFreed ∨ AddFailed (ev, (step kernel s ev).1) := by
  cases hb with
  | kept he => exact .inl ⟨_, he, hphase⟩
  | probed fresh => cases hphase
  | added he hadding => cases hphase
  | freed he hret hbound hanswer => exact .inr ⟨_, _, hret, by rw [hanswer]⟩
  | bound he halive fixed clocks => exact absurd hphase halive
  | bindFailed he halive hbound hret hanswer fixed left => exact absurd hphase halive
  | unbound he fixed clocks regus => exact .inl ⟨_, he, hphase⟩
  | messaged he same => exact .inl ⟨_, he, hphase⟩

lemma hasFreed_setEntry {e' : Entry} {log : List (KCall × ℤ)} (he : s.state.chain[i]? = some e)
    (hphase : e.phase = .freed) (hne : j ≠ i) : (setEntry j e' log s).state.HasFreed := by
  refine ⟨e, List.mem_of_getElem? (i := i) ?_, hphase⟩
  rw [← he]
  exact List.getElem?_set_ne hne

/-- The chain stops at the freed entry, or ahead of it at one that takes the message. -/
lemma hasFreed_callChain {msg : Msg} {past stack : Bytes} (hfreed : s.state.HasFreed) :
    ∃ e ∈ (callChain kernel msg past stack s.state.chain s.log).2.1, e.phase = .freed := by
  rcases hfind : s.state.chain.findIdx? (Entry.takes (msg.deviceIdStr past)) with _ | j
  · rwa [callChain_of_none (List.findIdx?_eq_none_iff.mp hfind)]
  obtain ⟨e', hj, hsame, htaken⟩ := @callChain_of_some kernel msg past stack _ s.log _ hfind
  by_cases hphase : e'.phase = .freed
  · rwa [hsame hphase]
  · obtain ⟨-, dev', reply, log', ⟨result, -, hrun⟩, -, -⟩ := htaken hphase
    obtain ⟨e, he, hfreed⟩ := hfreed
    obtain ⟨i, hi⟩ := List.mem_iff_getElem?.mp he
    have hne : j ≠ i := by
      rintro rfl
      cases hi.symm.trans hj
      exact hphase hfreed
    rw [hrun]
    exact @hasFreed_setEntry s i j e { e' with dev := dev' } log' hi hfreed hne

/-- It stays there for ever. -/
lemma hasFreed_step (hs : ∀ e ∈ s.state.chain, e.Sound) (hfreed : s.state.HasFreed) :
    (step kernel s ev).2.state.HasFreed := by
  obtain ⟨e, he, hphase⟩ := hfreed
  obtain ⟨i, hi⟩ := List.mem_iff_getElem?.mp he
  -- an event works on an entry that is alive, so that the freed one at i stays
  have hother : ∀ {j : ℕ} {e' : Entry}, s.state.chain[j]? = some e' → e'.phase ≠ .freed →
      j ≠ i := by
    rintro j e' hj hne rfl
    cases hi.symm.trans hj
    exact hne hphase
  have hkept : ∀ {j : ℕ} {e' e'' : Entry} {log : List (KCall × ℤ)}, s.state.chain[j]? = some e' →
      e'.phase ≠ .freed → (setEntry j e'' log s).state.HasFreed :=
    fun hj hne => hasFreed_setEntry hi hphase (hother hj hne)
  cases ev with
  | probe name earlyBoot np =>
    change (probe kernel name earlyBoot np s).2.state.HasFreed
    unfold probe
    split
    -- a probe appends
    · exact ⟨e, List.mem_append_left _ he, hphase⟩
    · exact ⟨e, he, hphase⟩
  | added j ret =>
    refine onEntry_ind (P := fun r => r.2.state.HasFreed) ⟨e, he, hphase⟩ fun e' hj hok _ => ?_
    have hne : e'.phase ≠ .freed := by
      rw [hok.1]
      decide
    split_ifs
    · exact hkept hj hne
    · exact hkept hj hne
  | bind j =>
    exact onEntry_ind (P := fun r => r.2.state.HasFreed) ⟨e, he, hphase⟩ fun e' hj hok _ =>
      hkept hj hok.1
  | unbind j =>
    exact onEntry_ind (P := fun r => r.2.state.HasFreed) ⟨e, he, hphase⟩ fun e' hj hok _ =>
      -- only what is bound is unbound, and what is bound is not freed
      hkept hj ((hs e' (List.mem_of_getElem? hj)).alive hok)
  | remove j =>
    refine onEntry_ind (P := fun r => r.2.state.HasFreed) ⟨e, he, hphase⟩ fun e' hj hok _ => ?_
    have hne : e'.phase ≠ .freed := by
      rw [hok.1]
      decide
    -- remove takes out another entry than i
    exact ⟨e, List.mem_eraseIdx_iff_getElem?.mpr ⟨i, (hother hj hne).symm, hi⟩, hphase⟩
  | message msg past stack =>
    have hchain := @hasFreed_callChain kernel s msg past stack ⟨e, he, hphase⟩
    change (rpmsgSrmCb kernel msg past stack s).2.state.HasFreed
    unfold rpmsgSrmCb
    split <;> rename_i hrun <;> rw [hrun] at hchain <;> exact hchain

lemma hasFreed_of_addFailed (hfailed : AddFailed (ev, (step kernel s ev).1)) :
    (step kernel s ev).2.state.HasFreed := by
  obtain ⟨i, ret, hret, heq⟩ := hfailed
  obtain ⟨rfl, hanswer⟩ := Prod.mk.inj heq
  refine onEntry_ind (P := fun r => r.1 = .ret ret → r.2.state.HasFreed) (fun hno => by cases hno)
    (fun e he hok _ _ => ?_) hanswer
  rw [if_neg hret]
  exact ⟨_, List.mem_of_getElem? (getElem?_setEntry he), rfl⟩

lemma hasFreed_iff (hr : (machine kernel).Run h s) : s.state.HasFreed ↔ ∃ x ∈ h, AddFailed x := by
  refine hr.relation (R := fun h s => s.state.HasFreed ↔ ∃ x ∈ h, AddFailed x) ?_
    fun h s ev hrun ih => ?_
  · exact ⟨fun ⟨_, he, _⟩ => absurd he List.not_mem_nil,
      fun ⟨_, hx, _⟩ => absurd hx List.not_mem_nil⟩
  · have hsound := sound_of_reachable ⟨h, hrun⟩
    constructor
    · rintro ⟨e, he, hphase⟩
      rcases (became_of_mem he).freed_or hphase with hold | hnew
      · obtain ⟨x, hx, hfailed⟩ := ih.mp hold
        exact ⟨x, List.mem_append_left _ hx, hfailed⟩
      · exact ⟨_, List.mem_append_right _ (List.mem_singleton_self _), hnew⟩
    · rintro ⟨x, hx, hfailed⟩
      rcases List.mem_append.mp hx with hold | hnew
      · exact hasFreed_step hsound (ih.mpr ⟨x, hold, hfailed⟩)
      · rw [List.mem_singleton.mp hnew] at hfailed
        exact hasFreed_of_addFailed hfailed

end Freed

/-- **Released memory**: a message that no live device is for makes the chain read memory that is
released if and only if `component_add` has failed for a device at some time in the run. -/
theorem use_after_free_iff (kernel : Kernel) {h : List (Event × Answer)} {s : System}
    (hr : (machine kernel).Run h s) (msg : Msg) (past stack : Bytes)
    (hno : ∀ e ∈ s.state.chain, e.phase ≠ .freed → e.dev.matches (msg.deviceIdStr past) = false) :
    (step kernel s (.message msg past stack)).1 = .useAfterFree ↔
      ∃ i ret, ret ≠ 0 ∧ (.added i ret, .ret ret) ∈ h := by
  have hiff : s.state.HasFreed ↔ ∃ i ret, ret ≠ 0 ∧ (.added i ret, .ret ret) ∈ h := by
    rw [hasFreed_iff hr]
    exact ⟨fun ⟨_, hx, i, ret, hret, heq⟩ => ⟨i, ret, hret, heq ▸ hx⟩,
      fun ⟨i, ret, hret, hx⟩ => ⟨_, hx, i, ret, hret, rfl⟩⟩
  rw [← hiff]
  change (rpmsgSrmCb kernel msg past stack s).1 = .useAfterFree ↔ _
  unfold rpmsgSrmCb
  rcases hfind : s.state.chain.findIdx? (Entry.takes (msg.deviceIdStr past)) with _ | j
  · have hnone := List.findIdx?_eq_none_iff.mp hfind
    rw [callChain_of_none hnone]
    refine ⟨nofun, fun ⟨e, he, hphase⟩ => ?_⟩
    have htakes := hnone e he
    simp [Entry.takes, hphase] at htakes
  · obtain ⟨e, he, hfreed, htaken⟩ := @callChain_of_some kernel msg past stack _ s.log _ hfind
    by_cases hphase : e.phase = .freed
    · rw [hfreed hphase]
      exact ⟨fun _ => ⟨e, List.mem_of_getElem? he, hphase⟩, fun _ => rfl⟩
    · have hmatches := (htaken hphase).1
      cases (hno e (List.mem_of_getElem? he) hphase).symm.trans hmatches

lemma run_step {kernel : Kernel} {h : List (Event × Answer)} {s : System}
    (hr : (machine kernel).Run h s) (ev : Event) :
    (machine kernel).Run (h ++ [(ev, (step kernel s ev).1)]) (step kernel s ev).2 := hr.snoc ev

/-- The device was probed, but `component_add` failed. -/
def sampleOrphaned : System := (step sampleKernel sampleProbed (.added 0 (-12))).2

theorem use_after_free_iff_sample :
    (step sampleKernel sampleOrphaned (.message sampleMsg [] [])).1 = .useAfterFree := by
  have hanswer : (step sampleKernel sampleProbed (.added 0 (-12))).1 = .ret (-12) := by
    decide +kernel
  have hno : ∀ e ∈ sampleOrphaned.state.chain, e.phase ≠ .freed →
      e.dev.matches (sampleMsg.deviceIdStr []) = false := by decide +kernel
  have hr : (machine sampleKernel).Run _ sampleOrphaned :=
    run_step (s := sampleProbed) (run_step .init _) (.added 0 (-12))
  refine (use_after_free_iff sampleKernel hr sampleMsg [] [] hno).mpr ⟨0, -12, by decide, ?_⟩
  rw [hanswer]
  exact List.mem_append_right _ (List.mem_singleton_self _)

end Sativa.Srm
