import Sativa.SrmDev
import Sativa.Machine

/-!
The devices of the system resource manager, and what the kernel asks of them.

A device that is probed is on the chain for messages. The framework then binds and unbinds it, in
`component_add` already or later; only what is bound is unbound, and only what is not bound is
removed. A device for which `component_add` fails is released by the driver core while it is still
on the chain.
-/

namespace Sativa.Srm

open Sativa Prog

inductive Phase
  /-- `component_add` has not returned -/
  | adding
  | ready
  /-- the memory is released -/
  | freed
  deriving DecidableEq

structure Entry where
  dev : Dev
  bound : Bool
  phase : Phase

/-- The chain for messages; and the devices that were removed, as they were then. -/
structure Devices where
  chain : List Entry
  removed : List Dev

abbrev System := Logged KCall Devices

inductive Event
  | probe (name : Bytes) (earlyBoot : Bool) (np : Option Node)
  /-- `component_add` returns -/
  | added (i : ℕ) (ret : ℤ)
  | bind (i : ℕ)
  | unbind (i : ℕ)
  | remove (i : ℕ)
  | message (msg : Msg) (past stack : Bytes)

inductive Answer
  | ret (value : ℤ)
  /-- memory is read that is released -/
  | useAfterFree
  /-- the kernel does not do this -/
  | refused
  deriving DecidableEq

section Core

variable (kernel : Kernel)

/-- A device before it is probed. -/
def Dev.blank (name : Bytes) (earlyBoot : Bool) : Dev := ⟨name, earlyBoot, fun _ => [], []⟩

def probe (name : Bytes) (earlyBoot : Bool) (np : Option Node) (s : System) : Answer × System :=
  match (devProbe kernel np).run ⟨.blank name earlyBoot, s.log⟩ with
  | (.ok (), w) => (.ret 0, ⟨{ s.state with chain := s.state.chain ++ [⟨w.state, false, .adding⟩] },
      w.log⟩)
  | (.error ret, w) => (.ret ret, ⟨s.state, w.log⟩)

/-- What the driver core releases of a device whose probe failed. -/
def devresRelease : DevProg Unit := do
  let w ← .get
  w.state.irqs.reverse.forM fun irq => perform kernel (.devmFreeIrq irq)
  (w.state.infos .regu).reverse.forM fun r => perform kernel (.devmRegulatorPut r.handle)

/-- `rproc_srm_dev_remove`, from `component_del` on. -/
def devRemove : DevProg Unit := do
  perform kernel .unregisterNotifier
  putAll kernel

/-- Run something for an entry of the chain that is `ok`. -/
def onEntry (i : ℕ) (ok : Entry → Prop) [DecidablePred ok] (f : Entry → System → Answer × System)
    (s : System) : Answer × System := match s.state.chain[i]? with
  | none => (.refused, s)
  | some e => if ok e then f e s else (.refused, s)

/-- Put another entry in its place. -/
def setEntry (i : ℕ) (e : Entry) (log : List (KCall × ℤ)) (s : System) : System :=
  ⟨{ s.state with chain := s.state.chain.set i e }, log⟩

def retOf : Except ℤ Unit → ℤ
  | .ok () => 0
  | .error ret => ret

def added (i : ℕ) (ret : ℤ) : System → Answer × System :=
  onEntry i (fun e => e.phase = .adding ∧ (ret = 0 ∨ e.bound = false)) fun e s =>
    if ret = 0 then (.ret 0, setEntry i { e with phase := .ready } s.log s)
    else
      let w := ((devresRelease kernel).run ⟨e.dev, s.log⟩).2
      (.ret ret, setEntry i { e with phase := .freed } w.log s)

def bind (i : ℕ) : System → Answer × System :=
  onEntry i (fun e => e.phase ≠ .freed ∧ e.bound = false) fun e s =>
    let r := (devBind kernel).run ⟨e.dev, s.log⟩
    (.ret (retOf r.1), setEntry i { e with dev := r.2.state, bound := r.1.isOk } r.2.log s)

def unbind (i : ℕ) : System → Answer × System :=
  onEntry i (fun e => e.bound = true) fun e s =>
    let r := (devUnbind kernel).run ⟨e.dev, s.log⟩
    (.ret (retOf r.1), setEntry i { e with dev := r.2.state, bound := false } r.2.log s)

def remove (i : ℕ) : System → Answer × System :=
  onEntry i (fun e => e.phase = .ready ∧ e.bound = false) fun e s =>
    let r := (devRemove kernel).run ⟨e.dev, s.log⟩
    (.ret (retOf r.1), ⟨⟨s.state.chain.eraseIdx i, s.state.removed ++ [e.dev]⟩, r.2.log⟩)

/-- `blocking_notifier_call_chain`; nothing if it comes to an entry whose memory is released. -/
def callChain (msg : Msg) (past stack : Bytes) :
    List Entry → List (KCall × ℤ) → Option NotifyResult × List Entry × List (KCall × ℤ)
  | [], log => (some .done, [], log)
  | e :: es, log =>
    if e.phase = .freed then (none, e :: es, log)
    else match (notifyCb kernel msg past stack).run ⟨e.dev, log⟩ with
      | (.ok .done, w) =>
        let r := callChain msg past stack es w.log
        (r.1, { e with dev := w.state } :: r.2.1, r.2.2)
      | (.ok result, w) => (some result, { e with dev := w.state } :: es, w.log)

def rpmsgSrmCb (msg : Msg) (past stack : Bytes) (s : System) : Answer × System :=
  match callChain kernel msg past stack s.state.chain s.log with
  | (none, chain, log) => (.useAfterFree, ⟨{ s.state with chain }, log⟩)
  | (some .done, chain, log) =>
    let c := KCall.rpmsgSend msg.error
    (.ret 0, ⟨{ s.state with chain }, log ++ [(c, kernel log c)]⟩)
  | (some _, chain, log) => (.ret 0, ⟨{ s.state with chain }, log⟩)

def step (s : System) : Event → Answer × System
  | .probe name earlyBoot np => probe kernel name earlyBoot np s
  | .added i ret => added kernel i ret s
  | .bind i => bind kernel i s
  | .unbind i => unbind kernel i s
  | .remove i => remove kernel i s
  | .message msg past stack => rpmsgSrmCb kernel msg past stack s

def machine : Machine System Event Answer := ⟨⟨⟨[], []⟩, []⟩, step kernel⟩

end Core

end Sativa.Srm
