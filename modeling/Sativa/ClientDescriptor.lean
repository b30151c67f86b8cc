import Sativa.ClientLife
import Sativa.CborCodec

/-!
Which descriptors a client of pl-common uses.

The member `fd` is the socket, and `-1` if there is none. At the end of the file it is set to `0`,
which is a descriptor: later packets are written to it, and it is closed instead of the socket.
-/

namespace Sativa.PlCommon

open Sativa Sativa.Rpc Sativa.Confd Sativa.Cbor

/-- The life of a client: the descriptor that `connectSocket` returned to the constructor, if that
returns, and the client after its destruction. -/
structure Life where
  connected : Option ℤ
  client : Client

/-- The client is constructed, the events come, and it is destroyed. If the constructor throws there
is no client. -/
def life (cbor : Libcbor) (k : Construction) (es : List Event) : Life :=
  match (construct k).run .blank with
  | (.error _, c) => ⟨none, c⟩
  | (.ok (), c) => ⟨some c.base.fd, (destroy.run ((clientMachine cbor c).after c es)).2⟩

/-- All writes went to the descriptor that was returned, and it was closed once, and no other. -/
def Life.OwnDescriptor (l : Life) : Prop :=
  ∀ fd, l.connected = some fd → (∀ w ∈ l.client.base.written, w.1 = fd) ∧ l.client.closed = [fd]

/-- The constructor returns. -/
def Construction.Succeeds (k : Construction) : Prop :=
  k.rpcSocketPath ≠ [] ∧ (∃ fd, k.socket = .ok fd) ∧ k.connect = none ∧ k.nonblocking = none ∧
    k.bufferevent = true ∧ k.enable = true

/-! ### What an event does to the descriptor -/

section Steps

variable {cbor : Libcbor} {c c₀ : Client} {fd : ℤ} {e : Event} {es : List Event}

/-- The client has written to `fd` alone, still has it, and has closed nothing. -/
structure Owns (fd : ℤ) (c : Client) : Prop where
  has : c.base.fd = fd
  written : ∀ w ∈ c.base.written, w.1 = fd
  closed : c.closed = []

/-- The descriptor of the client is `0`, and it has closed nothing. -/
structure Lost (c : Client) : Prop where
  has : c.base.fd = 0
  closed : c.closed = []

lemma send_base (s : Send) (b : ClientBase) : (s.base b).fd = b.fd ∧
    ∀ w ∈ (s.base b).written, w ∈ b.written ∨ w.1 = b.fd := by
  cases s with
  | sendRaw kernel payload =>
    simp only [Send.base, sendRaw]
    rcases kernel.count payload.length with errno | n
    · exact ⟨rfl, fun w hw => .inl hw⟩
    · refine ⟨rfl, fun w hw => ?_⟩
      rcases List.mem_append.mp hw with hold | hnew
      · exact .inl hold
      · exact .inr (congrArg Prod.fst (List.mem_singleton.mp hnew))
  | sendPacket kernel endpoint payload =>
    rw [Send.base, run_sendPacket]
    dsimp only
    split
    · exact ⟨rfl, fun w hw => .inl hw⟩
    · refine ⟨rfl, fun w hw => ?_⟩
      rcases List.mem_append.mp hw with hold | hnew
      · exact .inl hold
      · exact .inr (congrArg Prod.fst (List.mem_singleton.mp hnew))

lemma Owns.send (h : Owns fd c) (s : Send) : Owns fd { c with base := s.base c.base } := by
  obtain ⟨hfd, hwritten⟩ := send_base s c.base
  refine ⟨hfd.trans h.has, fun w hw => ?_, h.closed⟩
  rcases hwritten w hw with hold | hnew
  · exact h.written w hold
  · exact hnew.trans h.has

lemma Owns.step (h : Owns fd c) (he : ¬ e.Ends ∨ fd = 0) :
    Owns fd ((clientMachine cbor c₀).step c e).2 := by
  refine step_keeps (fun s c hc => hc.send s) (fun _ _ _ hc => ⟨hc.has, hc.written, hc.closed⟩)
    (fun hends _ hc => ?_) h
  exact ⟨(he.resolve_left (not_not.mpr hends)).symm, hc.written, hc.closed⟩

lemma Lost.step (h : Lost c) : Lost ((clientMachine cbor c₀).step c e).2 :=
  step_keeps (fun s c hc => ⟨(send_base s c.base).1.trans hc.has, hc.closed⟩)
    (fun _ _ _ hc => ⟨hc.has, hc.closed⟩) (fun _ _ hc => ⟨rfl, hc.closed⟩) h

lemma lost_of_ends (h : c.closed = []) (he : e.Ends) :
    Lost ((clientMachine cbor c₀).step c e).2 := by
  cases e with
  | event flags handler =>
    obtain ⟨heof, hthrows⟩ := he
    have hhandler : Prog.Ensures (fun c => c.closed = []) handler.perform
        (fun _ c => c.closed = []) fun _ _ => False :=
      (handler.ensures fun _ _ hc => hc).weaken (fun _ hc => hc) (fun _ _ hc => hc.1)
        fun _ _ hc => Bool.noConfusion (hthrows.symm.trans hc.2)
    have hends : Prog.Ensures (fun c => c.closed = []) (bevEvent flags handler) (fun _ => Lost)
        fun _ _ => False := by
      unfold bevEvent
      rw [if_pos heof]
      exact hhandler.bind fun _ => .modify fun c hc => ⟨rfl, hc⟩
    have hpost := hends { c with delivered := [] } h
    change Lost ((bevEvent flags handler).run { c with delivered := [] }).2
    rcases hr : (bevEvent flags handler).run { c with delivered := [] } with ⟨e | u, c'⟩
    · rw [hr] at hpost
      exact hpost.elim
    · rw [hr] at hpost
      exact hpost
  | _ => exact he.elim

/-! ### Runs -/

lemma Owns.after (h : Owns fd c) (hes : (∀ e ∈ es, ¬ e.Ends) ∨ fd = 0) :
    Owns fd ((clientMachine cbor c₀).after c es) := by
  induction es generalizing c with
  | nil => exact h
  | cons e es ih =>
    exact ih (h.step (hes.imp_left fun hno => hno e (by simp)))
      (hes.imp_left fun hno e he => hno e (List.mem_cons_of_mem _ he))

lemma Lost.after (h : Lost c) : Lost ((clientMachine cbor c₀).after c es) := by
  induction es generalizing c with
  | nil => exact h
  | cons e es ih => exact ih h.step

lemma lost_after (h : Owns fd c) (hes : ∃ e ∈ es, e.Ends) :
    Lost ((clientMachine cbor c₀).after c es) := by
  induction es generalizing c with
  | nil =>
    obtain ⟨e, he, -⟩ := hes
    cases he
  | cons e es ih =>
    by_cases he : e.Ends
    · exact (lost_of_ends h.closed he).after
    · refine ih (h.step (.inl he)) ?_
      obtain ⟨e', he', hends⟩ := hes
      rcases List.mem_cons.mp he' with rfl | htail
      · exact absurd hends he
      · exact ⟨e', htail, hends⟩

end Steps

/-! ### Whole lives -/

section Lives

variable {cbor : Libcbor} {k : Construction} {es : List Event} {fd : ℕ} {c : Client}

lemma run_construct (h : k.Succeeds) (hfd : k.socket = .ok fd) :
    (construct k).run .blank = (.ok (), Client.blank.setFd fd) := by
  obtain ⟨hpath, -, hconnect, hnonblocking, hbufferevent, henable⟩ := h
  have hsocket : (connectSocket k).run .blank = (.ok (fd : ℤ), .blank) := by
    simp only [connectSocket, hfd, hconnect, hnonblocking]
    rfl
  rw [construct, Prog.throwIf_neg hpath, pure_bind, Prog.run_bind_of_ok hsocket,
    Prog.run_bind_of_ok (Prog.run_modify _), Prog.throwIf_neg (by simp [hbufferevent]), pure_bind,
    Prog.throwIf_neg (by simp [henable])]
  rfl

lemma closeOnError_ok {fd : ℤ} {error : Option Errno} {u : Unit} {c c' : Client}
    (h : (closeOnError fd error).run c = (.ok u, c')) : error = none := by
  cases error with
  | none => rfl
  | some errno => cases h

lemma succeeds_of_construct {u : Unit} (h : (construct k).run .blank = (.ok u, c)) :
    k.Succeeds := by
  obtain ⟨_, _, hpath, h⟩ := Prog.bind_ok.mp h
  obtain ⟨fd, _, hsocket, h⟩ := Prog.bind_ok.mp h
  obtain ⟨_, _, -, h⟩ := Prog.bind_ok.mp h
  obtain ⟨_, _, hbufferevent, henable⟩ := Prog.bind_ok.mp h
  obtain ⟨_, _, hfd, hsocket⟩ := Prog.bind_ok.mp hsocket
  obtain ⟨_, _, hconnect, hsocket⟩ := Prog.bind_ok.mp hsocket
  obtain ⟨_, _, hnonblocking, -⟩ := Prog.bind_ok.mp hsocket
  refine ⟨(Prog.throwIf_ok.mp hpath).1, ?_, ?_, ?_, ?_, ?_⟩
  · rcases hk : k.socket with errno | fd
    · rw [hk] at hfd
      cases hfd
    · exact ⟨fd, rfl⟩
  · exact closeOnError_ok hconnect
  · exact closeOnError_ok hnonblocking
  · simpa using (Prog.throwIf_ok.mp hbufferevent).1
  · simpa using (Prog.throwIf_ok.mp henable).1

lemma run_destroy (hfd : c.base.fd ≠ -1) :
    (destroy.run c).2 = { c with closed := c.closed ++ [c.base.fd] } := by
  rw [destroy, Prog.run_bind_of_ok Prog.run_get, Prog.when, if_pos hfd]
  rfl

/-- **The wrong descriptor**: a client uses the descriptor it connected and no other, just if no end
of the file comes that it handles, unless that descriptor is `0` to begin with. -/
theorem ownDescriptor_iff (cbor : Libcbor) (k : Construction) (es : List Event) :
    (life cbor k es).OwnDescriptor ↔
      (∀ e ∈ es, ¬ e.Ends) ∨ ¬ k.Succeeds ∨ k.socket = .ok 0 := by
  by_cases hsucceeds : k.Succeeds
  · obtain ⟨fd, hfd⟩ := hsucceeds.2.1
    have howns : Owns fd (Client.blank.setFd fd) := ⟨rfl, by simp [Client.blank, Client.setFd], rfl⟩
    set c := (clientMachine cbor (Client.blank.setFd fd)).after (Client.blank.setFd fd) es with hc
    have hlife : life cbor k es = ⟨some (fd : ℤ), (destroy.run c).2⟩ := by
      rw [life, run_construct hsucceeds hfd]
      rfl
    rw [hlife]
    constructor
    · intro h
      by_contra hno
      simp only [not_or, not_forall, not_not] at hno
      obtain ⟨⟨e, he, hends⟩, -, hne⟩ := hno
      -- the end of the file sets the descriptor to 0, which the destructor closes
      have hlost : Lost c := lost_after howns ⟨e, he, hends⟩
      have hclosed := (h fd rfl).2
      rw [run_destroy (by rw [hlost.has]; decide)] at hclosed
      rw [hlost.closed, hlost.has] at hclosed
      have hzero : fd = 0 := by simpa using hclosed.symm
      exact hne (hzero ▸ hfd)
    · intro h
      have hafter : Owns fd c := by
        refine howns.after (h.imp_right fun h => ?_)
        have hzero := h.resolve_left (not_not.mpr hsucceeds)
        rw [hfd, Except.ok.injEq] at hzero
        exact_mod_cast hzero
      intro fd' hfd'
      obtain rfl : (fd : ℤ) = fd' := Option.some.inj hfd'
      rw [run_destroy (by rw [hafter.has]; omega)]
      exact ⟨hafter.written, by rw [hafter.closed, hafter.has]; rfl⟩
  -- a constructor that throws leaves no client
  · refine iff_of_true ?_ (.inr (.inl hsucceeds))
    intro fd hfd
    rcases hr : (construct k).run .blank with ⟨e | u, c⟩
    · rw [life, hr] at hfd
      cases hfd
    · exact absurd (succeeds_of_construct hr) hsucceeds

/-- The connection ends, then a packet is sent, and then the client is destroyed. -/
theorem descriptor_zero_used : ¬ ∀ (cbor : Libcbor) (k : Construction) (es : List Event),
    (life cbor k es).OwnDescriptor := by
  intro h
  have hown := h codec ⟨ascii "/run/loadd", .ok 5, none, none, true, true⟩
    [.event BEV_EVENT_EOF ⟨[], false⟩, .send (.sendPacket .full 1 [])] 5 rfl
  exact absurd hown.2 (by decide)

end Lives

end Sativa.PlCommon
