import Sativa.Ledger
import Sativa.ListenSocket
import Sativa.RpcIsolation
import Sativa.CborCodec

/-!
The life of the server: what it opens when it starts, with every client, and what it closes.

A client is known by its `bufferevent`, which also knows it in the server's table; its descriptor
is kept beside.
-/

namespace Sativa.ServerLife

open Sativa Prog Sativa.Rpc Sativa.Cbor Sativa.Store Sativa.RpcServer Sativa.ListenSocket

/-- What is called. For the calls that return a pointer it is null if it is not positive; for the
others `-1` is an error. That a file to unlink is not there is no error. -/
inductive KCall
  | socket
  | sock (fd : ℤ) (c : SockCall)
  | eventBaseNew
  | eventNew
  | evsignalNew
  | eventAdd (ev : ℤ)
  | accept (fd : ℤ)
  | makeNonblocking (fd : ℤ)
  | buffereventNew (fd : ℤ)
  | buffereventEnable (ev : ℕ)
  | buffereventFree (ev : ℕ)
  | eventFree (ev : ℤ)
  | eventBaseFree (base : ℤ)
  deriving DecidableEq

abbrev Kernel := List (KCall × ℤ) → KCall → ℤ

/-- The handles of a `Client`. -/
structure Conn where
  event : ℕ
  socket : ℤ
  deriving DecidableEq

/-- `RpcServer`; the buffers of the clients and the store are in `server`. -/
structure State where
  server : Server
  clients : List Conn
  listenSock : ℤ
  evbase : ℤ
  watchdogEvent : ℤ
  signalEvents : List ℤ
  listenEvent : ℤ

/-- Nothing is open. -/
def State.closed (server : Server) : State := ⟨server, [], -1, 0, 0, [], 0⟩

abbrev World := Logged KCall State

/-- What is thrown, with what was open then and is not known to the server. -/
inductive LifeError
  | socket
  | initSocket (c : SockCall)
  | eventBase
  | watchdogEvent
  | signalEvent
  | listenEvent
  | accept
  | nonblocking (fd : ℤ)
  | bufferevent (fd : ℤ)
  | enable (ev : ℕ) (fd : ℤ)
  deriving DecidableEq

abbrev LifeProg := Prog LifeError World

section Server

variable (kernel : Kernel)

/-! ### Start and end -/

/-- A call on the listening socket, whose error is thrown. -/
def sockCall (fd : ℤ) (c : SockCall) : LifeProg Unit := do
  let err ← call kernel (.sock fd c)
  .throwIf (err = -1) (.initSocket c)

def initSocket (path : SocketPath) (mode : ℕ) : LifeProg Unit := do
  let err ← call kernel .socket
  .throwIf (err = -1) .socket
  .update fun s => { s with listenSock := err }
  (initCalls path mode).forM fun c => sockCall kernel err c

/-- The interval matters only for when the event comes. -/
def initWatchdogEvent (isActive : Bool) : LifeProg Unit :=
  .when (isActive = true) do
    let ev ← call kernel .eventNew
    .update fun s => { s with watchdogEvent := max ev 0 }
    .throwIf (ev ≤ 0) .watchdogEvent
    perform kernel (.eventAdd ev)

/-- For `SIGINT`, `SIGTERM` and `SIGHUP`. -/
def initSignalEvents : LifeProg Unit :=
  (List.range 3).forM fun _ => do
    let ev ← call kernel .evsignalNew
    .throwIf (ev ≤ 0) .signalEvent
    perform kernel (.eventAdd ev)
    .update fun s => { s with signalEvents := s.signalEvents ++ [ev] }

def initSocketEvent : LifeProg Unit := do
  let ev ← call kernel .eventNew
  .update fun s => { s with listenEvent := max ev 0 }
  .throwIf (ev ≤ 0) .listenEvent
  perform kernel (.eventAdd ev)

def initEventLoop (watchdog : Bool) : LifeProg Unit := do
  let base ← call kernel .eventBaseNew
  .update fun s => { s with evbase := max base 0 }
  .throwIf (base ≤ 0) .eventBase
  initWatchdogEvent kernel watchdog
  initSignalEvents kernel
  initSocketEvent kernel

/-- The constructor. -/
def start (path : SocketPath) (mode : ℕ) (watchdog : Bool) : LifeProg Unit := do
  initSocket kernel path mode
  initEventLoop kernel watchdog

/-- `Client::~Client`. -/
def destroy (cl : Conn) : LifeProg Unit := do
  .when (cl.event ≠ 0) (perform kernel (.buffereventFree cl.event))
  .when (cl.socket ≠ -1) (perform kernel (.sock cl.socket .close))

/-- The destructor. It takes the handles, so that nothing is open in the end. -/
def stop (path : SocketPath) : LifeProg Unit := do
  let w ← .get
  let s := w.state
  .update fun s => .closed { s.server with clients := fun _ => none }
  (closeCalls path).forM fun c => perform kernel (.sock s.listenSock c)
  s.clients.forM (destroy kernel)
  perform kernel (.eventFree s.listenEvent)
  s.signalEvents.forM fun ev => .when (ev ≠ 0) (perform kernel (.eventFree ev))
  .when (s.watchdogEvent ≠ 0) (perform kernel (.eventFree s.watchdogEvent))
  perform kernel (.eventBaseFree s.evbase)

/-! ### Clients -/

/-- `Client::Client`. Its destructor does not run if it throws. -/
def newClient (fd : ℤ) : LifeProg Conn := do
  let event ← call kernel (.buffereventNew fd)
  .throwIf (event ≤ 0) (.bufferevent fd)
  let err ← call kernel (.buffereventEnable event.toNat)
  .throwIf (err = -1) (.enable event.toNat fd)
  return ⟨event.toNat, fd⟩

/-- `clients.emplace`, which destroys the client if there is one with its `bufferevent`. -/
def emplace (cl : Conn) : LifeProg Unit := do
  let w ← .get
  if cl.event ∈ w.state.clients.map Conn.event then destroy kernel cl
  else .update fun s =>
    { s with clients := s.clients ++ [cl], server := RpcServer.acceptClient s.server cl.event }

def acceptClient : LifeProg Unit := do
  let w ← .get
  let fd ← call kernel (.accept w.state.listenSock)
  .throwIf (fd = -1) .accept
  let err ← call kernel (.makeNonblocking fd)
  .throwIf (err = -1) (.nonblocking fd)
  let cl ← newClient kernel fd
  emplace kernel cl

/-- `clients.erase(ev)`. -/
def erase (ev : ℕ) : LifeProg Unit := do
  let w ← .get
  .update fun s => { s with
    clients := s.clients.eraseP fun cl => cl.event = ev, server := s.server.erase ev }
  match w.state.clients.find? fun cl => cl.event = ev with
  | none => pure ()
  | some cl => destroy kernel cl

/-- The read callback, which drops the client if `handleClientRead` throws. -/
def readCallback (cbor : Libcbor) (ev : ℕ) (pending : Bytes) (env : CallbackEnv) :
    LifeProg Unit := do
  let w ← .get
  let (result, server) := RpcServer.readCallback cbor env w.state.server ev pending
  .update fun s => { s with server }
  match result with
  | .ok () => pure ()
  | .error _ => erase kernel ev

/-- The events are the server's; the `bufferevent` of a client that is accepted comes from the
kernel. -/
inductive LifeEvent
  | accept
  | read (ev : ℕ) (pending : Bytes) (env : CallbackEnv)
  | close (ev : ℕ)

def LifeEvent.handler (cbor : Libcbor) : LifeEvent → LifeProg Unit
  | .accept => acceptClient kernel
  | .read ev pending env => readCallback kernel cbor ev pending env
  | .close ev => erase kernel ev

/-- The callbacks catch everything. -/
def step (cbor : Libcbor) (w : World) (e : LifeEvent) : Except LifeError Unit × World :=
  (e.handler kernel cbor).run w

/-- A server that has started. -/
def machine (cbor : Libcbor) (w₀ : World) : Machine World LifeEvent (Except LifeError Unit) :=
  ⟨w₀, step kernel cbor⟩

end Server

/-! ### Who is connected -/

section Connected

variable {connected : ℕ → Prop} {cbor : Libcbor} {env : CallbackEnv} {ev : ℕ} {s : Server}

/-- The clients that are known. -/
def Connected (connected : ℕ → Prop) (s : Server) : Prop := ∀ ev, s.clients ev ≠ none ↔ connected ev

lemma Connected.setClient (h : Connected connected s) (hev : connected ev) (client : Client) :
    Connected connected (s.setClient ev client) := by
  intro ev'
  rcases eq_or_ne ev' ev with rfl | hne
  · simp [Server.setClient, hev]
  · simpa [Server.setClient, Function.update_of_ne hne] using h ev'

lemma Connected.erase (h : Connected connected s) (ev : ℕ) :
    Connected (fun ev' => ev' ≠ ev ∧ connected ev') (s.erase ev) := by
  intro ev'
  rcases eq_or_ne ev' ev with rfl | hne
  · simp [Server.erase]
  · simpa [Server.erase, Function.update_of_ne hne, hne] using h ev'

lemma ensures_clientAt : Ensures (Connected connected) (clientAt ev)
    (fun _ s => Connected connected s ∧ connected ev) fun _ => Connected connected := by
  intro s hs
  rcases hc : s.clients ev with _ | client
  · simpa [clientAt, hc, Post] using hs
  · simpa [clientAt, hc, Post] using ⟨hs, (hs ev).mp (by simp [hc])⟩

lemma keeps_setClient {client : Client} (hev : connected ev) :
    Keeps (Connected connected) (.modify fun s => s.setClient ev client)
      fun (_ : RpcError) => Connected connected :=
  Ensures.modify fun _ hs => hs.setClient hev client

lemma keeps_onStore {α : Type} {x : Store.SqlProg α} :
    Keeps (Connected connected) (onStore x) fun _ => Connected connected := by
  intro s hs
  rw [run_onStore]
  rcases (x.run s.store).1 <;> exact hs

lemma keeps_sendKeyValue {hdr : RpcHeader} {key : Bytes} {value : PropertyValue} {flags : Flags} :
    Keeps (Connected connected) (sendKeyValue cbor env ev hdr key value flags)
      fun _ => Connected connected := by
  refine ensures_clientAt.bind_fact fun client hev => (keeps_setClient hev).bind fun _ => ?_
  refine Ensures.bind (Q := fun _ => Connected connected)
    (Ensures.throwIf (fun _ hs _ => hs) fun _ hs _ => hs) fun _ => ?_
  exact Ensures.modify fun _ hs => hs

lemma keeps_handleClientRead {pending : Bytes} :
    Keeps (Connected connected) (handleClientRead cbor env ev pending)
      fun _ => Connected connected := by
  rw [handleClientRead_eq]
  refine ensures_clientAt.bind_fact fun client hev => (keeps_setClient hev).bind fun _ => ?_
  refine Ensures.bind (Q := fun _ => Connected connected)
    (Ensures.ofExcept (fun _ _ hs _ => hs) fun _ _ hs _ => hs) fun r => ?_
  rcases r with ⟨hdr, request⟩
  cases request with
  | query key flags => exact keeps_onStore.bind fun result => keeps_sendKeyValue
  | update key value => exact keeps_onStore.bind fun _ => keeps_sendKeyValue

lemma connected_readCallback (cbor : Libcbor) (env : CallbackEnv) (ev : ℕ) (pending : Bytes)
    (h : Connected connected s) :
    match RpcServer.readCallback cbor env s ev pending with
    | (.ok (), s') => Connected connected s'
    | (.error _, s') => Connected (fun ev' => ev' ≠ ev ∧ connected ev') s' := by
  have hpost := @keeps_handleClientRead _ cbor env ev pending s h
  unfold RpcServer.readCallback
  rcases hrun : (handleClientRead cbor env ev pending).run s with ⟨e | ⟨⟩, s'⟩ <;>
    rw [hrun] at hpost
  · exact hpost.erase ev
  · exact hpost

end Connected

/-! ### The books -/

/-- What is counted. -/
inductive Res
  | fd (fd : ℤ)
  | base (base : ℤ)
  | event (ev : ℤ)
  | bufferevent (ev : ℕ)
  deriving DecidableEq

def ofFd (fd : ℤ) (r : Res) : ℤ := if fd = -1 then 0 else one (.fd fd) r

def ofBase (base : ℤ) (r : Res) : ℤ := if 0 < base then one (.base base) r else 0

def ofEvent (ev : ℤ) (r : Res) : ℤ := if 0 < ev then one (.event ev) r else 0

def ofBufferevent (ev : ℕ) (r : Res) : ℤ := if 0 < ev then one (.bufferevent ev) r else 0

/-- What a call with its answer opens. -/
def delta : KCall × ℤ → Res → ℤ
  | (.socket, fd), r => ofFd fd r
  | (.sock fd .close, _), r => -one (.fd fd) r
  | (.eventBaseNew, base), r => ofBase base r
  | (.eventNew, ev), r => ofEvent ev r
  | (.evsignalNew, ev), r => ofEvent ev r
  | (.accept _, fd), r => ofFd fd r
  | (.buffereventNew _, ev), r => ofBufferevent ev.toNat r
  | (.buffereventFree ev, _), r => -one (.bufferevent ev) r
  | (.eventFree ev, _), r => -one (.event ev) r
  | (.eventBaseFree base, _), r => -one (.base base) r
  | _, _ => 0

/-- What is open for a client. -/
def Conn.held (cl : Conn) (r : Res) : ℤ := ofBufferevent cl.event r + ofFd cl.socket r

def State.held (s : State) (r : Res) : ℤ :=
  ofFd s.listenSock r + ofBase s.evbase r + ofEvent s.watchdogEvent r +
    (s.signalEvents.map fun ev => ofEvent ev r).sum + ofEvent s.listenEvent r +
      (s.clients.map fun cl => cl.held r).sum

/-- What nobody can close after an exception. -/
def LifeError.lost : LifeError → Res → ℤ
  | nonblocking fd, r => ofFd fd r
  | bufferevent fd, r => ofFd fd r
  | enable ev fd, r => ofBufferevent ev r + ofFd fd r
  | _, _ => 0

/-- What was lost in the events so far. -/
def lostIn (h : List (LifeEvent × Except LifeError Unit)) (r : Res) : ℤ :=
  (h.map fun a => match a.2 with
    | .ok () => 0
    | .error e => e.lost r).sum

section Books

variable {kernel : Kernel} {extra : Res → ℤ} {P : State → Prop} {E : LifeError → World → Prop}
  {w : World} {c : KCall} {a fd base ev : ℤ} {r : Res} {cl : Conn} {s : State}

@[simp] lemma ofFd_none : ofFd (-1) r = 0 := rfl
@[simp] lemma ofBase_null : ofBase 0 r = 0 := rfl
@[simp] lemma ofEvent_null : ofEvent 0 r = 0 := rfl

lemma ofFd_nonneg : 0 ≤ ofFd fd r := by
  unfold ofFd
  split_ifs
  · exact le_refl _
  · exact one_nonneg _ _

lemma ofBase_nonneg : 0 ≤ ofBase base r := by
  unfold ofBase
  split_ifs
  · exact one_nonneg _ _
  · exact le_refl _

lemma ofEvent_nonneg : 0 ≤ ofEvent ev r := by
  unfold ofEvent
  split_ifs
  · exact one_nonneg _ _
  · exact le_refl _

lemma ofBufferevent_nonneg {ev : ℕ} : 0 ≤ ofBufferevent ev r := by
  unfold ofBufferevent
  split_ifs
  · exact one_nonneg _ _
  · exact le_refl _

lemma Conn.held_nonneg : 0 ≤ cl.held r := add_nonneg ofBufferevent_nonneg ofFd_nonneg

lemma State.held_nonneg : 0 ≤ s.held r := by
  have hsock : 0 ≤ ofFd s.listenSock r := ofFd_nonneg
  have hbase : 0 ≤ ofBase s.evbase r := ofBase_nonneg
  have hwatchdog : 0 ≤ ofEvent s.watchdogEvent r := ofEvent_nonneg
  have hlisten : 0 ≤ ofEvent s.listenEvent r := ofEvent_nonneg
  have hsignals := sum_nonneg_of_map s.signalEvents fun ev => @ofEvent_nonneg ev r
  have hclients := sum_nonneg_of_map s.clients fun cl => cl.held_nonneg (r := r)
  unfold State.held
  omega

lemma LifeError.lost_nonneg {e : LifeError} : 0 ≤ e.lost r := by
  cases e with
  | nonblocking fd => exact ofFd_nonneg
  | bufferevent fd => exact ofFd_nonneg
  | enable ev fd => exact add_nonneg ofBufferevent_nonneg ofFd_nonneg
  | _ => exact le_refl _

/-- The server's handles are what is open, beside `extra`. -/
def Books (extra : Res → ℤ) (P : State → Prop) (w : World) : Prop :=
  Balanced delta (fun s r => s.held r + extra r) w ∧ P w.state

lemma Books.call (h : Books extra P w) (hc : ∀ r, 0 ≤ extra r + delta (c, a) r) :
    Books (fun r => extra r + delta (c, a) r) P ⟨w.state, w.log ++ [(c, a)]⟩ := by
  refine ⟨(Balanced.call h.1 fun r => ?_).congr fun r => ?_, h.2⟩
  · have hheld : 0 ≤ w.state.held r := State.held_nonneg
    have := hc r
    omega
  · exact (add_assoc _ _ _).symm

lemma Books.extra_eq {extra' : Res → ℤ} (h : Books extra P w) (heq : ∀ r, extra' r = extra r) :
    Books extra' P w := by
  rwa [show extra' = extra from funext heq]

lemma books_call (hc : ∀ a r, 0 ≤ extra r + delta (c, a) r) :
    Ensures (Books extra P) (call kernel c) (fun a => Books (fun r => extra r + delta (c, a) r) P)
      E :=
  Ensures.call fun _ hw => hw.call (hc _)

lemma books_perform {extra' : Res → ℤ} (hextra : ∀ r, 0 ≤ extra' r)
    (hc : ∀ a r, extra r + delta (c, a) r = extra' r) :
    Ensures (Books extra P) (perform kernel c) (fun _ => Books extra' P) E :=
  Ensures.perform fun _ a hw => (hw.call fun r => (hc a r).symm ▸ hextra r).extra_eq
    fun r => (hc a r).symm

lemma books_update {f : State → State} {extra' : Res → ℤ} {P' : State → Prop}
    (hheld : ∀ s r, P s → (f s).held r + extra' r = s.held r + extra r) (hP : ∀ s, P s → P' (f s)) :
    Ensures (Books extra P) (update f) (fun _ => Books extra' P') E :=
  Ensures.update fun w hw => ⟨hw.1.congr fun r => hheld w.state r hw.2, hP w.state hw.2⟩

/-- After an exception. -/
def Thrown (extra : Res → ℤ) (P : State → Prop) (e : LifeError) (w : World) : Prop :=
  Books (fun r => extra r + e.lost r) P w

variable (hextra : ∀ r, 0 ≤ extra r)

include hextra in
lemma books_destroy : Ensures (Books (fun r => extra r + cl.held r) P) (destroy kernel cl)
    (fun _ => Books extra P) E := by
  refine Ensures.bind (Q := fun _ => Books (fun r => extra r + ofFd cl.socket r) P)
    (Ensures.when (fun hev => ?_) fun w hw hev => hw.extra_eq fun r => ?_) fun _ =>
      Ensures.when (fun hsock => ?_) fun w hw hsock => hw.extra_eq fun r => ?_
  · refine books_perform (fun r => add_nonneg (hextra r) ofFd_nonneg) fun a r => ?_
    simp only [delta, Conn.held, ofBufferevent, if_pos (Nat.pos_of_ne_zero hev)]
    omega
  · simp [Conn.held, ofBufferevent, not_not.mp hev]
  · refine books_perform hextra fun a r => ?_
    simp only [delta, ofFd, if_neg hsock]
    omega
  · simp [ofFd, not_not.mp hsock]

include hextra in
lemma books_newClient : Ensures (Books (fun r => extra r + ofFd fd r) P) (newClient kernel fd)
    (fun cl => Books (fun r => extra r + cl.held r) P) (Thrown extra P) := by
  have hfd : ∀ r, 0 ≤ extra r + ofFd fd r := fun r => add_nonneg (hextra r) ofFd_nonneg
  refine (books_call (c := .buffereventNew fd) fun a r =>
    add_nonneg (hfd r) ofBufferevent_nonneg).bind fun event => ?_
  refine Ensures.bind (Q := fun _ => Books (fun r => extra r + Conn.held ⟨event.toNat, fd⟩ r) P)
    (Ensures.throwIf (fun w hw hnull => hw.extra_eq fun r => ?_) fun w hw _ =>
      hw.extra_eq fun r => ?_) fun _ => ?_
  · simp [delta, LifeError.lost, ofBufferevent, hnull]
  · simp only [delta, Conn.held]
    omega
  · refine (books_call fun a r => ?_).bind fun err => ?_
    · exact add_nonneg (add_nonneg (hextra r) Conn.held_nonneg) (le_refl _)
    refine (Ensures.throwIf
      (Q := fun _ => Books (fun r => extra r + Conn.held ⟨event.toNat, fd⟩ r) P)
      (fun w hw _ => hw.extra_eq fun r => ?_) fun w hw _ => hw.extra_eq fun r => ?_).bind fun _ =>
        Ensures.pure fun _ hw => hw
    · exact (add_zero _).symm
    · exact (add_zero _).symm

end Books

/-! ### Steps -/

/-- A server that has started. -/
structure Started (s : State) : Prop where
  listenSock : s.listenSock ≠ -1
  evbase : 0 < s.evbase
  watchdogEvent : 0 ≤ s.watchdogEvent
  signalEvents : ∀ ev ∈ s.signalEvents, 0 < ev
  listenEvent : 0 < s.listenEvent
  nodup : (s.clients.map Conn.event).Nodup

/-- The client is on the list if the server knows it. -/
def Listed (s : State) (ev : ℕ) : Prop :=
  s.server.clients ev ≠ none ↔ ev ∈ s.clients.map Conn.event

def Running (s : State) : Prop := Started s ∧ ∀ ev, Listed s ev

/-- The same, while a client is being dropped. -/
def Dropping (ev : ℕ) (s : State) : Prop := Started s ∧ ∀ ev' ≠ ev, Listed s ev'

lemma Running.dropping {s : State} (h : Running s) (ev : ℕ) : Dropping ev s :=
  ⟨h.1, fun ev' _ => h.2 ev'⟩

section Steps

variable {kernel : Kernel} {extra : Res → ℤ} {E : LifeError → World → Prop} {cl : Conn} {s : State}
  {w : World} {r : Res} {ev : ℕ}

lemma sum_eraseP {l : List Conn} (h : l.find? (fun cl => cl.event = ev) = some cl) :
    (l.map fun cl => cl.held r).sum =
      ((l.eraseP fun cl => cl.event = ev).map fun cl => cl.held r).sum + cl.held r := by
  induction l with
  | nil => cases h
  | cons cl' l ih =>
    by_cases heq : cl'.event = ev
    · simp only [List.find?_cons, heq, decide_true, Option.some.injEq] at h
      subst h
      simp [heq, add_comm]
    · simp only [List.find?_cons, heq, decide_false] at h
      simp [heq, ih h, add_assoc]

lemma map_event_eraseP (l : List Conn) : (l.eraseP fun cl => cl.event = ev).map Conn.event =
    (l.map Conn.event).erase ev := by
  induction l with
  | nil => rfl
  | cons cl l ih => by_cases heq : cl.event = ev <;> simp [heq, ih]

lemma Started.setServer (h : Started s) (server : Server) : Started { s with server } :=
  ⟨h.1, h.2, h.3, h.4, h.5, h.6⟩

lemma Running.emplace (h : Running s) (hcl : cl.event ∉ s.clients.map Conn.event) :
    Running { s with clients := s.clients ++ [cl],
                     server := RpcServer.acceptClient s.server cl.event } := by
  obtain ⟨h, hlisted⟩ := h
  refine ⟨⟨h.1, h.2, h.3, h.4, h.5, ?_⟩, fun ev => ?_⟩
  · simpa [List.nodup_append, h.nodup] using fun x hx heq => hcl (List.mem_map.mpr ⟨x, hx, heq⟩)
  · have hnone : s.server.clients cl.event = none := by
      by_contra hsome
      exact hcl ((hlisted _).mp hsome)
    rcases eq_or_ne ev cl.event with rfl | hne
    · simp [Listed, RpcServer.acceptClient, hnone, Server.setClient]
    · simpa [Listed, RpcServer.acceptClient, hnone, Server.setClient, Function.update_of_ne hne,
        hne] using hlisted ev

lemma Dropping.erase (h : Dropping ev s) :
    Running { s with clients := s.clients.eraseP fun cl => cl.event = ev,
                     server := s.server.erase ev } := by
  obtain ⟨h, hlisted⟩ := h
  refine ⟨⟨h.1, h.2, h.3, h.4, h.5, ?_⟩, fun ev' => ?_⟩
  · rw [map_event_eraseP]
    exact h.nodup.erase ev
  · unfold Listed
    rw [map_event_eraseP, h.nodup.mem_erase_iff]
    rcases eq_or_ne ev' ev with rfl | hne
    · simp [Server.erase]
    · simpa [Listed, Server.erase, Function.update_of_ne hne, hne] using hlisted ev' hne

variable (hextra : ∀ r, 0 ≤ extra r)

include hextra in
lemma books_emplace : Ensures (Books (fun r => extra r + cl.held r) Running) (emplace kernel cl)
    (fun _ => Books extra Running) E := by
  refine Ensures.bind (Ensures.get (Q := fun w => Books (fun r => extra r + cl.held r)
    fun s => Running s ∧ s = w.state) fun w hw => ⟨hw.1, hw.2, rfl⟩) fun w => ?_
  split_ifs with hmem
  · refine (books_destroy hextra).weaken (fun _ hw => ⟨hw.1, hw.2.1⟩) (fun _ _ hw => hw)
      fun _ _ hw => hw
  · refine books_update (fun s r _ => ?_) fun s hs => ?_
    · simp only [State.held, List.map_append, List.sum_append, List.map_singleton,
        List.sum_singleton]
      omega
    · obtain ⟨hrunning, rfl⟩ := hs
      exact hrunning.emplace hmem

include hextra in
lemma books_acceptClient : Ensures (Books extra Running) (acceptClient kernel)
    (fun _ => Books extra Running) (Thrown extra Running) := by
  refine Ensures.bind (Ensures.get (Q := fun _ => Books extra Running) fun _ hw => hw) fun w => ?_
  refine (books_call (c := .accept w.state.listenSock) fun a r =>
    add_nonneg (hextra r) ofFd_nonneg).bind fun fd => ?_
  refine Ensures.bind (Q := fun _ => Books (fun r => extra r + ofFd fd r) Running)
    (Ensures.throwIf (fun w hw hfd => hw.extra_eq fun r => ?_) fun _ hw _ => hw) fun _ => ?_
  · simp [delta, LifeError.lost, ofFd, hfd]
  have hfd : ∀ r, 0 ≤ extra r + ofFd fd r := fun r => add_nonneg (hextra r) ofFd_nonneg
  refine (books_call (c := .makeNonblocking fd) fun a r =>
    add_nonneg (hfd r) (le_refl _)).bind fun err => ?_
  refine Ensures.bind (Q := fun _ => Books (fun r => extra r + ofFd fd r) Running)
    (Ensures.throwIf (fun w hw _ => hw.extra_eq fun r => ?_) fun w hw _ => hw.extra_eq fun r => ?_)
    fun _ => ?_
  · exact (add_zero _).symm
  · exact (add_zero _).symm
  · exact (books_newClient hextra).bind fun cl => books_emplace hextra

include hextra in
lemma books_erase : Ensures (Books extra (Dropping ev)) (erase kernel ev)
    (fun _ => Books extra Running) E := by
  refine Ensures.bind (Ensures.get (Q := fun w => Books extra fun s => Dropping ev s ∧ s = w.state)
    fun w hw => ⟨hw.1, hw.2, rfl⟩) fun w => ?_
  rcases hfind : w.state.clients.find? (fun cl => cl.event = ev) with _ | cl
  · have hnone : (w.state.clients.eraseP fun cl => cl.event = ev) = w.state.clients :=
      List.eraseP_of_forall_not fun cl hcl => by simpa using List.find?_eq_none.mp hfind cl hcl
    refine Ensures.bind (Q := fun _ => Books extra Running) (books_update (fun s r hs => ?_)
      fun s hs => hs.1.erase) fun _ => ?_
    · obtain ⟨-, rfl⟩ := hs
      simp only [State.held, hnone]
    · simp only [hfind]
      exact Ensures.pure fun _ hw => hw
  · refine Ensures.bind (Q := fun _ => Books (fun r => extra r + cl.held r) Running)
      (books_update (fun s r hs => ?_) fun s hs => hs.1.erase) fun _ => ?_
    · obtain ⟨-, rfl⟩ := hs
      have hsum := sum_eraseP (r := r) hfind
      simp only [State.held]
      omega
    · simp only [hfind]
      exact books_destroy hextra

include hextra in
lemma books_readCallback {cbor : Libcbor} {pending : Bytes} {env : CallbackEnv} :
    Ensures (Books extra Running) (readCallback kernel cbor ev pending env)
      (fun _ => Books extra Running) E := by
  refine Ensures.bind (Ensures.get (Q := fun w => Books extra fun s => Running s ∧ s = w.state)
    fun w hw => ⟨hw.1, hw.2, rfl⟩) fun w => ?_
  intro w' hw'
  have hlisted : Connected (· ∈ w.state.clients.map Conn.event) w.state.server :=
    hw'.2.2 ▸ hw'.2.1.2
  have hconnected := connected_readCallback cbor env ev pending hlisted
  revert w'
  change Ensures _ _ _ _
  rcases hread : RpcServer.readCallback cbor env w.state.server ev pending with ⟨e | ⟨⟩, server⟩
  · refine Ensures.bind (Q := fun _ => Books extra (Dropping ev)) (books_update (fun s r _ => rfl)
      fun s hs => ?_) fun _ => books_erase hextra
    obtain ⟨⟨hstarted, -⟩, rfl⟩ := hs
    rw [hread] at hconnected
    exact ⟨hstarted.setServer server, fun ev' hne => (hconnected ev').trans (and_iff_right hne)⟩
  · refine Ensures.bind (Q := fun _ => Books extra Running) (books_update (fun s r _ => rfl)
      fun s hs => ?_) fun _ => Ensures.pure fun _ hw => hw
    obtain ⟨⟨hstarted, -⟩, rfl⟩ := hs
    rw [hread] at hconnected
    exact ⟨hstarted.setServer server, hconnected⟩

include hextra in
/-- One event: what is lost is what its exception says. -/
lemma books_handler {cbor : Libcbor} (e : LifeEvent) :
    Ensures (Books extra Running) (e.handler kernel cbor) (fun _ => Books extra Running)
      (Thrown extra Running) := by
  cases e with
  | accept => exact books_acceptClient hextra
  | read ev pending env => exact books_readCallback hextra
  | close ev =>
    exact (books_erase hextra).weaken (fun _ hw => ⟨hw.1, hw.2.dropping ev⟩) (fun _ _ hw => hw)
      fun _ _ hw => hw

end Steps

/-! ### Start and end -/

section Ends

variable {kernel : Kernel} {extra : Res → ℤ} {P : State → Prop} {E : LifeError → World → Prop}
  {server : Server} {fd : ℤ}

/-- The server while it starts. -/
def Starting (server : Server) (s : State) : Prop :=
  ∃ fd base watchdog signals, fd ≠ -1 ∧ 0 < base ∧ 0 ≤ watchdog ∧ (∀ ev ∈ signals, 0 < ev) ∧
    s = ⟨server, [], fd, base, watchdog, signals, 0⟩

lemma ofEvent_max (ev : ℤ) (r : Res) : ofEvent (max ev 0) r = ofEvent ev r := by
  rcases le_total ev 0 with h | h
  · simp [ofEvent, h]
  · rw [max_eq_left h]

lemma ofBase_max (base : ℤ) (r : Res) : ofBase (max base 0) r = ofBase base r := by
  rcases le_total base 0 with h | h
  · simp [ofBase, h]
  · rw [max_eq_left h]

lemma books_idle {c : KCall} (hextra : ∀ r, 0 ≤ extra r) (hc : ∀ a r, delta (c, a) r = 0) :
    Keeps (Books extra P) (perform kernel c) E :=
  books_perform hextra fun a r => by rw [hc, add_zero]

lemma books_sockCall {c : SockCall} (hc : c ≠ .close) :
    Keeps (Books (fun _ => 0) P) (sockCall kernel fd c) fun _ _ => True := by
  have hdelta : ∀ a r, delta (.sock fd c, a) r = 0 := by
    intro a r
    cases c with
    | close => exact absurd rfl hc
    | _ => rfl
  refine (books_call (c := .sock fd c) fun a r => by rw [hdelta, add_zero]).bind fun err => ?_
  exact Ensures.throwIf (fun _ _ _ => trivial) fun _ hw _ => hw.extra_eq fun r => by
    rw [hdelta, add_zero]

lemma close_not_mem_initCalls {path : SocketPath} {mode : ℕ} {c : SockCall}
    (h : c ∈ initCalls path mode) : c ≠ .close := by
  rintro rfl
  unfold initCalls at h
  split_ifs at h <;> simp at h

lemma books_initSocket {path : SocketPath} {mode : ℕ} :
    Ensures (Books (fun _ => 0) (· = .closed server)) (initSocket kernel path mode)
      (fun _ => Books (fun _ => 0) fun s =>
        ∃ fd, fd ≠ -1 ∧ s = { State.closed server with listenSock := fd }) fun _ _ => True := by
  refine (books_call (c := .socket) fun a r => add_nonneg (le_refl _) ofFd_nonneg).bind fun fd => ?_
  refine Ensures.bind (Q := fun _ => Books (ofFd fd) fun s => fd ≠ -1 ∧ s = .closed server)
    (Ensures.throwIf (fun _ _ _ => trivial) fun w hw hfd => ⟨?_, hfd, hw.2⟩) fun _ => ?_
  · exact (hw.extra_eq fun r => (zero_add _).symm).1
  refine Ensures.bind (Q := fun _ => Books (fun _ => 0) fun s =>
    ∃ fd, fd ≠ -1 ∧ s = { State.closed server with listenSock := fd })
    (books_update (fun s r hs => ?_) fun s hs => ⟨fd, hs.1, hs.2 ▸ rfl⟩) fun _ => ?_
  · obtain ⟨-, rfl⟩ := hs
    simp [State.held, State.closed]
  · exact Ensures.forM fun c hc => books_sockCall (close_not_mem_initCalls hc)

lemma books_initWatchdogEvent {isActive : Bool} :
    Ensures (Books (fun _ => 0) fun s => Starting server s ∧ s.watchdogEvent = 0)
      (initWatchdogEvent kernel isActive) (fun _ => Books (fun _ => 0) (Starting server))
      fun _ _ => True := by
  refine Ensures.when (fun _ => ?_) fun _ hw _ => ⟨hw.1, hw.2.1⟩
  refine (books_call (c := .eventNew) fun a r => add_nonneg (le_refl _) ofEvent_nonneg).bind
    fun ev => ?_
  refine Ensures.bind (Q := fun _ => Books (fun _ => 0) (Starting server)) (books_update
    (fun s r hs => ?_) fun s hs => ?_) fun _ => ?_
  · simp only [State.held, ofEvent_max, hs.2, delta, ofEvent_null]
    omega
  · obtain ⟨⟨fd, base, watchdog, signals, hfd, hbase, -, hsignals, rfl⟩, -⟩ := hs
    exact ⟨fd, base, _, signals, hfd, hbase, le_max_right _ _, hsignals, rfl⟩
  · refine Ensures.bind (Q := fun _ => Books (fun _ => 0) (Starting server))
      (Ensures.throwIf (fun _ _ _ => trivial) fun _ hw _ => hw) fun _ => ?_
    exact books_idle (fun _ => le_refl _) fun _ _ => rfl

lemma books_initSignalEvents : Keeps (Books (fun _ => 0) (Starting server))
    (initSignalEvents kernel) fun _ _ => True := by
  refine Ensures.forM fun _ _ => ?_
  refine (books_call (c := .evsignalNew) fun a r => add_nonneg (le_refl _) ofEvent_nonneg).bind
    fun ev => ?_
  refine Ensures.bind (Q := fun _ => Books (ofEvent ev) fun s => 0 < ev ∧ Starting server s)
    (Ensures.throwIf (fun _ _ _ => trivial) fun w hw hev => ⟨?_, not_le.mp hev, hw.2⟩) fun _ => ?_
  · exact (hw.extra_eq fun r => (zero_add _).symm).1
  refine (books_idle (fun _ => ofEvent_nonneg) fun _ _ => rfl).bind fun _ => ?_
  refine books_update (fun s r _ => ?_) fun s hs => ?_
  · simp only [State.held, List.map_append, List.sum_append, List.map_singleton, List.sum_singleton]
    omega
  · obtain ⟨hev, fd, base, watchdog, signals, hfd, hbase, hwatchdog, hsignals, rfl⟩ := hs
    refine ⟨fd, base, watchdog, signals ++ [ev], hfd, hbase, hwatchdog, fun ev' hmem => ?_, rfl⟩
    rcases List.mem_append.mp hmem with hold | hnew
    · exact hsignals ev' hold
    · rwa [List.mem_singleton.mp hnew]

lemma books_initSocketEvent (hserver : ∀ ev, server.clients ev = none) :
    Ensures (Books (fun _ => 0) (Starting server)) (initSocketEvent kernel)
      (fun _ => Books (fun _ => 0) Running) fun _ _ => True := by
  refine (books_call (c := .eventNew) fun a r => add_nonneg (le_refl _) ofEvent_nonneg).bind
    fun ev => ?_
  refine Ensures.bind (Q := fun _ => Books (fun _ => 0) fun s => 0 < ev → Running s) (books_update
    (fun s r hs => ?_) fun s hs hev => ?_) fun _ => ?_
  · obtain ⟨fd, base, watchdog, signals, hfd, hbase, hwatchdog, hsignals, rfl⟩ := hs
    simp only [State.held, ofEvent_max, delta, ofEvent_null]
    omega
  · obtain ⟨fd, base, watchdog, signals, hfd, hbase, hwatchdog, hsignals, rfl⟩ := hs
    exact ⟨⟨hfd, hbase, hwatchdog, hsignals, lt_max_of_lt_left hev, List.nodup_nil⟩,
      fun ev' => by simp [Listed, hserver]⟩
  · refine Ensures.bind (Q := fun _ => Books (fun _ => 0) Running) (Ensures.throwIf
      (fun _ _ _ => trivial) fun _ hw hev => ⟨hw.1, hw.2 (not_le.mp hev)⟩) fun _ => ?_
    exact books_idle (fun _ => le_refl _) fun _ _ => rfl

lemma books_start {path : SocketPath} {mode : ℕ} {watchdog : Bool}
    (hserver : ∀ ev, server.clients ev = none) :
    Ensures (Books (fun _ => 0) (· = .closed server)) (start kernel path mode watchdog)
      (fun _ => Books (fun _ => 0) Running) fun _ _ => True := by
  refine books_initSocket.bind fun _ => ?_
  refine (books_call (c := .eventBaseNew) fun a r => add_nonneg (le_refl _) ofBase_nonneg).bind
    fun base => ?_
  refine Ensures.bind (Q := fun _ => Books (fun _ => 0) fun s =>
    0 < base → Starting server s ∧ s.watchdogEvent = 0) (books_update (fun s r hs => ?_)
      fun s hs hbase => ?_) fun _ => ?_
  · obtain ⟨fd, hfd, rfl⟩ := hs
    simp only [State.held, State.closed, ofBase_max, delta, ofBase_null]
    omega
  · obtain ⟨fd, hfd, rfl⟩ := hs
    exact ⟨⟨fd, _, 0, [], hfd, lt_max_of_lt_left hbase, le_refl _, nofun, rfl⟩, rfl⟩
  refine Ensures.bind (Q := fun _ => Books (fun _ => 0) fun s =>
    Starting server s ∧ s.watchdogEvent = 0) (Ensures.throwIf (fun _ _ _ => trivial)
      fun _ hw hbase => ⟨hw.1, hw.2 (not_le.mp hbase)⟩) fun _ => ?_
  exact books_initWatchdogEvent.bind fun _ => books_initSignalEvents.bind fun _ =>
    books_initSocketEvent hserver

lemma books_close {c : KCall} {closed : Res → ℤ} (hextra : ∀ r, 0 ≤ extra r)
    (hc : ∀ a r, delta (c, a) r = -closed r) :
    Ensures (Books (fun r => extra r + closed r) P) (perform kernel c) (fun _ => Books extra P) E :=
  books_perform hextra fun a r => by rw [hc, add_neg_cancel_right]

lemma books_closeAll {α : Type} {l : List α} {body : α → LifeProg PUnit} {closed : α → Res → ℤ}
    (hclosed : ∀ x r, 0 ≤ closed x r) (hextra : ∀ r, 0 ≤ extra r)
    (h : ∀ x ∈ l, ∀ extra, (∀ r, 0 ≤ extra r) →
      Ensures (Books (fun r => extra r + closed x r) P) (body x) (fun _ => Books extra P) E) :
    Ensures (Books (fun r => extra r + (l.map fun x => closed x r).sum) P) (l.forM body)
      (fun _ => Books extra P) E := by
  induction l with
  | nil => exact Ensures.pure fun _ hw => hw.extra_eq fun r => (add_zero _).symm
  | cons x l ih =>
    have hrest : ∀ r, 0 ≤ extra r + (l.map fun x => closed x r).sum := fun r =>
      add_nonneg (hextra r) (sum_nonneg_of_map l fun x => hclosed x r)
    change Ensures _ (body x >>= fun _ => l.forM body) _ _
    refine ((h x (by simp) _ hrest).weaken (fun w hw => hw.extra_eq fun r => ?_) (fun _ _ hw => hw)
      fun _ _ hw => hw).bind fun _ => ih fun y hy => h y (List.mem_cons_of_mem _ hy)
    simp only [List.map_cons, List.sum_cons]
    omega

/-- The destructor closes what the server knows, and that only. -/
lemma books_stop {path : SocketPath} (hextra : ∀ r, 0 ≤ extra r) :
    Ensures (Books extra Running) (stop kernel path)
      (fun _ => Books extra fun s => ∃ server, s = .closed server) E := by
  refine Ensures.bind (Ensures.get (Q := fun w => Books extra fun s => Running s ∧ s = w.state)
    fun w hw => ⟨hw.1, hw.2, rfl⟩) fun w => ?_
  intro w' hw'
  obtain ⟨hlistenSock, hevbase, hwatchdog, hsignals, hlistenEvent, -⟩ := hw'.2.2 ▸ hw'.2.1.1
  revert w'
  change Ensures _ _ _ _
  set s := w.state
  -- what is left to close, from the last to the first
  set e₁ : Res → ℤ := fun r => extra r + ofBase s.evbase r with he₁
  set e₂ : Res → ℤ := fun r => e₁ r + ofEvent s.watchdogEvent r with he₂
  set e₃ : Res → ℤ := fun r => e₂ r + (s.signalEvents.map fun ev => ofEvent ev r).sum with he₃
  set e₄ : Res → ℤ := fun r => e₃ r + ofEvent s.listenEvent r with he₄
  set e₅ : Res → ℤ := fun r => e₄ r + (s.clients.map fun cl => cl.held r).sum with he₅
  have h₁ : ∀ r, 0 ≤ e₁ r := fun r => add_nonneg (hextra r) ofBase_nonneg
  have h₂ : ∀ r, 0 ≤ e₂ r := fun r => add_nonneg (h₁ r) ofEvent_nonneg
  have h₃ : ∀ r, 0 ≤ e₃ r := fun r =>
    add_nonneg (h₂ r) (sum_nonneg_of_map _ fun ev => ofEvent_nonneg)
  have h₄ : ∀ r, 0 ≤ e₄ r := fun r => add_nonneg (h₃ r) ofEvent_nonneg
  have h₅ : ∀ r, 0 ≤ e₅ r := fun r =>
    add_nonneg (h₄ r) (sum_nonneg_of_map _ fun cl => cl.held_nonneg)
  -- the members are reset before anything is closed, so all of it moves into what is left
  refine Ensures.bind (Q := fun _ => Books (fun r => e₅ r + ofFd s.listenSock r)
    fun s => ∃ server, s = .closed server) (books_update (fun s' r hs => ?_) fun s' _ => ⟨_, rfl⟩)
    fun _ => ?_
  · obtain ⟨-, rfl⟩ := hs
    simp only [State.held, State.closed, ofFd_none, ofBase_null, ofEvent_null, List.map_nil,
      List.sum_nil, he₅, he₄, he₃, he₂, he₁]
    omega
  refine Ensures.bind (Q := fun _ => Books e₅ fun s => ∃ server, s = .closed server) ?_ fun _ => ?_
  · refine (books_close h₅ fun a r => ?_).bind fun _ => (books_idle h₅ fun _ _ => rfl).bind fun _ =>
      Ensures.pure fun _ hw => hw
    simp only [delta, ofFd, if_neg hlistenSock]
  -- clients, listening event, signal events, watchdog, base: the order of the destructor
  refine (books_closeAll (fun cl r => cl.held_nonneg) h₄ fun cl _ extra hextra =>
    books_destroy hextra).bind fun _ => ?_
  refine (books_close h₃ fun a r => ?_).bind fun _ => ?_
  · simp only [delta, ofEvent, if_pos hlistenEvent]
  refine (books_closeAll (fun ev r => ofEvent_nonneg) h₂ fun ev hev extra hextra =>
    Ensures.when (fun _ => books_close hextra fun a r => ?_) fun w hw hnull => ?_).bind fun _ => ?_
  · simp only [delta, ofEvent, if_pos (hsignals ev hev)]
  · exact absurd hnull (not_not.mpr (hsignals ev hev).ne')
  refine Ensures.bind (Q := fun _ => Books e₁ fun s => ∃ server, s = .closed server) (Ensures.when
    (fun hwd => books_close h₁ fun a r => ?_) fun w hw hnull => hw.extra_eq fun r => ?_) fun _ => ?_
  · simp only [delta, ofEvent, if_pos (lt_of_le_of_ne hwatchdog (Ne.symm hwd))]
  · simp [he₂, not_not.mp hnull]
  · refine books_close hextra fun a r => ?_
    simp only [delta, ofBase, if_pos hevbase]

end Ends

/-! ### The server between start and end -/

section Reach

variable {kernel : Kernel} {cbor : Libcbor} {store : Db} {E : LifeError → World → Prop} {w : World}

/-- The server is one of those that the results about single clients are about. -/
def Reached (cbor : Libcbor) (store : Db) (w : World) : Prop :=
  (RpcServer.machine cbor store).Reachable w.state.server

lemma reached_perform {c : KCall} : Keeps (Reached cbor store) (perform kernel c) E :=
  Ensures.keeps_perform fun _ _ hw => hw

lemma reached_call {c : KCall} : Ensures (Reached cbor store) (call kernel c)
    (fun _ => Reached cbor store) E := Ensures.call fun _ hw => hw

lemma reached_throwIf {c : Prop} [Decidable c] {e : LifeError} :
    Keeps (Reached cbor store) (throwIf c e) fun _ => Reached cbor store :=
  Ensures.throwIf (fun _ hw _ => hw) fun _ hw _ => hw

lemma reached_update {f : State → State}
    (h : ∀ w, Reached cbor store w → (RpcServer.machine cbor store).Reachable (f w.state).server) :
    Keeps (Reached cbor store) (update f) E := Ensures.update h

lemma reached_get : Ensures (Reached cbor store) (get : LifeProg World)
    (fun _ => Reached cbor store) E := Ensures.get fun _ hw => hw

lemma reached_destroy {cl : Conn} : Keeps (Reached cbor store) (destroy kernel cl) E :=
  Ensures.bind (Ensures.when (fun _ => reached_perform) fun _ hw _ => hw) fun _ =>
    Ensures.when (fun _ => reached_perform) fun _ hw _ => hw

lemma reached_erase {ev : ℕ} : Keeps (Reached cbor store) (erase kernel ev) E := by
  refine reached_get.bind fun w => (reached_update fun w hw => hw.step (.close ev)).bind fun _ => ?_
  split
  · exact Ensures.pure fun _ hw => hw
  · exact reached_destroy

lemma reached_acceptClient : Keeps (Reached cbor store) (acceptClient kernel)
    fun _ => Reached cbor store := by
  refine reached_get.bind fun w => reached_call.bind fun fd => reached_throwIf.bind fun _ =>
    reached_call.bind fun err => reached_throwIf.bind fun _ => ?_
  refine Ensures.bind (Q := fun _ => Reached cbor store) ?_ fun cl => reached_get.bind fun w => ?_
  · exact reached_call.bind fun event => reached_throwIf.bind fun _ => reached_call.bind fun err =>
      reached_throwIf.bind fun _ => Ensures.pure fun _ hw => hw
  · split_ifs
    · exact reached_destroy
    · exact reached_update fun w hw => hw.step (.accept cl.event)

lemma reached_readCallback {ev : ℕ} {pending : Bytes} {env : CallbackEnv} :
    Keeps (Reached cbor store) (readCallback kernel cbor ev pending env) E := by
  refine Ensures.bind (Ensures.get (Q := fun w w' => Reached cbor store w' ∧ Reached cbor store w)
    fun w hw => ⟨hw, hw⟩) fun w => ?_
  rcases hread : RpcServer.readCallback cbor env w.state.server ev pending with ⟨result, server⟩
  refine Ensures.bind (Q := fun _ => Reached cbor store) (Ensures.update fun w' hw => ?_)
    fun _ => ?_
  · have hstep : (RpcServer.machine cbor store).Reachable
        (RpcServer.readCallback cbor env w.state.server ev pending).2 :=
      hw.2.step (.read ev pending env)
    rwa [hread] at hstep
  · rcases result with e | ⟨⟩
    · exact reached_erase
    · exact Ensures.pure fun _ hw => hw

lemma reached_start {path : SocketPath} {mode : ℕ} {watchdog : Bool} :
    Keeps (Reached cbor store) (start kernel path mode watchdog) fun _ => Reached cbor store := by
  refine Ensures.bind (Q := fun _ => Reached cbor store) ?_ fun _ => ?_
  · refine reached_call.bind fun err => reached_throwIf.bind fun _ =>
      Ensures.bind (reached_update fun w hw => hw) fun _ => Ensures.forM fun c _ => ?_
    exact reached_call.bind fun err => reached_throwIf
  refine reached_call.bind fun base => Ensures.bind (reached_update fun w hw => hw) fun _ =>
    reached_throwIf.bind fun _ => ?_
  refine Ensures.bind (Q := fun _ => Reached cbor store)
    (Ensures.when (fun _ => ?_) fun _ hw _ => hw) fun _ => ?_
  · exact reached_call.bind fun ev => Ensures.bind (reached_update fun w hw => hw) fun _ =>
      reached_throwIf.bind fun _ => reached_perform
  refine Ensures.bind (Q := fun _ => Reached cbor store) (Ensures.forM fun _ _ => ?_) fun _ => ?_
  · exact reached_call.bind fun ev => reached_throwIf.bind fun _ => reached_perform.bind fun _ =>
      reached_update fun w hw => hw
  · exact reached_call.bind fun ev => Ensures.bind (reached_update fun w hw => hw) fun _ =>
      reached_throwIf.bind fun _ => reached_perform

lemma reached_step (hw : Reached cbor store w) (e : LifeEvent) :
    Reached cbor store (step kernel cbor w e).2 := by
  refine Ensures.state ?_ hw
  cases e with
  | accept => exact reached_acceptClient
  | read ev pending env => exact reached_readCallback
  | close ev => exact reached_erase

end Reach

/-! ### Whole lives -/

section Lives

variable {kernel : Kernel} {cbor : Libcbor} {path : SocketPath} {mode : ℕ} {watchdog : Bool}
  {store : Db} {w₀ w : World} {h : List (LifeEvent × Except LifeError Unit)}

lemma lostIn_snoc {e : LifeEvent} {result : Except LifeError Unit} {r : Res} :
    lostIn (h ++ [(e, result)]) r = lostIn h r + match result with
      | .ok () => 0
      | .error e => e.lost r := by
  simp [lostIn]

lemma lostIn_nonneg (r : Res) : 0 ≤ lostIn h r := by
  refine sum_nonneg_of_map h fun a => ?_
  rcases a with ⟨e, e' | ⟨⟩⟩
  · exact LifeError.lost_nonneg
  · exact le_refl _

lemma books_step (hw : Books (lostIn h) Running w) (e : LifeEvent) :
    Books (lostIn (h ++ [(e, (step kernel cbor w e).1)])) Running (step kernel cbor w e).2 := by
  have hpost := @books_handler kernel _ lostIn_nonneg cbor e w hw
  rcases hrun : step kernel cbor w e with ⟨e' | ⟨⟩, w'⟩ <;> unfold step at hrun <;>
    rw [hrun] at hpost
  · exact hpost.extra_eq fun r => lostIn_snoc
  · exact hpost.extra_eq fun r => lostIn_snoc.trans (add_zero _)

/-- Before the server starts. -/
def unstarted (store : Db) : World := ⟨.closed ⟨fun _ => none, store, []⟩, []⟩

/-- **What the server opens and closes**: in every run of a server that has started, whatever calls
fail, nothing was ever closed that was not open; what is open is what the server and its connected
clients have, and what was lost when a client could not be set up; and when the server ends, that
alone stays open. The server is in a state that it reaches by the events of its clients. -/
theorem handles_balanced
    (hstart : (start kernel path mode watchdog).run (unstarted store) = (.ok (), w₀))
    (hr : (machine kernel cbor w₀).Run h w) :
    Balanced delta (fun s r => s.held r + lostIn h r) w ∧
    (∀ ev, w.state.server.clients ev ≠ none ↔ ev ∈ w.state.clients.map Conn.event) ∧
    (RpcServer.machine cbor store).Reachable w.state.server ∧
    Balanced delta (fun _ => lostIn h) ((stop kernel path).run w).2 := by
  have hinit : Books (fun _ => 0) (· = .closed ⟨fun _ => none, store, []⟩) (unstarted store) :=
    ⟨.init fun r => by simp [State.held, State.closed], rfl⟩
  -- start establishes the two invariants, every event keeps them
  have hbooks₀ : Books (fun _ => 0) Running w₀ := by
    have hpost := @books_start kernel _ path mode watchdog (fun _ => rfl) _ hinit
    rwa [hstart] at hpost
  have hreached₀ : Reached cbor store w₀ := by
    have hpost := @reached_start kernel cbor store path mode watchdog (unstarted store) .init
    rwa [hstart] at hpost
  have hbooks : Books (lostIn h) Running w ∧ Reached cbor store w :=
    hr.relation (R := fun h w => Books (lostIn h) Running w ∧ Reached cbor store w)
      ⟨hbooks₀, hreached₀⟩ fun h w e _ ih => ⟨books_step ih.1 e, reached_step ih.2 e⟩
  obtain ⟨⟨hbalanced, hrunning⟩, hreached⟩ := hbooks
  -- after the destructor nothing is open but what the clients lost
  refine ⟨hbalanced, hrunning.2, hreached, ?_⟩
  obtain ⟨hstopped, server, hclosed⟩ :=
    (@books_stop kernel _ (fun _ => Books (lostIn h) fun s => ∃ server, s = .closed server) path
      lostIn_nonneg).state ⟨hbalanced, hrunning⟩
  refine hstopped.congr fun r => ?_
  rw [hclosed]
  simp [State.held, State.closed]

def samplePath : SocketPath := ⟨⟨[115], by decide, by decide⟩, by decide⟩

/-- A client whose descriptor cannot be made non-blocking. -/
def sampleKernel : Kernel := fun _ c => match c with
  | .socket => 3
  | .accept _ => 4
  | .makeNonblocking _ => -1
  | .sock _ _ => 0
  | _ => 1

def sampleStarted : World := ((start sampleKernel samplePath 0 false).run (unstarted .initSchema)).2

/-- Its descriptor stays open after the server has ended. -/
theorem handles_balanced_sample :
    let w := ((machine sampleKernel codec sampleStarted).exec [.accept]).2
    net delta ((stop sampleKernel samplePath).run w).2.log (.fd 4) = 1 := by
  have hstart : (start sampleKernel samplePath 0 false).run (unstarted .initSchema) =
      (.ok (), sampleStarted) := rfl
  exact ((handles_balanced hstart
    ((machine sampleKernel codec sampleStarted).run_exec [.accept])).2.2.2.balance (.fd 4)).trans
      rfl

end Lives

end Sativa.ServerLife
