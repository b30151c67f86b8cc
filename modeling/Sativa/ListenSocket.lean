import Sativa.Buffer
import Sativa.Machine
import Mathlib.Data.List.DropRight

/-!
The name of the listening socket: daemons that start and stop in any order, and clients that dial.

The name in a socket's address is cut off, but the file is unlinked by the whole path. Where a text
leads is up to the file system: `d/s` and `d//s` are one entry of one directory.
-/

namespace Sativa.ListenSocket

open Sativa

/-- A path as `c_str` gives it. An empty one names no file. -/
structure SocketPath extends CString where
  nonempty : bytes ≠ []

/-- `strncpy` to `sun_path`, which has room for 107 bytes and a NUL. -/
def SocketPath.sunPath (path : SocketPath) : Bytes := path.bytes.take 107

/-- What a daemon calls for its listening socket. -/
inductive SockCall
  | unlink (path : Bytes)
  | bind (name : Bytes)
  | getFlags
  | setFlags
  | fchmod (mode : ℕ)
  | listen
  | close
  deriving DecidableEq

/-- `RpcServer::initSocket`, after `socket`. -/
def initCalls (path : SocketPath) (mode : ℕ) : List SockCall :=
  [.unlink path.bytes, .bind path.sunPath, .getFlags, .setFlags] ++
    (if mode = 0 then [] else [.fchmod mode]) ++ [.listen]

/-- `RpcServer::~RpcServer`, as far as the socket goes. -/
def closeCalls (path : SocketPath) : List SockCall := [.close, .unlink path.bytes]

/-- Where a path leads, by the directories and links there are. -/
inductive Lookup (E : Type)
  /-- An entry of a directory, with a file or without one. -/
  | entry (e : E)
  /-- Through such an entry, as if it were a directory: `s/` and `s/t`. -/
  | through (e : E)
  | noEntry
  /-- `ENAMETOOLONG`, `EACCES`, a directory. -/
  | refused

/-- A socket path in the eyes of a process, with its working directory and its rights. -/
structure Site (E : Type) where
  path : SocketPath
  leads : Bytes → Lookup E

inductive Phase
  | starting
  | running
  | stopping
  | gone
  deriving DecidableEq

/-- A daemon, and what it has yet to call. -/
structure Daemon (E : Type) where
  site : Site E
  phase : Phase
  todo : List SockCall

/-- What answers on the socket. -/
def Daemon.Listening {E : Type} (d : Daemon E) : Prop :=
  d.phase = .running ∨ d.phase = .stopping ∧ .close ∈ d.todo

instance {E : Type} (d : Daemon E) : Decidable d.Listening :=
  inferInstanceAs (Decidable (_ ∨ _ ∧ _))

/-- The daemon that has bound each entry, and all daemons that were ever started. -/
structure System (E : Type) where
  bound : E → Option ℕ
  daemons : List (Daemon E)

/-- A call fails for a reason of its own, or by a `fault`. -/
inductive Event (E : Type)
  | start (site : Site E) (mode : ℕ)
  | call (i : ℕ) (fault : Bool)
  | stop (i : ℕ)
  | kill (i : ℕ)
  | dial (site : Site E) (fault : Bool)

inductive Answer (E : Type)
  | unlinked (e : E)
  | bound (e : E)
  | done (c : SockCall)
  | failed (c : SockCall)
  | reached (i : ℕ)
  | refused
  | noEntry
  | none
  deriving DecidableEq

section Model

variable {E : Type}

def Answer.ok : Answer E → Bool
  | .failed _ => false
  | _ => true

/-- Where a text leads, with sockets at the entries that are `bound`. -/
def Site.find (site : Site E) (bound : E → Option ℕ) (text : Bytes) : Lookup E :=
  match site.leads text with
  | .through e => if bound e = none then .noEntry else .refused
  | l => l

variable [DecidableEq E]

/-- A call of daemon `i`, and what is bound then. A file that is not there is unlinked all the
same. -/
def perform (bound : E → Option ℕ) (i : ℕ) (site : Site E) (fault : Bool) (c : SockCall) :
    Answer E × (E → Option ℕ) :=
  if fault then (.failed c, bound) else
    match c with
    | .unlink text => match site.find bound text with
      | .entry e => (.unlinked e, Function.update bound e none)
      -- `ENOENT` is passed over
      | .noEntry => (.done c, bound)
      | _ => (.failed c, bound)
    | .bind text => match site.find bound text with
      | .entry e =>
        if bound e = none then (.bound e, Function.update bound e (some i)) else (.failed c, bound)
      | _ => (.failed c, bound)
    | _ => (.done c, bound)

/-- The daemon after its first call. In `initSocket` what fails is thrown, in the destructor it is
only logged. -/
def Daemon.called (d : Daemon E) (ok : Bool) : Daemon E :=
  if d.phase = .starting then
    if ok = false then { d with phase := .gone, todo := [] }
    else { d with phase := if d.todo.tail = [] then .running else .starting, todo := d.todo.tail }
  else { d with phase := if d.todo.tail = [] then .gone else d.phase, todo := d.todo.tail }

def System.set (s : System E) (i : ℕ) (d : Daemon E) : System E :=
  { s with daemons := s.daemons.set i d }

/-- The next call of daemon `i`. -/
def callNext (s : System E) (i : ℕ) (fault : Bool) : Answer E × System E :=
  match s.daemons[i]? with
  | none => (.none, s)
  | some d => match d.todo with
    | [] => (.none, s)
    | c :: _ =>
      let (answer, bound) := perform s.bound i d.site fault c
      (answer, { s with bound }.set i (d.called answer.ok))

/-- `connect` to the name of the path. -/
def dial (s : System E) (site : Site E) : Answer E :=
  match site.find s.bound site.path.sunPath with
  | .entry e => match s.bound e with
    | none => .noEntry
    | some i => match s.daemons[i]? with
      | none => .refused
      | some d => if d.Listening then .reached i else .refused
  | .noEntry => .noEntry
  | _ => .refused

def step (s : System E) : Event E → Answer E × System E
  | .start site mode =>
    (.none, { s with daemons := s.daemons ++ [⟨site, .starting, initCalls site.path mode⟩] })
  | .call i fault => callNext s i fault
  | .stop i => match s.daemons[i]? with
    | none => (.none, s)
    | some d =>
      if d.phase = .running then
        (.none, s.set i { d with phase := .stopping, todo := closeCalls d.site.path })
      else (.none, s)
  | .kill i => match s.daemons[i]? with
    | none => (.none, s)
    | some d => (.none, s.set i { d with phase := .gone, todo := [] })
  | .dial site fault => (if fault then .refused else dial s site, s)

def machine : Machine (System E) (Event E) (Answer E) := ⟨⟨fun _ => none, []⟩, step⟩

end Model

/-! ### Steps -/

section Steps

variable {E : Type} {s : System E} {ev : Event E} {d d' : Daemon E} {site : Site E} {c : SockCall}
  {i : ℕ} {f : Bool} {bound : E → Option ℕ} {e : E} {text : Bytes}

@[simp] lemma set_bound : (s.set i d).bound = s.bound := rfl

lemma mem_set (h : d' ∈ (s.set i d).daemons) : d' ∈ s.daemons ∨ d' = d :=
  List.mem_or_eq_of_mem_set h

@[simp] lemma find_eq_entry : site.find bound text = .entry e ↔ site.leads text = .entry e := by
  unfold Site.find
  split
  · split_ifs <;> simp_all
  · rfl

/-- An answer that tells of no entry. -/
def Answer.Plain : Answer E → Prop
  | .unlinked _ | .bound _ => False
  | _ => True

lemma dial_eq_reached : dial s site = .reached i ↔
    ∃ e, site.leads site.path.sunPath = .entry e ∧ s.bound e = some i ∧
      ∃ d, s.daemons[i]? = some d ∧ d.Listening := by
  unfold dial
  simp only [← @find_eq_entry _ _ s.bound]
  rcases site.find s.bound site.path.sunPath with e | e | _ | _ <;>
    simp only [reduceCtorEq, Lookup.entry.injEq, false_and, exists_false, exists_eq_left']
  rcases s.bound e with _ | j
  · simp
  rcases hj : s.daemons[j]? with _ | d
  · simp only [hj, reduceCtorEq, false_iff, not_and, not_exists, Option.some.injEq]
    rintro rfl d hd
    simp [hj] at hd
  · by_cases hl : d.Listening
    · simp only [hj, if_pos hl, Answer.reached.injEq, Option.some.injEq]
      refine ⟨?_, And.left⟩
      rintro rfl
      exact ⟨rfl, d, hj, hl⟩
    · simp only [hj, if_neg hl, reduceCtorEq, false_iff, not_and, not_exists, Option.some.injEq]
      rintro rfl d' hd'
      rw [hj] at hd'
      cases hd'
      exact hl

lemma dial_plain : (dial s site).Plain := by
  unfold dial
  split
  · split
    · trivial
    · split
      · trivial
      · split_ifs <;> trivial
  all_goals trivial

variable [DecidableEq E]

/-- A call that has nothing to do with names. -/
def SockCall.Plain : SockCall → Prop
  | .unlink _ | .bind _ => False
  | _ => True

/-- A bind takes a free entry for its caller, an unlink frees one, and nothing else changes what is
bound. -/
lemma perform_cases (bound : E → Option ℕ) (i : ℕ) (site : Site E) (f : Bool) (c : SockCall) :
    (∃ text e, c = .bind text ∧ site.leads text = .entry e ∧ bound e = none ∧
      perform bound i site f c = (.bound e, Function.update bound e (some i))) ∨
    (∃ text e, c = .unlink text ∧ site.leads text = .entry e ∧
      perform bound i site f c = (.unlinked e, Function.update bound e none)) ∨
    (perform bound i site f c = (.done c, bound) ∨
      perform bound i site f c = (.failed c, bound)) := by
  cases f with
  | true => exact .inr (.inr (.inr rfl))
  | false =>
    cases c with
    | unlink text =>
      rcases hfind : site.find bound text with e | e | _ | _
      · exact .inr (.inl ⟨text, e, rfl, find_eq_entry.mp hfind, by simp [perform, hfind]⟩)
      all_goals exact .inr (.inr (by simp [perform, hfind]))
    | bind text =>
      rcases hfind : site.find bound text with e | e | _ | _
      · by_cases hfree : bound e = none
        · exact .inl ⟨text, e, rfl, find_eq_entry.mp hfind, hfree, by simp [perform, hfind, hfree]⟩
        · exact .inr (.inr (by simp [perform, hfind, hfree]))
      all_goals exact .inr (.inr (by simp [perform, hfind]))
    | _ => exact .inr (.inr (.inl rfl))

lemma callNext_eq {rest : List SockCall} (hd : s.daemons[i]? = some d)
    (htodo : d.todo = c :: rest) :
    callNext s i f = ((perform s.bound i d.site f c).1,
      { s with bound := (perform s.bound i d.site f c).2 }.set i
        (d.called (perform s.bound i d.site f c).1.ok)) := by
  simp only [callNext, hd, htodo]

/-- A daemon as it was, that has just started, or that has been told to stop. -/
def Changed (s : System E) (ev : Event E) (d : Daemon E) : Prop :=
  d ∈ s.daemons ∨
    (∃ mode, ev = .start d.site mode ∧ d.todo = initCalls d.site.path mode) ∨
    ∃ d₀ ∈ s.daemons, d.site = d₀.site ∧ (d.todo = [] ∨ d.todo = closeCalls d.site.path)

lemma step_cases (s : System E) (ev : Event E) :
    (∃ i f d c rest, ev = .call i f ∧ s.daemons[i]? = some d ∧ d.todo = c :: rest) ∨
    ((step s ev).1.Plain ∧ (step s ev).2.bound = s.bound ∧
      ∀ d ∈ (step s ev).2.daemons, Changed s ev d) := by
  -- only a call touches the directory, and only if the daemon has one left to make
  cases ev with
  | start site mode =>
    refine .inr ⟨trivial, rfl, fun d hd => ?_⟩
    rcases List.mem_append.mp hd with hold | hnew
    · exact .inl hold
    · exact .inr (.inl (by simp [List.mem_singleton.mp hnew]))
  | stop i =>
    right
    simp only [step]
    rcases hi : s.daemons[i]? with _ | d
    · exact ⟨trivial, rfl, fun d hd => .inl hd⟩
    dsimp only
    split_ifs
    · refine ⟨trivial, rfl, fun d' hd' => (mem_set hd').imp_right fun hnew => .inr ?_⟩
      exact ⟨d, List.mem_of_getElem? hi, by simp [hnew]⟩
    · exact ⟨trivial, rfl, fun d hd => .inl hd⟩
  | kill i =>
    right
    simp only [step]
    rcases hi : s.daemons[i]? with _ | d
    · exact ⟨trivial, rfl, fun d hd => .inl hd⟩
    · refine ⟨trivial, rfl, fun d' hd' => (mem_set hd').imp_right fun hnew => .inr ?_⟩
      exact ⟨d, List.mem_of_getElem? hi, by simp [hnew]⟩
  | dial site fault =>
    refine .inr ⟨?_, rfl, fun d hd => .inl hd⟩
    cases fault with
    | true => trivial
    | false => exact dial_plain
  | call i f =>
    rcases hi : s.daemons[i]? with _ | d
    · exact .inr (by simpa [step, callNext, hi, Changed] using ⟨trivial, fun d hd => .inl hd⟩)
    rcases htodo : d.todo with _ | ⟨c, rest⟩
    · exact .inr (by
        simpa [step, callNext, hi, htodo, Changed] using ⟨trivial, fun d hd => .inl hd⟩)
    · exact .inl ⟨i, f, d, c, rest, rfl, hi, htodo⟩

end Steps

/-! ### Entries and the history -/

abbrev History (E : Type) := List (Event E × Answer E)

/-- The history since the entry was last unlinked. -/
def since {E : Type} [DecidableEq E] (e : E) (h : History E) : History E :=
  h.rtakeWhile fun a => a.2 ≠ .unlinked e

section Entries

variable {E : Type} [DecidableEq E] {h : History E} {s w : System E} {ev : Event E} {a : Answer E}
  {e : E} {i : ℕ} {site : Site E}

lemma step_bound (s : System E) (ev : Event E) :
    (∃ e i f, ev = .call i f ∧ (step s ev).1 = .bound e ∧ s.bound e = none ∧
      (step s ev).2.bound = Function.update s.bound e (some i)) ∨
    (∃ e, (step s ev).1 = .unlinked e ∧
      (step s ev).2.bound = Function.update s.bound e none) ∨
    ((step s ev).1.Plain ∧ (step s ev).2.bound = s.bound) := by
  rcases step_cases s ev with ⟨i, f, d, c, rest, rfl, hi, htodo⟩ | ⟨hplain, hbound, -⟩
  · simp only [step, callNext_eq hi htodo, set_bound]
    rcases perform_cases s.bound i d.site f c with ⟨_, e, -, -, hfree, hp⟩ | ⟨_, e, -, -, hp⟩ |
      hp | hp
    · exact .inl ⟨e, i, f, rfl, by simp [hp, hfree]⟩
    · exact .inr (.inl ⟨e, by simp [hp]⟩)
    all_goals exact .inr (.inr (by simp [hp, Answer.Plain]))
  · exact .inr (.inr ⟨hplain, hbound⟩)

lemma since_snoc : since e (h ++ [(ev, a)]) =
    if a = .unlinked e then [] else since e h ++ [(ev, a)] := by
  by_cases ha : a = .unlinked e <;> simp [since, ha]

/-- An entry is that of the daemon that has bound it since it was unlinked. -/
lemma bound_eq_some (hr : machine.Run h w) :
    w.bound e = some i ↔ ∃ f, (.call i f, .bound e) ∈ since e h := by
  -- the history since the last unlink of the entry names who is bound to it
  refine hr.relation (R := fun h w => ∀ e i, w.bound e = some i ↔
    ∃ f, (.call i f, .bound e) ∈ since e h) ?_ ?_ e i
  · intro e i
    simp [machine, since]
  · intro h s ev _ ih e i
    change (step s ev).2.bound e = some i ↔
      ∃ f, (.call i f, .bound e) ∈ since e (h ++ [(ev, (step s ev).1)])
    rw [since_snoc]
    rcases step_bound s ev with ⟨taken, j, f, rfl, hanswer, hfree, hbound⟩ |
      ⟨freed, hanswer, hbound⟩ | ⟨hplain, hbound⟩
    · rw [hanswer, hbound, if_neg nofun]
      rcases eq_or_ne e taken with rfl | hne
      -- an entry is taken only when it is free, so that there is no earlier bind to forget
      · have hold : ∀ k f', (.call k f', .bound e) ∉ since e h :=
          fun k f' hmem => by simpa [hfree] using (ih e k).mpr ⟨f', hmem⟩
        simp [hold, eq_comm]
      · simp [ih, hne]
    · rw [hanswer, hbound]
      rcases eq_or_ne e freed with rfl | hne
      · simp
      · rw [Function.update_of_ne hne, if_neg (by simpa using hne.symm), ih]
        simp
    · have hunlinked : (step s ev).1 ≠ .unlinked e := fun heq => by
        simp [heq, Answer.Plain] at hplain
      rw [hbound, if_neg hunlinked, ih]
      refine exists_congr fun f => ?_
      rw [List.mem_append, List.mem_singleton]
      refine ⟨.inl, fun hmem => hmem.resolve_right fun heq => ?_⟩
      rw [← (Prod.mk.inj heq).2] at hplain
      exact hplain

/-- **Who is reached**: in every run of daemons that start, stop and die, with any paths and any
file system, a client that may dial a path reaches the daemon that has bound the entry to which the
name leads, since that entry was last unlinked, by whomever and by whatever path, as long as the
daemon listens. -/
theorem dial_reaches_iff (hr : machine.Run h w) (site : Site E) (fault : Bool) (i : ℕ) :
    (machine.step w (.dial site fault)).1 = .reached i ↔ fault = false ∧
      ∃ e, site.leads site.path.sunPath = .entry e ∧
        (∃ f, (.call i f, .bound e) ∈ since e h) ∧ ∃ d, w.daemons[i]? = some d ∧ d.Listening := by
  simp only [← bound_eq_some hr]
  cases fault with
  | true => exact ⟨nofun, nofun⟩
  | false => exact dial_eq_reached.trans (by simp)

/-- A directory that drops a slash after a slash. -/
def squeeze : Bytes → Bytes
  | 47 :: 47 :: text => squeeze (47 :: text)
  | b :: text => b :: squeeze text
  | [] => []

/-- `/s` -/
def sampleSite : Site Bytes := ⟨⟨⟨[47, 115], by decide, by decide⟩, by decide⟩, .entry ∘ squeeze⟩

/-- `//s` -/
def aliasSite : Site Bytes :=
  ⟨⟨⟨[47, 47, 115], by decide, by decide⟩, by decide⟩, .entry ∘ squeeze⟩

/-- A second daemon is started with the other path while the first runs, which is stopped then. -/
def sampleEvents : List (Event Bytes) :=
  .start sampleSite 0 :: List.replicate 5 (.call 0 false) ++
    .start aliasSite 0 :: List.replicate 5 (.call 1 false) ++ [.stop 0]

/-- Both listen, and a client of either path reaches the second. -/
theorem dial_reaches_iff_sample :
    ((machine.exec sampleEvents).2.daemons.map fun d => decide d.Listening) = [true, true] ∧
      (machine.step (machine.exec sampleEvents).2 (.dial sampleSite false)).1 = .reached 1 ∧
      (machine.step (machine.exec sampleEvents).2 (.dial aliasSite false)).1 = .reached 1 := by
  have hr := machine.run_exec sampleEvents
  have hbound : (.call 1 false, .bound [47, 115]) ∈ since [47, 115] (machine.exec sampleEvents).1 :=
    List.mem_of_getElem? (i := 0) rfl
  refine ⟨by decide, ?_, ?_⟩
  · exact (dial_reaches_iff hr sampleSite false 1).mpr
      ⟨rfl, [47, 115], rfl, ⟨false, hbound⟩, _, rfl, by decide⟩
  · exact (dial_reaches_iff hr aliasSite false 1).mpr
      ⟨rfl, [47, 115], rfl, ⟨false, hbound⟩, _, rfl, by decide⟩

end Entries

/-! ### Starting again -/

section Start

variable {E : Type} [DecidableEq E] {s w : System E} {h : History E} {k n : ℕ} {site : Site E}
  {d : Daemon E} {cs : List SockCall} {bound : E → Option ℕ} {e : E} {i : ℕ}

end Start

end Sativa.ListenSocket
