import Sativa.SrmFlags
import Sativa.SrmDevices

/-!
What becomes of a message: which device takes it, what it does to the device, and what is replied.
-/

namespace Sativa.Srm

open Sativa Prog

/-- The messages that were sent. -/
def sends (log : List (KCall × ℤ)) : List Msg :=
  log.filterMap fun
    | (.rpmsgSend msg, _) => some msg
    | _ => none

section Replies

variable (msg : Msg) (past stack : Bytes)

/-- Whether a regulator is asked to be on. -/
def Cfg.on (cfg : Cfg) : Bool := decide (cfg.value ≠ 0)

/-- A reply that is no error: it tells about an entry of the device as it is then, and a regulator
has been switched as was asked. -/
inductive Answered (dev : Dev) : Dev → Msg → Prop
  | clock {c : Info} {i : ℕ} {rate : ℤ} (hrsc : msg.rscType = RPROC_SRM_RSC_CLOCK)
      (found : find .clock dev msg.cfg.index (msg.cfg.nameStr stack) = some (c, i)) :
      Answered dev dev { msg with cfg := clockCfg msg.cfg c rate }
  | regu {r : Info} {i : ℕ} {v : ℤ} (htype : msg.messageType = RPROC_SRM_MSG_GETCONFIG)
      (hrsc : msg.rscType = RPROC_SRM_RSC_REGU)
      (found : find .regu dev msg.cfg.index (msg.cfg.nameStr stack) = some (r, i)) :
      Answered dev dev { msg with cfg := reguCfg msg.cfg r v }
  | switched {r r' : Info} {i j : ℕ} {v : ℤ} (htype : msg.messageType = RPROC_SRM_MSG_SETCONFIG)
      (hrsc : msg.rscType = RPROC_SRM_RSC_REGU)
      (found : find .regu dev msg.cfg.index (msg.cfg.nameStr past) = some (r, i))
      (told : find .regu (dev.setEnabled .regu i msg.cfg.on) msg.cfg.index
        (msg.cfg.nameStr stack) = some (r', j)) :
      Answered dev (dev.setEnabled .regu i msg.cfg.on) { msg with cfg := reguCfg msg.cfg r' v }

/-- The device after a request that is answered by an error: it is as it was, or a regulator has
been switched nevertheless. -/
inductive Failed (dev : Dev) : Dev → Prop
  | same : Failed dev dev
  | switched {r : Info} {i : ℕ} (htype : msg.messageType = RPROC_SRM_MSG_SETCONFIG)
      (hrsc : msg.rscType = RPROC_SRM_RSC_REGU)
      (found : find .regu dev msg.cfg.index (msg.cfg.nameStr past) = some (r, i)) :
      Failed dev (dev.setEnabled .regu i msg.cfg.on)

/-- A reply, and the device after it. -/
def Replied (dev dev' : Dev) (reply : Msg) : Prop :=
  Answered msg past stack dev dev' reply ∨ reply = msg.error ∧ Failed msg past dev dev'

end Replies

section Device

variable {kernel : Kernel} {msg : Msg} {past stack name : Bytes} {cfg : Cfg} {dev : Dev}
  {sent : List Msg} {k : Kind} {c : KCall} {E : ℤ → World → Prop}

/-- The device is `dev`, and `sent` was sent. -/
def At (dev : Dev) (sent : List Msg) (w : World) : Prop := w.state = dev ∧ sends w.log = sent

lemma At.call {w : World} {a : ℤ} (h : At dev sent w) (hc : ∀ reply, c ≠ .rpmsgSend reply) :
    At dev sent ⟨w.state, w.log ++ [(c, a)]⟩ := by
  have hnone : sends [(c, a)] = [] := by
    cases c with
    | rpmsgSend reply => exact absurd rfl (hc reply)
    | _ => rfl
  refine ⟨h.1, ?_⟩
  unfold sends at hnone ⊢
  rw [List.filterMap_append, hnone, List.append_nil]
  exact h.2

lemma at_check (hc : ∀ reply, c ≠ .rpmsgSend reply) :
    Keeps (At dev sent) (check kernel c) fun _ => At dev sent :=
  Ensures.keeps_check fun _ _ hw => hw.call hc

lemma at_findOrFail : Ensures (At dev sent) (findOrFail k cfg name)
    (fun found w => At dev sent w ∧ find k dev cfg.index name = some found)
    fun _ => At dev sent := by
  refine Ensures.bind (Ensures.get (Q := fun w w' => At dev sent w' ∧ w.state = dev)
    fun w hw => ⟨hw, hw.1⟩) fun w => ?_
  rcases hfound : find k w.state cfg.index name with _ | found
  · exact Ensures.fail fun _ hw => hw.1
  · exact Ensures.pure fun _ hw => ⟨hw.1, hw.2 ▸ hfound⟩

lemma at_clockSetCfg : Keeps (At dev sent) (clockSetCfg kernel cfg name) fun _ => At dev sent := by
  refine at_findOrFail.bind fun ⟨c, i⟩ => Ensures.when (fun _ => ?_) fun _ hw _ => hw.1
  refine Ensures.bind (Q := fun _ => At dev sent)
    (Ensures.call fun w hw => hw.1.call fun _ h => by cases h) fun rate =>
      Ensures.when (fun _ => at_check fun _ h => by cases h) fun _ hw _ => hw

lemma at_clockGetCfg : Ensures (At dev sent) (clockGetCfg kernel cfg name)
    (fun cfg' w => At dev sent w ∧ ∃ c i rate, find .clock dev cfg.index name = some (c, i) ∧
      cfg' = clockCfg cfg c rate) fun _ => At dev sent := by
  refine at_findOrFail.bind fun ⟨c, i⟩ => ?_
  refine Ensures.bind (Q := fun _ w => At dev sent w ∧ find .clock dev cfg.index name = some (c, i))
    (Ensures.call fun w hw => ⟨hw.1.call fun _ h => (by cases h), hw.2⟩) fun rate => ?_
  exact Ensures.pure fun w hw => ⟨hw.1, c, i, rate, hw.2, rfl⟩

lemma at_reguGetCfg : Ensures (At dev sent) (reguGetCfg kernel cfg name)
    (fun cfg' w => At dev sent w ∧ ∃ r i v, find .regu dev cfg.index name = some (r, i) ∧
      cfg' = reguCfg cfg r v) fun _ => At dev sent := by
  refine at_findOrFail.bind fun ⟨r, i⟩ => ?_
  refine Ensures.bind (Q := fun _ w => At dev sent w ∧ find .regu dev cfg.index name = some (r, i))
    (Ensures.call fun w hw => ⟨hw.1.call fun _ h => (by cases h), hw.2⟩) fun v => ?_
  exact Ensures.pure fun w hw => ⟨hw.1, r, i, v, hw.2, rfl⟩

lemma Dev.setEnabled_of_eq {info : Info} {i : ℕ} {b : Bool} (hi : (dev.infos k)[i]? = some info)
    (hb : info.enabled = b) : dev.setEnabled k i b = dev := by
  have hsame : ((dev.infos k).modify i fun info => { info with enabled := b }) = dev.infos k := by
    refine List.ext_getElem? fun j => ?_
    rw [List.getElem?_modify]
    rcases eq_or_ne i j with rfl | hne
    · rw [hi, ← hb]
      simp
    · simp [hne]
  unfold Dev.setEnabled
  dsimp only
  rw [hsame, Function.update_eq_self]

lemma at_reguSwitch {r : Info} {i : ℕ} {enable : UInt32} (hi : (dev.infos .regu)[i]? = some r) :
    Ensures (At dev sent) (reguSwitch kernel r i enable)
      (fun _ => At (dev.setEnabled .regu i (decide (enable ≠ 0))) sent) fun _ => At dev sent := by
  unfold reguSwitch
  split_ifs with hon hoff
  · refine (at_check fun _ h => by cases h).bind fun _ => Ensures.update fun w hw => ⟨?_, hw.2⟩
    rw [hw.1, decide_eq_true hon.2]
  · refine (at_check fun _ h => by cases h).bind fun _ => Ensures.update fun w hw => ⟨?_, hw.2⟩
    rw [hw.1, hoff.2]
    rfl
  · refine Ensures.pure fun w hw => ?_
    rw [Dev.setEnabled_of_eq hi]
    · exact hw
    · by_cases henable : enable = 0
      · simpa [henable] using hoff
      · simpa [henable] using hon

lemma at_reguSetCfg : Ensures (At dev sent) (reguSetCfg kernel cfg name)
    (fun _ w => ∃ r i, find .regu dev cfg.index name = some (r, i) ∧
      At (dev.setEnabled .regu i cfg.on) sent w)
    fun _ w => At dev sent w ∨ ∃ r i, find .regu dev cfg.index name = some (r, i) ∧
      At (dev.setEnabled .regu i cfg.on) sent w := by
  refine (at_findOrFail.weaken (fun _ hw => hw) (fun _ _ hw => hw) fun _ _ hw => .inl hw).bind
    fun ⟨r, i⟩ => ?_
  refine Ensures.bind (Q := fun _ w => find .regu dev cfg.index name = some (r, i) ∧
    At (dev.setEnabled .regu i cfg.on) sent w) ?_ fun _ => ?_
  · intro w hw
    exact ((at_reguSwitch (find_some hw.2)).weaken (fun _ h => h) (fun _ _ h => ⟨hw.2, h⟩)
      fun _ _ h => .inl h) w hw.1
  · refine Ensures.when (fun _ => ?_) fun w hw _ => ⟨r, i, hw⟩
    refine (Ensures.keeps_check fun _ _ hw => ⟨hw.1, hw.2.call fun _ h => by cases h⟩).weaken
      (fun _ hw => hw) (fun _ w hw => ⟨r, i, hw⟩) fun _ w hw => .inr ⟨r, i, hw⟩

lemma at_answer : Ensures (At dev sent) (answer kernel msg past stack)
    (fun reply w => Answered msg past stack dev w.state reply ∧ sends w.log = sent)
    fun _ w => Failed msg past dev w.state ∧ sends w.log = sent := by
  -- what fails before the device was touched leaves the world as it was
  have hsame : ∀ w, At dev sent w → Failed msg past dev w.state ∧ sends w.log = sent := by
    rintro w ⟨rfl, hw⟩
    exact ⟨.same, hw⟩
  unfold answer
  split_ifs with hset hclock hregu hget hclock hregu
  · refine (at_clockSetCfg.weaken (fun _ hw => hw) (fun _ _ hw => hw) fun _ _ hw => hsame _ hw).bind
      fun _ => ?_
    refine (at_clockGetCfg.weaken (fun _ hw => hw) (fun _ _ hw => hw) fun _ _ hw => hsame _ hw).bind
      fun cfg => Ensures.pure ?_
    rintro w ⟨⟨rfl, hw⟩, c, i, rate, hfind, rfl⟩
    exact ⟨.clock hclock hfind, hw⟩
  · refine (at_reguSetCfg.weaken (fun _ hw => hw) (fun _ _ hw => hw) fun _ w hw => ?_).bind
      fun _ => ?_
    -- regu_set_cfg may have switched the regulator before the call that failed
    · rcases hw with hw | ⟨r, i, hfind, hw⟩
      · exact hsame w hw
      · exact ⟨hw.1 ▸ .switched hset hregu hfind, hw.2⟩
    · intro w hw
      obtain ⟨r, i, hfind, hw⟩ := hw
      refine ((at_reguGetCfg.weaken (fun _ h => h) (fun _ _ h => h) fun _ w' h =>
        ⟨h.1 ▸ .switched hset hregu hfind, h.2⟩).bind fun cfg => Ensures.pure ?_) w hw
      rintro w' ⟨hw', r', j, v, htold, rfl⟩
      exact ⟨hw'.1 ▸ .switched hset hregu hfind htold, hw'.2⟩
  · exact Ensures.fail fun _ hw => hsame _ hw
  · refine (at_clockGetCfg.weaken (fun _ hw => hw) (fun _ _ hw => hw) fun _ _ hw => hsame _ hw).bind
      fun cfg => Ensures.pure ?_
    rintro w ⟨⟨rfl, hw⟩, c, i, rate, hfind, rfl⟩
    exact ⟨.clock hclock hfind, hw⟩
  · refine (at_reguGetCfg.weaken (fun _ hw => hw) (fun _ _ hw => hw) fun _ _ hw => hsame _ hw).bind
      fun cfg => Ensures.pure ?_
    rintro w ⟨⟨rfl, hw⟩, r, i, v, hfind, rfl⟩
    exact ⟨.regu hget hregu hfind, hw⟩
  · exact Ensures.fail fun _ hw => hsame _ hw
  · exact Ensures.fail fun _ hw => hsame _ hw

/-- A device that the message is for replies once; another one does nothing. -/
lemma at_notifyCb : Ensures (fun w => w.state = dev ∧ sends w.log = sent)
    (notifyCb kernel msg past stack)
    (fun result w => if dev.matches (msg.deviceIdStr past) then
        result ≠ .done ∧ ∃ reply, Replied msg past stack dev w.state reply ∧
          sends w.log = sent ++ [reply]
      else result = .done ∧ w.state = dev ∧ sends w.log = sent)
    fun _ _ => False := by
  refine Ensures.bind (Ensures.get (Q := fun w w' => w.state = dev ∧ At dev sent w')
    fun w hw => ⟨hw.1, hw⟩) fun w => ?_
  intro w' hw
  obtain ⟨rfl, hw⟩ := hw
  split_ifs with hmatches
  · have hreply : Ensures (At w.state sent) (Prog.rescue (answer kernel msg past stack)
        fun _ => pure msg.error) (fun reply w' => Replied msg past stack w.state w'.state reply ∧
          sends w'.log = sent) fun (_ : Empty) _ => False :=
      (at_answer.weaken (fun _ h => h) (fun _ _ h => ⟨.inl h.1, h.2⟩) fun _ _ h => h).rescue
        fun _ => Ensures.pure fun w' h => ⟨.inr ⟨rfl, h.1⟩, h.2⟩
    refine (hreply.bind fun reply => ?_) w' hw
    refine Ensures.bind (Q := fun _ w' => Replied msg past stack w.state w'.state reply ∧
      sends w'.log = sent ++ [reply]) (Ensures.call fun w' h => ⟨h.1, ?_⟩) fun ret =>
        Ensures.pure fun w' h => ⟨?_, reply, h⟩
    · rw [← h.2]
      simp [sends]
    · split_ifs <;> decide
  · exact ⟨rfl, hw⟩

end Device

/-! ### The chain -/

section Chain

variable {kernel : Kernel} {msg : Msg} {past stack : Bytes} {e : Entry} {es : List Entry}
  {log : List (KCall × ℤ)} {deviceId : Bytes}

/-- The entries at which the chain ends: one whose memory is released, or one that the message is
for. -/
def Entry.takes (deviceId : Bytes) (e : Entry) : Bool :=
  decide (e.phase = .freed) || e.dev.matches deviceId

lemma run_notifyCb_of_not_matches {w : World} (h : w.state.matches (msg.deviceIdStr past) = false) :
    (notifyCb kernel msg past stack).run w = (.ok .done, w) := by
  unfold notifyCb
  rw [Prog.run_bind_of_ok Prog.run_get]
  simp [h]

lemma callChain_of_not_takes (h : e.takes (msg.deviceIdStr past) = false) :
    callChain kernel msg past stack (e :: es) log =
      ((callChain kernel msg past stack es log).1,
        e :: (callChain kernel msg past stack es log).2.1,
        (callChain kernel msg past stack es log).2.2) := by
  obtain ⟨hphase, hmatches⟩ := Bool.or_eq_false_iff.mp h
  have hrun : (notifyCb kernel msg past stack).run ⟨e.dev, log⟩ = (.ok .done, ⟨e.dev, log⟩) :=
    run_notifyCb_of_not_matches hmatches
  rw [callChain, if_neg (of_decide_eq_false hphase), hrun]

/-- What the chain does at the entry where it ends. -/
structure Taken (kernel : Kernel) (msg : Msg) (past stack : Bytes) (es : List Entry)
    (log : List (KCall × ℤ)) (i : ℕ) (e : Entry) (dev' : Dev) (reply : Msg)
    (log' : List (KCall × ℤ)) : Prop where
  result : ∃ result ≠ .done, callChain kernel msg past stack es log =
    (some result, es.set i { e with dev := dev' }, log')
  replied : Replied msg past stack e.dev dev' reply
  sent : sends log' = sends log ++ [reply]

lemma callChain_of_none (h : ∀ e ∈ es, e.takes (msg.deviceIdStr past) = false) :
    callChain kernel msg past stack es log = (some .done, es, log) := by
  induction es with
  | nil => rfl
  | cons e es ih =>
    rw [callChain_of_not_takes (h e (by simp)), ih fun e' he' => h e' (List.mem_cons_of_mem _ he')]

lemma callChain_of_some {i : ℕ} (h : es.findIdx? (Entry.takes (msg.deviceIdStr past)) = some i) :
    ∃ e, es[i]? = some e ∧
      (e.phase = .freed → callChain kernel msg past stack es log = (none, es, log)) ∧
      (e.phase ≠ .freed → e.dev.matches (msg.deviceIdStr past) = true ∧
        ∃ dev' reply log', Taken kernel msg past stack es log i e dev' reply log') := by
  -- the chain is walked from its head; a device that does not match answers done and goes on
  induction es generalizing i with
  | nil => cases h
  | cons e es ih =>
    rw [List.findIdx?_cons] at h
    split_ifs at h with htakes
    · cases h
      refine ⟨e, rfl, fun hphase => by rw [callChain, if_pos hphase], fun hphase => ?_⟩
      have hmatches : e.dev.matches (msg.deviceIdStr past) = true := by
        rcases Bool.or_eq_true_iff.mp htakes with hfreed | hmatches
        · exact absurd (of_decide_eq_true hfreed) hphase
        · exact hmatches
      have hpost := @at_notifyCb kernel msg past stack e.dev (sends log) ⟨e.dev, log⟩ ⟨rfl, rfl⟩
      refine ⟨hmatches, ?_⟩
      rcases hrun : (notifyCb kernel msg past stack).run ⟨e.dev, log⟩ with ⟨no | result, w⟩
      · exact no.elim
      rw [hrun] at hpost
      simp only [Post, hmatches, if_true] at hpost
      obtain ⟨hresult, reply, hreplied, hsent⟩ := hpost
      -- a match stops the chain, whether its reply could be sent or not
      refine ⟨w.state, reply, w.log, ⟨result, hresult, ?_⟩, hreplied, hsent⟩
      rw [callChain, if_neg hphase, hrun]
      cases result with
      | done => exact absurd rfl hresult
      | stop => rfl
      | bad => rfl
    · have hnot := Bool.not_eq_true _ ▸ htakes
      obtain ⟨j, hj, rfl⟩ := Option.map_eq_some_iff.mp h
      obtain ⟨e', he', hfreed, htaken⟩ := ih hj
      refine ⟨e', he', fun hphase => ?_, fun hphase => ?_⟩
      · rw [callChain_of_not_takes hnot, hfreed hphase]
      · obtain ⟨hmatches, dev', reply, log', ⟨result, hresult, hrun⟩, hreplied, hsent⟩ :=
          htaken hphase
        refine ⟨hmatches, dev', reply, log', ⟨result, hresult, ?_⟩, hreplied, hsent⟩
        rw [callChain_of_not_takes hnot, hrun]
        rfl

end Chain

/-- **One reply for a message**: if there is no device for it, it is returned as an error. Otherwise
the first such device on the chain replies, once, and nothing else is changed; unless the chain
comes to released memory before. -/
theorem message_replied (kernel : Kernel) (s : System) (msg : Msg) (past stack : Bytes) :
    match s.state.chain.findIdx? (Entry.takes (msg.deviceIdStr past)) with
    | none => (rpmsgSrmCb kernel msg past stack s).1 = .ret 0 ∧
        (rpmsgSrmCb kernel msg past stack s).2.state = s.state ∧
        sends (rpmsgSrmCb kernel msg past stack s).2.log = sends s.log ++ [msg.error]
    | some i => ∃ e, s.state.chain[i]? = some e ∧
        if e.phase = .freed then rpmsgSrmCb kernel msg past stack s = (.useAfterFree, s)
        else e.dev.matches (msg.deviceIdStr past) = true ∧
          (rpmsgSrmCb kernel msg past stack s).1 = .ret 0 ∧
          ∃ dev' reply, Replied msg past stack e.dev dev' reply ∧
            (rpmsgSrmCb kernel msg past stack s).2.state =
              { s.state with chain := s.state.chain.set i { e with dev := dev' } } ∧
            sends (rpmsgSrmCb kernel msg past stack s).2.log = sends s.log ++ [reply] := by
  -- nobody takes the message: the core itself answers with an error
  rcases hfind : s.state.chain.findIdx? (Entry.takes (msg.deviceIdStr past)) with _ | i
  · have hrun : callChain kernel msg past stack s.state.chain s.log =
        (some .done, s.state.chain, s.log) :=
      callChain_of_none (List.findIdx?_eq_none_iff.mp hfind)
    simp [rpmsgSrmCb, hrun, sends]
  · obtain ⟨e, he, hfreed, htaken⟩ := @callChain_of_some kernel msg past stack _ s.log _ hfind
    refine ⟨e, he, ?_⟩
    split_ifs with hphase
    · unfold rpmsgSrmCb
      rw [hfreed hphase]
    · obtain ⟨hmatches, dev', reply, log', ⟨result, hresult, hrun⟩, hreplied, hsent⟩ :=
        htaken hphase
      unfold rpmsgSrmCb
      rw [hrun]
      cases result with
      | done => exact absurd rfl hresult
      | stop => exact ⟨hmatches, rfl, dev', reply, hreplied, rfl, hsent⟩
      | bad => exact ⟨hmatches, rfl, dev', reply, hreplied, rfl, hsent⟩

end Sativa.Srm
