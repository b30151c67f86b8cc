import Sativa.Rules
import Sativa.ReceiveHistory
import Sativa.RequestFields
import Sativa.ReplyAccess

/-!
Which replies a getter handles.

Every reply makes for a status, but for those that say there is a value and have none, where the
check for `null` is made on no item, and for those with a float where a bool should be, as the check
for a bool may not be made on it. An entry is told by the beginning of a name, so that a value may
also be found where there is none.
-/

namespace Sativa.Confd.Checked

open Sativa Sativa.Rpc Sativa.Cbor Sativa.RpcServer

/-! ### What a reply says -/

/-- The text that the key of an entry is. -/
def named (name : String) (entry : Item × Item) : Prop := wholeText? entry.1 = some (ascii name)

/-- The reply says that there is a value. -/
def ClaimsFound (entries : List (Item × Item)) : Prop :=
  ∃ entry ∈ entries, named "found" entry ∧ entry.2 = ctrlTrue

def HasValue (entries : List (Item × Item)) : Prop := ∃ entry ∈ entries, named "value" entry

/-- `strncmp` takes the key of the entry for the name. -/
def reads (name : String) (entry : Item × Item) : Bool := match entry.1.text? with
  | none => false
  | some text => strncmpEq text (ascii name) text.length

/-- The items that are taken for `found`. -/
def flags (entries : List (Item × Item)) : List Item :=
  (entries.filter (reads "found")).map Prod.snd

/-- Of the others, the items that are taken for `value`. -/
def values (entries : List (Item × Item)) : List Item :=
  (entries.filter fun entry => !reads "found" entry && reads "value" entry).map Prod.snd

/-- Nothing in the reply is wrong up to the check for `null`: all keys are texts, all flags are
bools, and the last flag is true. -/
structure SaysFound (entries : List (Item × Item)) : Prop where
  keys : ∀ entry ∈ entries, entry.1.text?.isSome = true
  bools : ∀ flag ∈ flags entries, flag.bool?.isSome = true
  last : ((flags entries).filterMap Item.bool?).getLast? = some true

/-- The loop gets past the entries: all keys are texts, and all flags are bools. -/
structure Passed (entries : List (Item × Item)) : Prop where
  keys : ∀ entry ∈ entries, entry.1.text?.isSome = true
  bools : ∀ flag ∈ flags entries, flag.bool?.isSome = true

/-- The loop gets to a flag that is a float. -/
def FloatFlag (entries : List (Item × Item)) : Prop :=
  ∃ before entry after, entries = before ++ entry :: after ∧ Passed before ∧
    reads "found" entry = true ∧ entry.2.isFloat = true

/-- The getter of a bool is given a float. -/
def FloatValue (getter : Getter) (entries : List (Item × Item)) : Prop :=
  getter = .bool ∧ ∃ value, (values entries).getLast? = some value ∧ value.isFloat = true

/-- What happens to such a reply if it goes wrong: nothing is taken for the value, or what the
getter takes for it has another name, where there is no value. -/
def NoValue (getter : Getter) (entries : List (Item × Item)) : Prop :=
  match (values entries).getLast? with
  | none => True
  | some value => takes getter value = true ∧ ClaimsFound entries ∧ ¬ HasValue entries

/-- The reply says that there is a value, and has none, or it has a float for a bool. -/
def Mishandled (cbor : Libcbor) (getter : Getter) (replyPayload : Bytes) : Prop :=
  ∃ entries, cbor.load replyPayload = some (.map entries) ∧ (FloatFlag entries ∨
    SaysFound entries ∧ (FloatValue getter entries ∨ NoValue getter entries))

/-! ### The loop over the entries -/

section Entries

variable {entries : List (Item × Item)} {acc : Bool × Option Item}

lemma flags_cons (entry : Item × Item) : flags (entry :: entries) =
    if reads "found" entry then entry.2 :: flags entries else flags entries := by
  unfold flags
  rw [List.filter_cons]
  split <;> rfl

lemma values_cons (entry : Item × Item) : values (entry :: entries) =
    if !reads "found" entry && reads "value" entry then entry.2 :: values entries
    else values entries := by
  unfold values
  rw [List.filter_cons]
  split <;> rfl

lemma scanReply_ok {r : Bool × Option Item} : scanReply entries acc = .ok r ↔
    (∀ entry ∈ entries, entry.1.text?.isSome = true) ∧
    (∀ flag ∈ flags entries, flag.bool?.isSome = true) ∧
    r = (((flags entries).filterMap Item.bool?).getLast?.getD acc.1,
      (values entries).getLast?.or acc.2) := by
  induction entries generalizing acc with
  | nil =>
    rw [scanReply, Except.ok.injEq, eq_comm]
    simp [flags, values]
  | cons entry entries ih =>
    obtain ⟨key, value⟩ := entry
    obtain ⟨found, result⟩ := acc
    rw [scanReply, flags_cons, values_cons, List.forall_mem_cons]
    rcases htext : key.text? with _ | text
    · simp
    have hreads : ∀ name, reads name (key, value) = strncmpEq text (ascii name) text.length :=
      fun name => by simp [reads, htext]
    simp only [hreads, Option.isSome_some, true_and]
    by_cases hfound : strncmpEq text (ascii "found") text.length = true
    · rcases hbool : value.bool? with _ | b
      · simp [hfound, hbool]
      · simp [hfound, hbool, ih, List.getLast?_cons]
    · by_cases hvalue : strncmpEq text (ascii "value") text.length = true
      · simp [hfound, hvalue, ih, List.getLast?_cons]
      · simp [hfound, hvalue, ih]

lemma scanReply_append {before : List (Item × Item)} :
    scanReply (before ++ entries) acc = scanReply before acc >>= scanReply entries := by
  induction before generalizing acc with
  | nil => rfl
  | cons entry before ih =>
    obtain ⟨key, value⟩ := entry
    obtain ⟨found, result⟩ := acc
    rw [List.cons_append, scanReply, scanReply]
    rcases key.text? with _ | text
    · rfl
    dsimp only
    split_ifs
    · rcases value.bool? with _ | b
      · rfl
      · exact ih
    · exact ih
    · exact ih

lemma scanReply_flag {entry : Item × Item} (h : reads "found" entry = true) :
    scanReply (entry :: entries) acc = match entry.2.bool? with
      | none => .error (notBool entry.2 (.confd .invalidResponse))
      | some b => scanReply entries (b, acc.2) := by
  obtain ⟨key, value⟩ := entry
  obtain ⟨found, result⟩ := acc
  unfold reads at h
  rcases htext : key.text? with _ | text
  · simp [htext] at h
  · simp only [htext] at h
    rw [scanReply, htext]
    exact if_pos h

/-- The loop is stopped by a flag that is a float, and by nothing else. -/
lemma scanReply_crash : scanReply entries acc = .error .crash ↔ FloatFlag entries := by
  constructor
  · intro h
    induction entries generalizing acc with
    | nil => cases h
    | cons entry entries ih =>
      obtain ⟨key, value⟩ := entry
      -- a flag stops the loop if it is a float, and another entry never does
      by_cases hfound : reads "found" (key, value) = true
      · rw [scanReply_flag hfound] at h
        rcases hbool : value.bool? with _ | b
        · refine ⟨[], _, entries, rfl, ⟨by simp, by simp [flags]⟩, hfound, ?_⟩
          simp only [hbool, Except.error.injEq] at h
          by_contra hfloat
          rw [notBool, if_neg hfloat] at h
          cases h
        · simp only [hbool] at h
          have htext : key.text?.isSome = true := by
            unfold reads at hfound
            rcases htext : key.text? with _ | text
            · simp [htext] at hfound
            · rfl
          obtain ⟨before, entry, after, rfl, hpassed, hentry⟩ := ih h
          refine ⟨(key, value) :: before, entry, after, rfl, ⟨?_, ?_⟩, hentry⟩
          · exact List.forall_mem_cons.mpr ⟨htext, hpassed.keys⟩
          · rw [flags_cons, if_pos hfound]
            exact List.forall_mem_cons.mpr ⟨by simp [hbool], hpassed.bools⟩
      · obtain ⟨found, result⟩ := acc
        rw [scanReply] at h
        rcases htext : key.text? with _ | text
        · simp [htext] at h
        have hnot : ¬ strncmpEq text (ascii "found") text.length = true := by
          simpa [reads, htext] using hfound
        obtain ⟨acc', h⟩ : ∃ acc', scanReply entries acc' = .error .crash := by
          simp only [htext, if_neg hnot] at h
          split_ifs at h <;> exact ⟨_, h⟩
        obtain ⟨before, entry, after, rfl, hpassed, hentry⟩ := ih h
        refine ⟨(key, value) :: before, entry, after, rfl, ⟨?_, ?_⟩, hentry⟩
        · exact List.forall_mem_cons.mpr ⟨by simp [htext], hpassed.keys⟩
        · rw [flags_cons, if_neg hfound]
          exact hpassed.bools
  · rintro ⟨before, entry, after, rfl, hpassed, hflag, hfloat⟩
    have hbool : entry.2.bool? = none := by
      rcases hb : entry.2.bool? with _ | b
      · rfl
      · cases (Item.isFloat_of_bool? hb).symm.trans hfloat
    have hbefore := (@scanReply_ok before acc _).mpr ⟨hpassed.keys, hpassed.bools, rfl⟩
    have hbind : ∀ r : Bool × Option Item, ((Except.ok r : Except LibError _) >>=
        scanReply (entry :: after)) = scanReply (entry :: after) r := fun r => rfl
    rw [scanReply_append, hbefore, hbind, scanReply_flag hflag, hbool]
    exact congrArg Except.error (if_pos hfloat)

lemma saysFound_iff : SaysFound entries ↔
    scanReply entries (false, none) = .ok (true, (values entries).getLast?) := by
  rw [scanReply_ok, Option.or_none, Prod.mk.injEq]
  constructor
  · rintro ⟨hkeys, hbools, hlast⟩
    exact ⟨hkeys, hbools, by rw [hlast]; rfl, rfl⟩
  · rintro ⟨hkeys, hbools, hlast, -⟩
    refine ⟨hkeys, hbools, ?_⟩
    rcases h : ((flags entries).filterMap Item.bool?).getLast? with _ | b
    · rw [h] at hlast
      cases hlast
    · rw [h] at hlast
      exact congrArg some hlast.symm

end Entries

/-! ### How a reply is handled -/

section Handled

variable {cbor : Libcbor} {getter : Getter} {replyPayload : Bytes}
  {entries : List (Item × Item)} {value : Item}

lemma not_isNull_of_takes (h : takes getter value = true) : value.isNull = false := by
  cases value with
  | ctrl v =>
    cases getter with
    | bool =>
      rcases eq_or_ne v 22 with rfl | hv
      · cases h
      · simpa [Item.isNull] using hv
    | _ => cases h
  | _ => rfl

lemma exit_of_floatFlag (getter : Getter) (hload : cbor.load replyPayload = some (.map entries))
    (h : FloatFlag entries) : (handleReply cbor replyPayload getter).exit = .crash := by
  have hextract : Confd.extractValue (.map entries) = .error .crash := by
    rw [extractValue_map, scanReply_crash.mpr h]
  rw [handleReply_eq, handleReply_error hload hextract]
  rfl

lemma exit_of_not_saysFound (getter : Getter) (hload : cbor.load replyPayload = some (.map entries))
    (hfloat : ¬ FloatFlag entries) (h : ¬ SaysFound entries) :
    ∃ code ≠ 0, (handleReply cbor replyPayload getter).exit = .status code := by
  rw [handleReply_eq]
  rcases hscan : scanReply entries (false, none) with e | ⟨_ | _, value⟩
  · rcases scanReply_error hscan with rfl | rfl
    · rw [handleReply_error hload (by rw [extractValue_map, hscan])]
      exact ⟨_, by decide, rfl⟩
    · exact absurd (scanReply_crash.mp hscan) hfloat
  · rw [handleReply_error hload (by rw [extractValue_map, hscan])]
    exact ⟨_, by decide, rfl⟩
  · have hr := (scanReply_ok.mp hscan).2.2
    rw [Option.or_none] at hr
    obtain rfl : value = (values entries).getLast? := congrArg Prod.snd hr
    exact absurd (saysFound_iff.mpr hscan) h

lemma exit_of_none (getter : Getter) (hload : cbor.load replyPayload = some (.map entries))
    (h : SaysFound entries) (hnone : (values entries).getLast? = none) :
    (handleReply cbor replyPayload getter).exit = .crash := by
  have hextract : Confd.extractValue (.map entries) = .error .crash := by
    rw [extractValue_map, saysFound_iff.mp h, hnone]
  rw [handleReply_eq, handleReply_error hload hextract]
  rfl

lemma exit_of_floatValue (getter : Getter) (hload : cbor.load replyPayload = some (.map entries))
    (h : SaysFound entries) (hfloat : FloatValue getter entries) :
    (handleReply cbor replyPayload getter).exit = .crash := by
  obtain ⟨rfl, value, hvalue, hfloat⟩ := hfloat
  have hnull : value.isNull = false := by cases value <;> first | rfl | cases hfloat
  have hbool : ¬ takes .bool value = true := by
    cases value <;> first | exact Bool.false_ne_true | cases hfloat
  have hextract : Confd.extractValue (.map entries) = .ok value := by
    rw [extractValue_map, saysFound_iff.mp h, hvalue]
    exact if_neg (by simp [hnull])
  obtain ⟨out, hhandler⟩ := handler_of_not_takes hbool
  rw [handleReply_eq, handleReply_throw hload hextract hhandler, refusal, notBool, if_pos hfloat]
  rfl

lemma exit_of_some (getter : Getter) (hload : cbor.load replyPayload = some (.map entries))
    (h : SaysFound entries) (hfloat : ¬ FloatValue getter entries)
    (hvalue : (values entries).getLast? = some value) :
    ∃ code, (handleReply cbor replyPayload getter).exit = .status code ∧
      (code = 0 ↔ takes getter value = true) := by
  have hextract : Confd.extractValue (.map entries) =
      if value.isNull then .error (.confd .nullValue) else .ok value := by
    rw [extractValue_map, saysFound_iff.mp h, hvalue]
  rw [handleReply_eq]
  by_cases htakes : takes getter value = true
  · rw [if_neg (by rw [not_isNull_of_takes htakes]; simp)] at hextract
    obtain ⟨out, hhandler⟩ := handler_of_takes htakes
    rw [handleReply_ok hload hextract hhandler]
    exact ⟨0, rfl, by simp [htakes]⟩
  -- what the getter does not take is null, or of another type
  by_cases hnull : value.isNull = true
  · rw [if_pos hnull] at hextract
    rw [handleReply_error hload hextract]
    exact ⟨_, rfl, by simp [htakes, Status.code]⟩
  · rw [if_neg hnull] at hextract
    obtain ⟨out, hhandler⟩ := handler_of_not_takes htakes
    have hrefusal : refusal getter value = .confd .typeMismatch := by
      cases getter with
      | bool => exact if_neg fun hf => hfloat ⟨rfl, value, hvalue, hf⟩
      | _ => rfl
    rw [handleReply_throw hload hextract hhandler, hrefusal]
    exact ⟨_, rfl, by simp [htakes, Status.code]⟩

/-- What a getter owes for a payload: a status, which is an error if the reply says that there is
a value and has none. -/
def Handles (cbor : Libcbor) (replyPayload : Bytes) (exit : Exit) : Prop :=
  (∃ code, exit = .status code) ∧
  ∀ entries, cbor.load replyPayload = some (.map entries) → ClaimsFound entries →
    ¬ HasValue entries → exit ≠ .status 0

lemma handles_of_not_map (h : ∀ entries, cbor.load replyPayload ≠ some (.map entries)) :
    Handles cbor replyPayload (handleReply cbor replyPayload getter).exit := by
  refine ⟨⟨Status.invalidResponse.code, ?_⟩, fun entries hload => absurd hload (h entries)⟩
  rw [handleReply_eq]
  rcases hload : cbor.load replyPayload with _ | root
  · rw [handleReply_none hload]
  · have hextract : Confd.extractValue root = .error (.confd .invalidResponse) := by
      cases root with
      | map entries => exact absurd hload (h entries)
      | _ => rfl
    rw [handleReply_error hload hextract]
    rfl

lemma handles_map_iff (hload : cbor.load replyPayload = some (.map entries)) :
    Handles cbor replyPayload (handleReply cbor replyPayload getter).exit ↔
      ¬ (FloatFlag entries ∨ SaysFound entries ∧ (FloatValue getter entries ∨
        NoValue getter entries)) := by
  have hcrash : (handleReply cbor replyPayload getter).exit = .crash →
      ¬ Handles cbor replyPayload (handleReply cbor replyPayload getter).exit := by
    rintro hcrash ⟨⟨code, hcode⟩, -⟩
    cases hcrash.symm.trans hcode
  -- the loop is stopped, the reply does not say that there is a value, or the getter has it
  by_cases hflag : FloatFlag entries
  · exact iff_of_false (hcrash (exit_of_floatFlag getter hload hflag)) fun h => h (.inl hflag)
  rw [or_iff_right hflag]
  by_cases hsaid : SaysFound entries
  · by_cases hfloat : FloatValue getter entries
    · exact iff_of_false (hcrash (exit_of_floatValue getter hload hsaid hfloat))
        fun h => h ⟨hsaid, .inl hfloat⟩
    rw [or_iff_right hfloat]
    rcases hvalue : (values entries).getLast? with _ | value
    · exact iff_of_false (hcrash (exit_of_none getter hload hsaid hvalue))
        fun h => h ⟨hsaid, by rw [NoValue, hvalue]; trivial⟩
    · obtain ⟨code, hexit, hsuccess⟩ := exit_of_some getter hload hsaid hfloat hvalue
      have hzero : (handleReply cbor replyPayload getter).exit = .status 0 ↔
          takes getter value = true := by
        rw [hexit, Exit.status.injEq, hsuccess]
      rw [NoValue, hvalue]
      constructor
      · rintro ⟨-, hmissing⟩ ⟨-, htakes, hclaims, hnone⟩
        exact hmissing entries hload hclaims hnone (hzero.mpr htakes)
      · intro h
        refine ⟨⟨code, hexit⟩, fun entries' hload' hclaims hnone hsuccess => ?_⟩
        obtain rfl := cbor.load_map_inj hload hload'
        exact h ⟨hsaid, hzero.mp hsuccess, hclaims, hnone⟩
  · obtain ⟨code, hcode, hexit⟩ := exit_of_not_saysFound getter hload hflag hsaid
    refine iff_of_true ⟨⟨code, hexit⟩, fun _ _ _ _ hzero => hcode ?_⟩ fun h => hsaid h.1
    exact Exit.status.inj (hexit.symm.trans hzero)

lemma handles_iff : Handles cbor replyPayload (handleReply cbor replyPayload getter).exit ↔
    ¬ Mishandled cbor getter replyPayload := by
  by_cases hmap : ∃ entries, cbor.load replyPayload = some (.map entries)
  · obtain ⟨entries, hload⟩ := hmap
    rw [handles_map_iff hload]
    refine not_congr ⟨fun h => ⟨entries, hload, h⟩, ?_⟩
    rintro ⟨entries', hload', h⟩
    obtain rfl := cbor.load_map_inj hload hload'
    exact h
  · have hnot : ∀ entries, cbor.load replyPayload ≠ some (.map entries) :=
      fun entries hload => hmap ⟨entries, hload⟩
    refine iff_of_true (handles_of_not_map hnot) ?_
    rintro ⟨entries, hload, -⟩
    exact hnot entries hload

end Handled

/-! ### Whole calls -/

section Calls

variable {σ : Type} {cbor : Libcbor} {sock : Socket σ} {key : CString} {getter : Getter}
  {c : Endpoint σ}

/-- No error of the connection is a crash. -/
abbrev Orderly {α : Type} (x : LibProg σ α) : Prop :=
  Prog.Ensures (fun _ => True) x (fun _ _ => True) fun e _ => e ≠ .crash

lemma orderly_pure {α : Type} (a : α) : Orderly (pure a : LibProg σ α) := fun _ _ => trivial

lemma orderly_get : Orderly (.get : LibProg σ (Endpoint σ)) := fun _ _ => trivial

lemma orderly_modify (f : Endpoint σ → Endpoint σ) : Orderly (.modify f) := fun _ _ => trivial

lemma orderly_throwIf {p : Prop} [Decidable p] {e : LibError} (h : e ≠ .crash) :
    Orderly (.throwIf p e : LibProg σ Unit) :=
  .throwIf (fun _ _ _ => h) fun _ _ _ => trivial

lemma orderly_writeSocket (b : Bytes) : Orderly (writeSocket sock b) := by
  intro c _
  rcases hwrite : sock.write b c.sock with ⟨e | n, w⟩
  · rw [run_writeSocket hwrite]
    exact LibError.noConfusion
  · rw [run_writeSocket hwrite]
    exact trivial

lemma orderly_readSocket (n : ℕ) : Orderly (readSocket sock n) := by
  intro c _
  rcases hread : sock.read n c.sock with ⟨e | b, w⟩
  · rw [run_readSocket hread]
    exact LibError.noConfusion
  · rw [run_readSocket hread]
    exact trivial

lemma orderly_sendPacket (ep : UInt8) (payload : Bytes) : Orderly (sendPacket sock ep payload) := by
  refine orderly_get.bind fun _ => (orderly_modify _).bind fun _ => ?_
  refine Prog.Ensures.bind (Q := fun _ _ => True) ?_ fun _ => orderly_pure _
  exact (orderly_writeSocket _).bind fun _ => orderly_throwIf (by simp)

lemma orderly_receivePacket : Orderly (receivePacket sock) := by
  refine (orderly_modify _).bind fun _ => (orderly_readSocket _).bind fun _ => ?_
  refine (orderly_modify _).bind fun _ => (orderly_throwIf (by simp)).bind fun _ => ?_
  refine orderly_get.bind fun _ => (orderly_throwIf (by simp)).bind fun _ => ?_
  refine (orderly_throwIf (by simp)).bind fun _ => ?_
  refine Prog.Ensures.bind (Q := fun _ _ => True) ?_ fun _ => orderly_get.bind fun _ =>
    orderly_pure _
  refine .when (fun _ => ?_) fun _ _ _ => trivial
  refine (orderly_modify _).bind fun _ => (orderly_readSocket _).bind fun _ => ?_
  exact (orderly_modify _).bind fun _ => orderly_throwIf (by simp)

lemma orderly_sendPacketWithReply (sock : Socket σ) (ep : UInt8) (payload : Bytes) :
    Orderly (sendPacketWithReply sock ep payload) := by
  refine (orderly_sendPacket ep payload).bind fun _ => orderly_receivePacket.bind fun _ => ?_
  refine (orderly_throwIf (by simp)).bind fun _ => (orderly_throwIf (by simp)).bind fun _ => ?_
  exact (orderly_throwIf (by simp)).bind fun _ => orderly_pure _

/-- The payload that the getter is handed, if it comes to that. -/
def payloadOf (cbor : Libcbor) (sock : Socket σ) (key : CString) (getter : Getter)
    (c : Endpoint σ) : Option Bytes :=
  if refuses getter then none
  else ((sendPacketWithReply sock kConfigQuery (serializeKeyRequest cbor key)).run c).1.toOption

/-- The call ends with a status, so that no accessor was applied to what it does not accept, and
handles the payload it is handed. -/
structure Total (cbor : Libcbor) (sock : Socket σ) (key : CString) (getter : Getter)
    (c : Endpoint σ) : Prop where
  status : ∃ code, (get cbor sock key getter c).1.exit = .status code
  payload : ∀ p, payloadOf cbor sock key getter c = some p →
    Handles cbor p (get cbor sock key getter c).1.exit

lemma get_exit (cbor : Libcbor) (sock : Socket σ) (key : CString) (getter : Getter)
    (c : Endpoint σ) :
    (payloadOf cbor sock key getter c = none ∧
      ∃ code, (get cbor sock key getter c).1.exit = .status code) ∨
    ∃ p, payloadOf cbor sock key getter c = some p ∧
      (get cbor sock key getter c).1.exit = (handleReply cbor p getter).exit := by
  by_cases hrefuses : refuses getter = true
  · have hget : (get cbor sock key getter c).1.exit = .status Status.invalidArguments.code := by
      rw [get, if_pos hrefuses]
    exact .inl ⟨if_pos hrefuses, _, hget⟩
  have hget : get cbor sock key getter c = doQuery cbor sock key getter c := if_neg hrefuses
  have hpayload : payloadOf cbor sock key getter c = _ := if_neg hrefuses
  have horderly := orderly_sendPacketWithReply sock kConfigQuery (serializeKeyRequest cbor key) c
    trivial
  rw [hpayload, hget, doQuery]
  rcases hr : (sendPacketWithReply sock kConfigQuery (serializeKeyRequest cbor key)).run c with
    ⟨e | p, c'⟩
  · rw [hr] at horderly
    refine .inl ⟨rfl, ?_⟩
    cases e <;> first | exact ⟨_, rfl⟩ | exact absurd rfl horderly
  · exact .inr ⟨p, rfl, rfl⟩

/-- A getter ends with a status, and with an error where there is no value, unless it is handed a
reply that says there is a value and has none, or has a float where a bool is looked for. -/
theorem get_total_iff (cbor : Libcbor) (sock : Socket σ) (key : CString) (getter : Getter)
    (c : Endpoint σ) : Total cbor sock key getter c ↔
      ∀ p, payloadOf cbor sock key getter c = some p → ¬ Mishandled cbor getter p := by
  rcases get_exit cbor sock key getter c with ⟨hnone, hstatus⟩ | ⟨p, hpayload, hexit⟩
  · refine ⟨fun _ p hp => ?_, fun _ => ⟨hstatus, fun p hp => ?_⟩⟩
    · cases hnone.symm.trans hp
    · cases hnone.symm.trans hp
  · constructor
    · intro h p' hp
      obtain rfl : p = p' := Option.some.inj (hpayload.symm.trans hp)
      exact handles_iff.mp (hexit ▸ h.payload p hpayload)
    · intro h
      have hhandles := handles_iff.mpr (h p hpayload)
      refine ⟨hexit ▸ hhandles.1, fun p' hp => ?_⟩
      obtain rfl : p = p' := Option.some.inj (hpayload.symm.trans hp)
      exact hexit ▸ hhandles

/-- The reply that says there is a value and has none. -/
def foundOnly : Bytes := codec.serialize (.map [(.string (ascii "found"), ctrlTrue)])

/-- An integer is asked for, and the check for `null` is made on no item. -/
theorem found_without_value_crashes : ¬ ∀ (cbor : Libcbor) (key : CString) (getter : Getter)
    (c : Endpoint Tape), Total cbor tapeSocket key getter c := by
  intro h
  let a : Answer := ⟨1, 0, foundOnly, by decide⟩
  let c := a.endpoint .open kConfigQuery (serializeKeyRequest codec sampleKey)
  have hload : codec.load foundOnly = some (.map [(.string (ascii "found"), ctrlTrue)]) := rfl
  obtain ⟨c', hr⟩ := run_sendPacketWithReply_answer a .open kConfigQuery
    (serializeKeyRequest codec sampleKey)
  have hanswer : a.handedOut .open = foundOnly := rfl
  have hcrash : (get codec tapeSocket sampleKey .int c).1.exit = .crash := by
    rw [get, if_neg (by decide), doQuery, hr, hanswer]
    exact exit_of_none .int hload ⟨by decide, by decide, rfl⟩ rfl
  obtain ⟨code, hcode⟩ := (h codec sampleKey .int c).status
  rw [hcrash] at hcode
  cases hcode

end Calls

end Sativa.Confd.Checked
