import Sativa.LinkCalls

/-!
What the map of a reply says.

`sendKeyValue` reserves the entries of the map by one formula and adds them by another, and texts go
through C strings. The map is complete and true unless a text has a NUL in it or is no UTF-8, or
there is no value in an update.
-/

namespace Sativa.RpcServer

open Sativa Sativa.Cbor Sativa.Store Sativa.Confd

/-- The calls of `sendKeyValue`: for a query, which may ask for a `float`, and for an update. -/
inductive ReplyCaller
  | query (forceFloat : Bool)
  | update
  deriving DecidableEq

def ReplyCaller.flags : ReplyCaller → Flags
  | query forceFloat => ⟨forceFloat, false, false⟩
  | update => ⟨false, true, true⟩

/-- The name of the flag in the reply. -/
def ReplyCaller.status : ReplyCaller → String
  | query _ => "found"
  | update => "updated"

/-- A value in memory: a text or a blob has a size. -/
structure HeldValue where
  value : PropertyValue
  sized : ∀ b, value = .string b ∨ value = .blob b → b.length < 2 ^ 64

/-- The item decodes to the value, a double at the precision that is asked for. -/
def Decodes (single : Bool) : PropertyValue → Item → Prop
  | .null, item => item = ctrlNull
  | .string s, item => item = .string s
  | .blob b, item => item = .bytestring b
  | .uint64 n, item => item = .uint .int64 n
  | .double d, item => Item.Same (if single then .float4 (Ieee.toSingle d) else .float8 d) item
  | .bool b, item => item.bool? = some b
  | .monostate, _ => False

/-- The entries other than the key and the flag: the value, if there is one and it is asked for. -/
def ValueEntries (caller : ReplyCaller) (value : PropertyValue) (rest : List (Item × Item)) :
    Prop :=
  if caller = .update ∨ value = .monostate then rest = []
  else ∃ item, rest = [(.string (ascii "value"), item)] ∧
    Decodes caller.flags.singlePrecisionFloat value item

/-- The map has the key, whether there is a value, and the value, and nothing else. -/
def CompleteMap (caller : ReplyCaller) (key : Bytes) (value : PropertyValue)
    (pairs : List (Item × Item)) : Prop :=
  ∃ rest, pairs.Perm ((.string (ascii "key"), .string key) ::
      (.string (ascii caller.status), buildBool !value.isMonostate) :: rest) ∧
    ValueEntries caller value rest

/-- The bytes of the reply decode to such a map. -/
def CompleteReply (cbor : Libcbor) (caller : ReplyCaller) (key : Bytes) (value : PropertyValue) :
    Prop :=
  ∃ pairs, cbor.load (cbor.serialize (.map (replyPairs key value caller.flags))) =
      some (.map pairs) ∧ CompleteMap caller key value pairs

section Maps

variable {caller : ReplyCaller} {key : Bytes} {value : PropertyValue} {single : Bool}
  {item item' : Item} {pairs : List (Item × Item)}

lemma valueItem_isSome (flags : Flags) (hv : value ≠ .monostate) :
    ∃ item, valueItem flags value = some item := by
  cases value with
  | monostate => exact absurd rfl hv
  | _ => exact ⟨_, rfl⟩

lemma decodes_iff (h : valueItem ⟨single, false, false⟩ value = some item)
    (hs : Item.Same item item') :
    Decodes single value item' ↔ ∀ s, value = .string s → 0 ∉ s := by
  cases value with
  | monostate => cases h
  | string s =>
    cases h
    rw [← hs.eq rfl]
    simp [Decodes, cstr_eq_self]
  | double d =>
    cases h
    exact iff_of_true hs fun s hv => by cases hv
  | bool b =>
    cases h
    refine iff_of_true (hs.bool?_eq.symm.trans ?_) fun s hv => by cases hv
    cases b <;> rfl
  | _ =>
    cases h
    exact iff_of_true (hs.eq rfl).symm fun s hv => by cases hv

lemma scalar_valueItem (value : HeldValue) {flags : Flags}
    (h : valueItem flags value.value = some item) : item.Scalar := by
  obtain ⟨value, hsized⟩ := value
  cases value with
  | monostate => cases h
  | null =>
    cases h
    exact .inr (.inr rfl)
  | string s =>
    cases h
    exact (length_cstr_le s).trans_lt (hsized s (.inl rfl))
  | blob b =>
    cases h
    exact hsized b (.inr rfl)
  | uint64 n =>
    cases h
    trivial
  | double d =>
    simp only [valueItem] at h
    split_ifs at h <;> cases h <;> trivial
  | bool b =>
    cases h
    exact scalar_buildBool b

lemma readable_valueItem (h : valueItem ⟨single, false, false⟩ value = some item)
    (hs : ∀ s, value = .string s → 0 ∉ s) :
    item.Readable ↔ ∀ s, value = .string s → Utf8.Valid s := by
  cases value with
  | monostate => cases h
  | string s =>
    cases h
    have hcut : cstr s = s := cstr_of_not_mem (hs s rfl)
    rw [hcut]
    exact ⟨fun h _ he => by cases he; exact h, fun h => h s rfl⟩
  | double d =>
    refine iff_of_true ?_ fun s he => by cases he
    cases single <;> cases h <;> trivial
  | bool b =>
    refine iff_of_true ?_ fun s he => by cases he
    cases h
    cases b <;> trivial
  | _ =>
    cases h
    exact iff_of_true trivial fun s he => by cases he

/-- What has to be UTF-8 for the reply to be decoded, if no text is cut. -/
lemma readable_replyPairs (h0 : 0 ∉ key)
    (hs : caller ≠ .update → ∀ s, value = .string s → 0 ∉ s) :
    Readable (replyPairs key value caller.flags) ↔
      Utf8.Valid key ∧ (caller ≠ .update → ∀ s, value = .string s → Utf8.Valid s) := by
  have hkey : Utf8.Valid (ascii "key") := by decide
  have hvalue : Utf8.Valid (ascii "value") := by decide
  have hcut : cstr key = key := cstr_of_not_mem h0
  have hentry : ∀ l, Readable ((.string (ascii "key"), .string (cstr key)) :: l) ↔
      Utf8.Valid key ∧ Readable l := fun l => by
    rw [Readable.cons_iff, hcut]
    exact and_congr_left fun _ => and_iff_right hkey
  by_cases hv : value = .monostate
  · subst hv
    cases caller with
    | query single =>
      have hflag : Readable [(.string (ascii "found"), ctrlFalse)] := by decide
      rw [ReplyCaller.flags, replyPairs_query_absent, hentry]
      simp [hflag]
    | update =>
      have hnil : Readable [] := by decide
      rw [ReplyCaller.flags, replyPairs_not_updated, hentry]
      simp [hnil]
  · cases caller with
    | query single =>
      obtain ⟨item, hitem⟩ := valueItem_isSome ⟨single, false, false⟩ hv
      have hflag : Readable [(.string (ascii "found"), ctrlTrue)] := by decide
      -- the value is the only entry that may be a text of its own
      have hread := readable_valueItem hitem (hs (by simp))
      rw [ReplyCaller.flags, replyPairs_query hitem, hentry, Readable.cons_iff]
      exact and_congr_right fun _ => ⟨fun h _ => hread.mp h.1.2,
        fun h => ⟨⟨hvalue, hread.mpr (h (by simp))⟩, hflag⟩⟩
    | update =>
      have hflag : Readable [(.string (ascii "updated"), ctrlTrue)] := by decide
      rw [ReplyCaller.flags, replyPairs_updated hv, hentry]
      simp [hflag]

/-! ### What is decoded -/

lemma CompleteMap.key_mem (h : CompleteMap caller key value pairs) :
    (Item.string (ascii "key"), Item.string key) ∈ pairs := by
  obtain ⟨rest, hperm, -⟩ := h
  exact hperm.mem_iff.mpr (by simp)

lemma completeMap_pair_iff (hno : caller = .update ∨ value = .monostate) :
    CompleteMap caller key value [(.string (ascii "key"), .string (cstr key)),
      (.string (ascii caller.status), buildBool !value.isMonostate)] ↔ 0 ∉ key := by
  rw [← cstr_eq_self]
  constructor
  · intro h
    have hmem := h.key_mem
    have hne : ascii "key" ≠ ascii caller.status := by
      cases caller
      · exact show ascii "key" ≠ ascii "found" by decide
      · exact show ascii "key" ≠ ascii "updated" by decide
    simp only [List.mem_cons, Prod.mk.injEq, Item.string.injEq, hne, false_and,
      List.not_mem_nil, or_false, true_and] at hmem
    exact hmem.symm
  · intro h
    rw [h]
    exact ⟨[], List.Perm.refl _, by rw [ValueEntries, if_pos hno]⟩

lemma completeMap_triple_iff (hv : value ≠ .monostate)
    (hitem : valueItem ⟨single, false, false⟩ value = some item) (hs : Item.Same item item') :
    CompleteMap (.query single) key value [(.string (ascii "key"), .string (cstr key)),
      (.string (ascii "value"), item'), (.string (ascii "found"), ctrlTrue)] ↔
        0 ∉ key ∧ ∀ s, value = .string s → 0 ∉ s := by
  have hm := PropertyValue.isMonostate_eq_false hv
  rw [← cstr_eq_self, ← decodes_iff hitem hs]
  have hout : ¬ (ReplyCaller.query single = .update ∨ value = .monostate) := by simp [hv]
  constructor
  · intro h
    -- the entries have different names, so each is found under its own
    have hkey := h.key_mem
    simp only [List.mem_cons, Prod.mk.injEq, Item.string.injEq, true_and,
      show ascii "key" ≠ ascii "value" by decide, show ascii "key" ≠ ascii "found" by decide,
      false_and, List.not_mem_nil, or_false] at hkey
    obtain ⟨rest, hperm, hrest⟩ := h
    rw [ValueEntries, if_neg hout] at hrest
    obtain ⟨item₁, rfl, hdecodes⟩ := hrest
    have hvalue : (Item.string (ascii "value"), item₁) ∈
        [(Item.string (ascii "key"), Item.string (cstr key)), (.string (ascii "value"), item'),
          (.string (ascii "found"), ctrlTrue)] := hperm.mem_iff.mpr (by simp)
    simp only [List.mem_cons, Prod.mk.injEq, Item.string.injEq, true_and,
      show ascii "value" ≠ ascii "key" by decide, show ascii "value" ≠ ascii "found" by decide,
      false_and, List.not_mem_nil, or_false, false_or] at hvalue
    exact ⟨hkey.symm, hvalue ▸ hdecodes⟩
  · rintro ⟨hkey, hdecodes⟩
    rw [hkey]
    refine ⟨[(.string (ascii "value"), item')], ?_, ?_⟩
    · rw [hm]
      exact List.Perm.cons _ (List.Perm.swap ..)
    · rw [ValueEntries, if_neg hout]
      exact ⟨item', rfl, hdecodes⟩

lemma completeReply_of_same {cbor : Libcbor} {l : List (Item × Item)}
    (hload : cbor.load (cbor.serialize (.map (replyPairs key value caller.flags))) =
      some (.map l)) :
    CompleteReply cbor caller key value ↔ CompleteMap caller key value l := by
  constructor
  · rintro ⟨l', hl', h⟩
    obtain rfl := cbor.load_map_inj hload hl'
    exact h
  · exact fun h => ⟨l, hload, h⟩

lemma samePairs_query {item : Item} {l : List (Item × Item)}
    (h : SamePairs [(.string (ascii "key"), .string (cstr key)), (.string (ascii "value"), item),
      (.string (ascii "found"), ctrlTrue)] l) :
    ∃ item', Item.Same item item' ∧ l = [(.string (ascii "key"), .string (cstr key)),
      (.string (ascii "value"), item'), (.string (ascii "found"), ctrlTrue)] := by
  cases h with
  | @cons _ p _ _ hp h =>
    cases h with
    | @cons _ q _ _ hq hrest =>
      have hkey : p = (.string (ascii "key"), .string (cstr key)) :=
        Prod.ext hp.1.symm (hp.2.eq rfl).symm
      have hvalue : q = (.string (ascii "value"), q.2) := Prod.ext hq.1.symm rfl
      exact ⟨q.2, hq.2, by rw [SamePairs.eq hrest (by simp [Item.isNaN]), hkey, ← hvalue]⟩

/-- What is decoded is complete and true if no text is cut, and there is a value in an update. -/
lemma completeMap_iff {l : List (Item × Item)}
    (hsame : SamePairs (replyPairs key value caller.flags) l) :
    CompleteMap caller key value l ↔ 0 ∉ key ∧ (caller = .update → value ≠ .monostate) ∧
      (caller ≠ .update → ∀ s, value = .string s → 0 ∉ s) := by
  by_cases hv : value = .monostate
  · subst hv
    cases caller with
    | query single =>
      rw [ReplyCaller.flags, replyPairs_query_absent] at hsame
      rw [hsame.eq (by simp [Item.isNaN])]
      exact (completeMap_pair_iff (.inr rfl)).trans (by simp)
    | update =>
      rw [ReplyCaller.flags, replyPairs_not_updated] at hsame
      rw [hsame.eq (by simp [Item.isNaN])]
      -- the map has one entry, and should have two
      refine iff_of_false ?_ fun h => h.2.1 rfl rfl
      rintro ⟨rest, hperm, -⟩
      have hlength := hperm.length_eq
      simp only [List.length_cons, List.length_nil] at hlength
      omega
  · have hm := PropertyValue.isMonostate_eq_false hv
    cases caller with
    | query single =>
      obtain ⟨item, hitem⟩ := valueItem_isSome ⟨single, false, false⟩ hv
      rw [ReplyCaller.flags, replyPairs_query hitem] at hsame
      obtain ⟨item', hs, rfl⟩ := samePairs_query hsame
      exact (completeMap_triple_iff hv hitem hs).trans (by simp)
    | update =>
      rw [ReplyCaller.flags, replyPairs_updated hv] at hsame
      rw [hsame.eq (by simp [Item.isNaN])]
      have hpair : CompleteMap .update key value _ ↔ 0 ∉ key := completeMap_pair_iff (.inl rfl)
      rw [hm] at hpair
      exact hpair.trans (by simp [hv])

/-- **Replies**: the map is complete and true if the name is UTF-8 and has no NUL in it, and so is a
text that is sent, and there is a value in an update. -/
theorem completeReply_iff (cbor : Libcbor) (caller : ReplyCaller) (key : Region)
    (value : HeldValue) :
    CompleteReply cbor caller key.bytes value.value ↔
      (0 ∉ key.bytes ∧ Utf8.Valid key.bytes) ∧ (caller = .update → value.value ≠ .monostate) ∧
        (caller ≠ .update → ∀ s, value.value = .string s → 0 ∉ s ∧ Utf8.Valid s) := by
  have hsimple : Simple (replyPairs key.bytes value.value caller.flags) :=
    simple_replyPairs key.sized fun i hi => scalar_valueItem value hi
  constructor
  · intro h
    obtain ⟨l, hload, -⟩ := id h
    have hreadable := cbor.readable_of_load hsimple hload
    obtain ⟨l', hload', hsame⟩ := cbor.load_serialize hsimple hreadable
    obtain ⟨h0, hset, htext⟩ :=
      (completeMap_iff hsame).mp ((completeReply_of_same hload').mp h)
    obtain ⟨h8, htext8⟩ := (readable_replyPairs h0 htext).mp hreadable
    exact ⟨⟨h0, h8⟩, hset, fun hc s hs => ⟨htext hc s hs, htext8 hc s hs⟩⟩
  · rintro ⟨⟨h0, h8⟩, hset, htext⟩
    have hreadable := (@readable_replyPairs caller _ _ h0
      fun hc s hs => (htext hc s hs).1).mpr ⟨h8, fun hc s hs => (htext hc s hs).2⟩
    obtain ⟨l, hload, hsame⟩ := cbor.load_serialize hsimple hreadable
    exact (completeReply_of_same hload).mpr
      ((completeMap_iff hsame).mpr ⟨h0, hset, fun hc s hs => (htext hc s hs).1⟩)

/-- The reply to an update of `a` without a value does not have the entry `updated`. -/
theorem not_updated_missing : ¬ ∀ (cbor : Libcbor) (caller : ReplyCaller) (key : Region)
    (value : HeldValue), CompleteReply cbor caller key.bytes value.value := by
  intro h
  have hreply := h codec .update ⟨ascii "a", by decide⟩ ⟨.monostate, by simp⟩
  have hload : codec.load (codec.serialize (.map (replyPairs (ascii "a") .monostate
      ReplyCaller.update.flags))) = some (.map [(.string (ascii "key"), .string (ascii "a"))]) :=
    rfl
  obtain ⟨rest, hperm, -⟩ := (completeReply_of_same hload).mp hreply
  have hlength := hperm.length_eq
  simp only [List.length_cons, List.length_nil] at hlength
  omega

end Maps

end Sativa.RpcServer
