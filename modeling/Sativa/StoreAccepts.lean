import Sativa.StoreTypes
import Sativa.RowIds

/-!
When `setKey` returns.

As long as nothing fails, a new key accepts any value, and a key that is there null or a value of
its type. Whatever is accepted is set, unless its row is longer than what SQLite can hold.
-/

namespace Sativa.Store

open Sativa

/-- SQLite can hold the value in a row for the id. -/
def PropertyValue.Storable (propertyId : ℕ) : PropertyValue → Prop
  | .string s => recordSize propertyId s.length ≤ sqliteMaxLength
  | .blob b => recordSize propertyId b.length ≤ sqliteMaxLength
  | _ => True

/-- A name as short as that of any request. -/
abbrev ShortName := {name : Bytes // name.length < 2 ^ 16}

/-- The name can be given the value: as a new key, or as one that has null or a value of the type
already. -/
def Db.Accepts (db : Db) (name : Bytes) (value : PropertyValue) : Prop :=
  match db.keyRow (cstr name) with
  | none => name ≠ [] ∧ value ≠ .monostate
  | some r => value = .null ∨ r.valueType = (typeForValue value).code

section Accepts

variable {db db' : Db} {now keyId : ℕ} {name : Bytes} {value : PropertyValue} {r : KeyRow}
  {sign : Bool}

lemma sqlBytes_eq_ok {b : Bytes} (h : b.length ≤ sqliteMaxLength) : sqlBytes b = .ok ⟨b, h⟩ :=
  dif_pos h

lemma sqlBytes_val {b : Bytes} {c : SqlBytes} (h : sqlBytes b = .ok c) : c.val = b := by
  unfold sqlBytes at h
  split at h
  · cases h
    rfl
  · cases h

lemma length_le_of_recordSize {propertyId n : ℕ} (h : recordSize propertyId n ≤ sqliteMaxLength) :
    n ≤ sqliteMaxLength := by
  unfold recordSize at h
  omega

lemma recordSize_small {propertyId n : ℕ} (h : n ≤ 8) :
    recordSize propertyId n ≤ sqliteMaxLength := by
  have hint := Db.intSize_le propertyId
  have hvarint := Db.varintSize_le (2 * n + 13)
  have hmax : sqliteMaxLength = 1000000000 := rfl
  unfold recordSize
  omega

lemma storable_kept {env : SqlEnv} :
    (env.kept value).Storable keyId ↔ value.Storable keyId := by
  cases value <;> rfl

lemma bindValue_of_storable {t : ValueTable} (h : value.Storable keyId)
    (ht : valueTableName (typeForValue value).code = some t) :
    ∃ column, bindValue t value = .ok column ∧ RowFits t keyId column := by
  cases value with
  | monostate => cases ht
  | null => cases ht
  | string s =>
    cases ht
    exact ⟨_, sqlBytes_eq_ok (length_le_of_recordSize h), h⟩
  | blob b =>
    cases ht
    by_cases hb : b = []
    · exact ⟨none, if_pos hb, recordSize_small (Nat.zero_le _)⟩
    · have hlen := length_le_of_recordSize h
      exact ⟨some ⟨b, hlen⟩, by simp only [bindValue, if_neg hb, sqlBytes_eq_ok hlen]; rfl, h⟩
  | uint64 n =>
    cases ht
    exact ⟨_, rfl, recordSize_small (le_refl 8)⟩
  | double d =>
    cases ht
    exact ⟨_, rfl, recordSize_small (le_refl 8)⟩
  | bool b =>
    cases ht
    exact ⟨_, rfl, recordSize_small (le_refl 8)⟩

lemma storable_of_bindValue {t : ValueTable} {column : t.Column}
    (h : bindValue t value = .ok column) (hfits : RowFits t keyId column) :
    value.Storable keyId := by
  cases value with
  | string s =>
    cases t <;> first | cases h | skip
    have hval : column.val = s := sqlBytes_val h
    exact hval ▸ hfits
  | blob b =>
    cases t <;> first | cases h | skip
    by_cases hb : b = []
    · subst hb
      exact recordSize_small (Nat.zero_le _)
    · simp only [bindValue, if_neg hb] at h
      obtain ⟨c, hc, rfl⟩ := except_map_ok.mp h
      exact sqlBytes_val hc ▸ hfits
  | _ => trivial

lemma updateKey_to_null {t : ValueTable} {old : ℕ} (hkey : ∃ r ∈ db.keys.rows, r.id = keyId)
    (ht : valueTableName old = some t) :
    ∃ db', (updateKey (.faultless now sign) keyId old .null).run db = (.ok (), db') := by
  have hold : old ≠ (typeForValue .null).code := by
    rintro rfl
    cases ht
  -- the UPDATE changes one row at least, so that the check of its count passes
  have hcount : (db.keys.rows.countP fun r => r.id == keyId) ≠ 0 := by
    simpa [List.countP_eq_zero] using hkey
  set d := db.modifyKey keyId (fun r => { r with valueType := (typeForValue .null).code })
    (fun _ => rfl) fun _ => rfl with hd
  obtain ⟨d', n, hdelete⟩ : ∃ d' n, d.deleteValueRows t keyId = some (d', n) := ⟨_, _, rfl⟩
  have hrow : ∃ r ∈ d'.keys.rows, r.id = keyId := by
    obtain ⟨r, hr, hid⟩ := hkey
    rw [(Db.keys_deleteValueRows hdelete).1]
    refine ⟨_, List.mem_map_of_mem hr, ?_⟩
    split_ifs <;> exact hid
  have htype : (exec (.faultless now sign) .updateKeyType fun db =>
      db.updateValueType keyId (typeForValue .null).code).run db =
        (.ok (db.keys.rows.countP fun r => r.id == keyId), d) := exec_of_some rfl
  -- the type changes: the key row is retyped and the old value deleted; null has no new one
  have hchange : (Prog.when (old ≠ (typeForValue .null).code) (do
      let n ← exec (.faultless now sign) .updateKeyType fun db =>
        db.updateValueType keyId (typeForValue .null).code
      .throwIf (n = 0) .updateKeyType
      let table ← tableFor old
      let _ ← exec (.faultless now sign) .deleteOldValue fun db =>
        db.deleteValueRows table keyId)).run db = (.ok (), d') := by
    refine Prog.when_ok.mpr (.inl ⟨hold, ?_⟩)
    rw [Prog.run_bind_of_ok htype, Prog.throwIf_neg hcount, pure_bind,
      Prog.run_bind_of_ok (tableFor_run ht), Prog.run_bind_of_ok (exec_of_some hdelete)]
    rfl
  refine ⟨d'.modifyKey keyId (fun r => { r with updatedAt := now }) (fun _ => rfl) fun _ => rfl,
    transaction_of_ok ?_⟩
  rw [Prog.run_bind_of_ok hchange,
    Prog.run_bind_of_ok (a := ()) (Prog.when_ok.mpr (.inr ⟨by simp [typeForValue], rfl⟩)),
    updateKeyTimestamp_run, if_pos hrow]

lemma insertKey_returns (hname : name ≠ []) (hvalue : value ≠ .monostate)
    (hs : value.Storable (db.seq + 1)) (hseq : db.seq < 2 ^ 63 - 1)
    (hnew : db.keyRow (cstr name) = none) :
    ∃ db', (insertKey (.faultless now sign) name value).run db = (.ok (), db') := by
  by_cases htype : typeForValue value = .null
  · obtain rfl : value = .null := by
      cases value <;> first | rfl | exact absurd rfl hvalue | cases htype
    obtain ⟨d, hins⟩ := @Db.insertKeyRow_of_none _ now _ PropertyValueType.null.code hnew hseq
    exact ⟨d, insertKey_null hname hins⟩
  · obtain ⟨t, ht⟩ := exists_valueTableName htype
    obtain ⟨column, hbind, hfits⟩ :=
      bindValue_of_storable ((@storable_kept _ _ (.faultless now sign)).mpr hs)
        (by rwa [typeForValue_kept])
    exact insertKey_of_bind now hname hseq hnew ht hbind hfits

lemma updateKey_returns {old : PropertyValue} (hkey : ∃ r ∈ db.keys.rows, r.id = keyId)
    (h : value = .null ∨ typeForValue old = typeForValue value) (hs : value.Storable keyId) :
    ∃ db', (updateKey (.faultless now sign) keyId (typeForValue old).code value).run db =
      (.ok (), db') := by
  by_cases htype : typeForValue old = typeForValue value
  · rw [htype]
    by_cases hnull : typeForValue value = .null
    · -- the type stays null, and only the timestamp is set
      refine ⟨db.modifyKey keyId (fun r => { r with updatedAt := now }) (fun _ => rfl) fun _ => rfl,
        transaction_of_ok ?_⟩
      rw [Prog.run_bind_of_ok (a := ()) (Prog.when_ok.mpr (.inr ⟨by simp, rfl⟩)),
        Prog.run_bind_of_ok (a := ()) (Prog.when_ok.mpr (.inr ⟨by simp [hnull], rfl⟩)),
        updateKeyTimestamp_run, if_pos hkey]
    · obtain ⟨t, ht⟩ := exists_valueTableName hnull
      obtain ⟨column, hbind, hfits⟩ :=
        bindValue_of_storable ((@storable_kept _ _ (.faultless now sign)).mpr hs)
        (by rwa [typeForValue_kept])
      exact updateKey_of_bind now hkey ht hbind hfits
  · obtain rfl : value = .null := h.resolve_right htype
    obtain ⟨t, ht⟩ := exists_valueTableName htype
    exact updateKey_to_null hkey ht

lemma updateKey_storable {old : ℕ} {env : SqlEnv}
    (h : (updateKey env keyId old value).run db = (.ok (), db')) : value.Storable keyId := by
  obtain ⟨d₁, d₂, -, ⟨hnull, -⟩ | ⟨t, column, -, hbind, hput⟩, -⟩ := updateKey_steps h
  · cases value <;> trivial
  · exact storable_kept.mp (storable_of_bindValue hbind hput.fits)

lemma insertKey_accepts {env : SqlEnv} (h : (insertKey env name value).run db = (.ok (), db')) :
    name ≠ [] ∧ value ≠ .monostate ∧ value.Storable (db.seq + 1) := by
  obtain ⟨hname, hvalue, d, k, hins, ⟨hnull, -⟩ | ⟨t, column, -, hbind, hput⟩⟩ := insertKey_steps h
  · refine ⟨hname, hvalue, ?_⟩
    cases value <;> trivial
  · obtain ⟨-, -, hseq, -⟩ := Db.insertKeyRow_some hins
    exact ⟨hname, hvalue, hseq ▸ storable_kept.mp (storable_of_bindValue hbind hput.fits)⟩

/-- The same for a `setKey`, in a store where every key holds a value. -/
lemma setKey_returns (hc : db.Coherent) (hseq : db.seq < 2 ^ 32) :
    (∃ db', (setKey (.faultless now sign) name value).run db = (.ok (), db')) ↔
      db.Accepts name value ∧ value.Storable (db.rowId (cstr name)) := by
  unfold Db.Accepts Db.rowId
  rcases hr : db.keyRow (cstr name) with _ | r
  · have hrun : (setKey (.faultless now sign) name value).run db =
        (insertKey (.faultless now sign) name value).run db := by
      rw [setKey_run, hr]
    constructor
    · rintro ⟨db', h⟩
      obtain ⟨hname, hvalue, hs⟩ := insertKey_accepts (hrun ▸ h)
      exact ⟨⟨hname, hvalue⟩, hs⟩
    · rintro ⟨⟨hname, hvalue⟩, hs⟩
      rw [hrun]
      exact insertKey_returns hname hvalue hs (by omega) hr
  · obtain ⟨old, hold⟩ := hc.holds hr
    -- below 2^32 the ids and codes that setKey hands on are those it read
    have hid : uint32 r.id = r.id := uint32_of_lt ((Db.id_le_seq hr).trans_lt hseq)
    have hcode : uint32 r.valueType = (typeForValue old).code := by rw [hold.type, uint32_code]
    have hsame : r.valueType = (typeForValue value).code ↔
        typeForValue old = typeForValue value := by
      rw [hold.type]
      exact ⟨code_inj, congrArg _⟩
    dsimp only
    rw [setKey_run, hr, hsame]
    simp only [hid, hcode]
    have hupdate : (∃ db', (updateKey (.faultless now sign) r.id (typeForValue old).code
        value).run db = (.ok (), db')) → value.Storable r.id := fun ⟨_, h⟩ => updateKey_storable h
    have hreturns : value = .null ∨ typeForValue old = typeForValue value →
        value.Storable r.id → _ :=
      @updateKey_returns db now r.id value sign old ⟨r, (Db.keyRow_mem hr).1, rfl⟩
    split_ifs with hnull hv htype
    · -- a null key: the update gets stuck unless the type stays null
      refine ⟨fun h => ⟨.inr ?_, hupdate h⟩, fun ⟨h, hs⟩ => hreturns h hs⟩
      obtain ⟨db', h⟩ := h
      rw [hnull] at h
      by_contra hne
      exact updateKey_of_null (fun hv => hne ((code_inj hnull).trans hv.symm)) h
    · have hvalue : value = .null := by cases value <;> first | rfl | cases hv
      exact ⟨fun h => ⟨.inl hvalue, hupdate h⟩, fun ⟨h, hs⟩ => hreturns h hs⟩
    · exact ⟨fun h => ⟨.inr (code_inj htype), hupdate h⟩, fun ⟨h, hs⟩ => hreturns h hs⟩
    · refine ⟨fun ⟨_, h⟩ => (by cases h), ?_⟩
      rintro ⟨rfl | hty, -⟩
      · exact absurd rfl hv
      · exact absurd (congrArg _ hty) htype

end Accepts

/-- **Acceptance**: as long as nothing fails, a `setKey` returns exactly if the key is new, with a
name and a value, or is set to null or to a value of its type, and SQLite can hold the row of the
value. -/
theorem setKey_returns_iff {db : Db} (now : ℕ) (name : ShortName) (value : PropertyValue)
    (hr : machine.Reachable db) (hseq : db.seq < 2 ^ 32) :
    (∃ db', (setKey (.ok now) name value).run db = (.ok (), db')) ↔
      db.Accepts name value ∧ value.Storable (db.rowId (cstr name)) :=
  setKey_returns (reachable_coherent hr hseq) hseq

/-- A text is refused where a number is. -/
theorem setKey_returns_iff_sample : let db := (machine.exec sampleCalls).2
    (¬ ∃ db', (setKey (.ok 9) (ascii "net.up") (.string (ascii "yes"))).run db = (.ok (), db')) ∧
      ∃ db', (setKey (.ok 9) (ascii "net.up") (.uint64 0)).run db = (.ok (), db') := by
  have hr : machine.Reachable (machine.exec sampleCalls).2 := ⟨_, machine.run_exec sampleCalls⟩
  refine ⟨fun h => ?_, ?_⟩
  · obtain ⟨haccepts, -⟩ :=
      (setKey_returns_iff 9 ⟨ascii "net.up", by decide⟩ _ hr (by decide)).mp h
    rcases haccepts with h | h <;> cases h
  · exact (setKey_returns_iff 9 ⟨ascii "net.up", by decide⟩ _ hr (by decide)).mpr
      ⟨.inr rfl, trivial⟩

end Sativa.Store
