import Sativa.StoreSpec

/-!
What a deletion of keys commutes with.

If a statement of a call succeeds right after keys were deleted, it would have succeeded right
before that as well, and the same keys would have been deleted. A statement that depends on a
key row fails when the row is gone.
-/

namespace Sativa.Store.Db

variable {db db' X X' : Db} {q : Bytes → Bool} {n k : ℕ}

lemma ext_rows (hkeys : db.keys.rows = db'.keys.rows) (hseq : db.seq = db'.seq)
    (hvalues : ∀ t, (db.values t).rows = (db'.values t).rows) : db = db' := by
  obtain ⟨keys, seq, values, _, _, _⟩ := db
  obtain ⟨keys', seq', values', _, _, _⟩ := db'
  obtain rfl : keys = keys' := Table.ext hkeys
  obtain rfl : values = values' := funext fun t => Table.ext (hvalues t)
  cases hseq
  rfl

/-- Rows with this id belong to keys that are deleted. -/
def gone (db : Db) (q : Bytes → Bool) (id : ℕ) : Bool :=
  db.keys.rows.any fun r => q r.key && r.id == id

/-- The keys with names in `q` are deleted, which are `n`. -/
def Deleted (q : Bytes → Bool) (db X : Db) (n : ℕ) : Prop :=
  db.deleteKeyRows (fun r => q r.key) = some (X, n)

lemma deleted_iff : Deleted q db X n ↔ X.keys.rows = (db.keys.rows.filter fun r => !q r.key) ∧
    X.seq = db.seq ∧ (∀ t, (X.values t).rows =
      (db.values t).rows.filter fun v => !db.gone q v.propertyId) ∧
    n = db.keys.rows.countP fun r => q r.key := by
  constructor
  · rintro h
    cases h
    exact ⟨rfl, rfl, fun _ => rfl, rfl⟩
  · rintro ⟨hkeys, hseq, hvalues, rfl⟩
    refine congrArg some (Prod.ext ?_ rfl)
    exact ext_rows hkeys.symm hseq.symm fun t => (hvalues t).symm

lemma Deleted.kept {id : ℕ} (h : Deleted q db X n) (hx : ∃ r ∈ X.keys.rows, r.id = id) :
    (∃ r ∈ db.keys.rows, r.id = id) ∧ db.gone q id = false := by
  obtain ⟨hkeys, -⟩ := deleted_iff.mp h
  obtain ⟨r, hr, rfl⟩ := hx
  rw [hkeys, List.mem_filter] at hr
  obtain ⟨hr, hkept⟩ := hr
  refine ⟨⟨r, hr, rfl⟩, List.any_eq_false.mpr fun r' hr' hgone => ?_⟩
  simp only [Bool.and_eq_true, beq_iff_eq] at hgone
  rw [db.eq_of_id hr' hr hgone.2] at hgone
  simp [hgone.1] at hkept

lemma Deleted.unique {X₁ X₂ : Db} {n₁ n₂ : ℕ} (h₁ : Deleted q db X₁ n₁) (h₂ : Deleted q db X₂ n₂) :
    X₁ = X₂ ∧ n₁ = n₂ := by
  obtain ⟨rfl, rfl⟩ := Prod.mk.inj (Option.some.inj (h₁.symm.trans h₂))
  exact ⟨rfl, rfl⟩

lemma Deleted.of_none (h : Deleted q db X n) (hq : (db.keys.rows.any fun r => q r.key) = false) :
    X = db ∧ n = 0 := by
  obtain ⟨hkeys, hseq, hvalues, hn⟩ := deleted_iff.mp h
  rw [List.any_eq_false] at hq
  have hgone : ∀ id, db.gone q id = false := by
    refine fun id => List.any_eq_false.mpr fun r hr hgone => hq r hr ?_
    exact (Bool.and_eq_true_iff.mp hgone).1
  refine ⟨ext_rows ?_ hseq fun t => ?_, ?_⟩
  · rw [hkeys, List.filter_eq_self]
    exact fun r hr => by simpa using hq r hr
  · rw [hvalues t, List.filter_eq_self]
    exact fun v _ => by simp [hgone]
  · rw [hn, List.countP_eq_zero]
    exact hq

lemma Deleted.valueRow {t : ValueTable} {id : ℕ} {v : ValueRow t.Column} (h : Deleted q db X n)
    (hv : X.valueRow t id = some v) : db.valueRow t id = some v := by
  obtain ⟨hmem, hid⟩ := Table.find?_eq_some.mp hv
  rw [(deleted_iff.mp h).2.2.1 t] at hmem
  exact Table.find?_eq_some.mpr ⟨List.mem_of_mem_filter hmem, hid⟩

lemma Deleted.keyRow_none {name : Bytes} (h : Deleted q db X n) (hname : db.keyRow name = none) :
    X.keyRow name = none := by
  rw [Db.keyRow_deleteKeyRows h, hname]
  rfl

/-- A statement that succeeds and changes a row right after a deletion could as well have come
right before it. -/
def Commutes (stmt : Db → Option (Db × ℕ)) : Prop :=
  ∀ {q db X n X' k}, Deleted q db X n → stmt X = some (X', k) → k ≠ 0 →
    ∃ s k', stmt db = some (s, k') ∧ k' ≠ 0 ∧ Deleted q s X' n

lemma commutes_modifyKey (keyId : ℕ) (f : KeyRow → KeyRow) (hkey : ∀ r, (f r).key = r.key)
    (hid : ∀ r, (f r).id = r.id) : Commutes fun db =>
      some (db.modifyKey keyId f hkey hid, db.keys.rows.countP fun r => r.id == keyId) := by
  intro q db X n X' k h hstmt hk
  obtain ⟨rfl, rfl⟩ := Prod.mk.inj (Option.some.inj hstmt)
  obtain ⟨hkeys, hseq, hvalues, rfl⟩ := deleted_iff.mp h
  have hname : ∀ r : KeyRow, (if r.id == keyId then f r else r).key = r.key := by
    intro r
    split_ifs
    · exact hkey r
    · rfl
  have hnumber : ∀ r : KeyRow, (if r.id == keyId then f r else r).id = r.id := by
    intro r
    split_ifs
    · exact hid r
    · rfl
  -- names and ids stay, so the same rows are deleted before and after
  refine ⟨_, _, rfl, ?_, deleted_iff.mpr ⟨?_, hseq, fun t => ?_, ?_⟩⟩
  · rw [hkeys] at hk
    have hle := (@List.filter_sublist _ (fun r : KeyRow => !q r.key) db.keys.rows).countP_le
      (p := fun r : KeyRow => r.id == keyId)
    omega
  · change X.keys.rows.map _ = (db.keys.rows.map _).filter _
    have hkeep : ((fun r : KeyRow => !q r.key) ∘ fun r : KeyRow =>
        if r.id == keyId then f r else r) = fun r => !q r.key := by
      funext r
      exact congrArg (fun name => !q name) (hname r)
    rw [hkeys, List.filter_map, hkeep]
  · have hgone : (db.modifyKey keyId f hkey hid).gone q = db.gone q := by
      funext id
      change (db.keys.rows.map _).any _ = _
      rw [List.any_map]
      refine congrArg db.keys.rows.any (funext fun r => ?_)
      simp only [Function.comp_apply, hname, hnumber]
    rw [hgone]
    exact hvalues t
  · change _ = (db.keys.rows.map _).countP _
    rw [List.countP_map]
    exact congrArg (fun p => db.keys.rows.countP p) (funext fun r => congrArg q (hname r).symm)

lemma Deleted.setValues {t : ValueTable} {rows rows' : ValueRows t} {hrows hrows'}
    (h : Deleted q db X n)
    (htable : rows'.rows = rows.rows.filter fun v => !db.gone q v.propertyId) :
    Deleted q (db.setValues t rows hrows) (X.setValues t rows' hrows') n := by
  obtain ⟨hkeys, hseq, hvalues, hn⟩ := deleted_iff.mp h
  refine deleted_iff.mpr ⟨hkeys, hseq, fun t' => ?_, hn⟩
  change (Function.update X.values t rows' t').rows =
    (Function.update db.values t rows t').rows.filter fun v => !db.gone q v.propertyId
  by_cases ht : t' = t
  · subst ht
    rw [Function.update_self, Function.update_self]
    exact htable
  · rw [Function.update_of_ne ht, Function.update_of_ne ht]
    exact hvalues t'

lemma commutes_upsertValueRow (t : ValueTable) (keyId : ℕ) (value : t.Column) :
    Commutes fun db => db.upsertValueRow t keyId value := by
  intro q db X n X' k h hstmt hk
  change X.upsertValueRow t keyId value = some (X', k) at hstmt
  unfold upsertValueRow at hstmt
  split at hstmt
  next hfk =>
    obtain ⟨rfl, rfl⟩ := Prod.mk.inj (Option.some.inj hstmt)
    obtain ⟨hkey, hgone⟩ := h.kept hfk.1
    refine ⟨_, 1, dif_pos ⟨hkey, hfk.2⟩, by simp, h.setValues ?_⟩
    have htable : (X.values t) = (db.values t).delete fun v => db.gone q v.propertyId :=
      Table.ext ((deleted_iff.mp h).2.2.1 t)
    have hcomm : ((db.values t).upsert ⟨keyId, value⟩).delete (fun v => db.gone q v.propertyId) =
        (X.values t).upsert ⟨keyId, value⟩ := by
      rw [htable]
      exact Table.delete_upsert (fun a b hab => congrArg (db.gone q) hab) hgone
    exact congrArg Table.rows hcomm.symm
  next => cases hstmt

lemma commutes_insertValueRow (t : ValueTable) (keyId : ℕ) (value : t.Column) :
    Commutes fun db => db.insertValueRow t keyId value := by
  intro q db X n X' k h hstmt hk
  change X.insertValueRow t keyId value = some (X', k) at hstmt
  unfold insertValueRow at hstmt
  split at hstmt
  next hfk =>
    split at hstmt
    next => cases hstmt
    next rows hrows =>
      obtain ⟨rfl, rfl⟩ := Prod.mk.inj (Option.some.inj hstmt)
      obtain ⟨hkey, hgone⟩ := h.kept hfk.1
      obtain ⟨hnew, hrows⟩ := Table.insert?_eq_some.mp hrows
      have htable := (deleted_iff.mp h).2.2.1 t
      -- no value of a row that is kept was deleted
      have hold : db.valueRow t keyId = none := by
        refine Table.find?_eq_none.mpr fun v hv hid => ?_
        refine Table.find?_eq_none.mp hnew v ?_ hid
        rw [htable, List.mem_filter]
        exact ⟨hv, by rw [hid, hgone]; rfl⟩
      obtain ⟨db', hdb'⟩ := @insertValueRow_of_none db keyId t value hkey hfk.2 hold
      refine ⟨db', 1, hdb', by simp, ?_⟩
      unfold insertValueRow at hdb'
      rw [dif_pos ⟨hkey, hfk.2⟩] at hdb'
      split at hdb'
      next => cases hdb'
      next rows' hrows' =>
        obtain ⟨rfl, -⟩ := Prod.mk.inj (Option.some.inj hdb')
        refine h.setValues ?_
        rw [hrows, htable, (Table.insert?_eq_some.mp hrows').2, List.filter_append]
        simp [hgone]
  next => cases hstmt

/-- Deleting values commutes also if there is nothing left to delete. -/
lemma deleteValueRows_commutes {t : ValueTable} {keyId : ℕ} (h : Deleted q db X n)
    (hstmt : X.deleteValueRows t keyId = some (X', k)) :
    ∃ s k', db.deleteValueRows t keyId = some (s, k') ∧ Deleted q s X' n := by
  obtain ⟨rfl, rfl⟩ := Prod.mk.inj (Option.some.inj hstmt)
  refine ⟨_, _, rfl, h.setValues ?_⟩
  change (X.values t).rows.filter _ = ((db.values t).rows.filter _).filter _
  rw [(deleted_iff.mp h).2.2.1 t, List.filter_filter, List.filter_filter]
  simp only [Bool.and_comm]

end Sativa.Store.Db
