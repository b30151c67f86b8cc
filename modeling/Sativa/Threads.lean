import Sativa.Commute
import Sativa.Linearize
import Sativa.StoreRuns
import Sativa.StoreSteps
import Mathlib.Data.Set.Lattice
import Mathlib.Order.CompletePartialOrder
import Mathlib.Data.List.Permutation

/-!
Threads that call one data store.

`getKey` and `setKey` take `dbLock`, `deleteSubkeys` does not: it can come between any two
statements of the others, and a rollback of theirs undoes it.
-/

namespace Sativa.Store

open Sativa

/-! ### The threads -/

/-- The calls that take the lock. -/
inductive LockedCall
  | getKey (name : Bytes)
  | setKey (name : Bytes) (value : PropertyValue)

def LockedCall.steps (env : SqlEnv) : LockedCall → SqlSteps Answer
  | getKey name => getKeySteps name >>= fun value => pure (.value value)
  | setKey name value => setKeySteps env name value >>= fun _ => pure .done

/-- `deleteSubkeys`, as a call of the store. -/
abbrev deleteCall (d : SqlEnv × Bytes) : SqlEnv × Call := (d.1, .deleteSubkeys d.2)

/-- The call, as a call of the store. -/
def toCall : (SqlEnv × LockedCall) ⊕ (SqlEnv × Bytes) → SqlEnv × Call
  | .inl (env, .getKey name) => (env, .getKey name)
  | .inl (env, .setKey name value) => (env, .setKey name value)
  | .inr d => deleteCall d

/-- Some key is matched by the pattern. -/
def Db.hasSubkeys (db : Db) (namePrefix : Bytes) : Bool :=
  db.keys.rows.any fun r => Like.like (subkeyPattern namePrefix) r.key

section Delete

variable {env : SqlEnv} {db db' : Db} {name : Bytes} {d : SqlEnv × Bytes}

lemma step_delete_error (h : d.1.fault .deleteKeys = some .error) :
    machine.step db (deleteCall d) = (.error .sqlite, db) := by
  rw [step_deleteSubkeys_run]
  unfold deleteSubkeys
  rw [bindParameter, Prog.throwIf_neg (by simp), pure_bind]
  simp [exec, h, Except.map]

lemma step_delete_ok (db : Db) (h : d.1.fault .deleteKeys ≠ some .error) : ∃ n,
    Db.Deleted (Like.like (subkeyPattern d.2)) db (machine.step db (deleteCall d)).2 n ∧
    (machine.step db (deleteCall d)).1 =
      .ok (.deleted (if d.1.fault .deleteKeys = some .noRows then 0 else n)) := by
  rw [step_deleteSubkeys_run]
  unfold deleteSubkeys
  rw [bindParameter, Prog.throwIf_neg (by simp), pure_bind]
  unfold exec
  simp only [if_neg h]
  exact ⟨_, rfl, rfl⟩

lemma step_delete_none (h : db.hasSubkeys d.2 = false) : (machine.step db (deleteCall d)).2 = db ∧
    (machine.step db (deleteCall d)).1 =
      if d.1.fault .deleteKeys = some .error then .error .sqlite else .ok (.deleted 0) := by
  by_cases hf : d.1.fault .deleteKeys = some .error
  · rw [step_delete_error hf, if_pos hf]
    exact ⟨rfl, rfl⟩
  · obtain ⟨n, hdel, hanswer⟩ := step_delete_ok db hf
    obtain ⟨hsame, rfl⟩ := hdel.of_none h
    rw [if_neg hf, hanswer, ite_self]
    exact ⟨hsame, rfl⟩

end Delete

/-- The data store and its threads. -/
def dataStore : System StoreError Db (SqlEnv × LockedCall) (SqlEnv × Bytes) Answer where
  init := .initSchema
  prog c := c.2.steps c.1
  hit d db := machine.step db (deleteCall d)
  changes d db := decide (d.1.fault .deleteKeys ≠ some .error) && db.hasSubkeys d.2
  unchanged := by
    intro d db h
    rcases Bool.and_eq_false_iff.mp h with hf | hnone
    · rw [step_delete_error (by simpa using hf)]
    · exact (step_delete_none hnone).1
  failed := by
    intro d db e h
    by_cases hf : d.1.fault .deleteKeys = some .error
    · rw [step_delete_error hf]
    · obtain ⟨n, -, hanswer⟩ := step_delete_ok db hf
      cases hanswer.symm.trans h

section Moves

variable {α : Type} {env : SqlEnv} {db : Db} {value : PropertyValue} {p : SqlProg α}
  {stmt : Db → Option (Db × ℕ)} {site : Site} {e : StoreError}

lemma moves_of_deleted (h : ∀ {q db X n a X'}, Db.Deleted q db X n → p.run X = (.ok a, X') →
    ∃ s, p.run db = (.ok a, s) ∧ Db.Deleted q s X' n) : dataStore.Moves p := by
  intro d db a X' hrun
  change p.run (machine.step db (deleteCall d)).2 = _ at hrun
  change ∃ s, p.run db = (.ok a, s) ∧ machine.step s (deleteCall d) =
    ((machine.step db (deleteCall d)).1, X')
  by_cases hf : d.1.fault .deleteKeys = some .error
  · rw [step_delete_error hf] at hrun ⊢
    exact ⟨X', hrun, step_delete_error hf⟩
  · obtain ⟨n, hdel, hanswer⟩ := step_delete_ok db hf
    obtain ⟨s, hs, hdel'⟩ := h hdel hrun
    obtain ⟨n', hdel₁, hanswer₁⟩ := step_delete_ok s hf
    obtain ⟨hstate, rfl⟩ := hdel₁.unique hdel'
    exact ⟨s, hs, Prod.ext (hanswer₁.trans hanswer.symm) hstate⟩

lemma moves_exec_check (h : Db.Commutes stmt) :
    dataStore.Moves (exec env site stmt >>= fun n => .throwIf (n = 0) e) := by
  refine moves_of_deleted fun hdel hrun => ?_
  simp only [Prog.bind_ok, exec_ok, Prog.throwIf_ok] at hrun
  obtain ⟨n, X, ⟨k, hstmt, hf, hn⟩, hne, rfl⟩ := hrun
  have hnoRows : env.fault site ≠ some .noRows := fun hno => hne (by rw [hn, if_pos hno])
  rw [if_neg hnoRows] at hn
  obtain ⟨s, k', hs, hk', hdel'⟩ := h hdel hstmt (hn ▸ hne)
  refine ⟨s, Prog.bind_ok.mpr ⟨k', s, exec_ok.mpr ⟨k', hs, hf, by rw [if_neg hnoRows]⟩, ?_⟩, hdel'⟩
  exact Prog.throwIf_ok.mpr ⟨hk', rfl⟩

lemma moves_tableFor (type : ℕ) : dataStore.Moves (tableFor type) := by
  unfold tableFor
  rcases valueTableName type with _ | t
  · exact System.moves_of_const fun _ => rfl
  · exact System.moves_of_const fun _ => rfl

lemma moves_bindColumn (t : ValueTable) : dataStore.Moves (bindColumn env t value) := by
  refine System.moves_of_const (r := if env.fault .bindValue = some .error then .error .sqlite
    else bindValue t (env.kept value)) fun db => ?_
  unfold bindColumn exec
  rw [Prog.run_bind]
  by_cases hf : env.fault .bindValue = some .error
  · simp [hf]
  · simp [hf]

lemma moves_updateKeyType (keyId : ℕ) (type : PropertyValueType) :
    dataStore.Moves (updateKeyType env keyId type) :=
  moves_exec_check (Db.commutes_modifyKey keyId _ _ _)

lemma moves_updateKeyTimestamp (keyId : ℕ) : dataStore.Moves (updateKeyTimestamp env keyId) :=
  moves_exec_check (Db.commutes_modifyKey keyId _ _ _)

lemma moves_upsertValue (keyId : ℕ) : dataStore.Moves (upsertValue env keyId value) :=
  (moves_tableFor _).bind fun t => (moves_bindColumn t).bind fun column =>
    moves_exec_check (Db.commutes_upsertValueRow t keyId column)

lemma moves_insertKeyValue (keyId : ℕ) : dataStore.Moves (insertKeyValue env value keyId) :=
  (moves_tableFor _).bind fun t => (moves_bindColumn t).bind fun column =>
    moves_exec_check (Db.commutes_insertValueRow t keyId column)

lemma moves_deleteOldValue (keyId oldValueType : ℕ) :
    dataStore.Moves (deleteOldValue env keyId oldValueType) := by
  refine (moves_tableFor _).bind fun t => moves_of_deleted fun hdel hrun => ?_
  simp only [Prog.bind_ok, exec_ok] at hrun
  obtain ⟨n, X, ⟨k, hstmt, hf, -⟩, hpure⟩ := hrun
  cases hpure
  obtain ⟨s, k', hs, hdel'⟩ := Db.deleteValueRows_commutes hdel hstmt
  exact ⟨s, Prog.bind_ok.mpr ⟨_, s, exec_ok.mpr ⟨k', hs, hf, rfl⟩, rfl⟩, hdel'⟩

lemma moves_selectValue (name : Bytes) (keyId valueType : ℕ) (t : ValueTable) :
    dataStore.Moves (selectValue name keyId valueType t) := by
  refine moves_of_deleted @fun q db X n a X' hdel hrun => ?_
  unfold selectValue at hrun ⊢
  rw [Prog.run_reads] at hrun ⊢
  rcases hv : X.valueRow t keyId with _ | row
  · rw [hv] at hrun
    cases hrun
  · rw [hv] at hrun
    rw [hdel.valueRow hv]
    cases hrun
    exact ⟨db, rfl, hdel⟩

end Moves

/-! ### Statements keep the names -/

/-- The names of the keys. -/
def Db.names (db : Db) : Set Bytes := {name | ∃ r ∈ db.keys.rows, r.key = name}

section Keeps

variable {α : Type} {env : SqlEnv} {value : PropertyValue} {p : SqlProg α}

lemma keeps_of_mono (h : Prog.Mono Db.names p) : dataStore.Keeps fun db => (p.run db).2 := by
  intro d db hchanges
  change (decide (d.1.fault .deleteKeys ≠ some .error) && (p.run db).2.hasSubkeys d.2) = false
    at hchanges
  change (decide (d.1.fault .deleteKeys ≠ some .error) && db.hasSubkeys d.2) = false ∧
    (machine.step db (deleteCall d)).1 = (machine.step (p.run db).2 (deleteCall d)).1
  rcases Bool.and_eq_false_iff.mp hchanges with hf | hnone
  · have hfault : d.1.fault .deleteKeys = some .error := by simpa using hf
    exact ⟨by rw [hf, Bool.false_and], by rw [step_delete_error hfault, step_delete_error hfault]⟩
  · have hnone' : db.hasSubkeys d.2 = false := by
      refine List.any_eq_false.mpr fun r hr hlike => ?_
      obtain ⟨r', hr', hkey⟩ := h db ⟨r, hr, rfl⟩
      exact List.any_eq_false.mp hnone r' hr' (by rwa [hkey])
    exact ⟨by rw [hnone', Bool.and_false],
      (step_delete_none hnone').2.trans (step_delete_none hnone).2.symm⟩

lemma names_mono_of_keys {db db' : Db} (h : db'.keys = db.keys) : db.names ≤ db'.names := by
  rintro name ⟨r, hr, hkey⟩
  exact ⟨r, h ▸ hr, hkey⟩

lemma names_mono_modifyKey {db : Db} {keyId : ℕ} {f : KeyRow → KeyRow} {hk hi} :
    db.names ≤ (db.modifyKey keyId f hk hi).names := by
  rintro name ⟨r, hr, hkey⟩
  refine ⟨if r.id == keyId then f r else r, List.mem_map_of_mem hr, ?_⟩
  split_ifs
  · exact (hk r).trans hkey
  · exact hkey

lemma plain_insertKeyInfo (name : Bytes) (type : PropertyValueType) :
    dataStore.Plain (.atom (insertKeyInfo env name type)) := by
  refine System.plain_atom (keeps_of_mono ((exec_mono fun hs => ?_).bind fun _ =>
    (Prog.readOnly_throwIf _).mono.bind fun _ => Prog.readOnly_get.mono.bind fun _ _ => le_refl _))
  obtain ⟨-, -, -, -, hrows⟩ := Db.insertKeyRow_some hs
  rintro n ⟨r, hr, hkey⟩
  exact ⟨r, by rw [hrows]; exact List.mem_append_left _ hr, hkey⟩

lemma plain_insertKeyValue (keyId : ℕ) : dataStore.Plain (.atom (insertKeyValue env value keyId)) :=
  System.plain_atom (keeps_of_mono (readOnly_tableFor.mono.bind fun _ =>
    readOnly_bindColumn.mono.bind fun _ => exec_check_mono fun hs =>
      names_mono_of_keys (Db.insertValueRow_some hs).2.keys))

lemma plain_upsertValue (keyId : ℕ) : dataStore.Plain (.atom (upsertValue env keyId value)) :=
  System.plain_atom (keeps_of_mono (readOnly_tableFor.mono.bind fun _ =>
    readOnly_bindColumn.mono.bind fun _ => exec_check_mono fun hs =>
      names_mono_of_keys (Db.upsertValueRow_some hs).2.keys))

lemma plain_updateKeyType (keyId : ℕ) (type : PropertyValueType) :
    dataStore.Plain (.atom (updateKeyType env keyId type)) := by
  refine System.plain_atom (keeps_of_mono (exec_check_mono fun hs => ?_))
  cases hs
  exact names_mono_modifyKey

lemma plain_updateKeyTimestamp (keyId : ℕ) :
    dataStore.Plain (.atom (updateKeyTimestamp env keyId)) := by
  refine System.plain_atom (keeps_of_mono (exec_check_mono fun hs => ?_))
  cases hs
  exact names_mono_modifyKey

lemma plain_deleteOldValue (keyId oldValueType : ℕ) :
    dataStore.Plain (.atom (deleteOldValue env keyId oldValueType)) := by
  refine System.plain_atom (keeps_of_mono (readOnly_tableFor.mono.bind fun _ =>
    (exec_mono fun hs => ?_).bind fun _ _ => le_refl _))
  exact names_mono_of_keys (Db.keys_deleteValueRows hs).1

end Keeps

/-! ### The operations happen at one of their statements -/

section Operations

variable (env : SqlEnv) (name : Bytes) (value : PropertyValue)

/-- An update happened when its key was looked up. -/
lemma movable_updateKey (keyId oldValueType : ℕ) :
    dataStore.Movable (updateKeySteps env keyId oldValueType value) :=
  System.movable_transaction <| System.movable_bind
    (System.movable_when (System.movable_bind (System.movable_atom (moves_updateKeyType _ _))
      fun _ => System.movable_atom (moves_deleteOldValue _ _))) fun _ =>
    System.movable_bind (System.movable_when (System.movable_atom (moves_upsertValue _))) fun _ =>
      System.movable_atom (moves_updateKeyTimestamp _)

lemma outside_updateKey (keyId oldValueType : ℕ) :
    dataStore.Outside (updateKeySteps env keyId oldValueType value) :=
  System.outside_transaction <| System.plain_bind
    (System.plain_when (System.plain_bind (plain_updateKeyType _ _) fun _ =>
      plain_deleteOldValue _ _)) fun _ =>
    System.plain_bind (System.plain_when (plain_upsertValue _)) fun _ => plain_updateKeyTimestamp _

/-- An insertion happens when its key row is inserted. -/
lemma ahead_insertKey : dataStore.Ahead (insertKeySteps env name value) := by
  have hbody : ∀ keyId, dataStore.Movable
      (.when (typeForValue value ≠ .null) (.atom (insertKeyValue env value keyId))) :=
    fun keyId => System.movable_when (System.movable_atom (moves_insertKeyValue keyId))
  exact System.ahead_throwIf (System.ahead_throwIf (System.ahead_transaction hbody))

lemma outside_insertKey : dataStore.Outside (insertKeySteps env name value) := by
  have hbody : dataStore.Plain (.atom (insertKeyInfo env name (typeForValue value)) >>= fun keyId =>
      .when (typeForValue value ≠ .null) (.atom (insertKeyValue env value keyId))) :=
    System.plain_bind (plain_insertKeyInfo _ _) fun keyId =>
      System.plain_when (plain_insertKeyValue keyId)
  exact System.outside_throwIf (System.outside_throwIf (System.outside_transaction hbody))

lemma keyRow_none_of_hits {db db' : Db} {l} (h : dataStore.Hits db l db')
    (hnone : db.keyRow name = none) : db'.keyRow name = none := by
  induction h with
  | nil => exact hnone
  | @snoc s _ d _ ih =>
    change (machine.step s (deleteCall d)).2.keyRow name = none
    by_cases hf : d.1.fault .deleteKeys = some .error
    · rwa [step_delete_error hf]
    · obtain ⟨n, hdel, -⟩ := step_delete_ok s hf
      exact hdel.keyRow_none ih

lemma ahead_selectKey {α : Type} {f : Option KeyRow → SqlSteps α} (hnone : dataStore.Ahead (f none))
    (hsome : ∀ info, dataStore.Movable (f (some info))) :
    dataStore.Ahead (selectKey name >>= f) := by
  intro db
  change dataStore.Movable (f (db.keyRow (cstr name))) ∨ (∀ l db', dataStore.Hits db l db' →
    db' = db' ∧ f (db'.keyRow (cstr name)) = f (db.keyRow (cstr name))) ∧
      dataStore.Ahead (f (db.keyRow (cstr name)))
  rcases hr : db.keyRow (cstr name) with _ | info
  · exact .inr ⟨fun l db' hl => ⟨rfl, by rw [keyRow_none_of_hits _ hl hr]⟩, hnone⟩
  · exact .inl (hsome info)

lemma outside_selectKey {α : Type} {f : Option KeyRow → SqlSteps α}
    (h : ∀ info, dataStore.Outside (f info)) : dataStore.Outside (selectKey name >>= f) :=
  ⟨fun _ => rfl, fun _ => h _⟩

lemma ahead_setKey : dataStore.Ahead (setKeySteps env name value) := by
  refine ahead_selectKey _ (ahead_insertKey env name value) fun info => ?_
  dsimp only
  split_ifs
  · exact movable_updateKey ..
  · exact movable_updateKey ..
  · exact movable_updateKey ..
  · trivial

lemma outside_setKey : dataStore.Outside (setKeySteps env name value) := by
  refine outside_selectKey _ fun info => ?_
  rcases info with _ | info
  · exact outside_insertKey env name value
  · dsimp only
    split_ifs
    · exact outside_updateKey ..
    · exact outside_updateKey ..
    · exact outside_updateKey ..
    · trivial

/-- A key that is found was read then. -/
lemma ahead_getKey : dataStore.Ahead (getKeySteps name) := by
  refine ahead_selectKey _ trivial fun info => ?_
  dsimp only
  split_ifs
  · trivial
  · rcases valueTableName (uint32 info.valueType) with _ | t
    · trivial
    · exact System.movable_atom (moves_selectValue _ _ _ _)

lemma outside_getKey : dataStore.Outside (getKeySteps name) := by
  refine outside_selectKey _ fun info => ?_
  rcases info with _ | info
  · trivial
  · dsimp only
    split_ifs
    · trivial
    · rcases valueTableName (uint32 info.valueType) with _ | t
      · trivial
      · exact ⟨fun _ => rfl, fun _ => trivial⟩

lemma outside_ahead (c : SqlEnv × LockedCall) :
    dataStore.Outside (dataStore.prog c) ∧ dataStore.Ahead (dataStore.prog c) := by
  obtain ⟨env, name | ⟨name, value⟩⟩ := c
  · exact ⟨System.outside_onOk (outside_getKey name) Answer.value,
      System.ahead_onOk (ahead_getKey name) Answer.value⟩
  · exact ⟨System.outside_onOk (outside_setKey env name value) fun _ => Answer.done,
      System.ahead_onOk (ahead_setKey env name value) fun _ => Answer.done⟩

lemma sequential_step (db : Db) (e : (SqlEnv × LockedCall) ⊕ (SqlEnv × Bytes)) :
    dataStore.sequential.step db e = machine.step db (toCall e) := by
  have hmap : ∀ {α} {x : SqlSteps α} {p : SqlProg α} (f : α → Answer), RunsAs x p db →
      (x >>= fun a => pure (f a)).run ⟨none, db⟩ =
        ((p.run db).1.map f, ⟨none, (p.run db).2⟩) := by
    intro α x p f hx
    change (x.andThen (Steps.onOk fun a => pure (f a))).run _ = _
    rw [Steps.run_andThen, hx]
    rcases (p.run db).1 with e | a <;> rfl
  rcases e with ⟨env, name | ⟨name, value⟩⟩ | d
  · change (((getKeySteps name >>= fun v => pure (Answer.value v)).run ⟨none, db⟩).1,
      ((getKeySteps name >>= fun v => pure (Answer.value v)).run ⟨none, db⟩).2.state) = _
    rw [hmap Answer.value runsAs_getKey]
    exact step_getKey.symm
  · change (((setKeySteps env name value >>= fun _ => pure Answer.done).run ⟨none, db⟩).1,
      ((setKeySteps env name value >>= fun _ => pure Answer.done).run ⟨none, db⟩).2.state) = _
    rw [hmap (fun _ => Answer.done) runsAs_setKey]
    exact step_setKey.symm
  · rfl

/-- A sequence of calls of the threads is one of the store. -/
lemma run_toCall {h : List (((SqlEnv × LockedCall) ⊕ (SqlEnv × Bytes)) × Except StoreError Answer)}
    {db : Db} (hrun : dataStore.sequential.Run h db) :
    machine.Run (h.map fun p => (toCall p.1, p.2)) db := by
  induction hrun with
  | init => exact .init
  | @snoc h db e _ ih =>
    have hstep := sequential_step db e
    rw [List.map_append, List.map_singleton, hstep]
    exact ih.snoc (toCall e)

end Operations

/-! ### Linearizability -/

/-- The threads, between any two statements of theirs. -/
abbrev StoreThreads := Shared StoreError Db (SqlEnv × LockedCall) (SqlEnv × Bytes) Answer

/-- The calls that returned normally, one after the other in some order, return what they returned
and lead to the tables as they are. -/
def Linearizable (s : StoreThreads) : Prop :=
  ∃ h, machine.Run h s.state ∧
    h.Perm ((s.returned.filter fun p => p.2.isOk).map fun p => (toCall p.1, p.2))

/-- **Linearizability**: any number of threads, in any order of their statements, as long as no
rollback of a call undoes what a deletion of another thread has deleted. -/
theorem threads_linearizable {s : StoreThreads}
    (h : dataStore.threads.ReachableBy System.Undisturbed s) (hidle : s.holder = none) :
    Linearizable s := by
  obtain ⟨hist, hrun, hperm⟩ := System.ordered_of_undisturbed outside_ahead h hidle
  exact ⟨_, run_toCall hrun, hperm.map _⟩

abbrev startSet (value : PropertyValue) : ThreadEvent (SqlEnv × LockedCall) (SqlEnv × Bytes) :=
  .call 1 (.ok 1, .setKey (ascii "p.x") value)

abbrev deleteP : ThreadEvent (SqlEnv × LockedCall) (SqlEnv × Bytes) := .other 2 (.ok 2, ascii "p")

/-- A deletion between the lookup of a key and its insertion. -/
theorem threads_linearizable_sample : Linearizable
    (dataStore.threads.after dataStore.threads.init
      [startSet .null, .next 1, deleteP, .next 1, .next 1, .next 1]) := by
  refine threads_linearizable ?_ rfl
  refine .step (.step (.step (.step (.step (.step .init ?_) ?_) ?_) ?_) ?_) ?_
  · trivial
  · rintro r next hr hleft
    cases hr
    cases hleft
  · trivial
  · rintro r next hr hleft
    cases hr
    cases hleft
  · rintro r next hr hleft
    cases hr
    cases hleft
  · rintro r next hr hleft
    cases hr
    cases hleft

/-- The key `p.x` is null. It is set to a number, which fails after its type was changed; in
between another thread deletes it, which is reported and then undone. -/
theorem deletion_undone : ¬ ∀ s : StoreThreads, dataStore.threads.Reachable s → s.holder = none →
    Linearizable s := by
  intro h
  have hreach := (Machine.Reachable.init (m := dataStore.threads)).after
    [startSet .null, .next 1, .next 1, .next 1, .next 1,
      startSet (.uint64 1), .next 1, .next 1, .next 1, deleteP, .next 1, .next 1]
  obtain ⟨hist, hrun, hperm⟩ := h _ hreach rfl
  have hperm' : hist.Perm
      [((SqlEnv.ok 1, Call.setKey (ascii "p.x") .null), .ok Answer.done),
        ((SqlEnv.ok 2, Call.deleteSubkeys (ascii "p")), .ok (Answer.deleted 1))] := hperm
  have hexec := hrun.eq_exec
  rcases List.perm_pair.mp hperm' with rfl | rfl
  · -- after the deletion the key is not there
    have hrows := congrArg (fun r => r.2.keys.rows.length) hexec
    revert hrows
    decide
  · -- before the key was set there is nothing to delete
    have hanswer : some (Except.ok (Answer.deleted 0) : Except StoreError Answer) =
        some (.ok (.deleted 1)) := congrArg (fun r => (r.1.map Prod.snd).head?) hexec
    cases hanswer

end Sativa.Store
