import Sativa.RowIds

/-!
What `deleteSubkeys` and `deleteKey` delete.

The subtree of a name is found by a pattern that has the name in it. All keys of the subtree match,
but so do others if the name has wildcards in it, or if they differ from it in the case of letters.
A single key is never deleted: the test for children throws.
-/

namespace Sativa.Store

open Sativa

/-- The name of the key begins with the prefix and a period. -/
def inSubtree (namePrefix : Bytes) (r : KeyRow) : Bool :=
  (namePrefix ++ ascii ".").isPrefixOf r.key

lemma inSubtree_iff {namePrefix : Bytes} {r : KeyRow} :
    inSubtree namePrefix r = true ↔ namePrefix ++ ascii "." <+: r.key :=
  List.isPrefixOf_iff_prefix

/-- The keys of the subtree are gone with their values, and nothing else is different. -/
structure SubtreeDeleted (namePrefix : Bytes) (db : Db) (result : Except StoreError ℕ × Db) :
    Prop where
  count : result.1 = .ok (db.keys.rows.countP (inSubtree namePrefix))
  keys : result.2.keys.rows = db.keys.rows.filter fun r => !inSubtree namePrefix r
  values : ∀ t, (result.2.values t).rows = (db.values t).rows.filter fun v =>
    !db.keys.rows.any fun r => inSubtree namePrefix r && r.id == v.propertyId
  seq : result.2.seq = db.seq

/-- Names are C strings. -/
def Db.NulFree (db : Db) : Prop := ∀ name r, db.keyRow name = some r → 0 ∉ name

section Subtree

variable {db : Db} {namePrefix : Bytes} {r : KeyRow}

lemma nulFree_step (hn : db.NulFree) (e : SqlEnv × Call) : (machine.step db e).2.NulFree := by
  intro n r hr
  rcases step_keyRow e hr with ⟨r₀, hr₀, -⟩ | ⟨_, name, _, -, rfl, -⟩
  · exact hn n r₀ hr₀
  · exact zero_not_mem_cstr name

lemma reachable_nulFree (h : machine.Reachable db) : db.NulFree :=
  h.invariant (fun name r hr => by cases hr) fun _ e _ hn => nulFree_step hn e

lemma like_of_inSubtree (h : machine.Reachable db) (hr : r ∈ db.keys.rows)
    (hsub : inSubtree namePrefix r = true) : Like.like (subkeyPattern namePrefix) r.key = true := by
  obtain ⟨rest, hrest⟩ := inSubtree_iff.mp hsub
  have h0 : 0 ∉ r.key := reachable_nulFree h _ r (Table.find?_of_mem hr)
  rw [← hrest] at h0 ⊢
  simp only [List.mem_append, not_or] at h0
  exact Like.like_of_prefix h0.1.1 h0.2

/-- What is deleted is the subtree, if the pattern matches no key outside of it. -/
lemma subtreeDeleted_iff (now : ℕ) (h : machine.Reachable db) :
    SubtreeDeleted namePrefix db ((deleteSubkeys (.ok now) namePrefix).run db) ↔
      ∀ r ∈ db.keys.rows, Like.like (subkeyPattern namePrefix) r.key = true →
        namePrefix ++ ascii "." <+: r.key := by
  obtain ⟨⟨d, n⟩, hdel⟩ : ∃ x, db.deleteKeyRows (fun r =>
    Like.like (subkeyPattern namePrefix) r.key) = some x := ⟨_, rfl⟩
  have hrun := deleteSubkeys_of_some now hdel
  obtain ⟨hrows, hcount⟩ := Db.rows_deleteKeyRows hdel
  rw [hrun]
  constructor
  · intro hdeleted r hr hlike
    by_contra hout
    -- a key outside that LIKE matches would have to be kept, but is not
    have hkept : r ∈ d.keys.rows := by
      rw [hdeleted.keys]
      rw [← inSubtree_iff] at hout
      exact List.mem_filter.mpr ⟨hr, by simpa using hout⟩
    rw [hrows] at hkept
    simpa [hlike] using (List.mem_filter.mp hkept).2
  · intro hcond
    -- LIKE matches all of the subtree in any case; by the condition it matches nothing else
    have hsame : ∀ r ∈ db.keys.rows,
        Like.like (subkeyPattern namePrefix) r.key = inSubtree namePrefix r := by
      intro r hr
      by_cases hlike : Like.like (subkeyPattern namePrefix) r.key = true
      · rw [hlike]
        exact (inSubtree_iff.mpr (hcond r hr hlike)).symm
      · by_contra hne
        refine hlike (like_of_inSubtree h hr ?_)
        simpa [hlike] using hne
    refine ⟨?_, ?_, fun t => ?_, Db.seq_deleteKeyRows hdel⟩
    · rw [hcount]
      exact congrArg Except.ok (List.countP_congr fun r hr => by rw [hsame r hr])
    · rw [hrows]
      exact List.filter_congr fun r hr => by rw [hsame r hr]
    · cases hdel
      refine List.filter_congr fun v _ => congrArg _ ?_
      rw [Bool.eq_iff_iff, List.any_eq_true, List.any_eq_true]
      exact exists_congr fun r => and_congr_right fun hr => by dsimp only; rw [hsame r hr]

/-- **Subtrees**: exactly the subtree of a name is deleted if its pattern matches no key outside
of it. For a name without wildcards these are the keys that start with the name and a period
in another case. -/
theorem deleteSubkeys_subtree_iff (now : ℕ) (h : machine.Reachable db) :
    (SubtreeDeleted namePrefix db ((deleteSubkeys (.ok now) namePrefix).run db) ↔
      ∀ r ∈ db.keys.rows, Like.like (subkeyPattern namePrefix) r.key = true →
        namePrefix ++ ascii "." <+: r.key) ∧
    ((∀ c ∈ ascii "%_" ++ [0], c ∉ namePrefix) →
      (SubtreeDeleted namePrefix db ((deleteSubkeys (.ok now) namePrefix).run db) ↔
        ∀ r ∈ db.keys.rows,
          Like.SameCase (namePrefix ++ ascii ".") (r.key.take (namePrefix.length + 1)) →
            namePrefix ++ ascii "." <+: r.key)) := by
  refine ⟨subtreeDeleted_iff now h, fun hplain => ?_⟩
  have hwild : 37 ∉ namePrefix ∧ 95 ∉ namePrefix :=
    ⟨hplain 37 (by decide), hplain 95 (by decide)⟩
  rw [subtreeDeleted_iff now h]
  refine forall₂_congr fun r hr => ?_
  have h0 : 0 ∉ r.key := reachable_nulFree h _ r (Table.find?_of_mem hr)
  rw [subkeyPattern, Like.like_plain_iff (hplain 0 (by decide)) h0 hwild]

/-- A store with the keys `net.up` and `dns.up`. -/
abbrev twoTrees : Db :=
  (machine.exec [(.ok 1, .setKey (ascii "net.up") (.bool true)),
    (.ok 2, .setKey (ascii "dns.up") (.bool false))]).2

theorem deleteSubkeys_subtree_iff_sample :
    SubtreeDeleted (ascii "net") twoTrees ((deleteSubkeys (.ok 3) (ascii "net")).run twoTrees) :=
  (deleteSubkeys_subtree_iff 3 ⟨_, machine.run_exec _⟩).1.mpr (by decide)

/-- A store with the keys `net.up` and `Net.up`. -/
abbrev twoCases : Db :=
  (machine.exec [(.ok 1, .setKey (ascii "net.up") (.bool true)),
    (.ok 2, .setKey (ascii "Net.up") (.bool false))]).2

/-- Deleting the subtree of `net` deletes `Net.up`. -/
theorem other_case_deleted : ¬ ∀ (db : Db) (namePrefix : Bytes), machine.Reachable db →
    SubtreeDeleted namePrefix db ((deleteSubkeys (.ok 3) namePrefix).run db) := by
  intro h
  have hcount := (h twoCases (ascii "net") ⟨_, machine.run_exec _⟩).count
  revert hcount
  decide

end Subtree

/-! ### A single key -/

section Terminal

/-- The errors that derive from `std::runtime_error`, as `SQLite::Exception` does; the others are
`std::logic_error`s. -/
def StoreError.isRuntimeError : StoreError → Bool
  | .insertKeyInfo | .insertKeyValue | .updateKeyType | .upsertValue | .updateTimestamp
  | .hasChildren _ | .sqlite => true
  | .invalidName | .invalidValue | .changingType _ | .unknownValueTable _ | .hasNoValue ..
  | .invalidTypeForSet => false

/-- A key with children stays and an error says so; a key without them is gone with its value,
and nothing else is different. -/
structure TerminalDeleted (name : Bytes) (db : Db) (result : Except StoreError ℕ × Db) : Prop where
  children : (∃ r ∈ db.keys.rows, name ++ ascii "." <+: r.key) →
    (∃ e, result.1 = .error e ∧ e.isRuntimeError = true) ∧ result.2 = db
  terminal : (¬ ∃ r ∈ db.keys.rows, name ++ ascii "." <+: r.key) →
    result.1 = .ok (if (db.keyRow name).isSome then 1 else 0) ∧
      (result.2.keys.rows = db.keys.rows.filter fun r => r.key != name) ∧
      (∀ t, (result.2.values t).rows = (db.values t).rows.filter fun v =>
        !(db.keyRow name).any fun r => r.id == v.propertyId) ∧
      result.2.seq = db.seq

/-- **Single keys**: only a key with children is treated as it should be, since every call
throws and changes nothing. -/
theorem deleteKey_terminal_iff (env : SqlEnv) (db : Db) (name : Bytes) :
    TerminalDeleted name db ((deleteKey env name).run db) ↔
      ∃ r ∈ db.keys.rows, name ++ ascii "." <+: r.key := by
  rw [deleteKey_run]
  constructor
  · intro h
    by_contra hnone
    have hreturned := (h.terminal hnone).1
    cases hreturned
  · intro hsome
    exact ⟨fun _ => ⟨⟨_, rfl, rfl⟩, rfl⟩, fun hnone => absurd hsome hnone⟩

/-- The key `net.up` has no children, and `deleteKey` throws all the same. -/
theorem terminal_key_stays : ¬ ∀ (db : Db) (name : Bytes), machine.Reachable db → 0 ∉ name →
    TerminalDeleted name db ((deleteKey (.ok 3) name).run db) := by
  intro h
  have hdeleted := h twoCases (ascii "net.up") ⟨_, machine.run_exec _⟩ (by decide)
  have hchildren : ¬ ∃ r ∈ twoCases.keys.rows, ascii "net.up" ++ ascii "." <+: r.key := by decide
  have hreturned := (hdeleted.terminal hchildren).1
  rw [deleteKey_run] at hreturned
  cases hreturned

end Terminal

end Sativa.Store
