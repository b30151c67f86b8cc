import Sativa.Config
import Mathlib.Algebra.Ring.Int.Defs

/-!
What an entry of `access.allow` restricts.

An id is looked up, or converted from a number of the file. The only check afterwards is that
there is one of the two ids, so an entry without a result is as if it had not been given.
-/

namespace Sativa.Config

open Sativa

/-! ### What is written -/

/-- The id that an entry stands for: that of the user or group of this name, or the number. -/
def Names (lookup : Bytes → Lookup) : Toml → UInt32 → Prop
  | .string name, id => 0 ∉ name ∧ lookup name = .found id
  | .integer n, id => n.toInt = id.toNat
  | _, _ => False

/-- There is an id exactly if there is an entry, and it is what the entry stands for. -/
def Restricts (lookup : Bytes → Lookup) : Option Toml → Option UInt32 → Prop
  | none, id => id = none
  | some v, id => ∃ i, id = some i ∧ Names lookup v i

/-- A table that is accepted appends a descriptor with the ids and keys that it is written with;
one that is rejected changes nothing. -/
structure ExactRule {n : ℕ} (host : Host n) (tbl : TomlTable) (s : State)
    (result : Except ConfigError Unit × State) : Prop where
  accepted : result.1 = .ok () → ∃ desc, result.2.gAllowList = s.gAllowList ++ [desc] ∧
    Restricts host.getpwnam (tbl.entry "user") desc.user ∧
    Restricts host.getgrnam (tbl.entry "group") desc.group ∧
    ∃ elems, tbl.entry "paths" = some (.array elems) ∧ ∀ k, k ∈ desc.allowed ↔ .string k ∈ elems
  rejected : result.1 ≠ .ok () → result.2 = s

/-! ### Which tables are rejected -/

/-- The entry is an id: a name that is found, or a number in the range of ids. -/
def Resolves (lookup : Bytes → Lookup) : Option Toml → Prop
  | none => True
  | some (.string name) => 0 ∉ name ∧ ∃ id, lookup name = .found id
  | some (.integer n) => 0 ≤ n.toInt ∧ n.toInt < 2 ^ 32
  | some _ => False

/-- The look-up fails, or the entry is neither a name nor a number. -/
def Invalid (lookup : Bytes → Lookup) : Option Toml → Prop
  | none => False
  | some (.string name) => ∃ errno ≠ 0, lookup (cstr name) = .null errno
  | some (.integer _) => False
  | some _ => True

/-- There is no entry, or a name that is not found. -/
def Unnamed (lookup : Bytes → Lookup) : Option Toml → Prop
  | none => True
  | some (.string name) => lookup (cstr name) = .null 0
  | some _ => False

/-- The table has an entry of another kind or none that yields an id, a look-up fails, or `paths`
is not an array of strings. -/
def Rejected {n : ℕ} (host : Host n) (tbl : TomlTable) : Prop :=
  Invalid host.getpwnam (tbl.entry "user") ∨ Invalid host.getgrnam (tbl.entry "group") ∨
    (Unnamed host.getpwnam (tbl.entry "user") ∧ Unnamed host.getgrnam (tbl.entry "group")) ∨
    ¬ ∃ elems, tbl.entry "paths" = some (.array elems) ∧ ∀ el ∈ elems, el.isString = true

section Rules

variable {lookup : Bytes → Lookup} {invalid : ConfigError} {entry : Option Toml}
  {id : Option UInt32}

lemma toUInt32_iff (n : Int64) :
    n.toInt = (n.toUInt64.toUInt32.toNat : ℤ) ↔ 0 ≤ n.toInt ∧ n.toInt < 2 ^ 32 := by
  have hcast : n.toUInt64.toUInt32.toNat = n.toBitVec.toNat % 2 ^ 32 :=
    UInt64.toNat_toUInt32 n.toUInt64
  have hint : n.toInt = n.toBitVec.toInt := rfl
  have hlt : n.toBitVec.toNat < 2 ^ 64 := n.toBitVec.isLt
  rw [hcast, hint, BitVec.toInt_eq_toNat_cond]
  split <;> omega

lemma accessEntry_error : (∃ e, accessEntry lookup invalid entry = .error e) ↔
    Invalid lookup entry := by
  rcases entry with _ | v
  · simp [accessEntry, Invalid]
  · cases v with
    | string name =>
      rcases hl : lookup (cstr name) with i | errno
      · simp [accessEntry, accessId, Invalid, hl]
      · by_cases herr : errno = 0 <;> simp [accessEntry, accessId, Invalid, hl, herr]
    | _ => simp [accessEntry, accessId, Invalid]

lemma accessEntry_none : accessEntry lookup invalid entry = .ok none ↔ Unnamed lookup entry := by
  rcases entry with _ | v
  · simp [accessEntry, Unnamed]
  · cases v with
    | string name =>
      rcases hl : lookup (cstr name) with i | errno
      · simp [accessEntry, accessId, Unnamed, hl]
      · by_cases herr : errno = 0 <;> simp [accessEntry, accessId, Unnamed, hl, herr]
    | _ => simp [accessEntry, accessId, Unnamed]

lemma restricts_iff (h : accessEntry lookup invalid entry = .ok id) :
    Restricts lookup entry id ↔ Resolves lookup entry := by
  rcases entry with _ | v
  · cases h
    simp [Restricts, Resolves]
  · cases v with
    | string name =>
      by_cases h0 : 0 ∈ name
      · simp [Restricts, Resolves, Names, h0]
      · rw [accessEntry, accessId, cstr_of_not_mem h0] at h
        rcases hl : lookup name with i | errno
        · rw [hl] at h
          cases h
          simp [Restricts, Resolves, Names, h0, hl]
        · simp [Restricts, Resolves, Names, hl]
    | integer n =>
      cases h
      simpa [Restricts, Resolves, Names] using toUInt32_iff n
    | _ => cases h

lemma accessPaths_ok {elems : List Toml} {allowed : List Bytes}
    (h : accessPaths elems = .ok allowed)
    (k : Bytes) : k ∈ allowed ↔ .string k ∈ elems := by
  induction elems generalizing allowed with
  | nil =>
    cases h
    simp
  | cons el elems ih =>
    cases el with
    | string s =>
      obtain ⟨rest, hrest, rfl⟩ := except_map_ok.mp h
      simp [List.mem_insert_iff, ih hrest]
    | _ => cases h

lemma accessPaths_returns {elems : List Toml} : (∃ allowed, accessPaths elems = .ok allowed) ↔
    ∀ el ∈ elems, el.isString = true := by
  induction elems with
  | nil => simp [accessPaths]
  | cons el elems ih =>
    rw [List.forall_mem_cons, ← ih]
    cases el with
    | string s =>
      constructor
      · rintro ⟨allowed, h⟩
        obtain ⟨rest, hrest, -⟩ := except_map_ok.mp h
        exact ⟨rfl, rest, hrest⟩
      · rintro ⟨-, rest, hrest⟩
        exact ⟨rest.insert s, except_map_ok.mpr ⟨rest, hrest, rfl⟩⟩
    | _ => simp [accessPaths, Toml.asString, Toml.isString]

end Rules

section Table

variable {n : ℕ} {host : Host n} {tbl : TomlTable} {s s' : State}

lemma readAccessAllow_ok : (readAccessAllow host tbl).run s = (.ok (), s') ↔
    ∃ user group elems allowed,
      accessEntry host.getpwnam .invalidAllowUser (tbl.entry "user") = .ok user ∧
      accessEntry host.getgrnam .invalidAllowGroup (tbl.entry "group") = .ok group ∧
      ¬ (user = none ∧ group = none) ∧ tbl.entry "paths" = some (.array elems) ∧
      accessPaths elems = .ok allowed ∧
      { s with gAllowList := s.gAllowList ++ [⟨user, group, allowed⟩] } = s' := by
  unfold readAccessAllow
  simp only [Prog.bind_ok, Prog.ofExcept_ok, Prog.throwIf_ok]
  constructor
  · rintro ⟨user, _, ⟨huser, rfl⟩, group, _, ⟨hgroup, rfl⟩, _, _, ⟨hids, rfl⟩, h⟩
    -- `paths` has to be an array
    rcases hp : (tbl.entry "paths").bind Toml.asArray with _ | elems
    · rw [hp] at h
      cases h
    · rw [hp] at h
      obtain ⟨allowed, _, hset, h⟩ := Prog.bind_ok.mp h
      obtain ⟨hallowed, rfl⟩ := Prog.ofExcept_ok.mp hset
      obtain ⟨v, hv, harray⟩ := Option.bind_eq_some_iff.mp hp
      cases v with
      | array l =>
        cases harray
        cases h
        exact ⟨user, group, elems, allowed, huser, hgroup, hids, hv, hallowed, rfl⟩
      | _ => cases harray
  · rintro ⟨user, group, elems, allowed, huser, hgroup, hids, hpaths, hallowed, rfl⟩
    refine ⟨user, s, ⟨huser, rfl⟩, group, s, ⟨hgroup, rfl⟩, (), s, ⟨hids, rfl⟩, ?_⟩
    rw [hpaths]
    exact Prog.bind_ok.mpr ⟨allowed, s, Prog.ofExcept_ok.mpr ⟨hallowed, rfl⟩, rfl⟩

lemma readAccessAllow_atomic : Prog.Atomic (readAccessAllow host tbl) := by
  refine (Prog.readOnly_ofExcept _).bind_atomic fun user => ?_
  refine (Prog.readOnly_ofExcept _).bind_atomic fun group => ?_
  refine (Prog.readOnly_throwIf _).bind_atomic fun _ => ?_
  rcases (tbl.entry "paths").bind Toml.asArray with _ | elems
  · exact Prog.readOnly_fail.atomic
  · exact (Prog.readOnly_ofExcept _).bind_atomic fun allowed s e s' h => by cases h

lemma readAccessAllow_returns :
    ((readAccessAllow host tbl).run s).1 = .ok () ↔ ¬ Rejected host tbl := by
  have hrun : ((readAccessAllow host tbl).run s).1 = .ok () ↔
      ∃ s', (readAccessAllow host tbl).run s = (.ok (), s') :=
    ⟨fun h => ⟨_, Prod.ext h rfl⟩, fun ⟨_, h⟩ => by rw [h]⟩
  simp only [hrun, readAccessAllow_ok]
  constructor
  -- each kind of rejection is a throw of the code
  · rintro ⟨_, user, group, elems, allowed, huser, hgroup, hids, hpaths, hallowed, -⟩
    rintro (hbad | hbad | ⟨hnouser, hnogroup⟩ | hbad)
    · obtain ⟨e, he⟩ : ∃ e, accessEntry host.getpwnam .invalidAllowUser (tbl.entry "user") =
          .error e := accessEntry_error.mpr hbad
      cases huser.symm.trans he
    · obtain ⟨e, he⟩ : ∃ e, accessEntry host.getgrnam .invalidAllowGroup (tbl.entry "group") =
          .error e := accessEntry_error.mpr hbad
      cases hgroup.symm.trans he
    · refine hids ⟨?_, ?_⟩
      · exact Except.ok.inj (huser.symm.trans (accessEntry_none.mpr hnouser))
      · exact Except.ok.inj (hgroup.symm.trans (accessEntry_none.mpr hnogroup))
    · exact hbad ⟨elems, hpaths, accessPaths_returns.mp ⟨allowed, hallowed⟩⟩
  · intro h
    simp only [Rejected, not_or, not_not] at h
    obtain ⟨huser, hgroup, hids, elems, hpaths, hstrings⟩ := h
    obtain ⟨allowed, hallowed⟩ := accessPaths_returns.mpr hstrings
    rcases hu : accessEntry host.getpwnam .invalidAllowUser (tbl.entry "user") with e | user
    · exact absurd (accessEntry_error.mp ⟨e, hu⟩) huser
    rcases hg : accessEntry host.getgrnam .invalidAllowGroup (tbl.entry "group") with e | group
    · exact absurd (accessEntry_error.mp ⟨e, hg⟩) hgroup
    refine ⟨_, user, group, elems, allowed, rfl, rfl, ?_, hpaths, hallowed, rfl⟩
    rintro ⟨rfl, rfl⟩
    exact hids ⟨accessEntry_none.mp hu, accessEntry_none.mp hg⟩

/-- **Access rules**: a rule is as it is written if each of the two entries is an id, or if the
table is rejected anyway. -/
theorem readAccessAllow_exact_iff (host : Host n) (tbl : TomlTable) (s : State) :
    ExactRule host tbl s ((readAccessAllow host tbl).run s) ↔
      (Resolves host.getpwnam (tbl.entry "user") ∧ Resolves host.getgrnam (tbl.entry "group")) ∨
        Rejected host tbl := by
  by_cases hret : ((readAccessAllow host tbl).run s).1 = .ok ()
  · have hnot := readAccessAllow_returns.mp hret
    have hrun : (readAccessAllow host tbl).run s =
        (.ok (), ((readAccessAllow host tbl).run s).2) := Prod.ext hret rfl
    obtain ⟨user, group, elems, allowed, huser, hgroup, -, hpaths, hallowed, hs⟩ :=
      readAccessAllow_ok.mp hrun
    rw [hrun, ← hs]
    constructor
    · intro h
      obtain ⟨desc, happ, hu, hg, -⟩ := h.accepted rfl
      obtain rfl := List.singleton_inj.mp (List.append_cancel_left happ)
      exact .inl ⟨(restricts_iff huser).mp hu, (restricts_iff hgroup).mp hg⟩
    -- the rule that is appended is the one that was read
    · rintro (⟨hu, hg⟩ | hrejected)
      · exact ⟨fun _ => ⟨_, rfl, (restricts_iff huser).mpr hu, (restricts_iff hgroup).mpr hg,
          elems, hpaths, accessPaths_ok hallowed⟩, fun h => absurd rfl h⟩
      · exact absurd hrejected hnot
  · refine ⟨fun _ => .inr (not_not.mp fun h => hret (readAccessAllow_returns.mpr h)), fun _ => ?_⟩
    refine ⟨fun h => absurd h hret, fun _ => ?_⟩
    rcases hrun : (readAccessAllow host tbl).run s with ⟨e | u, s'⟩
    · exact readAccessAllow_atomic _ _ _ hrun
    · rw [hrun] at hret
      exact absurd rfl hret

/-- A host without files, with the user `root` and no groups. -/
def rootOnly : Host 0 where
  node := fun i => i.elim0
  resolve _ := .ok none
  getpwnam name := if name = ascii "root" then .found 0 else .null 0
  getgrnam _ := .null 0
  intValue _ := none

/-- The user `root` if in the group `wheel` may access the key `a`. -/
def rootInWheel : TomlTable :=
  [(ascii "user", .string (ascii "root")), (ascii "group", .string (ascii "wheel")),
    (ascii "paths", .array [.string (ascii "a")])]

/-- A group that does not exist does not restrict anything. -/
theorem unknown_group_ignored : ¬ ∀ (tbl : TomlTable) (s : State),
    ExactRule rootOnly tbl s ((readAccessAllow rootOnly tbl).run s) := by
  intro h
  obtain ⟨desc, happ, -, hgroup, -⟩ := (h rootInWheel .init).accepted rfl
  have hdesc : (⟨some 0, none, [ascii "a"]⟩ : AccessDescriptor) = desc := by
    have hlist : ([⟨some 0, none, [ascii "a"]⟩] : List AccessDescriptor) = [] ++ [desc] := happ
    exact List.singleton_inj.mp hlist
  obtain ⟨i, hi, -⟩ := hgroup
  rw [← hdesc] at hi
  cases hi

end Table

end Sativa.Config
