import Sativa.AccessRules
import Sativa.Rules
import Mathlib.Data.List.Perm.Subperm
import Mathlib.Data.List.FinRange

/-!
`Config::Read` terminates.

Whatever the includes are, every call of `Read` that gets past the check adds a path string, and
there are only as many as the documents and directories can form.
-/

namespace Sativa.Config

open Sativa Prog

/-! ### The trace -/

/-- The paths that `Read` was called with. -/
def reads (trace : List Event) : List Bytes := trace.filterMap fun
  | .read path => some path
  | _ => none

/-- The paths that `toml::parse_file` was called with. -/
def parses (trace : List Event) : List Bytes := trace.filterMap fun
  | .parse path => some path
  | _ => none

/-- Paths and positions of the entries of `access.allow` that were appended. -/
def allows (trace : List Event) : List (Bytes × ℕ) := trace.filterMap fun
  | .allow path index => some (path, index)
  | _ => none

section Trace

variable (trace : List Event) (path : Bytes) (index : ℕ)

@[simp] lemma reads_read : reads (trace ++ [.read path]) = reads trace ++ [path] := by simp [reads]
@[simp] lemma reads_parse : reads (trace ++ [.parse path]) = reads trace := by simp [reads]
@[simp] lemma reads_allow : reads (trace ++ [.allow path index]) = reads trace := by simp [reads]
@[simp] lemma parses_read : parses (trace ++ [.read path]) = parses trace := by simp [parses]
@[simp] lemma parses_parse : parses (trace ++ [.parse path]) = parses trace ++ [path] := by
  simp [parses]
@[simp] lemma parses_allow : parses (trace ++ [.allow path index]) = parses trace := by
  simp [parses]
@[simp] lemma allows_read : allows (trace ++ [.read path]) = allows trace := by simp [allows]
@[simp] lemma allows_parse : allows (trace ++ [.parse path]) = allows trace := by simp [allows]
@[simp] lemma allows_allow :
    allows (trace ++ [.allow path index]) = allows trace ++ [(path, index)] := by simp [allows]

end Trace

/-! ### The paths that includes can form -/

section Paths

variable {n : ℕ} (host : Host n)

/-- The literals of the `include` directives of a document. -/
def includeLiterals (tbl : TomlTable) : List Bytes :=
  ((((tbl.entry "include").bind Toml.asArray).getD []).filterMap Toml.asTable).map
    fun directive => directive.stringOrEmpty "path"

/-- The paths in an included directory. -/
def joinedPaths (dir : Bytes) : List Bytes :=
  match host.resolve dir with
  | .ok (some i) => if (host.node i).type = .directory
      then ((host.node i).entries.toOption.getD []).map (pathAppend dir) else []
  | _ => []

/-- The paths that the includes of a document can form. -/
def includedPaths (tbl : TomlTable) : List Bytes :=
  (includeLiterals tbl).flatMap fun path => path :: joinedPaths host path

/-- The path of the root, the literals of all documents, and included directories joined with
their entries, without repetitions. -/
def pathStrings (root : Bytes) : List Bytes :=
  (root :: (List.finRange n).flatMap fun i =>
    (host.node i).toml.elim [] (includedPaths host)).dedup

variable {host} {root path : Bytes} {tbl : TomlTable}

lemma root_mem_pathStrings : root ∈ pathStrings host root := by simp [pathStrings]

lemma mem_pathStrings (h : tableAt host path = some tbl) {p : Bytes}
    (hp : p ∈ includedPaths host tbl) : p ∈ pathStrings host root := by
  rw [pathStrings, List.mem_dedup]
  refine List.mem_cons_of_mem _ (List.mem_flatMap.mpr ?_)
  rcases hr : host.resolve path with e | _ | i
  · simp [tableAt, hr] at h
  · simp [tableAt, hr] at h
  · simp only [tableAt, hr] at h
    exact ⟨i, List.mem_finRange i, by rw [h]; exact hp⟩

end Paths

/-! ### Rules for the parts of `Read` -/

/-- Not thrown by the check for recursion, and not for want of fuel. -/
def ConfigError.isPlain : ConfigError → Bool
  | .recursionDetected _ | .outOfFuel => false
  | _ => true

/-- The assertion is one about the opened files, the allow list and the trace. -/
def OfFiles (I : State → Prop) : Prop :=
  ∀ s s', s'.gOpenedFiles = s.gOpenedFiles → s'.gAllowList = s.gAllowList → s'.trace = s.trace →
    I s → I s'

/-- The assertion is one about the opened files, and what was read and parsed. -/
def OfReads (I : State → Prop) : Prop :=
  ∀ s s', s'.gOpenedFiles = s.gOpenedFiles → reads s'.trace = reads s.trace →
    parses s'.trace = parses s.trace → I s → I s'

lemma OfReads.ofFiles {I : State → Prop} (h : OfReads I) : OfFiles I :=
  fun s s' hopened _ htrace => h s s' hopened (by rw [htrace]) (by rw [htrace])

section Parts

variable {n : ℕ} {host : Host n} {I : State → Prop} {tbl : TomlTable} {path : Bytes}

/-- After an error that is not about recursion, `I` holds. -/
abbrev Failed (I : State → Prop) (e : ConfigError) (s : State) : Prop := e.isPlain = true ∧ I s

lemma throwIf_keeps {c : Prop} [Decidable c] {e : ConfigError} (he : e.isPlain = true) :
    Keeps I (throwIf c e) (Failed I) :=
  .throwIf (fun _ hs _ => ⟨he, hs⟩) fun _ hs _ => hs

lemma status_keeps : Keeps I (status host path) (Failed I) := by
  refine Ensures.ofExcept (fun _ _ hs _ => hs) fun e s hs he => ⟨?_, hs⟩
  rcases hr : host.resolve path with code | node
  · rw [hr] at he
    cases he
    rfl
  · rw [hr] at he
    cases he

lemma isDirectory_keeps : Keeps I (isDirectory host path) (Failed I) :=
  status_keeps.bind fun _ => .pure fun _ hs => hs

lemma readRpc_keeps (hI : OfFiles I) : Keeps I (readRpc host tbl) (Failed I) := by
  refine (throwIf_keeps rfl).bind fun _ => ?_
  refine Ensures.bind (Q := fun _ => I) (.modify fun s hs => hI s _ rfl rfl rfl hs) fun _ => ?_
  exact .when (fun _ => .modify fun s hs => hI s _ rfl rfl rfl hs) fun s hs _ => hs

lemma readStorage_keeps (hI : OfFiles I) : Keeps I (readStorage host tbl) (Failed I) := by
  refine Ensures.bind (Q := fun _ => I) (.modify fun s hs => hI s _ rfl rfl rfl hs) fun _ => ?_
  refine isDirectory_keeps.bind fun _ => ?_
  refine (throwIf_keeps rfl).bind fun _ => ?_
  refine (throwIf_keeps rfl).bind fun _ => ?_
  exact .modify fun s hs => hI s _ rfl rfl rfl hs

lemma accessEntry_plain {lookup : Bytes → Lookup} {invalid e : ConfigError} {entry : Option Toml}
    (hinvalid : invalid.isPlain = true) (h : accessEntry lookup invalid entry = .error e) :
    e.isPlain = true := by
  rcases entry with _ | v
  · cases h
  · cases v with
    | string name =>
      rcases hl : lookup (cstr name) with i | errno
      · simp [accessEntry, accessId, hl] at h
      · by_cases herr : errno = 0
        · simp [accessEntry, accessId, hl, herr] at h
        · simp only [accessEntry, accessId, hl, ne_eq, herr, not_false_eq_true, if_true] at h
          cases h
          rfl
    | integer n => cases h
    | _ => cases h; exact hinvalid

lemma accessPaths_plain {elems : List Toml} {e : ConfigError} (h : accessPaths elems = .error e) :
    e.isPlain = true := by
  induction elems with
  | nil => cases h
  | cons el elems ih =>
    cases el with
    | string s =>
      rcases hr : accessPaths elems with e' | allowed
      · simp only [accessPaths, Toml.asString, hr] at h
        cases h
        exact ih hr
      · simp only [accessPaths, Toml.asString, hr] at h
        cases h
    | _ => cases h; rfl

lemma readAccessAllow_ensures {Q : State → Prop}
    (h : ∀ s desc, I s → Q { s with gAllowList := s.gAllowList ++ [desc] }) :
    Ensures I (readAccessAllow host tbl) (fun _ => Q) (Failed I) := by
  refine Ensures.bind (Q := fun _ => I) (.ofExcept (fun _ _ hs _ => hs) fun e s hs he => ?_)
    fun user => ?_
  · exact ⟨accessEntry_plain (rfl) he, hs⟩
  refine Ensures.bind (Q := fun _ => I) (.ofExcept (fun _ _ hs _ => hs) fun e s hs he => ?_)
    fun group => ?_
  · exact ⟨accessEntry_plain (rfl) he, hs⟩
  refine (throwIf_keeps rfl).bind fun _ => ?_
  rcases (tbl.entry "paths").bind Toml.asArray with _ | elems
  · exact .fail fun s hs => ⟨rfl, hs⟩
  refine Ensures.bind (Q := fun _ => I) (.ofExcept (fun _ _ hs _ => hs) fun e s hs he => ?_)
    fun allowed => ?_
  · exact ⟨accessPaths_plain he, hs⟩
  exact .modify fun s hs => h s _ hs

lemma readAccess_ensures {J : ℕ → State → Prop} (hJ : ∀ m s desc, J m s →
      J (m + 1) { s with gAllowList := s.gAllowList ++ [desc],
                         trace := s.trace ++ [.allow path m] }) :
    Ensures (J 0) (readAccess host path tbl) (fun _ s => ∃ m, J m s)
      (Failed fun s => ∃ m, J m s) := by
  unfold readAccess
  rcases tbl.entry "allow" with _ | accesses
  · exact .pure fun s hs => ⟨0, hs⟩
  refine Ensures.bind (Q := fun _ => J 0) (.throwIf (fun s hs _ => ⟨rfl, 0, hs⟩)
    fun s hs _ => hs) fun _ => ?_
  refine (Ensures.forM_zipIdx (I := J) 0 fun el m => ?_).weaken (fun _ h => h)
    (fun _ s hs => ⟨_, hs⟩) fun _ _ h => h
  dsimp only
  rcases el.asTable with _ | entry
  · exact .fail fun s hs => ⟨rfl, m, hs⟩
  refine Ensures.bind (Q := fun _ s => J (m + 1) { s with trace := s.trace ++ [.allow path m] })
    ?_ fun _ => .modify fun s hs => hs
  exact (readAccessAllow_ensures fun s desc hs => hJ m s desc hs).weaken (fun _ h => h)
    (fun _ _ h => h) fun e s h => ⟨h.1, m, h.2⟩

lemma readAccess_keeps (hI : OfReads I) : Keeps I (readAccess host path tbl) (Failed I) := by
  refine (readAccess_ensures (J := fun _ => I) fun m s desc hs => ?_).weaken (fun _ h => h)
    (fun _ _ ⟨_, hs⟩ => hs) fun _ _ ⟨hplain, _, hs⟩ => ⟨hplain, hs⟩
  exact hI s _ rfl (reads_allow ..) (parses_allow ..) hs

lemma readSection_ensures {key : String} {invalid : ConfigError} {missing : Option ConfigError}
    {part : TomlTable → ConfigProg Unit} {P Q : State → Prop} {E : ConfigError → State → Prop}
    (hpart : ∀ t, Ensures P (part t) (fun _ => Q) E) (hnone : ∀ s, P s → Q s)
    (hinvalid : ∀ s, P s → E invalid s) (hmissing : ∀ e s, missing = some e → P s → E e s) :
    Ensures P (readSection tbl key invalid missing part) (fun _ => Q) E := by
  unfold readSection
  rcases tbl.entry key with _ | v
  · rcases missing with _ | e
    · exact .pure hnone
    · exact .fail fun s hs => hmissing e s rfl hs
  · dsimp only
    rcases v.asTable with _ | t
    · exact .fail hinvalid
    · exact hpart t

variable {rd : Bytes → ConfigProg Unit} {E : ConfigError → State → Prop}

lemma directoryEntries_ensures
    (hdir : ∃ i, host.resolve path = .ok (some i) ∧ (host.node i).type = .directory) :
    Ensures I (directoryEntries host path)
      (fun names s => I s ∧ ∀ name ∈ names, pathAppend path name ∈ joinedPaths host path)
      (Failed I) := by
  obtain ⟨i, hi, htype⟩ := hdir
  refine Ensures.ofExcept (fun names s hs h => ⟨hs, fun name hname => ?_⟩)
    fun e s hs h => ⟨?_, hs⟩
  · rw [hi] at h
    rcases hentries : (host.node i).entries with code | l
    · simp only [hentries] at h
      cases h
    · simp only [hentries] at h
      cases h
      simp only [joinedPaths, hi, htype, hentries, if_true]
      exact List.mem_map_of_mem hname
  · rw [hi] at h
    rcases hentries : (host.node i).entries with code | l
    · simp only [hentries] at h
      cases h
      rfl
    · simp only [hentries] at h
      cases h

lemma processIncludeDirectory_keeps (hE : ∀ e s, Failed I e s → E e s)
    (hdir : ∃ i, host.resolve path = .ok (some i) ∧ (host.node i).type = .directory)
    (hread : ∀ p ∈ joinedPaths host path, Keeps I (rd p) E) :
    Keeps I (processIncludeDirectory host rd path) E := by
  refine ((directoryEntries_ensures hdir).weaken (fun _ h => h) (fun _ _ h => h) hE).bind_fact
    fun names hnames => ?_
  refine .forM fun name hname => ?_
  refine (status_keeps.weaken (fun _ h => h) (fun _ _ h => h) hE).bind fun type => ?_
  exact .when (fun _ => hread _ (hnames name hname)) fun s hs _ => hs

lemma readInclude_keeps (hE : ∀ e s, Failed I e s → E e s)
    (hread : ∀ p ∈ tbl.stringOrEmpty "path" :: joinedPaths host (tbl.stringOrEmpty "path"),
      Keeps I (rd p) E) :
    Keeps I (readInclude host rd tbl) E := by
  unfold readInclude
  generalize tbl.stringOrEmpty "path" = path at hread
  have hkeep : ∀ {α : Type} {x : ConfigProg α}, Keeps I x (Failed I) → Keeps I x E :=
    fun h => h.weaken (fun _ h => h) (fun _ _ h => h) hE
  refine (hkeep (throwIf_keeps rfl)).bind fun _ => ?_
  refine (hkeep status_keeps).bind fun type => ?_
  refine (hkeep (throwIf_keeps rfl)).bind fun _ => ?_
  -- a directory has a node
  have hisdir : Ensures I (isDirectory host path) (fun b s => I s ∧ (b = true →
      ∃ i, host.resolve path = .ok (some i) ∧ (host.node i).type = .directory)) E := by
    refine Ensures.bind_fact (Q := fun _ => I)
      (φ := fun type => type = some .directory →
        ∃ i, host.resolve path = .ok (some i) ∧ (host.node i).type = .directory) ?_
      fun type htype => .pure fun s hs => ⟨hs, by simpa using htype⟩
    refine .ofExcept (fun type s hs h => ⟨hs, fun ht => ?_⟩) fun e s hs h => ?_
    · rcases hr : host.resolve path with code | _ | i <;> rw [hr] at h <;> cases h
      · cases ht
      · exact ⟨i, rfl, Option.some.inj ht⟩
    · rcases hr : host.resolve path with code | node <;> rw [hr] at h <;> cases h
      exact hE _ _ ⟨rfl, hs⟩
  refine hisdir.bind_fact fun b hb => ?_
  split
  · next h => exact processIncludeDirectory_keeps hE (hb h) fun p hp => hread p (by simp [hp])
  · exact hread path (by simp)

lemma readIncludes_keeps (hE : ∀ e s, Failed I e s → E e s)
    (hread : ∀ p ∈ includedPaths host tbl, Keeps I (rd p) E) :
    Keeps I (readIncludes host rd tbl) E := by
  unfold readIncludes
  rcases hincludes : tbl.entry "include" with _ | includes
  · exact .pure fun s hs => hs
  refine Ensures.bind (Q := fun _ => I) (.throwIf (fun s hs _ => hE _ _ ⟨rfl, hs⟩)
    fun s hs _ => hs) fun _ => ?_
  refine .forM fun directive hdirective => ?_
  rcases ht : directive.asTable with _ | t
  · exact .fail fun s hs => hE _ _ ⟨rfl, hs⟩
  refine readInclude_keeps hE fun p hp => hread p ?_
  refine List.mem_flatMap.mpr ⟨t.stringOrEmpty "path", ?_, hp⟩
  refine List.mem_map.mpr ⟨t, List.mem_filterMap.mpr ⟨directive, ?_, ht⟩, rfl⟩
  rw [hincludes]
  exact hdirective

/-- What the sections of a document keep. `J` is what holds before the descriptors of the document
are appended. -/
lemma readSections_ensures {J : State → Prop} {isRoot : Bool} (hJ : OfFiles J)
    (hJI : ∀ s, J s → I s)
    (haccess : ∀ t, Ensures J (readAccess host path t) (fun _ => I) (Failed I)) :
    Ensures J (readSections host path isRoot tbl) (fun _ => I) (Failed I) := by
  have hJE : ∀ e s, Failed J e s → Failed I e s := fun _ _ h => ⟨h.1, hJI _ h.2⟩
  have hmissing : ∀ {e m : ConfigError} {s : State}, m.isPlain = true →
      (if isRoot = true then some m else none) = some e → J s → Failed I e s := by
    intro e m s hm he hs
    split at he
    · cases he
      exact ⟨hm, hJI _ hs⟩
    · cases he
  refine (readSection_ensures (Q := J) (fun t => (readRpc_keeps hJ).weaken (fun _ h => h)
    (fun _ _ h => h) hJE) (fun _ h => h) (fun s hs => ⟨rfl, hJI s hs⟩)
    fun e s he hs => hmissing rfl he hs).bind fun _ => ?_
  refine (readSection_ensures (Q := J) (fun t => (readStorage_keeps hJ).weaken (fun _ h => h)
    (fun _ _ h => h) hJE) (fun _ h => h) (fun s hs => ⟨rfl, hJI s hs⟩)
    fun e s he hs => hmissing rfl he hs).bind fun _ => ?_
  exact readSection_ensures haccess hJI (fun s hs => ⟨rfl, hJI s hs⟩) fun e s he hs => by cases he

lemma readSections_keeps {isRoot : Bool} (hI : OfReads I) :
    Keeps I (readSections host path isRoot tbl) (Failed I) :=
  readSections_ensures hI.ofFiles (fun _ h => h) fun _ => readAccess_keeps hI

/-! Two ways to read the included files that agree make two ways to read a document that agree. -/

variable {rd' : Bytes → ConfigProg Unit} {B : State → Prop} {Stop : ConfigError → State → Prop}

lemma readInclude_agrees (hread : ∀ p, Agrees I B Stop (rd p) (rd' p))
    (hb : ∀ p, Keeps B (rd p) fun _ => B) :
    Agrees I B Stop (readInclude host rd tbl) (readInclude host rd' tbl) := by
  have hany : ∀ {α : Type} {x : ConfigProg α}, Keeps I x (Failed I) →
      Keeps I x fun _ _ => True :=
    fun h => h.weaken (fun _ h => h) (fun _ _ h => h) fun _ _ _ => True.intro
  refine Agrees.bind_left (hany (throwIf_keeps rfl)) fun _ => ?_
  refine Agrees.bind_left (hany status_keeps) fun _ => ?_
  refine Agrees.bind_left (hany (throwIf_keeps rfl)) fun _ => ?_
  refine Agrees.bind_left (hany isDirectory_keeps) fun _ => ?_
  refine Agrees.ite ?_ (hread _)
  refine Agrees.bind_left (.ofExcept (fun _ _ hs _ => hs) fun _ _ _ _ => True.intro) fun names => ?_
  refine Agrees.forM (fun name => ?_) fun name => ?_
  · exact Agrees.bind_left (hany status_keeps) fun _ => (hread _).when
  · refine (status_keeps.weaken (fun _ h => h) (fun _ _ h => h) fun _ _ h => h.2).bind fun _ => ?_
    exact .when (fun _ => hb _) fun _ hs _ => hs

lemma readIncludes_agrees (hread : ∀ p, Agrees I B Stop (rd p) (rd' p))
    (hb : ∀ p, Keeps B (rd p) fun _ => B) :
    Agrees I B Stop (readIncludes host rd tbl) (readIncludes host rd' tbl) := by
  unfold readIncludes
  rcases tbl.entry "include" with _ | includes
  · exact .refl (.pure fun _ hs => hs)
  refine Agrees.bind_left (.throwIf (fun _ _ _ => True.intro) fun _ hs _ => hs) fun _ => ?_
  refine Agrees.forM (fun directive => ?_) fun directive => ?_
  · rcases directive.asTable with _ | t
    · exact .refl (.fail fun _ _ => True.intro)
    · exact readInclude_agrees hread hb
  · rcases directive.asTable with _ | t
    · exact .fail fun _ hs => hs
    · exact readInclude_keeps (fun _ _ h => h.2) fun p _ => hb p

end Parts

/-! ### Every call of `Read` uses up a path -/

/-- After the check, before the keys of the document are read. -/
def State.opening (s : State) (path : Bytes) : State :=
  { s with
    gOpenedFiles := s.gOpenedFiles ++ [path]
    trace := s.trace ++ [.read path] ++ [.parse path] }

/-- Between calls of `Read`: what was parsed are the opened files, which are among `S`, and at most
`k` of these are left. -/
structure Opened (S : List Bytes) (k : ℕ) (s : State) : Prop where
  reads : reads s.trace = s.gOpenedFiles
  parses : parses s.trace = s.gOpenedFiles
  nodup : s.gOpenedFiles.Nodup
  subset : s.gOpenedFiles ⊆ S
  room : S.length ≤ s.gOpenedFiles.length + k

/-- The same after an error, which is the one of the last call if that was not let past. -/
structure Thrown (S : List Bytes) (e : ConfigError) (s : State) : Prop where
  fuel : e ≠ .outOfFuel
  reads : (e.isPlain = true ∧ reads s.trace = s.gOpenedFiles) ∨ ∃ p ∈ s.gOpenedFiles,
    e = .recursionDetected p ∧ reads s.trace = s.gOpenedFiles ++ [p]
  parses : parses s.trace = s.gOpenedFiles
  nodup : s.gOpenedFiles.Nodup
  subset : s.gOpenedFiles ⊆ S

section Termination

variable {n : ℕ} {host : Host n} {S : List Bytes} {k : ℕ} {s : State} {path root : Bytes}
  {isRoot : Bool}

lemma checked_run {c : Prop} [Decidable c] (rd : Bytes → ConfigProg Unit) :
    (throwIf c (.recursionDetected path) >>= fun _ => readFile host rd path isRoot).run
        { s with trace := s.trace ++ [.read path] } =
      if c then (.error (.recursionDetected path), { s with trace := s.trace ++ [.read path] })
      else match tableAt host path with
        | none => (.error .parseError, s.opening path)
        | some tbl => (readSections host path isRoot tbl >>= fun _ =>
            readIncludes host rd tbl).run (s.opening path) := by
  split
  · next hseen =>
    rw [throwIf_pos hseen]
    rfl
  · next hnew =>
    rw [throwIf_neg hnew]
    change (readFile host rd path isRoot).run _ = _
    simp only [readFile, parseFile, record, bind_assoc, run_bind, run_modify]
    rcases tableAt host path with _ | tbl <;> rfl

lemma read_succ (fuel : ℕ) : (read host (fuel + 1) path isRoot).run s =
    if path ∈ s.gOpenedFiles then
      (.error (.recursionDetected path), { s with trace := s.trace ++ [.read path] })
    else match tableAt host path with
      | none => (.error .parseError, s.opening path)
      | some tbl => (readSections host path isRoot tbl >>= fun _ =>
          readIncludes host (fun p => read host fuel p false) tbl).run (s.opening path) :=
  checked_run _

lemma Opened.thrown (h : Opened S k s) {e : ConfigError} (he : e.isPlain = true) :
    Thrown S e s :=
  { fuel := fun hfuel => by rw [hfuel] at he; cases he
    reads := .inl ⟨he, h.reads⟩
    parses := h.parses
    nodup := h.nodup
    subset := h.subset }

lemma opened_ofReads : OfReads (Opened S k) := by
  intro s s' hopened hreads hparses h
  exact ⟨by rw [hreads, hopened, h.reads], by rw [hparses, hopened, h.parses],
    by rw [hopened]; exact h.nodup, by rw [hopened]; exact h.subset,
    by rw [hopened]; exact h.room⟩

lemma Opened.opening (h : Opened S k s) (hnew : path ∉ s.gOpenedFiles) (hmem : path ∈ S) :
    0 < k ∧ Opened S (k - 1) (s.opening path) := by
  have hnodup : (s.gOpenedFiles ++ [path]).Nodup :=
    List.nodup_append.mpr ⟨h.nodup, by simp, fun a ha b hb => by
      rintro rfl
      rw [List.mem_singleton.mp hb] at ha
      exact hnew ha⟩
  have hsubset : s.gOpenedFiles ++ [path] ⊆ S := by
    rw [List.append_subset]
    exact ⟨h.subset, by simpa using hmem⟩
  have hlength := (hnodup.subperm hsubset).length_le
  have hroom := h.room
  rw [List.length_append, List.length_singleton] at hlength
  refine ⟨by omega, ?_, ?_, hnodup, hsubset, ?_⟩
  · simp only [State.opening, reads_parse, reads_read, h.reads]
  · simp only [State.opening, parses_parse, parses_read, h.parses]
  · simp only [State.opening, List.length_append, List.length_singleton]
    omega

/-- With fuel for all the paths that are left, `Read` ends. -/
lemma read_keeps (fuel : ℕ) : ∀ (k : ℕ) (path : Bytes) (isRoot : Bool), k < fuel →
    path ∈ pathStrings host root →
      Keeps (Opened (pathStrings host root) k) (read host fuel path isRoot)
        (Thrown (pathStrings host root)) := by
  induction fuel with
  | zero => exact fun k _ _ hk => absurd hk (Nat.not_lt_zero k)
  | succ fuel ih =>
    intro k path isRoot hk hmem s hs
    rw [read_succ]
    split
    · next hseen =>
      exact ⟨by simp, .inr ⟨path, hseen, rfl, by simp [hs.reads]⟩, by simpa using hs.parses,
        hs.nodup, hs.subset⟩
    · next hnew =>
      -- a new path takes one of the `k` that are left, and one of the fuel
      obtain ⟨hpos, hopening⟩ := hs.opening hnew hmem
      rcases htbl : tableAt host path with _ | tbl
      · exact hopening.thrown rfl
      have hfailed : ∀ e s, Failed (Opened (pathStrings host root) (k - 1)) e s →
          Thrown (pathStrings host root) e s := fun _ _ h => h.2.thrown h.1
      have hincluded : ∀ p ∈ includedPaths host tbl,
          Keeps (Opened (pathStrings host root) (k - 1)) (read host fuel p false)
            (Thrown (pathStrings host root)) := fun p hp =>
        ih (k - 1) p false (by omega) (mem_pathStrings htbl hp)
      have hsections : Keeps (Opened (pathStrings host root) (k - 1))
          (readSections host path isRoot tbl) (Thrown (pathStrings host root)) :=
        (readSections_keeps opened_ofReads).weaken (fun _ h => h) (fun _ _ h => h) hfailed
      refine (hsections.bind fun _ => readIncludes_keeps hfailed hincluded).weaken (fun _ h => h)
        (fun _ s h => ?_) (fun _ _ h => h) _ hopening
      exact ⟨h.reads, h.parses, h.nodup, h.subset, by have := h.room; omega⟩

/-- More fuel changes nothing, unless there was too little. -/
lemma read_agrees (host : Host n) (fuel : ℕ) : ∀ (path : Bytes) (isRoot : Bool),
    Agrees (fun _ => True) (fun _ => True) (fun e _ => e = .outOfFuel)
      (read host (fuel + 1) path isRoot) (read host fuel path isRoot) := by
  induction fuel with
  | zero => exact fun _ _ _ _ => .inr ⟨True.intro, rfl⟩
  | succ fuel ih =>
    intro path isRoot s _
    rw [read_succ, read_succ]
    split
    · exact .inl ⟨rfl, True.intro⟩
    rcases tableAt host path with _ | tbl
    · exact .inl ⟨rfl, True.intro⟩
    · exact Agrees.bind_left .trivial (fun _ => readIncludes_agrees (fun p => ih p false)
        fun _ => .trivial) _ True.intro

lemma read_more {fuel : ℕ} (h : ((read host fuel path isRoot).run s).1 ≠ .error .outOfFuel)
    (more : ℕ) : (read host (fuel + more) path isRoot).run s =
      (read host fuel path isRoot).run s := by
  induction more with
  | zero => rfl
  | succ more ih =>
    rcases read_agrees host (fuel + more) path isRoot s True.intro with h' | ⟨-, hstop⟩
    · exact h'.1.trans ih
    · rw [ih] at hstop
      rcases hr : (read host fuel path isRoot).run s with ⟨e | ⟨⟩, s'⟩ <;> rw [hr] at h hstop
      · obtain rfl : e = .outOfFuel := hstop
        exact absurd rfl h
      · exact hstop.elim

lemma opened_init : Opened S S.length .init :=
  ⟨rfl, rfl, List.nodup_nil, List.nil_subset _, by simp⟩

/-- `Read` of the root file, when nothing was read before. -/
def readRoot (host : Host n) (root : Bytes) : Except ConfigError Unit × State :=
  (read host ((pathStrings host root).length + 1) root true).run .init

lemma readRoot_post (host : Host n) (root : Bytes) :
    Post (fun _ => Opened (pathStrings host root) (pathStrings host root).length)
      (Thrown (pathStrings host root)) (readRoot host root) :=
  read_keeps _ _ root true (Nat.lt_succ_self _) root_mem_pathStrings _ opened_init

lemma readRoot_ends (host : Host n) (root : Bytes) :
    (readRoot host root).1 ≠ .error .outOfFuel := by
  have hpost := readRoot_post host root
  intro hfuel
  rcases hr : readRoot host root with ⟨e | ⟨⟩, s⟩ <;> rw [hr] at hpost hfuel <;> cases hfuel
  exact hpost.fuel rfl

/-- **Termination**: with fuel for every path string `Read` returns or throws, after at most as
many parses; more fuel changes nothing. -/
theorem read_terminates (host : Host n) (root : Bytes) (more : ℕ) :
    (read host ((pathStrings host root).length + 1 + more) root true).run .init =
        readRoot host root ∧
      (readRoot host root).1 ≠ .error .outOfFuel ∧
      (parses (readRoot host root).2.trace).length ≤ (pathStrings host root).length ∧
      (reads (readRoot host root).2.trace).length ≤ (pathStrings host root).length + 1 := by
  have hpost := readRoot_post host root
  have hends := readRoot_ends host root
  refine ⟨read_more hends more, hends, ?_⟩
  rcases hr : readRoot host root with ⟨e | ⟨⟩, s⟩ <;> rw [hr] at hpost
  · have hlength := (hpost.nodup.subperm hpost.subset).length_le
    rw [hpost.parses]
    refine ⟨hlength, ?_⟩
    rcases hpost.reads with ⟨-, hreads⟩ | ⟨p, -, -, hreads⟩ <;> simp only [hreads]
    · exact hlength.trans (Nat.le_succ _)
    · simpa using hlength
  · have hlength := (hpost.nodup.subperm hpost.subset).length_le
    rw [hpost.parses, hpost.reads]
    exact ⟨hlength, hlength.trans (Nat.le_succ _)⟩

end Termination

end Sativa.Config
