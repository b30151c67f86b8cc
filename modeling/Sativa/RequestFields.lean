import Mathlib.Data.List.Induction
import Sativa.RpcServe

/-!
Which entries of a request are taken for its fields.

A key is compared with the name of a field by `strncmp`, up to the length of the key. So a key
that the name begins with is taken for the name, and so is the name followed by a NUL. An
indefinite key has the length `0` and is taken for every name. A loop stops at the first entry it
refuses, so this matters for the entries up to that one.
-/

namespace Sativa.RpcServer

open Sativa Sativa.Cbor Sativa.Store

/-- An entry of a request, with the memory behind the text of its value. -/
structure Entry where
  key : Item
  value : Item
  behind : Bytes

/-- The text of a text string, definite or not. -/
def wholeText? : Item → Option Bytes
  | .string b => some b
  | .stringIndef chunks => some chunks.flatten
  | _ => none

/-- The loop that looks for the field hands the value of the entry on. -/
def Entry.Handled (e : Entry) (field : Bytes) : Prop :=
  scanFields field (fun _ _ _ => .ok true) 0 [(e.key, e.value)] false = .ok true

/-- The two requests. -/
inductive Kind
  | query
  | update

/-- The loops over the entries: for the name, for the flag of a query and for the value of an
update. -/
inductive Loop
  | key
  | forceFloat
  | value

def Loop.field : Loop → Bytes
  | key => ascii "key"
  | forceFloat => ascii "forceFloat"
  | value => ascii "value"

/-- The loop that comes after the one for the name. -/
def Kind.second : Kind → Loop
  | query => .forceFloat
  | update => .value

/-- What the handler of the request looks for. -/
def Kind.fields (kind : Kind) : List Bytes := [Loop.key.field, kind.second.field]

def pairsOf (es : List Entry) : List (Item × Item) := es.map fun e => (e.key, e.value)

def heapOf (es : List Entry) (i : ℕ) : Bytes := (es.map Entry.behind).getD i []

def Kind.decode (es : List Entry) : Kind → Except RpcError Request
  | query => decodeQuery (.map (pairsOf es))
  | update => decodeUpdate (heapOf es) (.map (pairsOf es))

/-- What becomes of a request, if it is accepted: its name and flags or value, the reply, and the
store after it. -/
def Kind.respond (kind : Kind) (sql : SqlEnv) (db : Db) (es : List Entry) :
    Option (Request × List (Item × Item) × Db) :=
  (kind.decode es).toOption.bind fun request =>
    (request.perform sql db).toOption.map (Prod.mk request)

/-- A loop of the handler gets through the first entries of the request, and to the one behind
them. -/
inductive Gets (es : List Entry) : Kind → Loop → List Entry → Prop
  | key {kind : Kind} {before : List Entry} {name : Bytes}
      (through : scanFields (ascii "key") (fun _ value _ => keyNameValue value) 0 (pairsOf before)
        [] = .ok name) : Gets es kind .key before
  | forceFloat {before : List Entry} {name : Bytes} {flags : Flags}
      (named : requestKey (pairsOf es) = .ok name)
      (through : getCfgQueryFlags (pairsOf before) = .ok flags) : Gets es .query .forceFloat before
  | value {before : List Entry} {name : Bytes} {value : PropertyValue}
      (named : requestKey (pairsOf es) = .ok name)
      (through : scanFields (ascii "value") (fun i item _ => updateValue (heapOf before) i item) 0
        (pairsOf before) .monostate = .ok value) : Gets es .update .value before

/-- The entry is one of the fields, or its key is no text. -/
def Entry.known (kind : Kind) (e : Entry) : Bool :=
  match wholeText? e.key with
  | none => true
  | some text => kind.fields.contains text

/-- Of the entries that a loop gets to, those are taken for its field that its name is the key of,
and whatever other entries with a text for a key are added or removed, the request and the reply are
the same. -/
structure MatchesExactly (kind : Kind) (es : List Entry) : Prop where
  taken : ∀ loop before e after, es = before ++ e :: after → Gets es kind loop before →
    ∀ text, wholeText? e.key = some text → (e.Handled loop.field ↔ text = loop.field)
  unknown : ∀ es', es'.Sublist es → es'.filter (Entry.known kind) = es.filter (Entry.known kind) →
    ∀ sql db, kind.respond sql db es' = kind.respond sql db es

/-- If the key is an indefinite text, it is the name of the field; if it is a definite one, it is no
shorter beginning of the name, and does not begin with the name and a NUL. -/
def Entry.Clear (e : Entry) (field : Bytes) : Prop :=
  (∀ chunks, e.key = .stringIndef chunks → chunks.flatten = field) ∧
  ∀ text, e.key = .string text → ¬ (text <+: field ∧ text ≠ field) ∧ ¬ field ++ [0] <+: text

/-- The values that the field may have. -/
def Loop.Good : Loop → Item → Prop
  | key, .string _ => True
  | forceFloat, .ctrl v => v = 20 ∨ v = 21
  | value, .string _ | value, .bytestring _ | value, .uint _ _ | value, .ctrl _ => True
  | value, .float2 _ | value, .float4 _ | value, .float8 _ => True
  | _, _ => False

/-- The key is a text, and the value one that the field may have if the text is its name. -/
def Entry.Fine (loop : Loop) (e : Entry) : Prop :=
  ∃ text, wholeText? e.key = some text ∧ (text = loop.field → loop.Good e.value)

/-- Every entry with nothing but fine ones in front of it is clear. -/
def ClearUpTo (loop : Loop) (es : List Entry) : Prop :=
  ∀ before e after, es = before ++ e :: after → (∀ e' ∈ before, e'.Fine loop) → e.Clear loop.field

/-- The value of the last entry with the key `key`. -/
def lastKey (es : List Entry) : Option Item :=
  ((es.filter fun e => wholeText? e.key = some (ascii "key")).getLast?).map Entry.value

/-- All entries are fine for the loop for the name, and the last of them that has it has one that is
not empty. -/
def Named (es : List Entry) : Prop :=
  (∀ e ∈ es, e.Fine .key) ∧ ∃ name ≠ [], lastKey es = some (.string name)

/-- The entries are clear for the first loop, and for the second if it comes to that. -/
def ClearRequest (kind : Kind) (es : List Entry) : Prop :=
  ClearUpTo .key es ∧ (Named es → ClearUpTo kind.second es)

section Handled

variable {kind : Kind} {e : Entry} {item : Item} {text field : Bytes}

lemma wholeText?_eq_some (h : wholeText? item = some text) :
    item = .string text ∨ ∃ chunks, item = .stringIndef chunks := by
  cases item with
  | string b =>
    cases h
    exact .inl rfl
  | stringIndef chunks => exact .inr ⟨chunks, rfl⟩
  | _ => cases h

lemma text?_of_wholeText? (h : wholeText? item = some text) : item.text? ≠ none := by
  rcases wholeText?_eq_some h with rfl | ⟨chunks, rfl⟩ <;> simp [Item.text?]

lemma wholeText?_of_text? (h : item.text? ≠ none) : ∃ text, wholeText? item = some text := by
  cases item with
  | string b => exact ⟨b, rfl⟩
  | stringIndef chunks => exact ⟨chunks.flatten, rfl⟩
  | _ => exact absurd rfl h

lemma Loop.not_mem_field (loop : Loop) : 0 ∉ loop.field := by
  cases loop <;> decide

lemma handled_iff : e.Handled field ↔
    ∃ text, e.key.text? = some text ∧ strncmpEq text field text.length = true := by
  unfold Entry.Handled
  rw [scanFields]
  rcases e.key.text? with _ | text
  · simp
  · by_cases h : strncmpEq text field text.length = true
    · simp only [if_pos h]
      exact iff_of_true rfl ⟨text, rfl, h⟩
    · simp only [if_neg h]
      rw [iff_false_right (by simpa using h)]
      rw [scanFields]
      simp

lemma handled_string (hkey : e.key = .string text) (hf : 0 ∉ field) :
    e.Handled field ↔ text <+: field ∨ field ++ [0] <+: text := by
  rw [← strncmpEq_length hf, handled_iff, hkey]
  simp [Item.text?]

lemma handled_stringIndef {chunks : List Bytes} (hkey : e.key = .stringIndef chunks)
    (field : Bytes) : e.Handled field :=
  handled_iff.mpr ⟨[], by rw [hkey]; rfl, rfl⟩

/-- What a key that is not the field's name looks like if it is taken for it. -/
lemma handled_string_iff (hkey : e.key = .string text) (hf : 0 ∉ field) :
    (e.Handled field ↔ text = field) ↔
      ¬ (text <+: field ∧ text ≠ field) ∧ ¬ field ++ [0] <+: text := by
  rw [handled_string hkey hf]
  constructor
  · intro h
    refine ⟨fun ⟨hstart, hne⟩ => hne (h.mp (.inl hstart)), fun hnul => ?_⟩
    obtain rfl := h.mp (.inr hnul)
    have hle := hnul.length_le
    rw [List.length_append, List.length_singleton] at hle
    omega
  · rintro ⟨hshort, hnul⟩
    constructor
    · rintro (hstart | hlong)
      · exact by_contra fun hne => hshort ⟨hstart, hne⟩
      · exact absurd hlong hnul
    · rintro rfl
      exact .inl List.prefix_rfl

lemma clear_iff (hf : 0 ∉ field) : e.Clear field ↔
    ∀ text, wholeText? e.key = some text → (e.Handled field ↔ text = field) := by
  constructor
  · rintro ⟨hindef, hclear⟩ text htext
    rcases wholeText?_eq_some htext with hkey | ⟨chunks, hkey⟩
    · exact (handled_string_iff hkey hf).mpr (hclear text hkey)
    · rw [hkey] at htext
      cases htext
      exact iff_of_true (handled_stringIndef hkey field) (hindef chunks hkey)
  · intro h
    refine ⟨fun chunks hkey => ?_, fun text hkey => ?_⟩
    · exact (h _ (by rw [hkey]; rfl)).mp (handled_stringIndef hkey field)
    · exact (handled_string_iff hkey hf).mp (h text (by rw [hkey]; rfl))

lemma Entry.Clear.not_handled (h : e.Clear field) (hf : 0 ∉ field) (hfield : field ∈ kind.fields)
    (hunknown : e.known kind = false) : e.key.text? ≠ none ∧ ¬ e.Handled field := by
  unfold Entry.known at hunknown
  rcases htext : wholeText? e.key with _ | text
  · simp [htext] at hunknown
  · simp only [htext, List.contains_eq_mem, decide_eq_false_iff_not] at hunknown
    refine ⟨text?_of_wholeText? htext, fun hhandled => hunknown ?_⟩
    exact ((clear_iff hf).mp h text htext).mp hhandled ▸ hfield

end Handled

/-! ### One loop -/

section Scan

variable {α : Type} {field : Bytes} {p : Entry → Bool} {e : Entry} {es es' : List Entry} {acc : α}

/-- `scanFields`, on entries. -/
def scanEntries (field : Bytes) (f : Entry → α → Except RpcError α) :
    List Entry → α → Except RpcError α
  | [], acc => .ok acc
  | e :: es, acc => match e.key.text? with
    | none => .error .mapKeyType
    | some text =>
      if strncmpEq text field text.length then f e acc >>= scanEntries field f es
      else scanEntries field f es acc

lemma scanFields_pairsOf (f : Bytes → Item → α → Except RpcError α) {heap : ℕ → Bytes} {i : ℕ}
    {es : List Entry} (hheap : ∀ j, heap (i + j) = heapOf es j) (acc : α) :
    scanFields field (fun j value acc => f (heap j) value acc) i (pairsOf es) acc =
      scanEntries field (fun e acc => f e.behind e.value acc) es acc := by
  induction es generalizing i acc with
  | nil => rfl
  | cons e es ih =>
    have hhead : heap i = e.behind := hheap 0
    have htail : ∀ j, heap (i + 1 + j) = heapOf es j := by
      intro j
      rw [Nat.add_assoc, Nat.add_comm 1 j]
      exact hheap (j + 1)
    rw [pairsOf, List.map_cons, ← pairsOf, scanFields, scanEntries, hhead]
    rcases e.key.text? with _ | text
    · rfl
    · dsimp only
      split_ifs
      · rcases f e.behind e.value acc with err | acc'
        · rfl
        · exact ih htail acc'
      · exact ih htail acc

variable {f : Entry → α → Except RpcError α}

/-- The loop got through the entries. -/
def Through (field : Bytes) (f : Entry → α → Except RpcError α) (es : List Entry) (acc : α) :
    Prop :=
  ∃ acc', scanEntries field f es acc = .ok acc'

lemma scanEntries_cons_handled (h : e.Handled field) :
    scanEntries field f (e :: es) acc = f e acc >>= scanEntries field f es := by
  obtain ⟨text, htext, hm⟩ := handled_iff.mp h
  rw [scanEntries, htext]
  exact if_pos hm

lemma scanEntries_cons_skipped (htext : e.key.text? ≠ none) (h : ¬ e.Handled field) :
    scanEntries field f (e :: es) acc = scanEntries field f es acc := by
  obtain ⟨text, htext⟩ := Option.ne_none_iff_exists'.mp htext
  rw [scanEntries, htext]
  exact if_neg fun hm => h (handled_iff.mpr ⟨text, htext, hm⟩)

lemma scanEntries_cons_no_text (htext : e.key.text? = none) :
    scanEntries field f (e :: es) acc = .error .mapKeyType := by
  rw [scanEntries, htext]

lemma scanEntries_append : scanEntries field f (es ++ es') acc =
    scanEntries field f es acc >>= scanEntries field f es' := by
  induction es generalizing acc with
  | nil => rfl
  | cons e es ih =>
    rw [List.cons_append, scanEntries, scanEntries]
    rcases e.key.text? with _ | text
    · rfl
    · dsimp only
      split_ifs
      · rcases f e acc with err | acc'
        · rfl
        · exact ih
      · exact ih

lemma through_append : Through field f (es ++ es') acc ↔
    ∃ acc', scanEntries field f es acc = .ok acc' ∧ Through field f es' acc' := by
  unfold Through
  rw [scanEntries_append]
  constructor
  · rintro ⟨acc'', h⟩
    obtain ⟨acc', hes, hes'⟩ := except_bind_ok.mp h
    exact ⟨acc', hes, acc'', hes'⟩
  · rintro ⟨acc', hes, acc'', hes'⟩
    exact ⟨acc'', except_bind_ok.mpr ⟨acc', hes, hes'⟩⟩

lemma scanEntries_sublist (hsub : es'.Sublist es) (hfilter : es'.filter p = es.filter p)
    (hskip : ∀ before e after, es = before ++ e :: after → Through field f before acc →
      p e = false → e.key.text? ≠ none ∧ ¬ e.Handled field) :
    scanEntries field f es' acc = scanEntries field f es acc := by
  induction hsub generalizing acc with
  | slnil => rfl
  | @cons es' es e hsub ih =>
    -- the entry that is left out is one of those that do not matter
    have hp : p e = false := by
      by_contra hp
      rw [Bool.not_eq_false] at hp
      rw [List.filter_cons_of_pos hp] at hfilter
      have hle := (hsub.filter p).length_le
      rw [hfilter, List.length_cons] at hle
      omega
    obtain ⟨htext, hnot⟩ := hskip [] e es rfl ⟨acc, rfl⟩ hp
    rw [scanEntries_cons_skipped htext hnot]
    refine ih (by rwa [List.filter_cons_of_neg (by simp [hp])] at hfilter) ?_
    rintro before e' after rfl ⟨acc', hbefore⟩
    refine hskip (e :: before) e' after rfl ⟨acc', ?_⟩
    rwa [scanEntries_cons_skipped htext hnot]
  | @cons_cons es' es e hsub ih =>
    have hrest : es'.filter p = es.filter p := by
      by_cases hp : p e = true
      · rw [List.filter_cons_of_pos hp, List.filter_cons_of_pos hp] at hfilter
        exact List.tail_eq_of_cons_eq hfilter
      · rwa [List.filter_cons_of_neg hp, List.filter_cons_of_neg hp] at hfilter
    by_cases htext : e.key.text? = none
    · rw [scanEntries_cons_no_text htext, scanEntries_cons_no_text htext]
    -- an entry that stays is treated alike in both
    by_cases hhandled : e.Handled field
    · rw [scanEntries_cons_handled hhandled, scanEntries_cons_handled hhandled]
      rcases hf : f e acc with err | acc'
      · rfl
      · refine ih hrest ?_
        rintro before e' after rfl ⟨acc'', hbefore⟩
        refine hskip (e :: before) e' after rfl ⟨acc'', ?_⟩
        rw [scanEntries_cons_handled hhandled, hf]
        exact hbefore
    · rw [scanEntries_cons_skipped htext hhandled, scanEntries_cons_skipped htext hhandled]
      refine ih hrest ?_
      rintro before e' after rfl ⟨acc'', hbefore⟩
      refine hskip (e :: before) e' after rfl ⟨acc'', ?_⟩
      rwa [scanEntries_cons_skipped htext hhandled]

variable {loop : Loop}

lemma through_singleton (hclear : e.Clear loop.field)
    (hf : ∀ e acc, (∃ acc', f e acc = .ok acc') ↔ loop.Good e.value) :
    Through loop.field f [e] acc ↔ e.Fine loop := by
  unfold Through Entry.Fine
  rcases htext : wholeText? e.key with _ | text
  · have hnone : e.key.text? = none := by
      by_contra h
      obtain ⟨text, h⟩ := wholeText?_of_text? h
      cases htext.symm.trans h
    rw [scanEntries_cons_no_text hnone]
    simp
  have htold := (clear_iff loop.not_mem_field).mp hclear text htext
  by_cases hfield : text = loop.field
  · rw [scanEntries_cons_handled (htold.mpr hfield)]
    constructor
    · rintro ⟨acc', h⟩
      obtain ⟨acc'', hok, -⟩ := except_bind_ok.mp h
      exact ⟨text, rfl, fun _ => (hf e acc).mp ⟨acc'', hok⟩⟩
    · rintro ⟨text', h, hgood⟩
      cases h
      obtain ⟨acc', hok⟩ := (hf e acc).mpr (hgood hfield)
      exact ⟨acc', except_bind_ok.mpr ⟨acc', hok, rfl⟩⟩
  · rw [scanEntries_cons_skipped (text?_of_wholeText? htext) fun h => hfield (htold.mp h)]
    exact iff_of_true ⟨acc, rfl⟩ ⟨text, rfl, fun h => absurd h hfield⟩

/-- The loop gets through the entries that are fine, as long as it tells them by their whole
texts. -/
lemma through_iff (hf : ∀ e acc, (∃ acc', f e acc = .ok acc') ↔ loop.Good e.value)
    (h : ∀ before e after, es = before ++ e :: after → Through loop.field f before acc →
      (∀ e' ∈ before, e'.Fine loop) → e.Clear loop.field) :
    Through loop.field f es acc ↔ ∀ e ∈ es, e.Fine loop := by
  induction es using List.reverseRecOn with
  | nil => exact iff_of_true ⟨acc, rfl⟩ (by simp)
  | append_singleton es e ih =>
    have ih := ih fun before e' after he => h before e' (after ++ [e]) (by rw [he]; simp)
    rw [through_append]
    constructor
    · rintro ⟨acc', hes, hlast⟩
      have hfine := ih.mp ⟨acc', hes⟩
      have hclear := h es e [] rfl ⟨acc', hes⟩ hfine
      have := (through_singleton hclear hf).mp hlast
      simpa [or_imp, forall_and] using ⟨hfine, this⟩
    · intro hall
      have hfine : ∀ e' ∈ es, e'.Fine loop := fun e' he => hall e' (List.mem_append_left _ he)
      obtain ⟨acc', hes⟩ := ih.mpr hfine
      have hclear := h es e [] rfl ⟨acc', hes⟩ hfine
      exact ⟨acc', hes, (through_singleton hclear hf).mpr (hall e (by simp))⟩

variable (acc) in
/-- What the loop gets to and what has only fine entries in front of it are the same, if either is
clear. -/
lemma clearUpTo_iff (hf : ∀ e acc, (∃ acc', f e acc = .ok acc') ↔ loop.Good e.value) :
    ClearUpTo loop es ↔ ∀ before e after, es = before ++ e :: after →
      Through loop.field f before acc → e.Clear loop.field := by
  constructor
  · rintro h before e after rfl hthrough
    refine h before e after rfl ((through_iff hf ?_).mp hthrough)
    rintro before' e' after' rfl - hfine
    exact h before' e' (after' ++ e :: after) (by simp) hfine
  · rintro h before e after rfl hfine
    refine h before e after rfl ((through_iff hf ?_).mpr hfine)
    rintro before' e' after' rfl hthrough -
    exact h before' e' (after' ++ e :: after) (by simp) hthrough

end Scan

/-! ### Requests -/

section Decode

variable {kind : Kind} {es es' before : List Entry} {e : Entry}

/-- What the loops do with a value. -/
def nameValue (e : Entry) (_ : Bytes) : Except RpcError Bytes := keyNameValue e.value

def flagValue (e : Entry) (flags : Flags) : Except RpcError Flags := forceFloatValue e.value flags

def itemValue (e : Entry) (_ : PropertyValue) : Except RpcError PropertyValue :=
  updateValue (fun _ => e.behind) 0 e.value

lemma nameValue_ok (e : Entry) (acc : Bytes) :
    (∃ name, nameValue e acc = .ok name) ↔ Loop.key.Good e.value := by
  unfold nameValue
  cases e.value <;> simp [keyNameValue, Loop.Good]

lemma flagValue_ok (e : Entry) (acc : Flags) :
    (∃ flags, flagValue e acc = .ok flags) ↔ Loop.forceFloat.Good e.value := by
  unfold flagValue forceFloatValue
  cases e.value with
  | ctrl v =>
    by_cases h20 : v = 20
    · simp [Item.bool?, Loop.Good, h20]
    · by_cases h21 : v = 21 <;> simp [Item.bool?, Loop.Good, h20, h21]
  | _ => simp [Item.bool?, Loop.Good]

lemma itemValue_ok (e : Entry) (acc : PropertyValue) :
    (∃ value, itemValue e acc = .ok value) ↔ Loop.value.Good e.value := by
  unfold itemValue
  cases e.value <;> simp [updateValue, Loop.Good]

lemma scan_key (es : List Entry) :
    scanFields (ascii "key") (fun _ value _ => keyNameValue value) 0 (pairsOf es) [] =
      scanEntries Loop.key.field nameValue es [] :=
  @scanFields_pairsOf _ _ (fun _ value _ => keyNameValue value) (heapOf es) 0 es
    (fun j => by rw [Nat.zero_add]) []

lemma scan_forceFloat (es : List Entry) : getCfgQueryFlags (pairsOf es) =
    scanEntries Loop.forceFloat.field flagValue es .none :=
  @scanFields_pairsOf _ _ (fun _ value flags => forceFloatValue value flags) (heapOf es) 0 es
    (fun j => by rw [Nat.zero_add]) .none

lemma scan_value (es : List Entry) :
    scanFields (ascii "value") (fun i item _ => updateValue (heapOf es) i item) 0 (pairsOf es)
      PropertyValue.monostate = scanEntries Loop.value.field itemValue es .monostate :=
  @scanFields_pairsOf _ _ (fun behind item _ => updateValue (fun _ => behind) 0 item) (heapOf es)
    0 es (fun j => by rw [Nat.zero_add]) .monostate

/-- The name of a request, if it has one. -/
def scanName (es : List Entry) : Option Bytes :=
  (scanEntries Loop.key.field nameValue es []).toOption.filter (· ≠ [])

lemma toOption_requestKey (es : List Entry) : (requestKey (pairsOf es)).toOption = scanName es := by
  unfold requestKey extractKeyName scanName
  by_cases hes : es = []
  · subst hes
    rfl
  · rw [if_neg (by simp [pairsOf, hes]), scan_key, except_toOption_bind]
    rcases scanEntries Loop.key.field nameValue es [] with err | key
    · rfl
    · by_cases hkey : key = [] <;> simp [Except.toOption, Option.filter, hkey]

lemma toOption_decode_query (es : List Entry) : (Kind.query.decode es).toOption =
    (scanName es).bind fun key =>
      (scanEntries Loop.forceFloat.field flagValue es .none).toOption.map (Request.query key) := by
  change (requestKey (pairsOf es) >>= fun key =>
    getCfgQueryFlags (pairsOf es) >>= fun flags => .ok (Request.query key flags)).toOption = _
  rw [except_toOption_bind, toOption_requestKey, scan_forceFloat]
  congr 1
  funext key
  rcases scanEntries Loop.forceFloat.field flagValue es .none with err | flags <;> rfl

lemma toOption_decode_update (es : List Entry) : (Kind.update.decode es).toOption =
    (scanName es).bind fun key =>
      (scanEntries Loop.value.field itemValue es .monostate).toOption.map (Request.update key) := by
  change (requestKey (pairsOf es) >>= fun key =>
    scanFields (ascii "value") (fun i item _ => updateValue (heapOf es) i item) 0 (pairsOf es)
      PropertyValue.monostate >>= fun value => .ok (Request.update key value)).toOption = _
  rw [except_toOption_bind, toOption_requestKey, scan_value]
  congr 1
  funext key
  rcases scanEntries Loop.value.field itemValue es .monostate with err | value <;> rfl

/-- The bytes of a definite text. -/
def nameOf : Option Item → Bytes
  | some (.string name) => name
  | _ => []

lemma scanEntries_key (hclear : ∀ e ∈ es, e.Clear Loop.key.field) (hfine : ∀ e ∈ es, e.Fine .key) :
    scanEntries Loop.key.field nameValue es [] = .ok (nameOf (lastKey es)) := by
  induction es using List.reverseRecOn with
  | nil => rfl
  | append_singleton es e ih =>
    have ih := ih (fun e' he => hclear e' (List.mem_append_left _ he))
      fun e' he => hfine e' (List.mem_append_left _ he)
    obtain ⟨text, htext, hgood⟩ := hfine e (by simp)
    have htold := (clear_iff Loop.key.not_mem_field).mp (hclear e (by simp)) text htext
    rw [scanEntries_append, ih]
    change scanEntries Loop.key.field nameValue [e] _ = _
    -- the last entry with the name of the field counts
    by_cases hfield : text = Loop.key.field
    · have hlast : lastKey (es ++ [e]) = some e.value := by
        have hkey : wholeText? e.key = some (ascii "key") := htext.trans (congrArg some hfield)
        simp [lastKey, List.filter_append, hkey]
      rw [scanEntries_cons_handled (htold.mpr hfield), hlast]
      have hgood := hgood hfield
      unfold nameValue
      rcases hvalue : e.value <;> simp only [hvalue, Loop.Good] at hgood
      rfl
    · have hlast : lastKey (es ++ [e]) = lastKey es := by
        have hkey : wholeText? e.key ≠ some (ascii "key") := fun h =>
          hfield (Option.some.inj (htext.symm.trans h))
        simp [lastKey, List.filter_append, hkey]
      rw [scanEntries_cons_skipped (text?_of_wholeText? htext) fun h => hfield (htold.mp h), hlast]
      rfl

lemma named_iff (h : ClearUpTo .key es) :
    Named es ↔ ∃ name, requestKey (pairsOf es) = .ok name := by
  have hreached := (clearUpTo_iff [] nameValue_ok).mp h
  have hthrough : Through Loop.key.field nameValue es [] ↔ ∀ e ∈ es, e.Fine .key :=
    through_iff nameValue_ok fun before e after he hb _ => hreached before e after he hb
  have hclear : (∀ e ∈ es, e.Fine .key) → ∀ e ∈ es, e.Clear Loop.key.field := by
    intro hfine e he
    obtain ⟨before, after, rfl⟩ := List.append_of_mem he
    exact h before e after rfl fun e' he' => hfine e' (List.mem_append_left _ he')
  have hname : (∃ name, requestKey (pairsOf es) = .ok name) ↔ ∃ name, scanName es = some name := by
    rw [← toOption_requestKey]
    rcases requestKey (pairsOf es) with err | name <;> simp [Except.toOption]
  rw [hname]
  constructor
  · rintro ⟨hfine, name, hne, hlast⟩
    refine ⟨name, ?_⟩
    rw [scanName, scanEntries_key (hclear hfine) hfine, hlast]
    simp [Except.toOption, nameOf, hne, Option.filter]
  · rintro ⟨name, hscan⟩
    -- the loop has come to its end, so all entries are fine
    obtain ⟨hok, hne⟩ := Option.filter_eq_some_iff.mp hscan
    rcases hrun : scanEntries Loop.key.field nameValue es [] with err | name'
    · rw [hrun] at hok
      cases hok
    rw [hrun] at hok
    cases hok
    have hfine := hthrough.mp ⟨_, hrun⟩
    rw [scanEntries_key (hclear hfine) hfine] at hrun
    have hne : nameOf (lastKey es) ≠ [] := by
      rw [Except.ok.inj hrun]
      simpa using hne
    refine ⟨hfine, nameOf (lastKey es), hne, ?_⟩
    rcases hlast : lastKey es with _ | item
    · rw [hlast] at hne
      exact absurd rfl hne
    · cases item with
      | string b => rfl
      | _ =>
        rw [hlast] at hne
        exact absurd rfl hne

lemma gets_key : Gets es kind .key before ↔ Through Loop.key.field nameValue before [] := by
  constructor
  · rintro ⟨hthrough⟩
    exact ⟨_, (scan_key before).symm.trans hthrough⟩
  · rintro ⟨name, hthrough⟩
    exact .key ((scan_key before).trans hthrough)

lemma gets_forceFloat : Gets es .query .forceFloat before ↔
    (∃ name, requestKey (pairsOf es) = .ok name) ∧
      Through Loop.forceFloat.field flagValue before .none := by
  constructor
  · rintro (_ | ⟨hnamed, hthrough⟩)
    exact ⟨⟨_, hnamed⟩, _, (scan_forceFloat before).symm.trans hthrough⟩
  · rintro ⟨⟨name, hnamed⟩, flags, hthrough⟩
    exact .forceFloat hnamed ((scan_forceFloat before).trans hthrough)

lemma gets_value : Gets es .update .value before ↔
    (∃ name, requestKey (pairsOf es) = .ok name) ∧
      Through Loop.value.field itemValue before .monostate := by
  constructor
  · rintro (_ | _ | ⟨hnamed, hthrough⟩)
    exact ⟨⟨_, hnamed⟩, _, (scan_value before).symm.trans hthrough⟩
  · rintro ⟨⟨name, hnamed⟩, value, hthrough⟩
    exact .value hnamed ((scan_value before).trans hthrough)

lemma clearUpTo_loop_iff {loop : Loop} (hnamed : loop = .key ∨ loop = kind.second ∧
      ∃ name, requestKey (pairsOf es) = .ok name) :
    ClearUpTo loop es ↔ ∀ before e after, es = before ++ e :: after → Gets es kind loop before →
      ∀ text, wholeText? e.key = some text → (e.Handled loop.field ↔ text = loop.field) := by
  have hclear : ∀ e : Entry, e.Clear loop.field ↔ _ := fun e => clear_iff loop.not_mem_field
  rcases hnamed with rfl | ⟨rfl, hnamed⟩
  · simp only [clearUpTo_iff [] nameValue_ok, gets_key, hclear]
  · cases kind with
    | query =>
      simp only [Kind.second, clearUpTo_iff Flags.none flagValue_ok, gets_forceFloat,
        hnamed, true_and, ← clear_iff Loop.forceFloat.not_mem_field]
    | update =>
      simp only [Kind.second, clearUpTo_iff PropertyValue.monostate itemValue_ok,
        gets_value, hnamed, true_and, ← clear_iff Loop.value.not_mem_field]

lemma scanEntries_known {α : Type} {loop : Loop} {f : Entry → α → Except RpcError α} {acc : α}
    (hf : ∀ e acc, (∃ acc', f e acc = .ok acc') ↔ loop.Good e.value) (h : ClearUpTo loop es)
    (hloop : loop.field ∈ kind.fields) (hsub : es'.Sublist es)
    (hknown : es'.filter (Entry.known kind) = es.filter (Entry.known kind)) :
    scanEntries loop.field f es' acc = scanEntries loop.field f es acc :=
  scanEntries_sublist hsub hknown fun before e after he hthrough hunknown =>
    ((clearUpTo_iff acc hf).mp h before e after he hthrough).not_handled
      loop.not_mem_field hloop hunknown

/-- **Unknown entries** are ignored if the entries are clear. -/
lemma decode_known (h : ClearRequest kind es) (hsub : es'.Sublist es)
    (hknown : es'.filter (Entry.known kind) = es.filter (Entry.known kind)) :
    (kind.decode es').toOption = (kind.decode es).toOption := by
  obtain ⟨hkey, hsecond⟩ := h
  have hname : scanName es' = scanName es := by
    unfold scanName
    rw [scanEntries_known nameValue_ok hkey (by simp [Kind.fields]) hsub hknown]
  have hnamed : ∀ {name}, scanName es = some name → ClearUpTo kind.second es := by
    intro name hscan
    refine hsecond ((named_iff hkey).mpr ?_)
    rw [← toOption_requestKey] at hscan
    rcases hr : requestKey (pairsOf es) with err | name'
    · rw [hr] at hscan
      cases hscan
    · exact ⟨name', rfl⟩
  -- the second loop runs only if the first has found a name
  cases kind with
  | query =>
    rw [toOption_decode_query, toOption_decode_query, hname]
    rcases hscan : scanName es with _ | name
    · rfl
    · have hflags : scanEntries Loop.forceFloat.field flagValue es' .none =
          scanEntries Loop.forceFloat.field flagValue es .none :=
        scanEntries_known flagValue_ok (hnamed hscan) (by simp [Kind.fields, Kind.second]) hsub
          hknown
      rw [hflags]
  | update =>
    rw [toOption_decode_update, toOption_decode_update, hname]
    rcases hscan : scanName es with _ | name
    · rfl
    · have hvalue : scanEntries Loop.value.field itemValue es' .monostate =
          scanEntries Loop.value.field itemValue es .monostate :=
        scanEntries_known itemValue_ok (hnamed hscan) (by simp [Kind.fields, Kind.second]) hsub
          hknown
      rw [hvalue]

/-- **Fields** are matched exactly, and other entries ignored, if and only if the entries up to the
first one that is refused are clear. -/
theorem matchesExactly_iff (kind : Kind) (es : List Entry) :
    MatchesExactly kind es ↔ ClearRequest kind es := by
  constructor
  · intro h
    have hkey : ClearUpTo .key es :=
      (@clearUpTo_loop_iff kind es _ (.inl rfl)).mpr fun before e after he hgets =>
        h.taken .key before e after he hgets
    refine ⟨hkey, fun hnamed => ?_⟩
    exact (clearUpTo_loop_iff (.inr ⟨rfl, (named_iff hkey).mp hnamed⟩)).mpr
      fun before e after he hgets => h.taken _ before e after he hgets
  · rintro ⟨hkey, hsecond⟩
    refine ⟨fun loop before e after he hgets => ?_, fun es' hsub hknown sql db => ?_⟩
    · have hloop : ClearUpTo loop es ∧ (loop = .key ∨ loop = kind.second ∧
          ∃ name, requestKey (pairsOf es) = .ok name) := by
        cases hgets with
        | key => exact ⟨hkey, .inl rfl⟩
        | forceFloat hnamed =>
          exact ⟨hsecond ((named_iff hkey).mpr ⟨_, hnamed⟩), .inr ⟨rfl, _, hnamed⟩⟩
        | value hnamed =>
          exact ⟨hsecond ((named_iff hkey).mpr ⟨_, hnamed⟩), .inr ⟨rfl, _, hnamed⟩⟩
      exact (clearUpTo_loop_iff hloop.2).mp hloop.1 before e after he hgets
    · unfold Kind.respond
      rw [decode_known ⟨hkey, hsecond⟩ hsub hknown]

end Decode

def textEntry (key value : Bytes) : Entry := ⟨.string key, .string value, []⟩

/-- A query for `a` that also has an entry with the key `ke` and the value `b` asks for `b`. -/
theorem prefix_taken : ¬ ∀ kind es, MatchesExactly kind es := by
  intro h
  have hsame := (h .query
    [textEntry (ascii "key") (ascii "a"), textEntry (ascii "ke") (ascii "b")]).unknown
    [textEntry (ascii "key") (ascii "a")] (by simp) rfl (.ok 0) .initSchema
  have hname := congrArg (Option.map fun r => (r.2.1.map fun p => p.2.text?).head?) hsame
  revert hname
  decide

end Sativa.RpcServer
