import Sativa.CborAccess
import Sativa.Recorded

/-!
The CBOR helpers of pl-common.

`CborReadUint` asks for the type of its item first. `CborMapGet` does not, and applies the accessors
of strings to every key up to the one it looks for.
-/

namespace Sativa.PlCommon

open Sativa Sativa.Cbor

/-- What the helpers throw. -/
inductive CborError
  /-- `invalid type (expected uint)` -/
  | expectedUint

/-- A program with the items that accessors of strings are applied to on the record. -/
abbrev CborProg := Prog (Stop CborError) (Recorded Unit Item)

/-- An accessor of strings, applied to an item. -/
def stringAccess {α : Type} (f : Accessor Item α) (item : Option Item) : CborProg α := do
  .note item.toList
  f.on item

/-- The loop of `CborMapGet` over the entries that are left; `none` is `nullptr`. -/
def findKey (inKey : Bytes) : List (Item × Item) → CborProg (Option Item)
  | [] => return none
  | (key, value) :: pairs => do
    let handle ← stringAccess cborStringHandle (some key)
    let length ← stringAccess cborStringLength (some key)
    if handle.take length = inKey then return some value
    else findKey inKey pairs

def cborMapGet (map : Option Item) (inKey : Bytes) : CborProg (Option Item) := do
  let rootKeys ← cborMapHandle.on map
  let size ← cborMapSize.on map
  findKey inKey (rootKeys.take size)

/-! ### What a lookup is -/

/-- The text of a text string, that of an indefinite one in its chunks. -/
def wholeText? : Item → Option Bytes
  | .string b => some b
  | .stringIndef chunks => some chunks.flatten
  | _ => none

/-- The value of the first entry whose key is a text string with the text. -/
def firstValue (inKey : Bytes) (pairs : List (Item × Item)) : Option Item :=
  (pairs.find? fun p => wholeText? p.1 = some inKey).map Prod.snd

/-- The item is a definite text string. -/
def IsText (item : Item) : Prop := ∃ b, item = .string b

/-- What a lookup owes: the value of the first entry with the text or none, and no accessor of
strings is applied to anything but a definite text string. -/
structure CorrectLookup (inKey : Bytes) (result : Except (Stop CborError) (Option Item))
    (accessed : List Item) (pairs : List (Item × Item)) : Prop where
  returns : result = .ok (firstValue inKey pairs)
  accesses : ∀ item ∈ accessed, IsText item

/-- Every key is a definite text string that is not behind an entry with the text. -/
def TextUpTo (inKey : Bytes) (pairs : List (Item × Item)) : Prop :=
  ∀ before key value after, pairs = before ++ (key, value) :: after →
    (∀ p ∈ before, p.1 ≠ .string inKey) → IsText key

section Lookup

variable {inKey b : Bytes} {key value item : Item} {pairs : List (Item × Item)}
  {s : Recorded Unit Item}

lemma textUpTo_nil : TextUpTo inKey [] := by
  intro before key value after h
  cases before <;> cases h

lemma textUpTo_cons : TextUpTo inKey ((key, value) :: pairs) ↔
    IsText key ∧ (key = .string inKey ∨ TextUpTo inKey pairs) := by
  constructor
  · intro h
    refine ⟨h [] key value pairs rfl (by simp), ?_⟩
    by_cases hkey : key = .string inKey
    · exact .inl hkey
    · refine .inr fun before k v after hpairs hbefore => ?_
      refine h ((key, value) :: before) k v after (by rw [hpairs]; rfl) fun p hp => ?_
      rcases List.mem_cons.mp hp with rfl | hp
      · exact hkey
      · exact hbefore p hp
  · rintro ⟨htext, hrest⟩ before k v after hpairs hbefore
    cases before with
    | nil =>
      cases hpairs
      exact htext
    | cons p before =>
      cases hpairs
      rcases hrest with hkey | hrest
      · exact absurd hkey (hbefore (key, value) List.mem_cons_self)
      · exact hrest before k v after rfl fun p hp => hbefore p (List.mem_cons_of_mem _ hp)

/-! ### The loop -/

lemma ensures_stringAccess {α : Type} {f : Accessor Item α} {P R : Recorded Unit Item → Prop}
    (h : ∀ s, P s → R ⟨s.state, s.record ++ [item]⟩) :
    Prog.Ensures P (stringAccess f (some item)) (fun _ => R) fun _ => R := by
  have hon : (f.on (some item) : CborProg α) =
      if f.accepts item then pure (f.read item) else .fail .misuse := rfl
  unfold stringAccess
  rw [hon]
  refine Prog.Ensures.bind (Q := fun _ => R) (.note h) fun _ => ?_
  split_ifs
  · exact .pure fun _ hs => hs
  · exact .fail fun _ hs => hs

lemma mem_stringAccess {α : Type} {f : Accessor Item α} : Prog.Ensures (fun _ => True)
    (stringAccess f (some item)) (fun _ s => item ∈ s.record) fun _ s => item ∈ s.record :=
  ensures_stringAccess fun _ _ => List.mem_append_right _ (List.mem_singleton_self _)

lemma keeps_stringAccess {α : Type} {f : Accessor Item α} : Prog.Keeps (fun s => key ∈ s.record)
    (stringAccess f (some item)) fun _ s => key ∈ s.record :=
  ensures_stringAccess fun _ hs => List.mem_append_left _ hs

lemma keeps_findKey : Prog.Keeps (fun s => key ∈ s.record) (findKey inKey pairs)
    fun _ s => key ∈ s.record := by
  induction pairs with
  | nil => exact .pure fun _ hs => hs
  | cons pair pairs ih =>
    rw [findKey]
    refine keeps_stringAccess.bind fun handle => keeps_stringAccess.bind fun length => ?_
    split_ifs
    · exact .pure fun _ hs => hs
    · exact ih

lemma mem_findKey : key ∈ ((findKey inKey ((key, value) :: pairs)).run s).2.record := by
  have haccess : Prog.Ensures (fun _ => True) (findKey inKey ((key, value) :: pairs))
      (fun _ s => key ∈ s.record) fun _ s => key ∈ s.record := by
    rw [findKey]
    refine mem_stringAccess.bind fun handle => keeps_stringAccess.bind fun length => ?_
    split_ifs
    · exact .pure fun _ hs => hs
    · exact keeps_findKey
  exact haccess.state True.intro

lemma run_findKey_string : (findKey inKey ((.string b, value) :: pairs)).run s =
    let s' : Recorded Unit Item := ⟨s.state, s.record ++ [.string b] ++ [.string b]⟩
    if b = inKey then (.ok (some value), s') else (findKey inKey pairs).run s' := by
  have hhandle : (stringAccess cborStringHandle (some (.string b))).run s =
      (.ok b, ⟨s.state, s.record ++ [.string b]⟩) := rfl
  have hlength : ∀ s, (stringAccess cborStringLength (some (.string b))).run s =
      (.ok b.length, ⟨s.state, s.record ++ [.string b]⟩) := fun _ => rfl
  rw [findKey, Prog.run_bind_of_ok hhandle, Prog.run_bind_of_ok (hlength _), List.take_length]
  split_ifs <;> rfl

lemma firstValue_cons_self : firstValue inKey ((.string inKey, value) :: pairs) = some value := by
  simp [firstValue, wholeText?]

lemma firstValue_cons_of_ne (h : b ≠ inKey) :
    firstValue inKey ((.string b, value) :: pairs) = firstValue inKey pairs := by
  simp [firstValue, wholeText?, h]

/-- From an entry on, with definite text strings on the record so far. -/
lemma findKey_correct (hs : ∀ item ∈ s.record, IsText item) :
    CorrectLookup inKey ((findKey inKey pairs).run s).1 ((findKey inKey pairs).run s).2.record
      pairs ↔ TextUpTo inKey pairs := by
  induction pairs generalizing s with
  | nil => exact iff_of_true ⟨rfl, hs⟩ textUpTo_nil
  | cons pair pairs ih =>
    obtain ⟨key, value⟩ := pair
    rw [textUpTo_cons]
    by_cases htext : IsText key
    · obtain ⟨b, rfl⟩ := htext
      have hrecord : ∀ item ∈ s.record ++ [.string b] ++ [.string b], IsText item := by
        intro item hitem
        simp only [List.mem_append, List.mem_singleton, or_assoc, or_self] at hitem
        rcases hitem with hitem | rfl
        · exact hs item hitem
        · exact ⟨b, rfl⟩
      rw [run_findKey_string]
      dsimp only
      -- the search ends at the key that is looked for
      by_cases hb : b = inKey
      · subst hb
        rw [if_pos rfl]
        exact iff_of_true ⟨by rw [firstValue_cons_self], hrecord⟩ ⟨⟨b, rfl⟩, .inl rfl⟩
      · rw [if_neg hb]
        have hrest := ih (s := ⟨s.state, s.record ++ [.string b] ++ [.string b]⟩) hrecord
        have hne : Item.string b ≠ .string inKey := fun h => hb (Item.string.inj h)
        constructor
        · rintro ⟨hreturns, haccesses⟩
          rw [firstValue_cons_of_ne hb] at hreturns
          exact ⟨⟨b, rfl⟩, .inr (hrest.mp ⟨hreturns, haccesses⟩)⟩
        · rintro ⟨-, hkey | hrest'⟩
          · exact absurd hkey hne
          · obtain ⟨hreturns, haccesses⟩ := hrest.mpr hrest'
            exact ⟨by rw [firstValue_cons_of_ne hb]; exact hreturns, haccesses⟩
    -- a key that is no text is accessed all the same
    · exact iff_of_false (fun h => htext (h.accesses key mem_findKey)) fun h => htext h.1

lemma run_cborMapGet :
    (cborMapGet (some (.map pairs)) inKey).run s = (findKey inKey pairs).run s := by
  have hhandle : (cborMapHandle.on (some (.map pairs)) : CborProg _) = pure pairs := rfl
  have hsize : (cborMapSize.on (some (.map pairs)) : CborProg _) = pure pairs.length := rfl
  rw [cborMapGet, hhandle, hsize, pure_bind, pure_bind, List.take_length]

end Lookup

/-- **Lookups**: the value of a key is found, without misuse of an accessor, exactly if all keys
before the first entry with it are definite text strings. -/
theorem cborMapGet_iff (inKey : Bytes) (pairs : List (Item × Item)) :
    CorrectLookup inKey ((cborMapGet (some (.map pairs)) inKey).run ⟨(), []⟩).1
      ((cborMapGet (some (.map pairs)) inKey).run ⟨(), []⟩).2.record pairs ↔
        TextUpTo inKey pairs := by
  rw [run_cborMapGet]
  exact findKey_correct (by simp)

/-- The entry for `a` behind one for the number 1 is not found. -/
theorem number_key_misused : ¬ ∀ (inKey : Bytes) (pairs : List (Item × Item)),
    CorrectLookup inKey ((cborMapGet (some (.map pairs)) inKey).run ⟨(), []⟩).1
      ((cborMapGet (some (.map pairs)) inKey).run ⟨(), []⟩).2.record pairs := by
  intro h
  have hlookup := h (ascii "a") [(.uint .int8 1, .uint .int8 2),
    (.string (ascii "a"), .uint .int8 3)]
  obtain ⟨b, hb⟩ := hlookup.accesses (.uint .int8 1) (List.mem_singleton_self _)
  cases hb

end Sativa.PlCommon
