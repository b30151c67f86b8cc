import Sativa.Prog
import Sativa.Cbor

/-!
Functions that may only be applied to some of the values they are given, and those of libcbor.

What a C function does with a null pointer, or with an item of a type it does not accept, is
undefined: libcbor asserts the type and then reads the fields of that type. Here the program
stops.
-/

namespace Sativa

/-- A function, and the values it may be applied to. -/
structure Accessor (ι α : Type) where
  accepts : ι → Bool
  read : ι → α

/-- How a program that applies accessors stops: an accessor is applied to what it does not
accept, or an exception is thrown. -/
inductive Stop (ε : Type)
  | misuse
  | thrown (e : ε)

section Accessor

variable {ι α ε σ : Type} {f : Accessor ι α} {i : ι}

/-- The accessor is applied to what a pointer points to, if that is anything. -/
def Accessor.on (f : Accessor ι α) : Option ι → Prog (Stop ε) σ α
  | none => .fail .misuse
  | some i => if f.accepts i then pure (f.read i) else .fail .misuse

lemma Accessor.on_some (h : f.accepts i = true) :
    (f.on (some i) : Prog (Stop ε) σ α) = pure (f.read i) := if_pos h

/-- `x && y`. -/
def Prog.both (x y : Prog (Stop ε) σ Bool) : Prog (Stop ε) σ Bool := do
  if ← x then y else return false

end Accessor

/-! ### The accessors of libcbor -/

namespace Cbor

/-- `cbor_int_width` of an integer. -/
def Item.intWidth? : Item → Option IntWidth
  | .uint w _ => some w
  | .negint w _ => some w
  | _ => none

inductive FloatWidth
  | float0 | float16 | float32 | float64
  deriving DecidableEq

/-- `cbor_float_width` of a float or a control; a control has none. -/
def Item.floatWidth? : Item → Option FloatWidth
  | .ctrl _ => some .float0
  | .float2 _ => some .float16
  | .float4 _ => some .float32
  | .float8 _ => some .float64
  | _ => none

/-- A question that may be asked about every item. -/
def test (p : Item → Bool) : Accessor Item Bool := ⟨fun _ => true, p⟩

def cborIsaMap : Accessor Item Bool := test fun item => match item with
  | .map _ => true
  | _ => false

def cborIsaString : Accessor Item Bool := test fun item => item.text?.isSome

def cborIsaBytestring : Accessor Item Bool := test fun item => match item with
  | .bytestring _ => true
  | .bytestringIndef _ => true
  | _ => false

def cborIsaUint : Accessor Item Bool := test fun item => match item with
  | .uint _ _ => true
  | _ => false

def cborIsaFloatCtrl : Accessor Item Bool := test fun item => item.floatWidth?.isSome

/-- A question about the number of a simple value: `cbor_ctrl_value` asserts that the item is no
float. -/
def testCtrl (p : Item → Bool) : Accessor Item Bool := ⟨fun item => !item.isFloat, p⟩

def cborIsNull : Accessor Item Bool := testCtrl Item.isNull

def cborIsBool : Accessor Item Bool := testCtrl fun item => item.bool?.isSome

def cborMapHandle : Accessor Item (List (Item × Item)) where
  accepts := cborIsaMap.read
  read item := match item with
    | .map pairs => pairs
    | _ => []

def cborMapSize : Accessor Item ℕ :=
  ⟨cborIsaMap.read, fun item => (cborMapHandle.read item).length⟩

/-- The bytes that are read behind the handle: no more than the length. -/
def cborStringHandle : Accessor Item Bytes := ⟨cborIsaString.read, fun item => item.text?.getD []⟩

/-- An indefinite string has the length `0`. -/
def cborStringLength : Accessor Item ℕ :=
  ⟨cborIsaString.read, fun item => (item.text?.getD []).length⟩

def cborBytestringHandle : Accessor Item Bytes where
  accepts := cborIsaBytestring.read
  read item := match item with
    | .bytestring b => b
    | _ => []

def cborBytestringLength : Accessor Item ℕ :=
  ⟨cborIsaBytestring.read, fun item => (cborBytestringHandle.read item).length⟩

def cborIntGetWidth : Accessor Item IntWidth where
  accepts item := item.intWidth?.isSome
  read item := item.intWidth?.getD .int8

/-- `cbor_get_uint8`, `cbor_get_uint16`, `cbor_get_uint32`, `cbor_get_uint64`. -/
def cborGetUint (w : IntWidth) : Accessor Item UInt64 where
  accepts item := item.intWidth? == some w
  read item := match item with
    | .uint _ v => v
    | .negint _ v => v
    | _ => 0

def cborFloatGetWidth : Accessor Item FloatWidth where
  accepts item := item.floatWidth?.isSome
  read item := item.floatWidth?.getD .float0

/-- `cbor_float_get_float2`, `cbor_float_get_float4`, `cbor_float_get_float8`; the value of the
`float` of the first two as a `double`. -/
def cborFloatGet (w : FloatWidth) : Accessor Item Double where
  accepts item := w != .float0 && item.floatWidth? == some w
  read item := match item with
    | .float2 b => Ieee.ofHalf b
    | .float4 b => Ieee.ofSingle b
    | .float8 b => b
    | _ => 0

def cborGetBool : Accessor Item Bool where
  accepts item := cborIsBool.accepts item && cborIsBool.read item
  read item := item.bool?.getD false

section On

variable {ε σ : Type} {item : Item} {b : Bytes} {c : Bool}

@[simp] lemma on_cborIsaString :
    (cborIsaString.on (some item) : Prog (Stop ε) σ Bool) = pure item.text?.isSome := rfl

lemma on_cborStringHandle (h : item.text? = some b) :
    (cborStringHandle.on (some item) : Prog (Stop ε) σ Bytes) = pure b := by
  rw [Accessor.on_some (congrArg Option.isSome h)]
  exact congrArg (fun t => pure (Option.getD t [])) h

lemma on_cborStringLength (h : item.text? = some b) :
    (cborStringLength.on (some item) : Prog (Stop ε) σ ℕ) = pure b.length := by
  rw [Accessor.on_some (congrArg Option.isSome h)]
  exact congrArg (fun t => pure (Option.getD t []).length) h

lemma Item.isFloat_of_bool? (h : item.bool? = some c) : item.isFloat = false := by
  cases item <;> first | rfl | cases h

lemma on_cborGetBool (h : item.bool? = some c) :
    (cborGetBool.on (some item) : Prog (Stop ε) σ Bool) = pure c := by
  have haccepts : cborGetBool.accepts item = true := by
    simp [cborGetBool, cborIsBool, testCtrl, h, Item.isFloat_of_bool? h]
  rw [Accessor.on_some haccepts]
  exact congrArg (fun t => pure (Option.getD t false)) h

/-- `cbor_isa_float_ctrl(item) && cbor_is_bool(item)`: the first question lets floats through. -/
lemma both_isBool : (cborIsaFloatCtrl.on (some item) : Prog (Stop ε) σ Bool).both
    (cborIsBool.on (some item)) =
      if item.isFloat then .fail .misuse else pure item.bool?.isSome := by
  cases item <;> rfl

/-- `cbor_isa_float_ctrl(item) && cbor_float_get_width(item) == CBOR_FLOAT_0 &&
cbor_is_null(item)`. -/
lemma both_isNull : ((cborIsaFloatCtrl.on (some item) : Prog (Stop ε) σ Bool).both do
    return (← cborFloatGetWidth.on (some item)) == .float0).both
    (cborIsNull.on (some item)) = pure item.isNull := by
  cases item <;> rfl

end On

end Cbor

end Sativa
