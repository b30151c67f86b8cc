import Mathlib.Data.Nat.Notation
import Mathlib.Data.List.Basic

/-!
UTF-8, as a machine that reads one octet after the other.

A state says which octets may come next. A text is well formed if the machine gets through it
and ends between two characters.
-/

namespace Sativa.Utf8

/-- `tail n` waits for `n + 1` octets of a character that has begun; in the other states the next
one has a smaller range, after the first octet of the name. -/
inductive State
  | start | tail (n : ℕ) | afterE0 | afterED | afterF0 | afterF4
  deriving DecidableEq

/-- An octet in a range. -/
def within (lo hi : UInt8) (next : State) (c : UInt8) : Option State :=
  if lo ≤ c ∧ c ≤ hi then some next else none

/-- The first octet of a character. -/
def first (c : UInt8) : Option State :=
  if c < 0x80 then some .start
  else if 0xC2 ≤ c ∧ c ≤ 0xDF then some (.tail 0)
  else if c = 0xE0 then some .afterE0
  else if c = 0xED then some .afterED
  else if 0xE1 ≤ c ∧ c ≤ 0xEF then some (.tail 1)
  else if c = 0xF0 then some .afterF0
  else if 0xF1 ≤ c ∧ c ≤ 0xF3 then some (.tail 2)
  else if c = 0xF4 then some .afterF4
  else none

def step : State → UInt8 → Option State
  | .start => first
  | .tail 0 => within 0x80 0xBF .start
  | .tail (n + 1) => within 0x80 0xBF (.tail n)
  | .afterE0 => within 0xA0 0xBF (.tail 0)
  | .afterED => within 0x80 0x9F (.tail 0)
  | .afterF0 => within 0x90 0xBF (.tail 1)
  | .afterF4 => within 0x80 0x8F (.tail 1)

def run (s : State) (b : List UInt8) : Option State := b.foldlM step s

/-- The octets are UTF-8. -/
def Valid (b : List UInt8) : Prop := run .start b = some .start

instance (b : List UInt8) : Decidable (Valid b) := inferInstanceAs (Decidable (_ = _))

end Sativa.Utf8
