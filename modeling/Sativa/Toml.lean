import Sativa.Buffer
import Sativa.Ieee

/-!
TOML documents as toml++ parses them.

Tables map keys to values. The payload of dates and times is left out.
-/

namespace Sativa

/-- A `toml::node`. -/
inductive Toml
  | string (s : Bytes)
  | integer (n : Int64)
  | floatingPoint (d : Double)
  | boolean (b : Bool)
  | date
  | time
  | dateTime
  | array (elems : List Toml)
  | table (entries : List (Bytes × Toml))

/-- A `toml::table`. -/
abbrev TomlTable := List (Bytes × Toml)

namespace Toml

def isString : Toml → Bool
  | string _ => true
  | _ => false

def asTable : Toml → Option TomlTable
  | table entries => some entries
  | _ => none

def asArray : Toml → Option (List Toml)
  | array elems => some elems
  | _ => none

/-- The strings among the values. -/
def asString : Toml → Option Bytes
  | string s => some s
  | _ => none

/-- `is_array_of_tables`, which an empty array is not. -/
def isArrayOfTables (v : Toml) : Bool :=
  v.asArray.any fun elems => !elems.isEmpty && elems.all fun e => e.asTable.isSome

end Toml

/-- `tbl[key]`. -/
def TomlTable.entry (tbl : TomlTable) (key : String) : Option Toml := tbl.lookup (ascii key)

/-- `tbl[key].value_or("")`. The text is taken to have no NUL, at which a `const char *` would
end. -/
def TomlTable.stringOrEmpty (tbl : TomlTable) (key : String) : Bytes :=
  ((tbl.entry key).bind Toml.asString).getD []

end Sativa
