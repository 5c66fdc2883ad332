/-!
# Type ids

Every value has a type id, and guards compare type ids. The ids below 256 belong to the
builtin kinds of value (seven of them are named); user classes and foreign types receive
ids from 256 upward, handed out by the registry.
-/
namespace InlineCache

/-- The runtime type of a value, as a 32-bit id. -/
structure TypeId where
  /-- The id as a word. -/
  raw : UInt32
deriving DecidableEq, Repr, Inhabited

namespace TypeId

/-- The type of the absent value. -/
def none : TypeId := ⟨0⟩
/-- Truth values. -/
def bool : TypeId := ⟨1⟩
/-- 64-bit integers. -/
def int : TypeId := ⟨2⟩
/-- Binary64 floats. -/
def float : TypeId := ⟨3⟩
/-- Strings. -/
def str : TypeId := ⟨4⟩
/-- Byte sequences. -/
def bytes : TypeId := ⟨5⟩
/-- Class values. -/
def «class» : TypeId := ⟨6⟩

/-- The first id the registry hands out. -/
def firstUser : Nat := 256

/-- Ids below the first user id are reserved for builtin kinds, named or not. -/
def isBuiltin (t : TypeId) : Bool := t.raw.toNat < firstUser

/-- The names of the seven builtin kinds. -/
def builtinName? (t : TypeId) : Option String :=
  match t.raw.toNat with
  | 0 => some "None"
  | 1 => some "bool"
  | 2 => some "int"
  | 3 => some "float"
  | 4 => some "str"
  | 5 => some "bytes"
  | 6 => some "class"
  | _ => Option.none

/-- A builtin name, or `type#N` for any other id. -/
def display (t : TypeId) : String :=
  match t.builtinName? with
  | some name => name
  | Option.none => "type#" ++ toString t.raw.toNat

/-- The id's text in structure listings: `TypeId(N)`. -/
def debugText (t : TypeId) : String := "TypeId(" ++ toString t.raw.toNat ++ ")"

/-- The id with this number, wrapping to 32 bits. -/
def ofNat (n : Nat) : TypeId := ⟨n.toUInt32⟩

end TypeId

end InlineCache
