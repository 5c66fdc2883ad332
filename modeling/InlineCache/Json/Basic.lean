/-!
# JSON documents

Requests arrive and answers leave as JSON documents, one per line. This module holds the
document tree the library reads and writes.

A number is kept the way a reader with machine numbers keeps it: an integer that fits an
unsigned 64-bit word, or a negative one that fits a signed 64-bit word, stays exact; any
other number is a binary64 value, the one `Json.Parse` computes from its text. An object
read from text holds each key once, the last value written for it, and its members sorted
by key; objects built for answers keep the order they are built in.
-/
namespace InlineCache

/-- A JSON number. -/
inductive Number where
  /-- A non-negative integer below `2^64`. -/
  | nat (n : Nat)
  /-- A negative integer of at least `-2^63`. -/
  | neg (n : Int)
  /-- Any other number, by the bits of its binary64 value. -/
  | float (bits : UInt64)
deriving DecidableEq, Repr

/-- A JSON document. -/
inductive Json where
  | null
  | bool (b : Bool)
  | num (n : Number)
  | str (s : String)
  | arr (items : List Json)
  | obj (members : List (String × Json))

namespace Json

/-- An integer as a number: exact for every integer of a signed or unsigned 64-bit word. -/
def int (n : Int) : Json := if 0 ≤ n then .num (.nat n.toNat) else .num (.neg n)

/-- The member `key` of an object; `none` for a missing key or a non-object. -/
def get? (j : Json) (key : String) : Option Json :=
  match j with
  | .obj members => (members.find? (fun m => m.1 == key)).map (·.2)
  | _ => none

/-- The member `key` of an object when it is there and not `null`: the reading of an
optional field, where `null` means the field is left out. -/
def field? (j : Json) (key : String) : Option Json :=
  match j.get? key with
  | some .null => none
  | other => other

/-- The integer of a number that fits an unsigned 64-bit word. -/
def toU64? : Json → Option Nat
  | .num (.nat n) => some n
  | _ => none

/-- The largest unsigned 64-bit integer. -/
def maxU64 : Nat := 18446744073709551615

/-- The largest signed 64-bit integer. -/
def maxI64 : Nat := 9223372036854775807

/-- The integer of a number that fits a signed 64-bit word. -/
def toI64? : Json → Option Int
  | .num (.nat n) => if n ≤ maxI64 then some n else none
  | .num (.neg n) => some n
  | _ => none

/-- The text of a string. -/
def toStr? : Json → Option String
  | .str s => some s
  | _ => none

/-- The truth value of a boolean. -/
def toBool? : Json → Option Bool
  | .bool b => some b
  | _ => none

/-- The items of an array. -/
def toArr? : Json → Option (List Json)
  | .arr items => some items
  | _ => none

/-- The members of an object. -/
def toObj? : Json → Option (List (String × Json))
  | .obj members => some members
  | _ => none

/-- The object with the members of `more` added after its own. -/
def extend (j : Json) (more : List (String × Json)) : Json :=
  match j with
  | .obj members => .obj (members ++ more)
  | other => other

/-- Number of nodes. -/
def size : Json → Nat
  | .arr items => 1 + sizeList items
  | .obj members => 1 + sizeMembers members
  | _ => 1
where
  /-- Nodes of a list of documents. -/
  sizeList : List Json → Nat
    | [] => 0
    | j :: rest => size j + sizeList rest
  /-- Nodes of the values of object members. -/
  sizeMembers : List (String × Json) → Nat
    | [] => 0
    | (_, j) :: rest => size j + sizeMembers rest

end Json

end InlineCache
