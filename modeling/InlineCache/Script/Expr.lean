import InlineCache.Value
/-!
# Value descriptions and method bodies

A scenario describes values symbolically: a class is named, not referenced, and a new
instance is asked for, not given. A `ValueSpec` is such a description; it is read against
the scenario each time it is needed, so a description of an instance gives a fresh
instance on every reading.

User methods run bodies written in a small expression language, `Expr`: it reads the
receiver, the arguments and fields, raises errors, and calls through call sites, which
makes dispatch reentrant.
-/
namespace InlineCache

/-- A value as a request describes it. -/
inductive ValueSpec where
  /-- A scalar, string or byte sequence, given as it is. -/
  | plain (v : Scalar)
  /-- A fresh instance of the named class with these fields, set in order. -/
  | obj (cls : String) (fields : List (String × ValueSpec))
  /-- The named class. -/
  | cls (name : String)
  /-- A fresh foreign object of the named type wrapping the payload. -/
  | foreign (ty : String) (payload : ValueSpec)
  /-- The value stored under a name, with its identity. -/
  | var (name : String)
  /-- A description that names no value; reading it is an input error. -/
  | invalid (why : String)

/-- A method body. -/
inductive Expr where
  /-- The described value, built anew at every call. -/
  | const (v : ValueSpec)
  /-- The argument at this position. -/
  | arg (index : Nat)
  /-- The receiver. -/
  | self
  /-- A field of the receiver; the absent value when there is none. -/
  | field (name : String)
  /-- The payload of a foreign receiver; the absent value otherwise. -/
  | payload
  /-- Fail with this text. -/
  | raise (text : String)
  /-- The type names of the arguments, joined by commas. -/
  | describeArgs
  /-- The number of arguments. -/
  | argCount
  /-- The type name of a value. -/
  | typeName (e : Expr)
  /-- Each in order; the last value, or the absent value for none. -/
  | seq (es : List Expr)
  /-- Set a field of an instance receiver; the absent value. -/
  | setField (name : String) (e : Expr)
  /-- A call through a site of an array; the receiver defaults to the method's own. -/
  | invoke (array site : Nat) (recv : Option Expr) (args : List Expr) (safe : Bool)

end InlineCache
