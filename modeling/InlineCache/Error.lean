/-!
# Runtime errors

Both dispatch failures and failures raised by method bodies end a call with a
`RuntimeError`. Each constructor is one cause; the text of each is given once, by
`RuntimeError.message`. Type names are captured when the error is made, so the message
does not depend on later changes.
-/
namespace InlineCache

/-- Why a call failed. -/
inductive RuntimeError where
  /-- No method matches the name and the argument types. -/
  | methodNotFound (name receiver args : String)
  /-- Several candidates are equally specific. -/
  | ambiguousMatch (name receiver : String) (candidates : Nat)
  /-- A target that was just resolved rejected the inputs it was resolved for. -/
  | guardInconsistency (site : Nat) (name : String)
  /-- An index outside a sequence, after counting negative indices from the end. -/
  | indexOutOfRange (index : Int) (len : Nat)
  /-- A call on the absent value. -/
  | nullReceiver (name : String)
  /-- A value of another type than the operation needs. -/
  | typeMismatch (expected found : String)
  /-- An error raised by a method body. -/
  | raised (text : String)
deriving DecidableEq, Repr

namespace RuntimeError

/-- The kind of the error, as answers name it. -/
def kind : RuntimeError → String
  | .methodNotFound .. => "MethodNotFound"
  | .ambiguousMatch .. => "AmbiguousMatch"
  | .guardInconsistency .. => "GuardInconsistency"
  | .indexOutOfRange .. => "IndexOutOfRange"
  | .nullReceiver .. => "NullReceiver"
  | .typeMismatch .. => "TypeMismatch"
  | .raised .. => "Raised"

/-- The text of the error. -/
def message : RuntimeError → String
  | .methodNotFound name receiver args =>
    "no method '" ++ name ++ "' on " ++ receiver ++ " for argument types (" ++ args ++ ")"
  | .ambiguousMatch name receiver n =>
    "ambiguous call to '" ++ name ++ "' on " ++ receiver ++ ": " ++ toString n ++
      " equally specific candidates"
  | .guardInconsistency site name =>
    "internal error: target for '" ++ name ++ "' at call site " ++ toString site ++
      " rejected its own inputs"
  | .indexOutOfRange index len =>
    "index " ++ toString index ++ " out of range for sequence of length " ++ toString len
  | .nullReceiver name => "cannot invoke '" ++ name ++ "' on None"
  | .typeMismatch expected found => "expected " ++ expected ++ ", found " ++ found
  | .raised text => text

/-- Only an inconsistent guard is a defect of the dispatcher rather than of its input. -/
def isInternal : RuntimeError → Bool
  | .guardInconsistency .. => true
  | _ => false

end RuntimeError

/-- The outcome of a call. -/
abbrev Outcome := Except RuntimeError

/-- A failure of the program itself rather than of a call: an operation the program does
on the assumption that it cannot fail, failing. It is not an outcome a caller can handle;
it ends the whole request, whose answer is its message. -/
structure Panic where
  message : String

/-- The panic of reading the first of no arguments. -/
def Panic.noFirstArgument : Panic := ⟨"index out of bounds: the len is 0 but the index is 0"⟩

end InlineCache
