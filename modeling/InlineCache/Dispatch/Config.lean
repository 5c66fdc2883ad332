import InlineCache.Text.Unicode.Blank
/-!
# Dispatch configuration

One immutable record configures every site of an array: the number of resolutions after
which a site counts as thrashing between receiver shapes, and whether cache hits are
traced. Both can be read from an environment: the threshold as an unsigned 64-bit decimal
after trimming blanks (an optional `+`, digits only), the flag as one of `1`, `true`,
`yes`, `on` after trimming and lower-casing ASCII letters. A setting that is absent, or a
threshold that does not read, leaves the default.
-/
namespace InlineCache

/-- Settings shared by the sites of an array. -/
structure DispatchConfig where
  /-- Sites resolved more often than this count as thrashing. -/
  thrashThreshold : Nat := 64
  /-- Whether cache hits are traced. -/
  traceHits : Bool := false
deriving DecidableEq, Repr

namespace DispatchConfig

/-- The environment variable of the thrash threshold. -/
def thrashVariable : String := "DYNCALL_THRASH_THRESHOLD"

/-- The environment variable of hit tracing. -/
def traceVariable : String := "DYNCALL_TRACE_HITS"

/-- The value of a decimal digit. -/
def digitValue (c : Char) : Option Nat :=
  if c.isDigit then some (c.toNat - '0'.toNat) else none

/-- An unsigned 64-bit decimal: an optional `+`, then one or more ASCII digits. -/
def parseWord (s : String) : Option Nat :=
  let cs := s.toList
  let digits := match cs with
    | '+' :: rest => rest
    | _ => cs
  if digits.isEmpty then none
  else do
    let n ← digits.foldlM (fun acc c => (acc * 10 + ·) <$> digitValue c) 0
    if n < Nat.pow 2 64 then some n else none

/-- Whether a flag's text means "on". -/
def parseFlag (s : String) : Bool :=
  let t := String.ofList ((Unicode.trim s).toList.map Char.toLower)
  t == "1" || t == "true" || t == "yes" || t == "on"

/-- The configuration an environment describes. -/
def ofLookup (lookup : String → Option String) : DispatchConfig :=
  { thrashThreshold := ((lookup thrashVariable).bind fun v => parseWord (Unicode.trim v)).getD 64,
    traceHits := ((lookup traceVariable).map parseFlag).getD false }

end DispatchConfig

end InlineCache
