/-!
# Dispatch counters

Each call site counts its cache hits, its misses, the resolutions that produced a target,
the resolutions that failed and its resets. A call is a hit or a miss, and the hit rate is
the share of hits among calls in percent, zero before the first call.
-/
namespace InlineCache

/-- The counters of one call site. -/
structure SiteStats where
  hits : Nat := 0
  misses : Nat := 0
  resolutions : Nat := 0
  failures : Nat := 0
  invalidations : Nat := 0
deriving DecidableEq, Repr

namespace SiteStats

/-- The number of calls. -/
def calls (s : SiteStats) : Nat := s.hits + s.misses

/-- Hits as a percentage of calls, in binary64. -/
def hitRate (s : SiteStats) : Float :=
  if s.calls == 0 then 0.0 else (Float.ofNat s.hits / Float.ofNat s.calls) * 100.0

/-- The sum of two sets of counters. -/
def add (a b : SiteStats) : SiteStats :=
  { hits := a.hits + b.hits, misses := a.misses + b.misses,
    resolutions := a.resolutions + b.resolutions, failures := a.failures + b.failures,
    invalidations := a.invalidations + b.invalidations }

end SiteStats

/-- The counters of an array: its sites by state, the thrashing ones, and the totals. -/
structure ArrayStats where
  empty : Nat := 0
  cached : Nat := 0
  failed : Nat := 0
  thrashing : Nat := 0
  totals : SiteStats := {}
deriving DecidableEq, Repr

/-- The number of sites counted. -/
def ArrayStats.sites (s : ArrayStats) : Nat := s.empty + s.cached + s.failed

end InlineCache
