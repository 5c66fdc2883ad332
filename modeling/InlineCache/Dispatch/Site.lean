import InlineCache.Dispatch.Target
import InlineCache.Dispatch.Descriptor
import InlineCache.Dispatch.Config
import InlineCache.Dispatch.Stats
/-!
# Call sites and arrays of call sites

A call site is the inline cache of one call expression: a slot that is empty, holds one
resolved target, or records that the last resolution failed. Every reset empties the slot
and advances the site's epoch. A resolution remembers the epoch at which it started, and
its result is stored only if the epoch is still the same: a resolution overtaken by a
reset is used for its own call and then forgotten, so no target resolved before a reset
survives it.

An array holds the sites of one compiled unit, in a fixed order, with one configuration;
resetting the array resets every site and advances its generation.
-/
namespace InlineCache

/-- The contents of a site's cache slot. -/
inductive Slot where
  | empty
  | cached (t : Target)
  | failed

/-- The observable state of a site. -/
inductive SiteState where
  | empty
  | cached (v : SiteVariant)
  | failed
deriving DecidableEq, Repr

/-- One call expression with its inline cache. -/
structure CallSite where
  /-- Position in its array. -/
  index : Nat
  descriptor : CallDescriptor
  slot : Slot := .empty
  stats : SiteStats := {}
  /-- Advanced by every reset. -/
  epoch : Nat := 0

namespace CallSite

/-- The cached target, if any. -/
def target? (s : CallSite) : Option Target :=
  match s.slot with
  | .cached t => some t
  | _ => none

/-- The state of the slot. -/
def state (s : CallSite) : SiteState :=
  match s.slot with
  | .empty => .empty
  | .cached t => .cached t.variant
  | .failed => .failed

/-- Store `slot` unless the site was reset since `epoch`. -/
def install (s : CallSite) (epoch : Nat) (slot : Slot) : CallSite :=
  if s.epoch == epoch then { s with slot } else s

/-- Drop the cached target; the next call resolves again. -/
def reset (s : CallSite) : CallSite :=
  { s with epoch := s.epoch + 1, slot := .empty,
           stats := { s.stats with invalidations := s.stats.invalidations + 1 } }

/-- Count a hit. -/
def recordHit (s : CallSite) : CallSite := { s with stats := { s.stats with hits := s.stats.hits + 1 } }

/-- Count a miss. -/
def recordMiss (s : CallSite) : CallSite :=
  { s with stats := { s.stats with misses := s.stats.misses + 1 } }

/-- Count a resolution that produced a target. -/
def recordResolution (s : CallSite) : CallSite :=
  { s with stats := { s.stats with resolutions := s.stats.resolutions + 1 } }

/-- Count a resolution that failed. -/
def recordFailure (s : CallSite) : CallSite :=
  { s with stats := { s.stats with failures := s.stats.failures + 1 } }

/-- Whether the site resolved more often than the threshold. -/
def isThrashing (s : CallSite) (config : DispatchConfig) : Bool :=
  s.stats.resolutions > config.thrashThreshold

end CallSite

/-- The call sites of one compiled unit. -/
structure SiteArray where
  /-- The name of the unit. -/
  unit : String
  sites : Array CallSite
  config : DispatchConfig := {}
  /-- The number of whole-array resets. -/
  generation : Nat := 0

namespace SiteArray

/-- An array of fresh sites for the descriptors, in order. -/
def ofDescriptors (unit : String) (ds : List CallDescriptor) (config : DispatchConfig) :
    SiteArray :=
  { unit, config, sites := (ds.zipIdx.map fun (d, i) => { index := i, descriptor := d }).toArray }

/-- The number of sites. -/
def size (a : SiteArray) : Nat := a.sites.size

/-- The site at `i`. -/
def site? (a : SiteArray) (i : Nat) : Option CallSite := a.sites[i]?

/-- The array with the site at `i` changed by `f`. -/
def modifySite (a : SiteArray) (i : Nat) (f : CallSite → CallSite) : SiteArray :=
  { a with sites := a.sites.modify i f }

/-- Reset every site and advance the generation. -/
def resetAll (a : SiteArray) : SiteArray :=
  { a with sites := a.sites.map CallSite.reset, generation := a.generation + 1 }

/-- The error for a site index past the end; indices beyond the 64-bit integers are
reported as the largest one. -/
def outOfRange (a : SiteArray) (i : Nat) : RuntimeError :=
  .indexOutOfRange (min i maxIndex) a.size

/-- The sites classified by state, with their counters summed. -/
def stats (a : SiteArray) : ArrayStats :=
  a.sites.foldl (fun acc s =>
    let acc := match s.state with
      | .empty => { acc with empty := acc.empty + 1 }
      | .cached _ => { acc with cached := acc.cached + 1 }
      | .failed => { acc with failed := acc.failed + 1 }
    let acc := if s.isThrashing a.config then { acc with thrashing := acc.thrashing + 1 } else acc
    { acc with totals := acc.totals.add s.stats }) {}

end SiteArray

end InlineCache
