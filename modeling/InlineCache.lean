import InlineCache.Script.Request
import InlineCache.Proofs.Redefinition
import InlineCache.Proofs.Selection
import InlineCache.Proofs.QuerySteps
import InlineCache.Proofs.Resolution
import InlineCache.Proofs.TableGuard
import InlineCache.Proofs.ReadingFrame
import InlineCache.Proofs.Runs
import InlineCache.Proofs.Sites
import InlineCache.Proofs.Epochs
import InlineCache.Proofs.Recheck
import InlineCache.Proofs.FreshIds
import InlineCache.Proofs.Transparency
import InlineCache.Proofs.MostSpecific
import InlineCache.Proofs.Consistency
import InlineCache.Proofs.RepeatedCalls
import InlineCache.Proofs.ArrayChanges
import InlineCache.Proofs.Accounting
import InlineCache.Proofs.Invalidations
import InlineCache.Proofs.RegistryRuns
import InlineCache.Proofs.Tables
import InlineCache.Proofs.TableStamps
import InlineCache.Proofs.ByteIndex
import InlineCache.Proofs.IdAllocation
import InlineCache.Proofs.Operators
import InlineCache.Proofs.Superclasses
