import BucketSteward.Catalogue
import BucketSteward.Json.Pointer
import BucketSteward.Main
import BucketSteward.Remote.Client
import BucketSteward.Remote.Server
import BucketSteward.Store
import BucketSteward.Turn
import BucketSteward.Proofs.Calendar
import BucketSteward.Proofs.Timestamp
import BucketSteward.Proofs.Difference
import BucketSteward.Proofs.LawfulForm
import BucketSteward.Proofs.ConfigurationForms
import BucketSteward.Proofs.WrittenForms
import BucketSteward.Proofs.Delta
import BucketSteward.Proofs.PartValues
import BucketSteward.Proofs.SpecMembers
import BucketSteward.Proofs.PlainNames
import BucketSteward.Proofs.Patching
import BucketSteward.Proofs.Discipline
import BucketSteward.Proofs.Recovery
import BucketSteward.Proofs.Serving
import BucketSteward.Proofs.Observation
import BucketSteward.Proofs.Items
import BucketSteward.Proofs.RepeatedIds
import BucketSteward.Proofs.Matching
import BucketSteward.Proofs.PlannedItems
import BucketSteward.Proofs.TagReplacement
import BucketSteward.Proofs.Writing
import BucketSteward.Proofs.Settling
import BucketSteward.Proofs.Convergence
import BucketSteward.Proofs.DependencyOrder
import BucketSteward.Proofs.CanonicalForms
import BucketSteward.Proofs.Codec
import BucketSteward.Proofs.WireRoundTrip
import BucketSteward.Proofs.ReadBack
import BucketSteward.Proofs.CannedGrants
import BucketSteward.Proofs.StoredNames
import BucketSteward.Proofs.AclComparison
import BucketSteward.Proofs.AclDrift
import BucketSteward.Proofs.Recurrence
import BucketSteward.Proofs.SentAcl
import BucketSteward.Proofs.BlankTexts
import BucketSteward.Proofs.Scope
import BucketSteward.Proofs.DirectoryGate
import BucketSteward.Proofs.Isolation
import BucketSteward.Proofs.ConditionHistory
import BucketSteward.Proofs.Counting
import BucketSteward.Proofs.Turns
import BucketSteward.Proofs.Verdict
import BucketSteward.Proofs.DeletionChoice
import BucketSteward.Proofs.Cleanup
import BucketSteward.Proofs.Updating
import BucketSteward.Proofs.WritingOrder
import BucketSteward.Proofs.NormalForm
import BucketSteward.Proofs.Frame
import BucketSteward.Proofs.MissingMembers
import BucketSteward.Proofs.Paging
import BucketSteward.Proofs.Unsent
