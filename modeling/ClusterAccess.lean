import ClusterAccess.Cluster
import ClusterAccess.Main
import ClusterAccess.Manifest.Verbs
import ClusterAccess.Proofs.Confinement
import ClusterAccess.Proofs.QueryAlone
import ClusterAccess.Proofs.EdgeClasses
import ClusterAccess.Proofs.SingleLoad
import ClusterAccess.Proofs.BindingFreshness
import ClusterAccess.Proofs.RefreshedGraph
import ClusterAccess.Proofs.ListingLifetimes
import ClusterAccess.Proofs.InterleavedListings
import ClusterAccess.Proofs.DirectEvaluation
import ClusterAccess.Proofs.GraphAnswers
import ClusterAccess.Proofs.DividedLists
import ClusterAccess.Proofs.PrincipalNames
import ClusterAccess.Proofs.Holdings
import ClusterAccess.Proofs.PageSizes
import ClusterAccess.Proofs.HeldSnapshots
import ClusterAccess.Proofs.MembershipCounts
import ClusterAccess.Proofs.OfferedMemberships
import ClusterAccess.Proofs.ScopeSlugs
import ClusterAccess.Proofs.ResourceIds
import ClusterAccess.Proofs.NarrowingNames
import ClusterAccess.Proofs.FailedPages
import ClusterAccess.Proofs.SkippedRecords
import ClusterAccess.Proofs.GrantBreadth
import ClusterAccess.Proofs.ObjectListings
import ClusterAccess.Proofs.NamespaceReadings
import ClusterAccess.Proofs.ResourceAnswers
import ClusterAccess.Proofs.WrittenRefs
import ClusterAccess.Proofs.VerbSets
