import CarChain.Errors.AllocationFailures
import CarChain.Errors.FailedWrites
import CarChain.Errors.ForwardOutcomes
import CarChain.Errors.RequestArrays
import CarChain.Errors.SyncOutcomes
import CarChain.Lists.Arrays
import CarChain.Lists.Ordering
import CarChain.Lists.Refinement
import CarChain.Lists.ServerRefinement
import CarChain.Membership.ClientReconnects
import CarChain.Membership.Coordination
import CarChain.Membership.DestroyedMutex
import CarChain.Membership.SuccessorUse
import CarChain.Membership.Views
import CarChain.Membership.WatchLoop
import CarChain.Network.Addresses
import CarChain.Network.ClientSlots
import CarChain.Network.Correlation
import CarChain.Network.EventLog
import CarChain.Network.Framing
import CarChain.Network.ReplySizes
import CarChain.Network.Sessions
import CarChain.Network.Teardown
import CarChain.Remote.ClientProgram
import CarChain.Remote.CommandLoop
import CarChain.Remote.Equality
import CarChain.Remote.OrderedReplies
import CarChain.Remote.Removal
import CarChain.Replication.AtMostOnce
import CarChain.Replication.JoinAgreement
import CarChain.Replication.Linearizability
import CarChain.Replication.LiveChain
import CarChain.Replication.ReplicaAgreement
import CarChain.Replication.Retries
