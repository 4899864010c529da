import Peloton.Lib.KeyedList
import Peloton.Common.InternalTypes
import Peloton.Index.BloomFilter
import Peloton.Lib.WeakOrder
import Peloton.Index.SortedSmallSet
import Peloton.Index.BwTree.LeafChain
import Peloton.Index.BwTree.Consolidate
import Peloton.Index.BwTree.LeafOps
import Peloton.Index.BwTree.FirstLeaf
import Peloton.Storage.TileGroupHeader
import Peloton.Concurrency.TransactionContext
import Peloton.Concurrency.TimestampOrdering
import Peloton.Concurrency.TransactionManager
import Peloton.Executor.WritePath
import Peloton.Executor.WritePathSteps
import Peloton.TrafficCop.TrafficCop
import Peloton.Index.Index
import Peloton.Storage.DataTable
import Peloton.Executor.IndexScan
import Peloton.Concurrency.LocalEpoch
import Peloton.Lib.History
import Peloton.Lib.TransitionSystem
import Peloton.Gc.TransactionLevelGcManager
import Peloton.Gc.EpochInvariant
import Peloton.Gc.GracePeriod
import Peloton.Concurrency.Ownership
import Peloton.Lib.HashTable
import Peloton.Type.Value
import Peloton.Common.ContainerTuple
import Peloton.Executor.LogicalTile
import Peloton.Executor.AbstractJoin
import Peloton.Executor.HashJoin
import Peloton.Executor.HashSetOp
import Peloton.Executor.OrderBy
import Peloton.Lib.LexOrder
import Peloton.Index.GenericKey
import Peloton.Executor.Aggregator
import Peloton.Executor.MergeJoin
import Peloton.Type.IntegerParentType
import Peloton.Type.Timestamp
import Peloton.Type.ValueFactory
import Peloton.Storage.ZoneMapManager
import Peloton.Codegen.OAHashTable
import Peloton.Index.BwTree.Split
import Peloton.Lib.ByteOrder
import Peloton.Type.TypeId
import Peloton.Index.CompactIntsKey
import Peloton.Index.ArtIndex
import Peloton.Index.ScanOptimizer
import Peloton.Function.StringFunctions
import Peloton.Common.Cache
import Peloton.Codegen.CCHashTable
import Peloton.Codegen.QueryCache
import Peloton.Binder.BinderContext
import Peloton.Function.TimestampFunctions
import Peloton.Network.Marshal
import Peloton.Optimizer.Binding
import Peloton.Function.Like
import Peloton.Concurrency.LocalEpochImpl
import Peloton.Concurrency.LastReader
import Peloton.Lib.PriorityQueue
import Peloton.Optimizer.Stats.CountMinSketch
import Peloton.Optimizer.Stats.TopKElements
import Peloton.Lib.WeightedPoints
import Peloton.Optimizer.Stats.Histogram
import Peloton.Lib.DecimalText
import Peloton.Optimizer.Stats.StatsStorage
import Peloton.Lib.Framing
import Peloton.Network.PacketReader
import Peloton.Network.Reader
import Peloton.Network.PacketWriter
import Peloton.Network.PostgresProtocolHandler
import Peloton.Network.ConnectionHandle
import Peloton.Network.Session
import Peloton.Lib.Relational
import Peloton.Optimizer.RuleImpls
