import AgentGateway.Library.BinarySearch
import AgentGateway.Library.Fold
import AgentGateway.Routing.Types
import AgentGateway.Routing.RouteTable
import AgentGateway.Routing.RouteSetInvariant
import AgentGateway.Routing.Selection
import AgentGateway.Policy.Types
import AgentGateway.Policy.Merge
import AgentGateway.Policy.Inheritance
import AgentGateway.Library.Map
import AgentGateway.Store.Types
import AgentGateway.Store.Binds
import AgentGateway.Store.Convergence
import AgentGateway.Store.Invariants
import AgentGateway.Library.Transducer
import AgentGateway.Llm.Types
import AgentGateway.Llm.TranslateStream
import AgentGateway.Llm.StreamFraming
import AgentGateway.Realtime.Frames
import AgentGateway.Realtime.GuardedProxy
import AgentGateway.Library.Queue
import AgentGateway.Pool.Types
import AgentGateway.Pool.H2Pool
import AgentGateway.Pool.HostPool
import AgentGateway.Pool.Run
import AgentGateway.Pool.Bookkeeping
import AgentGateway.Pool.Waiters
import AgentGateway.Pool.Invariant
import AgentGateway.Library.Checked
import AgentGateway.LocalRateLimit.Ratelimiter
import AgentGateway.LocalRateLimit.Bucket
import AgentGateway.Library.StdTime
import AgentGateway.Health.Eviction
import AgentGateway.Library.IndexMap
import AgentGateway.LoadBalancer.EndpointGroup
import AgentGateway.LoadBalancer.EndpointSet
import AgentGateway.Xds.Client
import AgentGateway.Policy.Backend
import AgentGateway.Retry.ReplayBody
import AgentGateway.Proxy.Retry
import AgentGateway.Llm.StreamingGuardrails
import AgentGateway.Library.Text
import AgentGateway.Mcp.Naming
import AgentGateway.Library.Glob
import AgentGateway.Library.Bytes
import AgentGateway.Http.Cors
import AgentGateway.Llm.Transform
import AgentGateway.Llm.AwsEventStream
import AgentGateway.Library.Json
import AgentGateway.Cel.Eval
import AgentGateway.Cel.Optimize
import AgentGateway.Http.Filters
import AgentGateway.Mcp.Fanout
import AgentGateway.Library.Codec
import AgentGateway.Llm.Passthrough
import AgentGateway.Realtime.Accumulator
import AgentGateway.Library.KeyedList
import AgentGateway.Discovery.Types
import AgentGateway.Discovery.Store
import AgentGateway.Discovery.Workloads
import AgentGateway.LoadBalancer.Placement
import AgentGateway.Discovery.Endpoints
import AgentGateway.Discovery.Services
import AgentGateway.Discovery.Consistency
import AgentGateway.Discovery.Runs
