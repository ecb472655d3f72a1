import SniRouter.Cache.Accounting
import SniRouter.Cache.Invalidation
import SniRouter.Lib.Machine
import SniRouter.Lib.SmallVec
import SniRouter.Protocol.HelloGrammar
import SniRouter.Delivery.HelloReader
import SniRouter.Routing.MatchingRule
import SniRouter.Cache.Provenance
import SniRouter.Delivery.Connection
import SniRouter.Delivery.Net
import SniRouter.Delivery.Control
import SniRouter.Delivery.Shutdown
import SniRouter.Delivery.Forwarding
import SniRouter.Delivery.Bookkeeping
import SniRouter.Delivery.Server
import SniRouter.Delivery.WireBound
import SniRouter.Cache.Operations
import SniRouter.Cache.Index
import SniRouter.Cache.Capacity
import SniRouter.Cache.Consistency
import SniRouter.Cache.Spawn
import SniRouter.Resolver.State
import SniRouter.Resolver.System
import SniRouter.Resolver.Answers
import SniRouter.Resolver.StaleWindow
import SniRouter.Resolver.Rotation
import SniRouter.App.Config
import SniRouter.App.Reload
import SniRouter.Platform.IpText
import SniRouter.Routing.HitOrder
import SniRouter.Lookup.BackendText
import SniRouter.Lookup.KeyText
import SniRouter.Routing.LiveRoutes
import SniRouter.Resolver.Pruning
import SniRouter.Resolver.SingleFlight
import SniRouter.Lib.MayPanic
import SniRouter.Protocol.Bounds
import SniRouter.Protocol.EarlyReject
import SniRouter.Delivery.Idle
import SniRouter.Delivery.Splice
import SniRouter.Delivery.Turns
import SniRouter.Delivery.Budget
import SniRouter.Delivery.CopyStage
import SniRouter.Delivery.CopyFuture
import SniRouter.Lib.Permits
import SniRouter.Delivery.Deadlines
import SniRouter.Delivery.Progress
import SniRouter.Delivery.Backward
import SniRouter.App.Sighup
import SniRouter.App.Admin
import SniRouter.App.Run
import SniRouter.Delivery.Lookups
import SniRouter.App.Routed
import SniRouter.App.Progress
import SniRouter.Cache.Ledger
import SniRouter.Cache.Deadlines
import SniRouter.Cache.Progress
