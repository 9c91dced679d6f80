import DexAdapter.XExchange.Attribution
import DexAdapter.OneDex.Attribution
import DexAdapter.OneDex.Fields
import DexAdapter.Verify.Conservation
import DexAdapter.Verify.Malformed
import DexAdapter.Verify.Isolation
import DexAdapter.Verify.Ranges
import DexAdapter.Verify.Resolution
import DexAdapter.Verify.TransactionIndex
import DexAdapter.Verify.ArrivalOrder
import DexAdapter.World
import DexAdapter.Verify.Repeatable
import DexAdapter.Verify.Order
import DexAdapter.Verify.Batches
import DexAdapter.Lib.Pages
import DexAdapter.OneDex.Pagination
import DexAdapter.Lib.Runs
import DexAdapter.Lib.TtlCache
import DexAdapter.TokenCache
import DexAdapter.Verify.NotFound
import DexAdapter.Asset
import DexAdapter.Verify.MarketIds
import DexAdapter.Verify.Overlap
import DexAdapter.OneDex.SamePair
import DexAdapter.Verify.Prices
import DexAdapter.XExchange.Orientation
import DexAdapter.Lib.Segments
import DexAdapter.Verify.Following
import DexAdapter.Verify.History
import DexAdapter.Verify.Latest
import DexAdapter.Verify.Feed
import DexAdapter.Verify.Blocks
import DexAdapter.Lib.TwoLevelCache
import DexAdapter.CacheInfo
import DexAdapter.SharedCache
import DexAdapter.Verify.SharedCacheSteps
import DexAdapter.Verify.TokenSimulation
import DexAdapter.Verify.Staleness
import DexAdapter.Verify.Coverage
import DexAdapter.Verify.Announcements
import DexAdapter.Verify.OnTime
