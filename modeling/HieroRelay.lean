import HieroRelay.Accounts.AccountService
import HieroRelay.Accounts.BalanceService
import HieroRelay.Accounts.HistoricNonce
import HieroRelay.Accounts.RecentBalance
import HieroRelay.Blocks.Answers
import HieroRelay.Blocks.BlockAnswers
import HieroRelay.Blocks.ImmatureRecords
import HieroRelay.Blocks.Ledger
import HieroRelay.Blocks.ReceiptViews
import HieroRelay.Cache.CacheService
import HieroRelay.Cache.RedisFallback
import HieroRelay.Cache.ReservedKeys
import HieroRelay.Entities.MirrorNodeClient
import HieroRelay.Entities.SharedEntries
import HieroRelay.Filters.AddressLists
import HieroRelay.Filters.CommonService
import HieroRelay.Filters.ExactlyOnce
import HieroRelay.Filters.FilterRemoval
import HieroRelay.Filters.FilterService
import HieroRelay.Filters.LogQueries
import HieroRelay.Filters.PermanentRemoval
import HieroRelay.Filters.Polling
import HieroRelay.Filters.Reading
import HieroRelay.Hapi.ClientRotation
import HieroRelay.Hapi.ExpenseCompleteness
import HieroRelay.Hapi.FileCleanup
import HieroRelay.Hapi.RawTransactions
import HieroRelay.Hbar.AddressLinks
import HieroRelay.Hbar.ConcurrentExpenses
import HieroRelay.Hbar.Evaluation
import HieroRelay.Hbar.ExpenseAccounting
import HieroRelay.Hbar.HbarLimitService
import HieroRelay.Hbar.LostExpenses
import HieroRelay.Hbar.OperatorPlan
import HieroRelay.Hbar.PopulatedPlans
import HieroRelay.Hbar.ResetSchedule
import HieroRelay.Hbar.WindowBudget
import HieroRelay.Js.Promise
import HieroRelay.Js.Text
import HieroRelay.Js.Value
import HieroRelay.Lib.Run
import HieroRelay.Lib.Table
import HieroRelay.Lib.Windows
import HieroRelay.Mirror.MatureRecords
import HieroRelay.RateLimits.KeyIsolation
import HieroRelay.RateLimits.RedisRateLimitStore
import HieroRelay.RateLimits.StoreAgreement
import HieroRelay.Redis.CacheTransparency
import HieroRelay.Relay.CacheDecorator
import HieroRelay.Relay.CachedOutcome
import HieroRelay.Relay.Dispatcher
import HieroRelay.Relay.EthMethods
import HieroRelay.Relay.HeadRelative
import HieroRelay.Relay.Validators
import HieroRelay.Server.BatchShape
import HieroRelay.Server.KoaJsonRpc
import HieroRelay.Server.RequestIsolation
import HieroRelay.Server.RpcResponse
import HieroRelay.Ws.ClosedConnections
import HieroRelay.Ws.ConnectionCounts
import HieroRelay.Ws.JsonRpcController
import HieroRelay.Ws.LogDelivery
import HieroRelay.Ws.ReplyPairing
import HieroRelay.Formatting.Numerals
import HieroRelay.Formatting.TransactionValues
import HieroRelay.Debug.BlockTraces
import HieroRelay.Debug.PrestateCache
import HieroRelay.Fees.FeeHistory
import HieroRelay.Formatting.ErrorMessages
import HieroRelay.Formatting.Quantities
import HieroRelay.Hbar.ActivePlans
import HieroRelay.Lib.Rlp
import HieroRelay.Receipts.ReceiptEncoding
import HieroRelay.Cache.CounterExpiry
import HieroRelay.Fees.Precheck
import HieroRelay.Formatting.Int64
import HieroRelay.Hapi.FileFees
import HieroRelay.Js.RegExp
import HieroRelay.Lib.IpAddress
import HieroRelay.Lib.Search
import HieroRelay.Relay.BlockParams
import HieroRelay.Relay.CacheKeys
import HieroRelay.Relay.TypedValues
import HieroRelay.Server.ForwardedHeader
import HieroRelay.Server.ForwardedParsing
import HieroRelay.Cache.KeyPatterns
import HieroRelay.Cache.KeyExpressions
import HieroRelay.Cache.KeyMatching
import HieroRelay.Cache.ListRange
import HieroRelay.Cache.MultiSet
import HieroRelay.Receipts.BloomMasks
import HieroRelay.Js.FormUrlEncoded
import HieroRelay.Mirror.QueryParams
import HieroRelay.Mirror.QueryRoundTrip
import HieroRelay.Mirror.TextParams
import HieroRelay.Contracts.ConsensusCalls
import HieroRelay.Contracts.GasEstimates
import HieroRelay.Contracts.MirrorCalls
import HieroRelay.Fees.SendRawTransactionCheck
import HieroRelay.Mirror.CachedLookups
import HieroRelay.RateLimits.SpanBounds
import HieroRelay.Server.RegisteredMethods
import HieroRelay.Ws.InactivityTimers
import HieroRelay.Ws.Notifications
import HieroRelay.Hapi.SubmissionGate
import HieroRelay.Hapi.QueryCosts
import HieroRelay.Contracts.StateReads
import HieroRelay.Ws.ServerAgreement
import HieroRelay.Relay.BlockLookups
import HieroRelay.Formatting.SentTransactions
