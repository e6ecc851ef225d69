import SentryWms.Core.Table
import SentryWms.Core.Walk
import SentryWms.Core.Transition
import SentryWms.Core.Directory
import SentryWms.Core.Fallback
import SentryWms.Core.Keyset
import SentryWms.Core.Numeral
import SentryWms.Store.Schema
import SentryWms.Webhook.Dispatch
import SentryWms.Webhook.Cursor
import SentryWms.Webhook.Attempts
import SentryWms.Picking.Errors
import SentryWms.Store.Inventory
import SentryWms.Picking.Task
import SentryWms.Picking.Batch
import SentryWms.Picking.Complete
import SentryWms.Picking.Frame
import SentryWms.Picking.Promotion
import SentryWms.TransferOrder.Lifecycle
import SentryWms.Store.Stock
import SentryWms.TransferOrder.Runs
import SentryWms.TransferOrder.Reservation
import SentryWms.TransferOrder.Submission
import SentryWms.TransferOrder.StateMachine
import SentryWms.Pos.Cart
import SentryWms.Pos.Checkout
import SentryWms.Pos.Fulfillment
import SentryWms.Pos.Refund
import SentryWms.Pos.RefundLedger
import SentryWms.Pos.Sale
import SentryWms.SalesOrder.Cancel
import SentryWms.SalesOrder.Release
import SentryWms.Shipping.Ship
import SentryWms.SalesOrder.Revert
import SentryWms.Shipping.OneFulfillment
import SentryWms.Receiving.Receive
import SentryWms.Receiving.Putaway
import SentryWms.Receiving.StockEntry
import SentryWms.Store.Filing
import SentryWms.Receiving.FiledAtHome
import SentryWms.Receiving.FiledStock
import SentryWms.Pos.ShippedRefunds
import SentryWms.Inbound.Version
import SentryWms.Inbound.VersionOrder
import SentryWms.Core.Value
import SentryWms.Inbound.Mapping
import SentryWms.Inbound.DecimalBounds
import SentryWms.Snapshot.Scan
import SentryWms.Counting.BinMatches
import SentryWms.Core.ReadCommitted
import SentryWms.Core.Session
import SentryWms.Core.Cooperation
import SentryWms.Core.UniqueRows
import SentryWms.Core.Uuid
import SentryWms.Core.Ranking
import SentryWms.Core.Window
import SentryWms.Core.Csv
import SentryWms.Admin.CsvExport
import SentryWms.Core.Varchar
import SentryWms.Core.RowImport
import SentryWms.Admin.ImportRows
import SentryWms.Admin.CsvImport
import SentryWms.Admin.BadRows
import SentryWms.Admin.ImportRuns
import SentryWms.Admin.ImportedOnce
import SentryWms.Counting.StockRequests
import SentryWms.Counting.NoLostUpdate
import SentryWms.Events.Polling
import SentryWms.Events.Outbox
import SentryWms.Events.Announcing
import SentryWms.Events.Announced
import SentryWms.Snapshot.Handoff
import SentryWms.Counting.CycleCount
import SentryWms.Shipping.DockdRequests
import SentryWms.Shipping.KeyBinding
import SentryWms.Channel.Availability
import SentryWms.Channel.Truth
import SentryWms.SalesOrder.Editing
import SentryWms.Token.Cache
import SentryWms.Core.Ipaddress
import SentryWms.Webhook.Transport
import SentryWms.Webhook.Permanent
import SentryWms.Core.HashChain
import SentryWms.Audit.Log
import SentryWms.Audit.Tamper
import SentryWms.Webhook.Pool
import SentryWms.Webhook.Replay
import SentryWms.Sync.SyncState
import SentryWms.Sync.OneRun
import SentryWms.Moving.MoveRequests
import SentryWms.Moving.Conservation
import SentryWms.PreferredBins.PreferredBin
import SentryWms.PreferredBins.Hierarchy
import SentryWms.Receiving.EntryRequests
import SentryWms.Receiving.CountedOnce
import SentryWms.Packing.PackRequests
import SentryWms.Packing.VerifiedOnce
import SentryWms.Auth.AuthRequests
import SentryWms.Auth.EarlierSessions
import SentryWms.Auth.Lockout
import SentryWms.Auth.LoginPhases
import SentryWms.Auth.GuessSteps
import SentryWms.Auth.BoundedGuesses
import SentryWms.Catalog.Products
import SentryWms.Catalog.Pricing
import SentryWms.Catalog.Requests
import SentryWms.Catalog.Effects
import SentryWms.Catalog.OneItemPerBarcode
import SentryWms.Catalog.QuotedIdentity
import SentryWms.Catalog.SameItem
import SentryWms.Catalog.ReviewForm
import SentryWms.Catalog.BulkMatch
import SentryWms.Catalog.BulkAccounts
import SentryWms.Picking.WaveCredit
import SentryWms.Shipping.VoidedShip
import SentryWms.SalesOrder.AdminPick
import SentryWms.Receiving.Cancel
import SentryWms.Picking.TakenOut
import SentryWms.SalesOrder.AdminPicked
import SentryWms.TransferOrder.MovesStock
import SentryWms.TransferOrder.ImportReserves
import SentryWms.Core.Admission
import SentryWms.Picking.Coverage
import SentryWms.Picking.WaveMargins
import SentryWms.Picking.WaveTurns
import SentryWms.SalesOrder.ReleasedPicks
import SentryWms.Receiving.Returns
import SentryWms.Receiving.RmaCounter
import SentryWms.Receiving.ReceivedInFull
import SentryWms.Receiving.Unreceive
import SentryWms.SalesOrder.SteppedReservation
import SentryWms.Receiving.ReleasedBackorders
import SentryWms.SalesOrder.PartialFulfillment
import SentryWms.Receiving.PoCounts
import SentryWms.Receiving.PoStatus
import SentryWms.Core.Join
import SentryWms.Store.Upstream
import SentryWms.Inbound.InventoryUpdate
import SentryWms.Events.ConfirmedLines
import SentryWms.Channel.Parked
import SentryWms.Snapshot.Keeper
import SentryWms.Snapshot.Reaping
import SentryWms.Webhook.SecretRotation
import SentryWms.Webhook.SigningRace
import SentryWms.Core.Forest
import SentryWms.Labels.BinLabels
import SentryWms.SalesOrder.Related
import SentryWms.Core.Urllib
import SentryWms.Webhook.UrlNormalize
import SentryWms.Webhook.OneEndpoint
import SentryWms.Webhook.RateLimiter
import SentryWms.Inbound.Prefetch
import SentryWms.Inbound.Required
import SentryWms.Inbound.StorageBins
import SentryWms.Inbound.MirroredBins
import SentryWms.Receiving.TurboBatches
import SentryWms.Connectors.CircuitBreaker
import SentryWms.Core.Grouping
import SentryWms.Picking.PickingGroups
import SentryWms.Labels.ScansBack
import SentryWms.Labels.Code128
import SentryWms.Labels.ReadAlike
