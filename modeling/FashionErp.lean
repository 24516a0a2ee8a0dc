import FashionErp.Lib.Tx
import FashionErp.Lib.Table
import FashionErp.Lib.Ledger
import FashionErp.Lib.Running
import FashionErp.Lib.Machine
import FashionErp.Lib.Serial
import FashionErp.Lib.Concurrent
import FashionErp.Lib.SaveEntity
import FashionErp.Lib.LineTx
import FashionErp.Lib.Column
import FashionErp.Core.Basic
import FashionErp.Core.Entities
import FashionErp.Core.Db
import FashionErp.Inventory.StockLock
import FashionErp.Core.MasterData
import FashionErp.Inventory.GoodsReceipts
import FashionErp.Inventory.ReceiptRace
import FashionErp.Inventory.StockTransfers
import FashionErp.Inventory.StockAdjustments
import FashionErp.Sales.Loyalty
import FashionErp.Sales.Sales
import FashionErp.Sales.Pricing
import FashionErp.Sales.Promotions
import FashionErp.Sales.SaleCreation
import FashionErp.Sales.SaleReturns
import FashionErp.Purchase.PurchaseReturns
import FashionErp.Purchase.PurchaseInvoices
import FashionErp.Purchase.PurchaseReturnRace
import FashionErp.Purchase.PurchaseOrders
import FashionErp.Purchase.OrderRace
import FashionErp.Inventory.StockLedger
import FashionErp.Inventory.StockCard
import FashionErp.Sales.RedeemRace
import FashionErp.Sales.SaleReturnRace
import FashionErp.Sales.ConfirmRace
import FashionErp.Sales.PromotionRace
import FashionErp.Accounting.DoubleEntry
import FashionErp.Accounting.JournalEntries
import FashionErp.Accounting.JournalRace
import FashionErp.Accounting.AccountingPosting
import FashionErp.Outbox.Outbox
import FashionErp.Payments.Payments
import FashionErp.Payments.Payables
import FashionErp.Payments.PayablesInvariant
import FashionErp.Payments.PayablesRun
import FashionErp.Purchase.VoidRace
import FashionErp.Purchase.ClosedOrders
import FashionErp.Sales.SaleReturnRun
import FashionErp.Sales.ReturnPoints
import FashionErp.Inventory.BaseUnits
import FashionErp.Payments.CreateRace
import FashionErp.Outbox.Publisher
import FashionErp.Outbox.Claims
import FashionErp.Payments.IdempotencyRace
import FashionErp.Payments.SalePaymentRace
import FashionErp.Payments.Reversal
import FashionErp.Payments.Parties
import FashionErp.Reports.LedgerReports
import FashionErp.Reports.BalanceSheet
import FashionErp.Access.Entities
import FashionErp.Access.DataScopes
import FashionErp.Access.Memberships
import FashionErp.Access.SuperAdmin
import FashionErp.Access.AdminRace
import FashionErp.Shopping.Catalog
import FashionErp.Webhooks.Delivery
import FashionErp.Access.Credentials
import FashionErp.Access.RefreshTokens
import FashionErp.Reports.Isolation
import FashionErp.Portal.LinkCodes
import FashionErp.Portal.CustomerOrders
import FashionErp.Portal.OrdersOnce
import FashionErp.Shopping.Session
import FashionErp.Shopping.Shopping
import FashionErp.Shopping.Moves
import FashionErp.Shopping.Answers
import FashionErp.Hr.LeaveRequests
import FashionErp.Notifications.Notifications
import FashionErp.Notifications.EventConsumers
import FashionErp.Purchase.RfqRace
import FashionErp.Products.PriceRace
import FashionErp.Hierarchy.Hierarchies
import FashionErp.Hr.EffectiveDates
import FashionErp.Payroll.PayrollRuns
import FashionErp.Payroll.Calculation
import FashionErp.Payroll.UnpaidLeave
import FashionErp.Numbering.DocumentNumbers
import FashionErp.Numbering.NumberRace
import FashionErp.Assistant.ToolExecutor
import FashionErp.Inventory.StockDeadlocks
import FashionErp.Payments.InvoiceDeadlocks
import FashionErp.CustomerSupplier.PrimaryRace
import FashionErp.Settings.Settings
import FashionErp.Assistant.IngestionRace
import FashionErp.Products.VariantRace
import FashionErp.Access.BotSessions
import FashionErp.Accounting.PeriodRace
import FashionErp.Portal.OrderStatusRace
import FashionErp.SalesAccounts.AssignmentRace
import FashionErp.Reports.AgingTotals
import FashionErp.Reports.PurchaseReports
import FashionErp.Reports.Breakdowns
import FashionErp.Purchase.InvoiceSync
import FashionErp.Purchase.OrderCreation
import FashionErp.Purchase.ReturnCredits
import FashionErp.Portal.LinkedPhones
import FashionErp.Payments.LedgerMirror
import FashionErp.Portal.MultiAgent
import FashionErp.Shopping.Updates
import FashionErp.Shopping.RawUpdates
import FashionErp.Shopping.Choosing
import FashionErp.Shopping.Calls
import FashionErp.Shopping.Containment
import FashionErp.Shopping.Budgets
import FashionErp.Shopping.Discovery
import FashionErp.Shopping.Carts
import FashionErp.Portal.CustomerCatalog
import FashionErp.Portal.CatalogDiscovery
import FashionErp.Sales.DocumentTotals
import FashionErp.Assistant.Retrieval
import FashionErp.Observability.MetricsRegistry
import FashionErp.Webhooks.UrlGuard
import FashionErp.Access.RateLimit
import FashionErp.Portal.StrictOutput
import FashionErp.Shopping.AssistantSchema
import FashionErp.Hierarchy.AncestorWalk
import FashionErp.Hierarchy.CategoryCodes
import FashionErp.Lib.Pages
import FashionErp.Reports.MovementPages
import FashionErp.Reports.AuditLog
import FashionErp.Assistant.Chat
import FashionErp.Assistant.Masking
