/-
`CustomerPortalService.createOrder` one step at a time.

An order is a sale and an online order, committed one after the other.
-/
import FashionErp.Lib.Concurrent
import FashionErp.Sales.SaleCreation

namespace FashionErp

open Lib Lib.Tx

/-! ## The rows -/

inductive LinkStatus
  | Active
  | Revoked
  deriving DecidableEq

structure CustomerTelegramLink where
  telegramUserId : String
  customerId : Uuid
  status : LinkStatus

instance : Keyed CustomerTelegramLink String := ⟨CustomerTelegramLink.telegramUserId⟩

inductive OnlineOrderSource
  | Telegram
  | Website
  | Facebook
  deriving DecidableEq

inductive OnlineOrderStatus
  | PendingReview
  | Confirmed
  | Packed
  | OnMyWay
  | Delivered
  | Cancelled
  deriving DecidableEq

structure OnlineOrder where
  id : Uuid
  companyId : Uuid
  saleId : Uuid
  customerId : Uuid
  source : OnlineOrderSource
  status : OnlineOrderStatus
  telegramUserId : Option String
  telegramUsername : Option String
  deliveryAddress : String
  statusUpdatedAt : Option Instant
  deriving DecidableEq

instance : Keyed OnlineOrder Uuid := ⟨OnlineOrder.id⟩

namespace CustomerOrders

/-- The tables `createOrder` reads and writes. -/
structure PortalDb where
  erp : Db
  links : Table CustomerTelegramLink := .empty
  onlineOrders : Table OnlineOrder := .empty

def PortalDb.sales (w : PortalDb) : List Sale := w.erp.selling.sales.rows

/-! ## A call -/

structure CreateCustomerOrderItemDto where
  sku : String
  quantity : ℕ
  deriving DecidableEq

structure CreateCustomerOrderDto where
  companyId : Option Uuid := none
  idempotencyKey : Option String
  telegramUserId : String
  notes : Option String := none
  deliveryAddress : String
  telegramUsername : Option String := none
  items : List CreateCustomerOrderItemDto

/-- What a call asks for: the list its creation hash is taken of. -/
structure Details where
  customerId : Uuid
  telegramUserId : String
  deliveryAddress : String
  notes : Option String
  items : List CreateCustomerOrderItemDto
  deriving DecidableEq

/-- The values `createOrder` hashes. -/
inductive HashInput
  | key (companyId botUserId : Uuid) (telegramUserId idempotencyKey : String)
  | details (d : Details)

/-- A call of `createOrder`, and the time `SalesService.create` takes for the sale. -/
structure Call where
  botUserId : Uuid
  dto : CreateCustomerOrderDto
  now : Instant

def Call.details (c : Call) (customerId : Uuid) : Details :=
  { customerId, telegramUserId := c.dto.telegramUserId, deliveryAddress := c.dto.deliveryAddress
    notes := c.dto.notes, items := c.dto.items }

def Call.creation (hash : HashInput → String) (c : Call) (customer : Customer) :
    Option SalesService.Creation :=
  (c.dto.idempotencyKey.filter (· ≠ "")).map fun idempotencyKey =>
    { key := hash (.key customer.companyId c.botUserId c.dto.telegramUserId idempotencyKey)
      hash := hash (.details (c.details customer.id)) }

/-- `getLinkedCustomerOrThrow`; of a deleted customer the relation is `null`, and so is the
first thing the caller does with it an error. -/
def getLinkedCustomerOrThrow (w : PortalDb) (telegramUserId : String) : Except Failure Customer :=
  match (w.links.find? telegramUserId).filter fun link => link.status = .Active with
  | none => .error (appException .Forbidden
      "This Telegram account is not linked to a customer — verify your phone number first")
  | some link =>
    match (w.erp.master.customers.find? link.customerId).filter fun customer => !customer.deleted with
    | none => .error .typeError
    | some customer => .ok customer

/-! ## The sale an order asks for -/

/-- `toUpperCase` as far as the search for `RETAIL` is concerned: of the letters beyond
ASCII only the dotless i becomes one of its letters. -/
def upperCase (c : Char) : Char := if c = 'ı' then 'I' else c.toUpper

def isRetail (priceList : PriceList) : Bool :=
  "RETAIL".toList <:+: priceList.code.toList.map upperCase ||
    "retail".toList <:+: priceList.name.toList.map Char.toLower

def listActivePriceLists (companyId : Uuid) : DbTx (List PriceList) := do
  let company ← CompaniesService.findActiveByIdOrNull companyId
  rejectIf company.isNone
    (appException .ValidationError "companyId does not reference an active company")
  reads fun db =>
    (db.master.priceLists.rows.filter fun l =>
      l.companyId = companyId && l.status = .Active && !l.deleted).insertionSort
        fun a b => a.name ≤ b.name

def defaultRetailPriceList (baseCurrency : String) : List PriceList → Option PriceList
  | [] => none
  | [priceList] => some priceList
  | priceLists =>
    (priceLists.find? isRetail <|> priceLists.find? fun l => l.currency = baseCurrency) <|>
      priceLists.head?

def findBySkuInCompany (companyId : Uuid) (sku : String) : DbTx (Option ProductVariant) :=
  reads fun db => db.master.productVariants.rows.find? fun v =>
    v.companyId = companyId && v.sku = sku && !v.deleted

def resolveItem (companyId : Uuid) (priceListId : Option Uuid) (item : CreateCustomerOrderItemDto) :
    DbTx SalesService.CreateSaleItemDto := do
  let sku := item.sku
  let variant ← findBySkuInCompany companyId sku
  let variant ← orReject variant
    (appException .ValidationError s!"No product found for SKU \"{sku}\"")
  return { productVariantId := variant.id, uomId := none, quantity := item.quantity
           discountAmount := none, taxAmount := none, priceListId := priceListId }

/-- The sale `createOrder` asks `SalesService.create` for. -/
def resolveOrder (c : Call) (customer : Customer) : DbTx SalesService.CreateSaleDto := do
  let company ← CompaniesService.findActiveByIdOrNull customer.companyId
  let company ← orReject company
    (appException .ValidationError "Linked customer's company is no longer active")
  let activePriceLists ← listActivePriceLists customer.companyId
  let priceListId := (defaultRetailPriceList company.baseCurrency activePriceLists).map (·.id)
  let items ← c.dto.items.mapM (resolveItem customer.companyId priceListId)
  return { branchId := none, warehouseId := none, saleType := none, customerId := customer.id
           salesAccountId := none, transactionDate := none, currency := company.baseCurrency
           notes := c.dto.notes, promotionCode := none, items := items }

/-! ## The online order -/

/-- `findExisting` of `createForSale`. Online orders are never deleted. -/
def findExisting (c : Call) (customer : Customer) (saleId : Uuid) (w : PortalDb) :
    Except Failure (Option OnlineOrder) :=
  match w.onlineOrders.rows.find? fun order => order.saleId = saleId with
  | none => .ok none
  | some existing =>
    if existing.companyId ≠ customer.companyId ∨ existing.customerId ≠ customer.id ∨
        existing.source ≠ .Telegram ∨ existing.telegramUserId ≠ some c.dto.telegramUserId ∨
        existing.deliveryAddress ≠ c.dto.deliveryAddress then
      .error (appException .Conflict
        "Online order already exists with different checkout details")
    else .ok (some existing)

/-- The row `createForSale` inserts. -/
def newOnlineOrder (c : Call) (customer : Customer) (saleId id : Uuid) : OnlineOrder :=
  { id, companyId := customer.companyId, saleId, customerId := customer.id, source := .Telegram
    status := .PendingReview, telegramUserId := some c.dto.telegramUserId
    telegramUsername := c.dto.telegramUsername, deliveryAddress := c.dto.deliveryAddress
    statusUpdatedAt := some c.now }

/-! ## The moves -/

inductive Stage
  | called
  | linked
  /-- No sale of the creation key was found. -/
  | lookedUp
  | resolved (dto : SalesService.CreateSaleDto)
  | rechecked (dto : SalesService.CreateSaleDto)
  | validated (dto : SalesService.CreateSaleDto)
  /-- In the transaction, which holds the counter row. -/
  | numbered (dto : SalesService.CreateSaleDto)
  /-- The locking read found no sale of the key either. -/
  | unreplayed (dto : SalesService.CreateSaleDto)
  | charged (dto : SalesService.CreateSaleDto) (charge : SalesService.Charge)
  /-- The entry of the key in the unique index is held. -/
  | inserted (dto : SalesService.CreateSaleDto) (charge : SalesService.Charge)
  | duplicated (error : Failure)
  | placed (sale : Sale)
  | unordered (sale : Sale)
  | orderDuplicated (sale : Sale)
  | returned (sale : Sale) (onlineOrder : OnlineOrder)
  | rejected (error : Failure)
  /-- The connection is lost, or the process has crashed. -/
  | aborted

structure Phase where
  customer : Option Customer
  stage : Stage

def Stage.sale : Stage → Option Sale
  | placed sale | unordered sale | orderDuplicated sale | returned sale _ => some sale
  | _ => none

def Stage.finished : Stage → Bool
  | returned .. | rejected _ | aborted => true
  | _ => false

inductive Label
  | link
  | lookup
  | resolve
  /-- The lookup `SalesService.create` begins with. -/
  | recheck
  /-- The checks before the transaction. -/
  | validate
  /-- The lock on the counter row. -/
  | number
  /-- The locking read of the creation key. -/
  | replay
  | charge
  | insert
  | commit
  /-- The `catch`. -/
  | recover
  /-- The lookup of the online order. -/
  | find
  /-- Its insert. -/
  | order
  /-- The lookup after a duplicate entry. -/
  | refind
  | abort
  /-- Anything else that commits. -/
  | elsewhere
  deriving DecidableEq

inductive Lock
  | counter (companyId : Uuid) (year : ℕ)
  | creationKey (companyId : Uuid) (key : String)
  deriving DecidableEq

abbrev Step := Move PortalDb Lock Phase

section Moves

variable (hash : HashInput → String) (c : Call) (customer : Customer)

def withCustomer (stage : Stage) : Phase := ⟨some customer, stage⟩

def linkMove (w : PortalDb) : Step :=
  match getLinkedCustomerOrThrow w c.dto.telegramUserId with
  | .error error => .goto ⟨none, .rejected error⟩
  | .ok customer =>
    if c.dto.companyId.any (· ≠ customer.companyId) then
      .goto (withCustomer customer (.rejected (appException .Conflict
        "Linked customer belongs to a different company")))
    else .goto (withCustomer customer .linked)

def lookupMove (absent : Stage) (w : PortalDb) : Step :=
  match (run (SalesService.findByCreationKey customer.companyId (c.creation hash customer)) w.erp).1 with
  | .ok (some sale) => .goto (withCustomer customer (.placed sale))
  | .ok none => .goto (withCustomer customer absent)
  | .error error => .goto (withCustomer customer (.rejected error))

def resolveMove (w : PortalDb) : Step :=
  match (run (resolveOrder c customer) w.erp).1 with
  | .ok dto => .goto (withCustomer customer (.resolved dto))
  | .error error => .goto (withCustomer customer (.rejected error))

def validateMove (dto : SalesService.CreateSaleDto) (w : PortalDb) : Step :=
  match (run (SalesService.assertCreatable customer.companyId dto) w.erp).1 with
  | .ok _ => .goto (withCustomer customer (.validated dto))
  | .error error => .goto (withCustomer customer (.rejected error))

def saleYear (dto : SalesService.CreateSaleDto) : ℕ :=
  (dto.transactionDate.getD c.now).getUTCFullYear

/-- An error inside the transaction: the `catch` recovers from a duplicate entry if there
is a creation key. -/
def failed (error : Failure) : Stage :=
  match error with
  | .duplicateEntry _ => if (c.creation hash customer).isSome then .duplicated error else .rejected error
  | _ => .rejected error

def numberMove (dto : SalesService.CreateSaleDto) (w : PortalDb) : Step :=
  match (run (match dto.salesAccountId with
    | none => pure ()
    | some salesAccountId =>
      SalesService.assertValidSalesAccount salesAccountId customer.companyId c.botUserId) w.erp).1 with
  | .ok _ =>
    .acquire (.counter customer.companyId (saleYear c dto)) (withCustomer customer (.numbered dto))
  | .error error => .leave (withCustomer customer (failed hash c customer error))

def replayMove (dto : SalesService.CreateSaleDto) (w : PortalDb) : Step :=
  match (run (SalesService.findByCreationKey customer.companyId (c.creation hash customer)) w.erp).1 with
  | .ok (some sale) =>
    .commit
      { w with erp :=
        (run (SalesService.generateSaleNumber customer.companyId (saleYear c dto)) w.erp).2 }
      (withCustomer customer (.placed sale))
  | .ok none => .goto (withCustomer customer (.unreplayed dto))
  | .error error => .leave (withCustomer customer (failed hash c customer error))

def chargeMove (dto : SalesService.CreateSaleDto) (w : PortalDb) : Step :=
  match (run (SalesService.chargeSale customer.companyId dto (dto.transactionDate.getD c.now))
    w.erp).1 with
  | .ok charge => .goto (withCustomer customer (.charged dto charge))
  | .error error => .leave (withCustomer customer (failed hash c customer error))

def insertMove (dto : SalesService.CreateSaleDto) (charge : SalesService.Charge) (w : PortalDb) :
    Step :=
  match c.creation hash customer with
  | none => .goto (withCustomer customer (.inserted dto charge))
  | some creation =>
    if (SalesService.findSaleByKey w.erp customer.companyId creation).isSome then
      .leave (withCustomer customer
        (failed hash c customer (.duplicateEntry "uq_sales_creation_key")))
    else
      .acquire (.creationKey customer.companyId creation.key)
        (withCustomer customer (.inserted dto charge))

def persist (dto : SalesService.CreateSaleDto) (charge : SalesService.Charge) : DbTx Sale := do
  let saleNumber ← SalesService.generateSaleNumber customer.companyId (saleYear c dto)
  SalesService.insertSale customer.companyId c.botUserId dto (dto.transactionDate.getD c.now)
    (c.creation hash customer) saleNumber charge

def commitMove (dto : SalesService.CreateSaleDto) (charge : SalesService.Charge) (w : PortalDb) :
    Step :=
  match run (persist hash c customer dto charge) w.erp with
  | (.ok sale, erp) => .commit { w with erp } (withCustomer customer (.placed sale))
  | (.error error, _) => .leave (withCustomer customer (failed hash c customer error))

def recoverMove (error : Failure) (w : PortalDb) : Step :=
  match (run (SalesService.recoverCreation customer.companyId (c.creation hash customer) error)
    w.erp).1 with
  | .ok sale => .goto (withCustomer customer (.placed sale))
  | .error error => .goto (withCustomer customer (.rejected error))

def findMove (sale : Sale) (absent : Stage) (w : PortalDb) : Step :=
  match findExisting c customer sale.id w with
  | .ok (some order) => .goto (withCustomer customer (.returned sale order))
  | .ok none => .goto (withCustomer customer absent)
  | .error error => .goto (withCustomer customer (.rejected error))

def insertOrderMove (sale : Sale) (w : PortalDb) : Step :=
  if (w.onlineOrders.rows.find? fun order => order.saleId = sale.id).isSome then
    .goto (withCustomer customer (.orderDuplicated sale))
  else
    match run randomUUID w.erp with
    | (.ok id, erp) =>
      let order := newOnlineOrder c customer sale.id id
      .commit { w with erp, onlineOrders := w.onlineOrders.save order }
        (withCustomer customer (.returned sale order))
    | (.error error, _) => .goto (withCustomer customer (.rejected error))

end Moves

/-- The moves of a call. -/
def orderMove (hash : HashInput → String) (c : Call) (l : Label) (p : Phase) (w : PortalDb) :
    Option Step :=
  match p.customer, l, p.stage with
  | _, .abort, stage => if stage.finished then none else some (.leave { p with stage := .aborted })
  | none, .link, .called => some (linkMove c w)
  | some customer, .lookup, .linked => some (lookupMove hash c customer .lookedUp w)
  | some customer, .resolve, .lookedUp => some (resolveMove c customer w)
  | some customer, .recheck, .resolved dto => some (lookupMove hash c customer (.rechecked dto) w)
  | some customer, .validate, .rechecked dto => some (validateMove customer dto w)
  | some customer, .number, .validated dto => some (numberMove hash c customer dto w)
  | some customer, .replay, .numbered dto => some (replayMove hash c customer dto w)
  | some customer, .charge, .unreplayed dto => some (chargeMove hash c customer dto w)
  | some customer, .insert, .charged dto charge => some (insertMove hash c customer dto charge w)
  | some customer, .commit, .inserted dto charge => some (commitMove hash c customer dto charge w)
  | some customer, .recover, .duplicated error => some (recoverMove hash c customer error w)
  | some customer, .find, .placed sale => some (findMove c customer sale (.unordered sale) w)
  | some customer, .order, .unordered sale => some (insertOrderMove c customer sale w)
  | some customer, .refind, .orderDuplicated sale =>
    some (findMove c customer sale
      (.rejected (.duplicateEntry "IDX_oo_sale_id")) w)
  | _, _, _ => none

inductive Party
  | order (c : Call)
  | other (f : PortalDb → PortalDb)

/-- The parties, each by its own steps. -/
def protocol (hash : HashInput → String) (party : ℕ → Party) :
    Protocol PortalDb Lock Phase Label := fun i l p w =>
  match party i with
  | .order c => orderMove hash c l p w
  | .other f => if l = .elsewhere then some (.commit (f w) p) else none

def machine (hash : HashInput → String) (party : ℕ → Party) :
    Machine (Shared PortalDb Lock Phase) (ℕ × Label) :=
  concurrent (protocol hash party)

def start (w : PortalDb) : Shared PortalDb Lock Phase := .start w ⟨none, .called⟩

end CustomerOrders

end FashionErp
