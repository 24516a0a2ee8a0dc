/-
`ArApAgingService`: what customers owe and suppliers are owed, by age.

There is no open item to age: every posted line on the receivable account of a customer
(the payable account of a supplier) counts with its own date.
-/
import FashionErp.Reports.LedgerReports
import FashionErp.Reports.ReportDates
import FashionErp.Reports.RequestScope

namespace FashionErp

open Lib

structure ArApAgingQueryDto where
  companyId : Option Uuid := none
  branchId : Option Uuid := none
  asOfDate : Option DateString := none

/-- `BucketAccumulator` and `AgingBuckets`, in cents. -/
structure AgingBuckets where
  current : Cents := 0
  days1To30 : Cents := 0
  days31To60 : Cents := 0
  days61To90 : Cents := 0
  over90 : Cents := 0

/-- `ArAgingRow` and `ApAgingRow`. -/
structure AgingRow where
  partyId : Uuid
  partyCode : String
  partyName : String
  buckets : AgingBuckets
  total : Cents

structure ArApAgingResult where
  asOfDate : String
  receivables : List AgingRow
  payables : List AgingRow
  totalReceivables : Cents
  totalPayables : Cents

/-- `bucketFor`, as the change it makes: `acc[bucketFor(ageDays)] += netCents`. An age
that is `NaN` (`none`) is none of the days asked about. -/
def AgingBuckets.add (acc : AgingBuckets) (ageDays : Option ℤ) (netCents : Cents) : AgingBuckets :=
  match ageDays with
  | none => { acc with over90 := acc.over90 + netCents }
  | some days =>
    if days ≤ 0 then { acc with current := acc.current + netCents }
    else if days ≤ 30 then { acc with days1To30 := acc.days1To30 + netCents }
    else if days ≤ 60 then { acc with days31To60 := acc.days31To60 + netCents }
    else if days ≤ 90 then { acc with days61To90 := acc.days61To90 + netCents }
    else { acc with over90 := acc.over90 + netCents }

/-- `rowTotalCents`. -/
def AgingBuckets.total (acc : AgingBuckets) : Cents :=
  acc.current + acc.days1To30 + acc.days31To60 + acc.days61To90 + acc.over90

namespace ArApAgingService

variable (rt : Runtime) (db : Db) (scope : ResolvedCompanyBranchScope)

/-- A customer or supplier, with the account its balance is on. -/
structure Party where
  id : Uuid
  code : String
  name : String
  accountId : Option Uuid

structure AgedLine where
  accountId : Uuid
  debitAmount : Cents
  creditAmount : Cents
  entryDate : Instant

def ageDays (entryDate : Instant) (asOfDate : Option ℤ) : Option ℤ :=
  asOfDate.map fun asOfTime => (asOfTime - entryDate.millisSinceEpoch) / (24 * 60 * 60 * 1000)

def lines (accountIds : List Uuid) (asOfDate : String) : List AgedLine :=
  (db.ledger.journalEntries.rows.filter fun e =>
    reported scope.companyId scope.branchId scope.allowedBranchIds e &&
      e.entryDate ≤ rt.literal asOfDate).flatMap fun e =>
        (e.lines.filter fun line => accountIds.contains line.accountId).map fun line =>
          { accountId := line.accountId, debitAmount := line.debitAmount
            creditAmount := line.creditAmount, entryDate := e.entryDate }

/-- `byAccount` and `totalCents` while the loop runs. -/
structure Accumulated where
  byAccount : JsMap Uuid AgingBuckets := ∅
  totalCents : Cents := 0

def addLine (net : AgedLine → Cents) (asOfDate : Option ℤ) (found : Accumulated)
    (line : AgedLine) : Accumulated :=
  let netCents := net line
  if netCents = 0 then found
  else
    let acc := (found.byAccount.lookup line.accountId).getD {}
    { byAccount := found.byAccount.insert line.accountId
        (acc.add (ageDays line.entryDate asOfDate) netCents)
      totalCents := found.totalCents + netCents }

/-- `queryReceivables` and `queryPayables`. -/
def queryParties (net : AgedLine → Cents) (parties : List Party) (asOfDate : String) :
    List AgingRow × Cents :=
  let accountIds := parties.filterMap Party.accountId
  if accountIds = [] then ([], 0)
  else
    let found := (lines rt db scope accountIds asOfDate).foldl
      (addLine net (rt.getTime asOfDate)) {}
    let rows := parties.filterMap fun party => do
      let accountId ← party.accountId
      let acc ← found.byAccount.lookup accountId
      return { partyId := party.id, partyCode := party.code, partyName := party.name
               buckets := acc, total := acc.total : AgingRow }
    (rows.insertionSort fun a b => rt.localeCompare a.partyCode b.partyCode ≤ 0, found.totalCents)

/-- `customerRepository.find({ where: { companyId } })`. -/
def customers : List Party :=
  (db.master.customers.rows.filter fun c => c.companyId = scope.companyId && !c.deleted).map
    fun c => { id := c.id, code := c.customerCode, name := c.name
               accountId := c.receivableAccountId }

/-- `supplierRepository.find({ where: { companyId } })`. -/
def suppliers : List Party :=
  (db.master.suppliers.rows.filter fun s => s.companyId = scope.companyId && !s.deleted).map
    fun s => { id := s.id, code := s.supplierCode, name := s.name
               accountId := s.payableAccountId }

def queryReceivables (asOfDate : String) : List AgingRow × Cents :=
  queryParties rt db scope (fun line => line.debitAmount - line.creditAmount)
    (customers db scope) asOfDate

def queryPayables (asOfDate : String) : List AgingRow × Cents :=
  queryParties rt db scope (fun line => line.creditAmount - line.debitAmount)
    (suppliers db scope) asOfDate

def query (query : ArApAgingQueryDto) : ArApAgingResult :=
  let asOfDate := (query.asOfDate.map DateString.text).getD rt.today
  let receivables := queryReceivables rt db scope asOfDate
  let payables := queryPayables rt db scope asOfDate
  { asOfDate := asOfDate
    receivables := receivables.1, payables := payables.1
    totalReceivables := receivables.2, totalPayables := payables.2 }

end ArApAgingService

end FashionErp
