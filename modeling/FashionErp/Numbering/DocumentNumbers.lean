/-
The numbers of sales, payments and goods receipts.

Each kind of document is numbered per company and year from a counter row:
`generateSaleNumber`, `generatePaymentNumber` and `generateReceiptNumber` create the row
if it is missing, lock it, and raise it by one in the transaction that is going to write
the document.
-/
import FashionErp.Inventory.ReceiptRace
import FashionErp.Lib.Frame
import FashionErp.Lib.Gapless
import FashionErp.Payments.CreateRace
import FashionErp.Sales.PromotionRace

namespace FashionErp.DocumentNumbers

open Lib Lib.Tx

/-! ## The number of a document -/

theorem ofDigitChars_toString (n : ℕ) : Nat.ofDigitChars 10 (toString n).toList 0 = n := by
  have hdigits : (toString n).toList = Nat.toDigits 10 n := by
    rw [Nat.toString_eq_repr, Nat.toList_repr]
  rw [hdigits]
  exact Nat.ofDigitChars_ten_toDigits

theorem ofDigitChars_padStartZeros (width n : ℕ) :
    Nat.ofDigitChars 10 (padStartZeros width n).toList 0 = n := by
  have hzeros : ∀ (count : ℕ) (digits : List Char),
      Nat.ofDigitChars 10 (List.replicate count '0' ++ digits) 0 = Nat.ofDigitChars 10 digits 0 := by
    intro count digits
    induction count with
    | zero => rfl
    | succ count ih =>
      rw [List.replicate_succ, List.cons_append]
      exact ih
  unfold padStartZeros
  rw [String.toList_append, String.toList_ofList, hzeros]
  exact ofDigitChars_toString n

theorem dash_notMem_toString (n : ℕ) : '-' ∉ (toString n).toList := by
  intro hmem
  rw [Nat.toString_eq_repr, Nat.toList_repr] at hmem
  have hdigit := Nat.isDigit_of_mem_toDigits (by omega) (by omega) hmem
  exact absurd hdigit (by decide)

theorem append_dash_inj {xs xs' ys ys' : List Char} (hxs : '-' ∉ xs) (hxs' : '-' ∉ xs')
    (h : xs ++ '-' :: ys = xs' ++ '-' :: ys') : xs = xs' ∧ ys = ys' := by
  induction xs generalizing xs' with
  | nil =>
    cases xs' with
    | nil => exact ⟨rfl, (List.cons.inj h).2⟩
    | cons x xs' => exact absurd ((List.cons.inj h).1 ▸ List.mem_cons_self) hxs'
  | cons x xs ih =>
    cases xs' with
    | nil => exact absurd ((List.cons.inj h).1 ▸ List.mem_cons_self) hxs
    | cons x' xs' =>
      obtain ⟨hhead, htail⟩ := List.cons.inj h
      obtain ⟨hrest, hys⟩ := ih (fun hmem => hxs (List.mem_cons_of_mem x hmem))
        (fun hmem => hxs' (List.mem_cons_of_mem x' hmem)) htail
      exact ⟨by rw [hhead, hrest], hys⟩

/-- A number is read off its text, however many digits it has. -/
theorem formatDocumentNumber_inj {numberPrefix : String} {year year' n n' : ℕ}
    (h : formatDocumentNumber numberPrefix year n = formatDocumentNumber numberPrefix year' n') :
    year = year' ∧ n = n' := by
  have htext : ∀ year n, (formatDocumentNumber numberPrefix year n).toList =
      (numberPrefix ++ "-").toList ++
        ((toString year).toList ++ '-' :: (padStartZeros 6 n).toList) := by
    intro year n
    simp [formatDocumentNumber, toString]
  have hlist := congrArg String.toList h
  rw [htext, htext] at hlist
  obtain ⟨hyear, hdigits⟩ := append_dash_inj (dash_notMem_toString year)
    (dash_notMem_toString year') (List.append_cancel_left hlist)
  constructor
  · rw [← ofDigitChars_toString year, hyear, ofDigitChars_toString]
  · rw [← ofDigitChars_padStartZeros 6 n, hdigits, ofDigitChars_padStartZeros]

/-! ## The counter rows and their documents -/

inductive Kind
  | sale
  | payment
  | goodsReceipt
  deriving DecidableEq

def Kind.table : Kind → DocumentSeries
  | .sale => .Sale
  | .payment => .Payment
  | .goodsReceipt => .GoodsReceipt

theorem Kind.table_injective : Function.Injective Kind.table := by
  intro kind kind' h
  cases kind <;> cases kind' <;> first | rfl | cases h

def Kind.numberPrefix : Kind → String
  | .sale => "SAL"
  | .payment => "PMT"
  | .goodsReceipt => "GR"

def Kind.index : Kind → String
  | .sale => "IDX_csc_company_year"
  | .payment => "IDX_cpc_company_year"
  | .goodsReceipt => "IDX_cgrc_company_year"

/-- A counter row: documents of a kind are numbered per company and year. -/
@[ext] structure Series where
  kind : Kind
  companyId : Uuid
  year : ℕ
  deriving DecidableEq

def Series.write (s : Series) (n : ℕ) : String :=
  formatDocumentNumber s.kind.numberPrefix s.year n

theorem Series.write_injective (s : Series) : Function.Injective s.write :=
  fun _ _ h => (formatDocumentNumber_inj h).2

structure Document where
  companyId : Uuid
  year : ℕ
  number : String

def saleDocument (s : Sale) : Document where
  companyId := s.companyId
  year := s.transactionDate.getUTCFullYear
  number := s.saleNumber

def paymentDocument (p : Payment) : Document where
  companyId := p.companyId
  year := p.paymentDate.getUTCFullYear
  number := p.paymentNumber

def receiptDocument (r : GoodsReceipt) : Document where
  companyId := r.companyId
  year := r.receiptDate.getUTCFullYear
  number := r.receiptNumber

def documentsOf (db : Db) : Kind → List Document
  | .sale => db.selling.sales.rows.map saleDocument
  | .payment => db.paying.payments.rows.map paymentDocument
  | .goodsReceipt => db.stock.goodsReceipts.map receiptDocument

def Series.of (s : Series) (d : Document) : Bool := d.companyId = s.companyId ∧ d.year = s.year

def numbersOf (db : Db) (s : Series) : List String :=
  ((documentsOf db s.kind).filter s.of).map (·.number)

/-- `last_sequence` of a counter row, 0 before its first use. -/
def lastSequence (db : Db) (s : Series) : ℕ :=
  ((db.sequences.counters.find? (s.kind.table, s.companyId, s.year)).map (·.lastSequence)).getD 0

/-- Under every counter row the documents have the numbers 1 to `lastSequence`, each
once and in order. -/
def Numbered (db : Db) : Prop :=
  ∀ s, Gapless s.write (lastSequence db s) (numbersOf db s) ∧ (numbersOf db s).Nodup

def Issued (db : Db) : Prop := ∀ sale ∈ db.selling.sales.rows, sale.id < db.sequences.nextId

/-! ## What a transaction adds -/

/-- What a transaction files: the documents `new`, with the counters left alone. -/
structure Filed (new : Kind → List Document) (db db' : Db) : Prop where
  counters : ∀ s, lastSequence db' s = lastSequence db s
  documents : ∀ kind, documentsOf db' kind = documentsOf db kind ++ new kind
  supply : db.sequences.nextId ≤ db'.sequences.nextId
  issued : Issued db → Issued db'

abbrev Untouched : Db → Db → Prop := Filed fun _ => []

variable {new : Kind → List Document} {db : Db} {db₁ : Db}

theorem Filed.trans {new' : Kind → List Document} {db₂ : Db} (h : Filed new db db₁)
    (h' : Filed new' db₁ db₂) : Filed (fun kind => new kind ++ new' kind) db db₂ where
  counters s := (h'.counters s).trans (h.counters s)
  documents kind := by rw [h'.documents, h.documents, List.append_assoc]
  supply := h.supply.trans h'.supply
  issued hdb := h'.issued (h.issued hdb)

instance : Std.Refl Untouched :=
  ⟨fun _ => ⟨fun _ => rfl, fun _ => (List.append_nil _).symm, le_rfl, id⟩⟩

instance : IsTrans Db Untouched := ⟨fun _ _ _ h h' => h.trans h'⟩

theorem Filed.after {db₂ : Db} (h : Filed new db db₁) (h' : Untouched db₁ db₂) :
    Filed new db db₂ := by
  have hboth := h.trans h'
  simp only [List.append_nil] at hboth
  exact hboth

theorem Filed.before {db₂ : Db} (h : Untouched db db₁) (h' : Filed new db₁ db₂) :
    Filed new db db₂ := by
  have hboth := h.trans h'
  simp only [List.nil_append] at hboth
  exact hboth

theorem Untouched.of_same {db' : Db} (hsequences : db'.sequences = db.sequences)
    (hsales : db'.selling.sales = db.selling.sales)
    (hpayments : db'.paying.payments = db.paying.payments)
    (hreceipts : db'.stock.goodsReceipts = db.stock.goodsReceipts) : Untouched db db' where
  counters s := by rw [lastSequence, lastSequence, hsequences]
  documents kind := by
    cases kind <;> simp only [documentsOf, hsales, hpayments, hreceipts, List.append_nil]
  supply := by rw [hsequences]
  issued hdb := by
    unfold Issued
    rw [hsales, hsequences]
    exact hdb

theorem frame_randomUUID : Frame Untouched randomUUID := by
  intro db id db' h
  simp only [randomUUID, commits_bind, commits_get, commits_set, commits_pure] at h
  obtain ⟨_, _, ⟨rfl, rfl⟩, _, _, rfl, -, rfl⟩ := h
  exact { counters := fun _ => rfl
          documents := fun kind => by cases kind <;> exact (List.append_nil _).symm
          supply := Nat.le_succ _
          issued := fun hdb sale hsale => Nat.lt_succ_of_lt (hdb sale hsale) }

theorem randomUUID_lt {db' : Db} {id : Uuid} (h : Commits randomUUID db id db') :
    id < db'.sequences.nextId := by
  simp only [randomUUID, commits_bind, commits_get, commits_set, commits_pure] at h
  obtain ⟨_, _, ⟨rfl, rfl⟩, _, _, rfl, rfl, rfl⟩ := h
  exact Nat.lt_succ_self _

theorem frame_generateJournalNumber (companyId : Uuid) (year : ℕ) :
    Frame Untouched (JournalEntriesService.generateJournalNumber companyId year) := by
  intro db number db' h
  simp only [JournalEntriesService.generateJournalNumber, nextDocumentNumber, commits_bind,
    commits_get, commits_set, commits_pure] at h
  obtain ⟨_, _, ⟨rfl, rfl⟩, _, _, rfl, -, rfl⟩ := h
  refine { counters := fun s => ?_, documents := fun kind => ?_, supply := le_rfl, issued := id }
  · unfold lastSequence
    rw [Table.find?_save_ne]
    intro hkey
    have htable : DocumentSeries.Journal = s.kind.table := congrArg Prod.fst hkey
    cases hkind : s.kind <;> rw [hkind] at htable <;> cases htable
  · cases kind <;> exact (List.append_nil _).symm

/-! ## What a payment does besides -/

theorem untouched_savePaid {sale sale' : Sale} (hfind : db.selling.sales.find? sale'.id = some sale)
    (hdocument : saleDocument sale' = saleDocument sale) :
    Untouched db { db with selling := { db.selling with sales := db.selling.sales.save sale' } } := by
  have hrows : (db.selling.sales.save sale').rows =
      db.selling.sales.rows.map fun x => if x.id = sale'.id then sale' else x :=
    Table.rows_save_over hfind
  refine { counters := fun _ => rfl, documents := fun kind => ?_, supply := le_rfl,
           issued := fun hdb row hrow => ?_ }
  · cases kind with
    | sale =>
      unfold documentsOf
      rw [hrows, List.map_map, List.append_nil]
      refine List.map_congr_left fun row hrow => ?_
      rw [Function.comp_apply]
      split
      · rename_i hkey
        have hsame : row = sale :=
          Table.eq_of_key hrow (Table.mem_of_find? hfind) (hkey.trans (Table.key_of_find? hfind).symm)
        rw [hdocument, hsame]
      · rfl
    | _ => exact (List.append_nil _).symm
  · rcases (Table.mem_save _ _ _).1 hrow with rfl | ⟨hrow, -⟩
    · have hid : row.id = sale.id := (Table.key_of_find? hfind).symm
      show row.id < db.sequences.nextId
      rw [hid]
      exact hdb sale (Table.mem_of_find? hfind)
    · exact hdb row hrow

theorem frame_applyTarget (companyId userId : Uuid) (allocations : List PaymentAllocation)
    (t : AllocationTarget) :
    Frame Untouched (PaymentsService.applyTarget companyId userId allocations t) := by
  intro db u db' h
  obtain ⟨type, id⟩ := t
  cases type with
  | Sale =>
    obtain ⟨sale, hfind, -, -, rfl⟩ := (SalesService.commits_applyPayment _ _ _ _ _ _ _).1 h
    have hid : sale.id = id := Table.key_of_find? hfind
    rw [← hid] at hfind
    exact untouched_savePaid hfind rfl
  | PurchaseInvoice =>
    obtain ⟨i, o, -, -, -, rfl⟩ := (PurchaseInvoicesService.commits_applyPayment _ _ _ _ _ _ _).1 h
    exact .of_same rfl rfl rfl rfl
  | PurchaseOrder =>
    simp only [PaymentsService.applyTarget, PurchaseOrdersService.applyPayment, savePurchaseOrder,
      commits_bind, commits_get, commits_orReject, commits_rejectIf, commits_modify] at h
    obtain ⟨_, _, ⟨rfl, rfl⟩, _, _, ⟨-, rfl⟩, _, _, ⟨-, rfl⟩, _, _, ⟨-, rfl⟩, rfl⟩ := h
    exact .of_same rfl rfl rfl rfl
  | SaleReturn =>
    simp only [PaymentsService.applyTarget, SaleReturnsService.applyRefund,
      SaleReturnsService.findByIdInCompany, SaleReturnsService.saveReturn, commits_bind,
      commits_get, commits_orReject, commits_rejectIf, commits_modify] at h
    obtain ⟨_, _, ⟨_, _, ⟨rfl, rfl⟩, -, rfl⟩, _, _, ⟨-, rfl⟩, _, _, ⟨-, rfl⟩, rfl⟩ := h
    exact .of_same rfl rfl rfl rfl

theorem frame_resolveOpenPeriod (companyId : Uuid) (entryDate : Instant) :
    Frame Untouched (AccountingPeriodResolverService.resolveOpenPeriod companyId entryDate) := by
  refine .get_bind fun db => ?_
  dsimp only
  split
  · exact ((frame_rejectIf _ _).bind fun _ => frame_rejectIf _ _).bind fun _ => frame_pure _
  · split
    · exact frame_pure _
    · refine frame_randomUUID.bind fun _ => frame_randomUUID.bind fun _ => ?_
      exact (frame_modify fun _ => .of_same rfl rfl rfl rfl).bind fun _ => frame_pure _

theorem frame_createInternal (now : Instant) (params : JournalEntriesService.CreateInternalParams) :
    Frame Untouched (JournalEntriesService.createInternal now params) := by
  refine (Frame.of_reads fun _ _ _ h => ((commits_assertBalanced _ _ _ _).1 h).2.2).bind fun _ => (frame_resolveOpenPeriod _ _).bind fun _ =>
    (frame_generateJournalNumber _ _).bind fun _ => frame_randomUUID.bind fun _ => ?_
  refine Frame.bind ?_ fun _ => frame_pure _
  refine .get_bind fun _ => (frame_rejectIf _ _).bind fun _ => (frame_rejectIf _ _).bind fun _ => ?_
  exact frame_modify fun _ => .of_same rfl rfl rfl rfl

theorem frame_postToLedger (now : Instant) (userId : Uuid) (payment : Payment) :
    Frame Untouched (PaymentsService.postToLedger now userId payment) := by
  refine .get_bind fun _ => (frame_orReject _ _).bind fun paymentMethod => ?_
  dsimp only
  split
  · refine Frame.void (.get_bind fun _ => ?_)
    split
    · exact frame_pure _
    · refine (Frame.of_reads fun _ _ _ => AccountingPostingService.commits_resolveAccount).bind
        fun _ => (Frame.of_reads fun _ _ _ => AccountingPostingService.resolveSides_reads).bind
          fun _ => (frame_createInternal _ _).tryCatch fun error => .get_bind fun _ => ?_
      split
      · exact frame_orReject _ _
      · exact frame_throw _
  · exact frame_pure _

theorem frame_announce (now : Instant) (payment : Payment) :
    Frame Untouched (PaymentsService.announce now payment) := by
  refine Frame.void (frame_randomUUID.bind fun _ => frame_randomUUID.bind fun _ => ?_)
  refine Frame.bind (fun db u db' h => ?_) fun _ => frame_pure _
  simp only [OutboxService.insertOutboxEvent, commits_bind, commits_get, commits_rejectIf, commits_set] at h
  obtain ⟨_, _, ⟨rfl, rfl⟩, _, _, ⟨-, rfl⟩, _, _, ⟨-, rfl⟩, rfl⟩ := h
  exact .of_same rfl rfl rfl rfl

/-! ## What a receipt does besides -/

theorem frame_increaseStock (k : StockKey) (received base : ℤ) :
    Frame Untouched (GoodsReceiptsService.increaseStock k received base) := by
  intro db u db' h
  obtain ⟨stocks, rfl, -⟩ := (ReceiptRace.increaseStock_succeeds k received base db).of_commits h
  exact .of_same rfl rfl rfl rfl

theorem frame_saveReceiptMovement (userId : Uuid) (receipt : GoodsReceipt) (row : GoodsReceiptItem) :
    Frame Untouched (GoodsReceiptsService.saveReceiptMovement userId receipt row) := by
  unfold GoodsReceiptsService.saveReceiptMovement
  split
  · refine .get_bind fun _ => (frame_orReject _ _).bind fun _ => ?_
    exact frame_modify fun _ => .of_same rfl rfl rfl rfl
  · exact frame_pure _

/-! ## What is filed -/

def Series.filing (s : Series) (number : String) (kind : Kind) : List Document :=
  if kind = s.kind then [⟨s.companyId, s.year, number⟩] else []

theorem filed_saveSale {sale : Sale} (hid : sale.id < db.sequences.nextId)
    (hfresh : db.selling.sales.find? sale.id = none) :
    Filed (Series.filing ⟨.sale, sale.companyId, sale.transactionDate.getUTCFullYear⟩ sale.saleNumber)
      db { db with selling := { db.selling with sales := db.selling.sales.save sale } } := by
  refine { counters := fun _ => rfl, documents := fun kind => ?_, supply := le_rfl,
           issued := fun hdb row hrow => ?_ }
  · cases kind with
    | sale =>
      unfold documentsOf
      rw [Table.rows_save_new hfresh, List.map_append]
      rfl
    | _ => exact (List.append_nil _).symm
  · rcases (Table.mem_save _ _ _).1 hrow with rfl | ⟨hrow, -⟩
    · exact hid
    · exact hdb row hrow

theorem filed_savePayment {payment : Payment} (hfresh : db.paying.payments.find? payment.id = none) :
    Filed (Series.filing ⟨.payment, payment.companyId, payment.paymentDate.getUTCFullYear⟩
      payment.paymentNumber) db
      { db with paying := { db.paying with payments := db.paying.payments.save payment } } := by
  refine { counters := fun _ => rfl, documents := fun kind => ?_, supply := le_rfl, issued := id }
  cases kind with
  | payment =>
    unfold documentsOf
    rw [Table.rows_save_new hfresh, List.map_append]
    rfl
  | _ => exact (List.append_nil _).symm

theorem filed_saveReceipt (db : Db) (receipt : GoodsReceipt) :
    Filed (Series.filing ⟨.goodsReceipt, receipt.companyId, receipt.receiptDate.getUTCFullYear⟩
      receipt.receiptNumber) db
      { db with stock.goodsReceipts := db.stock.goodsReceipts ++ [receipt] } := by
  refine { counters := fun _ => rfl, documents := fun kind => ?_, supply := le_rfl, issued := id }
  cases kind with
  | goodsReceipt =>
    unfold documentsOf
    rw [List.map_append]
    rfl
  | _ => exact (List.append_nil _).symm

/-- A counter that is raised while its documents are filed goes on gaplessly. -/
theorem Numbered.file {db' : Db} {s : Series} (h : Numbered db)
    (hcount : ∀ s', lastSequence db₁ s' = if s' = s then lastSequence db s + 1 else lastSequence db s')
    (hsame : ∀ kind, documentsOf db₁ kind = documentsOf db kind)
    (hfiled : Filed (s.filing (s.write (lastSequence db s + 1))) db₁ db') : Numbered db' := by
  intro s'
  have hnumbers : numbersOf db' s' =
      numbersOf db s' ++ if s' = s then [s.write (lastSequence db s + 1)] else [] := by
    unfold numbersOf
    rw [hfiled.documents, hsame, List.filter_append, List.map_append]
    congr 1
    by_cases hs : s' = s
    · subst hs
      simp [Series.filing, Series.of]
    · unfold Series.filing
      rw [if_neg hs]
      split
      · rename_i hkind
        have hother : s'.of ⟨s.companyId, s.year, s.write (lastSequence db s + 1)⟩ = false := by
          refine decide_eq_false fun hof => hs ?_
          exact Series.ext hkind hof.1.symm hof.2.symm
        rw [List.filter_cons_of_neg (by rw [hother]; exact Bool.false_ne_true)]
        rfl
      · rfl
  have hlast : lastSequence db' s' = if s' = s then lastSequence db s + 1 else lastSequence db s' := by
    rw [hfiled.counters, hcount]
  rw [hnumbers, hlast]
  by_cases hs : s' = s
  · subst hs
    rw [if_pos rfl, if_pos rfl]
    have hnext := (h s').1.next
    exact ⟨hnext, hnext.nodup s'.write_injective⟩
  · rw [if_neg hs, if_neg hs, List.append_nil]
    exact h s'

end FashionErp.DocumentNumbers
