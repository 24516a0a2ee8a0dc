/-
`OnlineOrdersService.updateStatus`, called beside itself.

The table of transitions is asked about the status that was read.
-/
import FashionErp.Portal.OrdersOnce

namespace FashionErp.OrderStatusRace

open Lib CustomerOrders

def statusText : OnlineOrderStatus → String
  | .PendingReview => "PENDING_REVIEW"
  | .Confirmed => "CONFIRMED"
  | .Packed => "PACKED"
  | .OnMyWay => "ON_MY_WAY"
  | .Delivered => "DELIVERED"
  | .Cancelled => "CANCELLED"

/-- A call of `updateStatus`; `now` is when it changes the entity. -/
structure Call where
  id : Uuid
  companyId : Uuid
  targetStatus : OnlineOrderStatus
  now : Instant

inductive Phase
  | called
  | changed (entity : OnlineOrder)
  | saving (entity seen : OnlineOrder)
  | returned
  | failed (error : Failure)
  /-- The database has refused the write, or is lost. -/
  | aborted
  deriving DecidableEq

inductive Label
  | read
  | reread
  | write
  | abort
  deriving DecidableEq

/-- The read and the check of `updateStatus`, and the changed entity. -/
def prepare (c : Call) (orders : Table OnlineOrder) : Except Failure OnlineOrder :=
  match (orders.find? c.id).filter fun order => order.companyId = c.companyId with
  | none => .error (appException .NotFound "Online order not found")
  | some order =>
    let status := statusText order.status
    let target := statusText c.targetStatus
    if c.targetStatus ∈ allowedTransitions order.status then
      .ok { order with status := c.targetStatus, statusUpdatedAt := some c.now }
    else
      .error (appException .Conflict s!"Cannot transition online order from {status} to {target}")

def mergeOrder (entity seen row : OnlineOrder) : OnlineOrder where
  id := row.id
  companyId := mergeCol entity.companyId seen.companyId row.companyId
  saleId := mergeCol entity.saleId seen.saleId row.saleId
  customerId := mergeCol entity.customerId seen.customerId row.customerId
  source := mergeCol entity.source seen.source row.source
  status := mergeCol entity.status seen.status row.status
  telegramUserId := mergeCol entity.telegramUserId seen.telegramUserId row.telegramUserId
  telegramUsername := mergeCol entity.telegramUsername seen.telegramUsername row.telegramUsername
  deliveryAddress := mergeCol entity.deliveryAddress seen.deliveryAddress row.deliveryAddress
  statusUpdatedAt := mergeCol entity.statusUpdatedAt seen.statusUpdatedAt row.statusUpdatedAt

def updateMove (c : Call) :
    Label → Phase → Table OnlineOrder → Option (Move (Table OnlineOrder) Unit Phase)
  | .read, .called, orders =>
    match prepare c orders with
    | .ok entity => some (.goto (.changed entity))
    | .error error => some (.leave (.failed error))
  | .reread, .changed entity, orders =>
    (orders.find? entity.id).map fun seen => .goto (.saving entity seen)
  | .write, .saving entity seen, orders =>
    (orders.find? entity.id).map fun row =>
      .commit (orders.save (mergeOrder entity seen row)) .returned
  | .abort, .changed _, _ => some (.leave .aborted)
  | .abort, .saving _ _, _ => some (.leave .aborted)
  | _, _, _ => none

def protocol (call : ℕ → Call) : Protocol (Table OnlineOrder) Unit Phase Label := fun i l p orders =>
  updateMove (call i) l p orders

def machine (call : ℕ → Call) : Machine (Shared (Table OnlineOrder) Unit Phase) (ℕ × Label) :=
  concurrent (protocol call)

/-! ## The claim and the condition -/

def AlongEdges (s s' : Shared (Table OnlineOrder) Unit Phase) : Prop :=
  ∀ id o o', s.db.find? id = some o → s'.db.find? id = some o' →
    o'.status ≠ o.status → o'.status ∈ allowedTransitions o.status

def KeepsTerminal (s s' : Shared (Table OnlineOrder) Unit Phase) : Prop :=
  ∀ id o, s.db.find? id = some o → ∃ o', s'.db.find? id = some o' ∧
    (o.status = .Delivered ∨ o.status = .Cancelled → o'.status = o.status)

/-- The condition on a step. A status that is written may follow the one in the row, if it is
another one. -/
def Follows (s : Shared (Table OnlineOrder) Unit Phase) : ℕ × Label → Prop
  | (i, .write) =>
    match s.phase i with
    | .saving entity seen =>
      ∀ row ∈ s.db.find? entity.id, entity.status ≠ seen.status → entity.status ≠ row.status →
        entity.status ∈ allowedTransitions row.status
    | _ => True
  | _ => True

instance (s : Shared (Table OnlineOrder) Unit Phase) (l : ℕ × Label) : Decidable (Follows s l) := by
  unfold Follows
  split
  · split <;> infer_instance
  · infer_instance

section

variable {call : ℕ → Call} {s s' : Shared (Table OnlineOrder) Unit Phase} {i : ℕ} {l : Label}

theorem step_orders (hs : (machine call).step s (i, l) = some s') :
    (s'.db = s.db ∧ Follows s (i, l)) ∨ ∃ entity seen row, l = .write ∧
      s.phase i = .saving entity seen ∧ s.db.find? entity.id = some row ∧
        s'.db = s.db.save (mergeOrder entity seen row) := by
  obtain ⟨m, hm, hmove⟩ := Option.bind_eq_some_iff.1 hs
  have hm' : updateMove (call i) l (s.phase i) s.db = some m := hm
  generalize hp : s.phase i = p at hm'
  unfold updateMove at hm'
  split at hm'
  case h_3 entity seen =>
    obtain ⟨row, hrow, rfl⟩ := Option.map_eq_some_iff.1 hm'
    obtain rfl := Option.some.inj hmove
    exact .inr ⟨entity, seen, row, rfl, rfl, hrow, rfl⟩
  case h_1 =>
    split at hm'
    all_goals
      obtain rfl := Option.some.inj hm'
      obtain rfl := Option.some.inj hmove
      exact .inl ⟨rfl, trivial⟩
  case h_2 =>
    obtain ⟨seen, -, rfl⟩ := Option.map_eq_some_iff.1 hm'
    obtain rfl := Option.some.inj hmove
    exact .inl ⟨rfl, trivial⟩
  case h_6 => cases hm'
  all_goals
    obtain rfl := Option.some.inj hm'
    obtain rfl := Option.some.inj hmove
    exact .inl ⟨rfl, trivial⟩

/-- A step goes along the edges exactly if it meets the condition. -/
theorem alongEdges_iff (hs : (machine call).step s (i, l) = some s') :
    AlongEdges s s' ↔ Follows s (i, l) := by
  rcases step_orders hs with ⟨hdb, hfollows⟩ | ⟨entity, seen, row, rfl, hp, hrow, hdb⟩
  · refine iff_of_true (fun id o o' ho ho' hne => ?_) hfollows
    rw [hdb, ho] at ho'
    exact absurd (congrArg OnlineOrder.status (Option.some.inj ho').symm) hne
  · have hkey : row.id = entity.id := Table.key_of_find? hrow
    have hself : s'.db.find? entity.id = some (mergeOrder entity seen row) := by
      rw [hdb, ← hkey]
      exact Table.find?_save_self _ _
    simp only [Follows, hp, hrow, Option.mem_def, Option.some.injEq, forall_eq']
    constructor
    · intro hedges hwritten hother
      have hstatus : (mergeOrder entity seen row).status = entity.status := mergeCol_of_ne hwritten _
      rw [← hstatus]
      exact hedges entity.id row _ hrow hself (hstatus ▸ hother)
    · intro hfollows id o o' ho ho' hne
      by_cases hid : entity.id = id
      · subst hid
        rw [hrow] at ho
        rw [hself] at ho'
        obtain rfl := Option.some.inj ho
        obtain rfl := Option.some.inj ho'
        by_cases hwritten : entity.status = seen.status
        · exact absurd (mergeCol_of_eq hwritten _) hne
        · have hstatus : (mergeOrder entity seen row).status = entity.status :=
            mergeCol_of_ne hwritten _
          rw [hstatus] at hne ⊢
          exact hfollows hwritten hne
      · rw [hdb, Table.find?_save_ne _ _ _ (fun h => hid (hkey.symm.trans h)), ho] at ho'
        exact absurd (congrArg OnlineOrder.status (Option.some.inj ho').symm) hne

theorem keepsTerminal_of_edges (hs : (machine call).step s (i, l) = some s')
    (hedges : AlongEdges s s') : KeepsTerminal s s' := by
  intro id o ho
  have hthere : ∃ o', s'.db.find? id = some o' := by
    rcases step_orders hs with ⟨hdb, -⟩ | ⟨entity, seen, row, -, -, hrow, hdb⟩
    · exact ⟨o, hdb ▸ ho⟩
    · rw [hdb, Table.find?_save]
      split
      · exact ⟨_, rfl⟩
      · exact ⟨o, ho⟩
  obtain ⟨o', ho'⟩ := hthere
  refine ⟨o', ho', fun hterminal => ?_⟩
  by_contra hne
  have hedge := hedges id o o' ho ho' hne
  rcases hterminal with hterminal | hterminal
  · rw [hterminal] at hedge
    exact absurd hedge List.not_mem_nil
  · rw [hterminal] at hedge
    exact absurd hedge List.not_mem_nil

theorem keepsTerminal_refl (s : Shared (Table OnlineOrder) Unit Phase) : KeepsTerminal s s :=
  fun _ o ho => ⟨o, ho, fun _ => rfl⟩

theorem keepsTerminal_trans (s₁ s₂ s₃ : Shared (Table OnlineOrder) Unit Phase)
    (h : KeepsTerminal s₁ s₂) (h' : KeepsTerminal s₂ s₃) : KeepsTerminal s₁ s₃ := by
  intro id o ho
  obtain ⟨o₂, ho₂, hkeep⟩ := h id o ho
  obtain ⟨o₃, ho₃, hkeep'⟩ := h' id o₂ ho₂
  refine ⟨o₃, ho₃, fun hterminal => ?_⟩
  have hstatus := hkeep hterminal
  rw [← hstatus] at hterminal ⊢
  exact hkeep' hterminal

end

namespace OrderStatusDemo

def order : OnlineOrder where
  id := 1
  companyId := 10
  saleId := 20
  customerId := 30
  source := .Telegram
  status := .Packed
  telegramUserId := none
  telegramUsername := none
  deliveryAddress := "12 Inya Road"
  statusUpdatedAt := none

def calls (i : ℕ) : Call :=
  ⟨1, 10, if i = 0 then .Cancelled else .OnMyWay, { date := ⟨2026, 3, 1⟩, millis := 0 }⟩

def start : Shared (Table OnlineOrder) Unit Phase := .start (.ofRows [order]) .called

end OrderStatusDemo

end FashionErp.OrderStatusRace
