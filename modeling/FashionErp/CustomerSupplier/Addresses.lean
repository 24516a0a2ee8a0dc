/-
`customer-supplier/services/customer-addresses.service.ts` and its mirror image for suppliers:
the addresses of a party, of which one may be primary.

A new primary address un-sets the others of its party in one statement and is written in
another; there is no transaction around the two.
-/
import FashionErp.Core.MasterData
import FashionErp.Lib.Apart
import FashionErp.Lib.Column

namespace FashionErp

open Lib Lib.Tx

inductive AddressType
  | Billing
  | Shipping
  | Office
  | Home
  | Warehouse
  | Other
  deriving DecidableEq

inductive PartyKind
  | Customer
  | Supplier

/-- An entity of `customer_addresses` or `supplier_addresses`; `ownerId` is `customerId` or
`supplierId`, and `deleted` is that `deletedAt` is set. An entity in memory may have `null` in
any column, a row not (`Address.NotNull`). -/
structure Address where
  id : Uuid
  ownerId : Uuid
  label : Option AddressType
  recipientName : Option String
  addressLine1 : Option String
  addressLine2 : Option String
  city : Option String
  state : Option String
  postalCode : Option String
  country : Option String
  phone : Option String
  isPrimary : Option Bool
  deleted : Bool := false
  deriving DecidableEq

instance : Keyed Address Uuid := ⟨Address.id⟩

/-- The columns that take no `NULL` have a value. -/
def Address.NotNull (a : Address) : Prop :=
  a.label ≠ none ∧ a.addressLine1 ≠ none ∧ a.isPrimary ≠ none

instance (a : Address) : Decidable a.NotNull := inferInstanceAs (Decidable (_ ∧ _ ∧ _))

def Address.IsPrimary (a : Address) : Prop := a.isPrimary = some true ∧ a.deleted = false

instance (a : Address) : Decidable a.IsPrimary := inferInstanceAs (Decidable (_ ∧ _))

structure AddressDb where
  base : Db
  addresses : Table Address := .empty

/-- `CreateAddressDto`; `null` is worth as much as nothing in each optional field. -/
structure CreateAddressDto where
  label : Option AddressType := none
  recipientName : Option String := none
  addressLine1 : String
  addressLine2 : Option String := none
  city : Option String := none
  state : Option String := none
  postalCode : Option String := none
  country : Option String := none
  phone : Option String := none
  isPrimary : Option Bool := none

/-- `UpdateAddressDto`; every field may be left out, and may be `null`. -/
structure UpdateAddressDto where
  label : Option (Option AddressType) := none
  recipientName : Option (Option String) := none
  addressLine1 : Option (Option String) := none
  addressLine2 : Option (Option String) := none
  city : Option (Option String) := none
  state : Option (Option String) := none
  postalCode : Option (Option String) := none
  country : Option (Option String) := none
  phone : Option (Option String) := none
  isPrimary : Option (Option Bool) := none

namespace AddressesService

/-- `assertCustomerOwned` and `assertSupplierOwned`. -/
def assertOwned (kind : PartyKind) (ownerId companyId : Uuid) : DbTx Unit :=
  match kind with
  | .Customer => void (CustomersService.findByIdInCompany ownerId companyId)
  | .Supplier => void (SuppliersService.findByIdInCompany ownerId companyId)

/-- The error of `findByIdInCompany`. -/
def addressNotFound : PartyKind → Failure
  | .Customer => appException .NotFound "Customer address not found"
  | .Supplier => appException .NotFound "Supplier address not found"

def findOne (id : Uuid) (db : AddressDb) : Option Address :=
  (db.addresses.find? id).filter fun a => !a.deleted

/-- `address` as the bulk `update` that un-sets the primary of `ownerId` leaves it. Unlike a
`find` it does not leave out what is deleted. -/
def unsetIn (ownerId : Uuid) (address : Address) : Address :=
  if address.ownerId = ownerId ∧ address.isPrimary = some true then
    { address with isPrimary := some false }
  else
    address

theorem key_unsetIn (ownerId : Uuid) (address : Address) :
    key (unsetIn ownerId address) = key address := by
  unfold unsetIn
  split <;> rfl

/-- `addressRepository.update({ customerId, isPrimary: true }, { isPrimary: false })`. -/
def unsetPrimary (ownerId : Uuid) (db : AddressDb) : AddressDb :=
  { db with addresses := db.addresses.mapRows (unsetIn ownerId) (key_unsetIn ownerId) }

def primaryIds (ownerId : Uuid) (db : AddressDb) : List Uuid :=
  (db.addresses.rows.filter fun a => a.ownerId = ownerId ∧ a.IsPrimary).map (·.id)

/-- The entity that `create` makes, with the id it is given. -/
def newAddress (id ownerId : Uuid) (dto : CreateAddressDto) : Address where
  id := id
  ownerId := ownerId
  label := some (dto.label.getD .Other)
  recipientName := dto.recipientName
  addressLine1 := some dto.addressLine1
  addressLine2 := dto.addressLine2
  city := dto.city
  state := dto.state
  postalCode := dto.postalCode
  country := dto.country
  phone := dto.phone
  isPrimary := some (dto.isPrimary.getD false)

/-- What `update` makes of the entity it has read. -/
def applyUpdate (dto : UpdateAddressDto) (address : Address) : Address :=
  { address with
    label := dto.label.getD address.label
    recipientName := dto.recipientName.getD address.recipientName
    addressLine1 := dto.addressLine1.getD address.addressLine1
    addressLine2 := dto.addressLine2.getD address.addressLine2
    city := dto.city.getD address.city
    state := dto.state.getD address.state
    postalCode := dto.postalCode.getD address.postalCode
    country := dto.country.getD address.country
    phone := dto.phone.getD address.phone
    isPrimary := dto.isPrimary.getD address.isPrimary }

/-- The row that `save(entity)` writes over `row` when it has read `seen`. Nobody changes the
id or the owner of an address. -/
def mergeAddress (entity seen row : Address) : Address where
  id := row.id
  ownerId := row.ownerId
  label := mergeCol entity.label seen.label row.label
  recipientName := mergeCol entity.recipientName seen.recipientName row.recipientName
  addressLine1 := mergeCol entity.addressLine1 seen.addressLine1 row.addressLine1
  addressLine2 := mergeCol entity.addressLine2 seen.addressLine2 row.addressLine2
  city := mergeCol entity.city seen.city row.city
  state := mergeCol entity.state seen.state row.state
  postalCode := mergeCol entity.postalCode seen.postalCode row.postalCode
  country := mergeCol entity.country seen.country row.country
  phone := mergeCol entity.phone seen.phone row.phone
  isPrimary := mergeCol entity.isPrimary seen.isPrimary row.isPrimary
  deleted := mergeCol entity.deleted seen.deleted row.deleted

/-! ## One primary address -/

/-- No party has two live primary addresses. -/
def SinglePrimary (db : AddressDb) : Prop :=
  db.addresses.Apart fun a => {ownerId | a.IsPrimary ∧ a.ownerId = ownerId}

variable {db : AddressDb} {a : Address}

theorem SinglePrimary.countP_le_one (h : SinglePrimary db) (ownerId : Uuid) :
    db.addresses.rows.countP (fun a => a.IsPrimary ∧ a.ownerId = ownerId) ≤ 1 := by
  have hdec : ∀ r : Address, Decidable (ownerId ∈ {o | r.IsPrimary ∧ r.ownerId = o}) :=
    fun r => inferInstanceAs (Decidable (_ ∧ _))
  convert Table.Apart.countP_le_one h (x := ownerId)
  exact Iff.rfl

theorem isPrimary_unsetIn {ownerId : Uuid} (h : (unsetIn ownerId a).IsPrimary) :
    a.IsPrimary ∧ (unsetIn ownerId a).ownerId = a.ownerId := by
  unfold unsetIn at h ⊢
  split at h
  · cases h.1
  · rename_i hnot
    rw [if_neg hnot]
    exact ⟨h, rfl⟩

theorem SinglePrimary.unset (h : SinglePrimary db) (ownerId : Uuid) :
    SinglePrimary (unsetPrimary ownerId db) := by
  intro r hr r' hr' hne o hmem
  obtain ⟨a, ha, rfl⟩ := List.mem_map.1 hr
  obtain ⟨b, hb, rfl⟩ := List.mem_map.1 hr'
  rw [key_unsetIn, key_unsetIn] at hne
  obtain ⟨⟨hprimary, howner⟩, hprimary', howner'⟩ := hmem
  obtain ⟨ha', heq⟩ := isPrimary_unsetIn hprimary
  obtain ⟨hb', heq'⟩ := isPrimary_unsetIn hprimary'
  exact h a ha b hb hne o ⟨⟨ha', heq ▸ howner⟩, hb', heq' ▸ howner'⟩

theorem singlePrimary_save_iff (h : SinglePrimary db) :
    SinglePrimary { db with addresses := db.addresses.save a } ↔
      (a.IsPrimary → ∀ o ∈ db.addresses.rows, o.id ≠ a.id → o.ownerId = a.ownerId →
        ¬ o.IsPrimary) := by
  refine (Table.apart_save_iff h).trans ⟨fun hothers ha o ho hne howner hprimary => ?_,
    fun hothers o ho hne x hx => ?_⟩
  · exact hothers o ho hne a.ownerId ⟨⟨hprimary, howner⟩, ha, rfl⟩
  · exact hothers hx.2.1 o ho hne (hx.1.2.trans hx.2.2.symm) hx.1.1

end AddressesService

end FashionErp
