/-
The tables of the HR and payroll modules, and the date texts their requests carry.

A `DATE` column is written from the first ten characters of a text, but the order of two
texts is checked on the times they mean as a whole, which may be in other time zones, or
no times at all.
-/
import FashionErp.Core.Basic
import FashionErp.Lib.Table

namespace FashionErp.Hr

open Lib

/-- A text `@IsDateString` lets through: the day its first ten characters are stored as,
and `new Date(text).getTime()`, where `none` is `NaN`. -/
structure DateText where
  day : DateOnly
  getTime : Option ℤ

/-- The text of a `DATE` column, which means midnight UTC. -/
def dateText (day : DateOnly) : DateText :=
  { day, getTime := some (day.daysSinceEpoch * 86400000) }

/-- `a.getTime() > b.getTime()`, which is false of `NaN`. -/
def DateText.isAfter (a b : DateText) : Bool :=
  match a.getTime, b.getTime with
  | some a, some b => b < a
  | _, _ => false

def validateDateRange (fromDate toDate : Option DateText) : Except Failure Unit :=
  match fromDate, toDate with
  | some fromDate, some toDate =>
    if fromDate.isAfter toDate then
      throw (appException .ValidationError "fromDate must be less than or equal to toDate")
    else pure ()
  | _, _ => pure ()

/-! ## Rows -/

structure Employee where
  id : Uuid
  userId : Option Uuid
  companyId : Uuid
  branchId : Uuid

instance : Keyed Employee Uuid := ⟨Employee.id⟩

inductive LeaveRequestStatus
  | Pending
  | Approved
  | Rejected
  | Cancelled
  deriving DecidableEq

structure LeaveRequest where
  id : Uuid
  employeeId : Uuid
  companyId : Uuid
  branchId : Uuid
  leaveTypeId : Uuid
  fromDate : DateOnly
  toDate : DateOnly
  reason : Option String := none
  status : LeaveRequestStatus := .Pending
  approvedByUserId : Option Uuid := none
  rejectedByUserId : Option Uuid := none
  decisionAt : Option Instant := none
  cancelledAt : Option Instant := none

instance : Keyed LeaveRequest Uuid := ⟨LeaveRequest.id⟩

end FashionErp.Hr
