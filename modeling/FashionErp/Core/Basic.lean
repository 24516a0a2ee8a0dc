/-
Values every module of the backend shares: ids, money, dates, errors and the few
string functions the services use.

An id is a `char(36)` UUID; the code only compares ids and sorts by them, so an id is
a natural number here, with the order of the canonical spelling.
-/
import Mathlib.Order.WithBot
import Mathlib.Data.List.AList
import Mathlib.Data.List.Infix
import FashionErp.Lib.Tx

namespace FashionErp

open Lib

/-- A `char(36)` UUID. -/
abbrev Uuid := ℕ

abbrev Cents := ℤ

/-- `ErrorCode` of `core/errors/error-codes.ts`. -/
inductive ErrorCode
  | ValidationError
  | Unauthorized
  | Forbidden
  | NotFound
  | Conflict
  | UnprocessableEntity
  | RateLimited
  | InternalError
  deriving DecidableEq

/-- What a request can fail with. An `AppException` of the application, or
an error of the database: a duplicate entry (MySQL names the index), an entity
`getOneOrFail` did not find, or a `TypeError` on a missing value. -/
inductive Failure
  | app (code : ErrorCode) (message : String)
  | duplicateEntry (index : String)
  | entityNotFound
  | typeError
  deriving DecidableEq

/-- A JavaScript `Map`. -/
abbrev JsMap (κ ν : Type) := AList fun _ : κ => ν

/-- `new AppException(code, message)`. -/
abbrev appException (code : ErrorCode) (message : String) : Failure := .app code message

/-! ## Dates -/

/-- A `DATE` column, `YYYY-MM-DD`. -/
structure DateOnly where
  year : ℕ
  month : ℕ
  day : ℕ
  deriving DecidableEq

/-- The order of two `YYYY-MM-DD` strings. -/
def DateOnly.le (a b : DateOnly) : Prop :=
  a.year < b.year ∨ (a.year = b.year ∧
    (a.month < b.month ∨ (a.month = b.month ∧ a.day ≤ b.day)))

instance : LE DateOnly := ⟨DateOnly.le⟩

instance (a b : DateOnly) : Decidable (a ≤ b) :=
  inferInstanceAs (Decidable (_ ∨ (_ ∧ (_ ∨ (_ ∧ _)))))

/-- A `Date`: its UTC day and the milliseconds into it. -/
structure Instant where
  date : DateOnly
  millis : ℕ
  deriving DecidableEq

def Instant.le (a b : Instant) : Prop :=
  (a.date ≤ b.date ∧ a.date ≠ b.date) ∨ (a.date = b.date ∧ a.millis ≤ b.millis)

instance : LE Instant := ⟨Instant.le⟩

instance (a b : Instant) : Decidable (a ≤ b) :=
  inferInstanceAs (Decidable ((_ ∧ _) ∨ (_ ∧ _)))

def Instant.getUTCFullYear (t : Instant) : ℕ := t.date.year

def DateOnly.daysSinceEpoch (d : DateOnly) : ℤ :=
  let year : ℤ := if d.month ≤ 2 then d.year - 1 else d.year
  let month : ℤ := if d.month ≤ 2 then d.month + 9 else d.month - 3
  year * 365 + year / 4 - year / 100 + year / 400 + (153 * month + 2) / 5 + d.day - 719469

/-- Milliseconds since 1970; `⊤` is the time of an invalid `Date`. -/
abbrev EpochMillis := WithTop ℤ

instance : LE EpochMillis := @WithTop.instLE ℤ Int.instLEInt

instance : DecidableLE EpochMillis := @WithTop.decidableLE ℤ Int.instLEInt Int.decLe

def Instant.getTime (t : Instant) : EpochMillis :=
  ((t.date.daysSinceEpoch * 86400000 + t.millis : ℤ) : WithTop ℤ)

structure IsoDateString where
  day : DateOnly
  time : Instant

/-- `new Date(day)` of a `DATE` column: midnight UTC. -/
def DateOnly.midnight (d : DateOnly) : Instant := { date := d, millis := 0 }

/-! ## Strings -/

/-- The white space and line terminators `String.prototype.trim` removes. -/
def isWhiteSpace (c : Char) : Bool :=
  (0x9 ≤ c.val && c.val ≤ 0xD) || c.val = 0x20 || c.val = 0xA0 || c.val = 0x1680 ||
    (0x2000 ≤ c.val && c.val ≤ 0x200A) || c.val = 0x2028 || c.val = 0x2029 || c.val = 0x202F ||
    c.val = 0x205F || c.val = 0x3000 || c.val = 0xFEFF

def trim (s : String) : String :=
  String.ofList ((s.toList.dropWhile isWhiteSpace).reverse.dropWhile isWhiteSpace).reverse

/-! ## Numbers -/

/-- `Number(x.toFixed(2))` of an exact amount in millionths of a cent: the nearest
cent, and of two the one further from zero. -/
def roundToCents (millionths : ℤ) : ℤ :=
  if millionths < 0 then -((-millionths + 500000) / 1000000) else (millionths + 500000) / 1000000

/-- `String(n).padStart(width, '0')` of a natural number. -/
def padStartZeros (width n : ℕ) : String :=
  let digits := toString n
  String.ofList (List.replicate (width - digits.length) '0') ++ digits

/-- `Number.prototype.toFixed(2)` of an amount in cents. -/
def toFixed2 (c : Cents) : String :=
  let sign := if c < 0 then "-" else ""
  let whole := c.natAbs / 100
  let cents := padStartZeros 2 (c.natAbs % 100)
  s!"{sign}{whole}.{cents}"

/-- `formatDocumentNumber`: `<PREFIX>-<year>-<6-digit zero-padded sequence>`. -/
def formatDocumentNumber (numberPrefix : String) (year sequence : ℕ) : String :=
  let digits := padStartZeros 6 sequence
  s!"{numberPrefix}-{year}-{digits}"

example : formatDocumentNumber "GR" 2026 1 = "GR-2026-000001" := by decide +kernel

example : toFixed2 (-1205) = "-12.05" := by decide +kernel

end FashionErp
