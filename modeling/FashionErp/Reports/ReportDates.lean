/-
Dates in report requests, and what the reports take from MySQL and from the JavaScript
runtime.

A date comes as text and is used as text: it stands in the SQL comparisons, it is put
into the dashboard's cache key and read back into the response.
-/
import FashionErp.Core.Basic
import Mathlib.Data.List.TakeWhile

namespace FashionErp

/-! ## Date strings -/

/-- `T` or white space, which in ISO 8601 ends the date and starts the time. -/
def isTimeMark (c : Char) : Bool :=
  c = 'T' || isWhiteSpace c

def DateShaped (text : List Char) : Prop :=
  text ≠ [] ∧ ':' ∉ text.takeWhile (fun c => !isTimeMark c) ∧
    ∀ c ∈ (text.dropWhile fun c => !isTimeMark c).tail, isTimeMark c = false

instance (text : List Char) : Decidable (DateShaped text) :=
  -- Over the characters of the text, not over all there are.
  @instDecidableAnd _ _ inferInstance (@instDecidableAnd _ _ inferInstance (List.decidableBAll ..))

/-- A text `@IsDateString` lets through. -/
structure DateString where
  text : String
  shaped : DateShaped text.toList

theorem DateShaped.mark_before_colon {d x : List Char} (h : DateShaped (d ++ ':' :: x)) :
    ∃ c ∈ d, isTimeMark c = true := by
  by_contra hnone
  have hplain : ∀ c ∈ d, (!isTimeMark c) = true := by
    intro c hc
    cases hmark : isTimeMark c with
    | false => rfl
    | true => exact absurd ⟨c, hc, hmark⟩ hnone
  apply h.2.1
  rw [List.takeWhile_append_of_pos hplain, List.takeWhile_cons_of_pos (by decide)]
  exact List.mem_append_right d List.mem_cons_self

theorem DateShaped.no_mark_after_colon {d x : List Char} (h : DateShaped (d ++ ':' :: x)) :
    ∀ c ∈ x, isTimeMark c = false := by
  obtain ⟨m, hm, hmark⟩ := h.mark_before_colon
  intro c hc
  apply h.2.2
  -- the first mark is in `d`, so the whole of `x` comes after it
  have hleft : d.dropWhile (fun c => !isTimeMark c) ≠ [] := by
    intro hnil
    have hall := List.dropWhile_eq_nil_iff.1 hnil m hm
    rw [hmark] at hall
    exact absurd hall (by decide)
  rw [List.dropWhile_append, if_neg (by simpa using hleft), List.tail_append_of_ne_nil hleft]
  exact List.mem_append_right _ (List.mem_cons_of_mem _ hc)

def dateText (date : Option DateString) : String :=
  (date.map DateString.text).getD ""

theorem dateShaped_of_ne_nil {date : Option DateString} (h : (dateText date).toList ≠ []) :
    DateShaped (dateText date).toList := by
  cases date with
  | none => exact absurd rfl h
  | some date => exact date.shaped

variable {d₁ d₂ : Option DateString}

theorem dateText_inj (h : dateText d₁ = dateText d₂) :
    d₁.map DateString.text = d₂.map DateString.text := by
  have hne : ∀ d : DateString, d.text ≠ "" := fun d h => d.shaped.1 (by rw [h]; rfl)
  cases d₁ with
  | none =>
    cases d₂ with
    | none => rfl
    | some d₂ => exact absurd h.symm (hne d₂)
  | some d₁ =>
    cases d₂ with
    | none => exact absurd h (hne d₁)
    | some d₂ => exact congrArg some h

theorem no_longer_date {e₁ e₂ : Option DateString} {x : List Char}
    (hd : (dateText d₂).toList = (dateText d₁).toList ++ ':' :: x)
    (he : (dateText e₁).toList = x ++ ':' :: (dateText e₂).toList) : False := by
  have hd₂ : DateShaped ((dateText d₁).toList ++ ':' :: x) :=
    hd ▸ dateShaped_of_ne_nil (by rw [hd]; exact List.append_ne_nil_of_right_ne_nil _ (by simp))
  have he₁ : DateShaped (x ++ ':' :: (dateText e₂).toList) :=
    he ▸ dateShaped_of_ne_nil (by rw [he]; exact List.append_ne_nil_of_right_ne_nil _ (by simp))
  obtain ⟨c, hc, hmark⟩ := he₁.mark_before_colon
  rw [hd₂.no_mark_after_colon c hc] at hmark
  cases hmark

theorem dateTexts_inj {e₁ e₂ : Option DateString}
    (h : (dateText d₁).toList ++ ':' :: (dateText e₁).toList =
      (dateText d₂).toList ++ ':' :: (dateText e₂).toList) :
    dateText d₁ = dateText d₂ ∧ dateText e₁ = dateText e₂ := by
  rcases List.append_eq_append_iff.1 h with ⟨x, hd, he⟩ | ⟨x, hd, he⟩
  · cases x with
    | nil =>
      rw [List.append_nil] at hd
      exact ⟨String.toList_inj.1 hd.symm, String.toList_inj.1 (List.cons.inj he).2⟩
    | cons c x =>
      obtain ⟨rfl, hrest⟩ := List.cons.inj he
      exact (no_longer_date hd hrest).elim
  · cases x with
    | nil =>
      rw [List.append_nil] at hd
      exact ⟨String.toList_inj.1 hd, String.toList_inj.1 (List.cons.inj he).2.symm⟩
    | cons c x =>
      obtain ⟨rfl, hrest⟩ := List.cons.inj he
      exact (no_longer_date hd hrest).elim

/-! ## The runtime -/

structure Runtime where
  /-- How MySQL reads a text it compares with a timestamp. -/
  literal : String → Instant
  day : Instant → DateOnly
  /-- The weight a text is grouped and sorted by under the collation of its column. -/
  weight : String → String
  getTime : String → Option ℤ
  localeCompare : String → String → ℤ
  /-- `new Date().toISOString()`. -/
  now : String
  /-- `new Date().toISOString().slice(0, 10)`. -/
  today : String
  daysBefore : String → ℕ → Except Failure String

/-- `getTime` of a column's `Date`, which is always valid. -/
def Instant.millisSinceEpoch (t : Instant) : ℤ :=
  t.date.daysSinceEpoch * 86400000 + t.millis

def validateDateRange (rt : Runtime) (fromDate toDate : Option DateString) :
    Except Failure Unit :=
  match fromDate, toDate with
  | some fromDate, some toDate =>
    match rt.getTime fromDate.text, rt.getTime toDate.text with
    | some fromTime, some toTime =>
      if fromTime > toTime then
        throw (appException .ValidationError "fromDate must be less than or equal to toDate")
      else return ()
    -- a comparison with `NaN` is false
    | _, _ => return ()
  | _, _ => return ()

/-- `column >= :fromDate` and `column <= :toDate`, each if the date is there. -/
def Runtime.inRange (rt : Runtime) (fromDate toDate : Option DateString) (t : Instant) : Bool :=
  fromDate.all (fun d => rt.literal d.text ≤ t) && toDate.all fun d => t ≤ rt.literal d.text

/-! ## Calendar days -/

def DateOnly.ofDaysSinceEpoch (days : ℤ) : DateOnly :=
  -- eras of 400 years from 0000-03-01, and years from March
  let z := days + 719468
  let era := z / 146097
  let dayOfEra := z % 146097
  let yearOfEra := (dayOfEra - dayOfEra / 1460 + dayOfEra / 36524 - dayOfEra / 146096) / 365
  let dayOfYear := dayOfEra - (365 * yearOfEra + yearOfEra / 4 - yearOfEra / 100)
  let shiftedMonth := (5 * dayOfYear + 2) / 153
  let month := if shiftedMonth < 10 then shiftedMonth + 3 else shiftedMonth - 9
  let year := yearOfEra + era * 400 + if month ≤ 2 then 1 else 0
  { year := year.toNat, month := month.toNat
    day := (dayOfYear - (153 * shiftedMonth + 2) / 5 + 1).toNat }

/-- `WEEKDAY`: 0 is Monday. -/
def DateOnly.weekday (d : DateOnly) : ℤ :=
  (d.daysSinceEpoch + 3) % 7

/-- `DATE_SUB(d, INTERVAL WEEKDAY(d) DAY)`. -/
def DateOnly.startOfWeek (d : DateOnly) : DateOnly :=
  .ofDaysSinceEpoch (d.daysSinceEpoch - d.weekday)

/-- `DATE_FORMAT(.., '%Y-%m-01')`. -/
def DateOnly.startOfMonth (d : DateOnly) : DateOnly := { d with day := 1 }

/-- `DATE_FORMAT(.., '%Y-01-01')`. -/
def DateOnly.startOfYear (d : DateOnly) : DateOnly := { d with month := 1, day := 1 }

example : (DateOnly.mk 2024 3 2).startOfWeek = ⟨2024, 2, 26⟩ := by decide

end FashionErp
