/-
What the shopping bot reads out of the catalog: products with their variants, prices
as decimal strings, and the few string functions the engine of
`customer-portal/shopping/` is written with.

`cents` is the one place a price is checked: a string it rejects stops the whole
update.
-/
import FashionErp.Core.Basic
import Mathlib.Algebra.Order.Ring.Int

namespace FashionErp

namespace Shopping

/-! ## Strings -/

/-- `String.prototype.length`: UTF-16 code units. -/
def jsLength (s : String) : ℕ :=
  (s.toList.map fun c => if c.val < 0x10000 then 1 else 2).sum

/-- The characters that fit into `n` UTF-16 code units. -/
def sliceChars : ℕ → List Char → List Char
  | _, [] => []
  | n, c :: cs =>
    let size := if c.val < 0x10000 then 1 else 2
    if size ≤ n then c :: sliceChars (n - size) cs else []

def slice (n : ℕ) (s : String) : String := String.ofList (sliceChars n s.toList)

def split (sep : Char) (s : String) : List String := (s.toList.splitOn sep).map String.ofList

/-- `list.slice(-n)`. -/
def lastN {α : Type} (n : ℕ) (l : List α) : List α := l.drop (l.length - n)

/-- `[...new Set(list)]`. -/
def unique {α : Type} [DecidableEq α] (l : List α) : List α :=
  (l.foldl (fun seen a => if a ∈ seen then seen else a :: seen) []).reverse

/-- `object[key] = value`, or `map.set(key, value)`: a new key comes last. -/
def assign {κ ν : Type} [DecidableEq κ] : List (κ × ν) → κ → ν → List (κ × ν)
  | [], key, value => [(key, value)]
  | (k, v) :: rest, key, value =>
    if k = key then (k, value) :: rest else (k, v) :: assign rest key value

/-- `delete object[key]`. -/
def remove {κ ν : Type} [DecidableEq κ] (l : List (κ × ν)) (key : κ) : List (κ × ν) :=
  l.filter fun entry => entry.1 ≠ key

def asciiDigit (c : Char) : Char :=
  if 0x1040 ≤ c.toNat ∧ c.toNat ≤ 0x1049 then Char.ofNat (c.toNat - 0x1040 + 0x30) else c

def digits (text : String) : String := String.ofList (text.toList.map asciiDigit)

/-- `[a-z]` for `[A-Z]`, as the flag `i` compares the letters of a pattern. -/
def lowerAscii (text : List Char) : List Char := text.map Char.toLower

def digitsValue (ds : List Char) : ℕ := ds.foldl (fun n c => n * 10 + (c.toNat - 0x30)) 0

/-- `n.toString(36)`, by its digits from the last one on. -/
def base36Digits : ℕ → ℕ → List Char
  | 0, _ => []
  | fuel + 1, n =>
    let d := n % 36
    let c := if d < 10 then Char.ofNat (0x30 + d) else Char.ofNat (0x61 + (d - 10))
    if n < 36 then [c] else c :: base36Digits fuel (n / 36)

def toString36 (n : ℕ) : String := String.ofList (base36Digits (n + 1) n).reverse

def encodeURIComponent (s : String) : String :=
  let hex (n : ℕ) : Char := if n < 10 then Char.ofNat (0x30 + n) else Char.ofNat (0x41 + (n - 10))
  String.ofList (s.toList.flatMap fun c =>
    if c.isAlphanum ∨ c ∈ "-_.!~*'()".toList then [c]
    else (String.utf8EncodeChar c).flatMap fun byte =>
      ['%', hex (byte.toNat / 16), hex (byte.toNat % 16)])

/-- `short`: at most `limit` code units, the last of them an ellipsis. -/
def short (text : String) (limit : ℕ := 40) : String :=
  if jsLength text > limit then slice (limit - 1) text ++ "…" else text

/-! ## Quantities and prices -/

def MAX_USERS : ℕ := 500
def MAX_LINES : ℕ := 20
def MAX_QUANTITY : ℕ := 999

def quantityUnits : List (List Char) :=
  ["", "ထည်", "ခု", "စုံ", "件", "pc", "pcs", "piece", "pieces"].map String.toList

def quantityMatch (text : String) : Option ℕ :=
  let chars := (trim (digits text)).toList
  let number := chars.takeWhile Char.isDigit
  let unit := (chars.dropWhile Char.isDigit).dropWhile isWhiteSpace
  if number ≠ [] ∧ number.length ≤ 3 ∧ lowerAscii unit ∈ quantityUnits then
    some (digitsValue number)
  else none

/-- `quantity`; `none` is `null`. -/
def quantity (text : String) : Option ℕ :=
  let n := (quantityMatch text).getD 0
  if n > 0 ∧ n ≤ MAX_QUANTITY then some n else none

example : quantity "၁၂ ထည်" = some 12 := by decide +kernel

theorem quantity_bounds {text : String} {n : ℕ} (h : quantity text = some n) :
    1 ≤ n ∧ n ≤ MAX_QUANTITY := by
  simp only [quantity, Option.ite_none_right_eq_some, Option.some.injEq] at h
  obtain ⟨⟨hpos, hmax⟩, rfl⟩ := h
  exact ⟨hpos, hmax⟩

def priceCents (value : String) : Option Cents :=
  let chars := value.toList
  let whole := chars.takeWhile Char.isDigit
  let rest := chars.dropWhile Char.isDigit
  if whole.length = 0 ∨ whole.length > 10 then none
  else match rest with
    | [] => some (digitsValue whole * 100 : ℕ)
    | '.' :: fraction =>
      if fraction.all Char.isDigit ∧ (fraction.length = 1 ∨ fraction.length = 2) then
        let padded := fraction ++ List.replicate (2 - fraction.length) '0'
        some (digitsValue whole * 100 + digitsValue padded : ℕ)
      else none
    | _ :: _ => none

example : priceCents "1250.5" = some 125050 := by decide +kernel
example : priceCents "12.345" = none := by decide +kernel

inductive Fault
  | invalidCatalogPrice
  | typeError

def cents (value : String) : Except Fault Cents :=
  match priceCents value with
  | some c => .ok c
  | none => .error .invalidCatalogPrice

theorem cents_eq_ok {value : String} {c : Cents} : cents value = .ok c ↔ priceCents value = some c := by
  unfold cents
  split <;> simp_all

abbrev money : Cents → String := toFixed2

/-! ### Prices that are written out -/

theorem digitsValue_eq (ds : List Char) : digitsValue ds = Nat.ofDigitChars 10 ds 0 := by
  unfold digitsValue
  rw [Nat.ofDigitChars_eq_foldl]
  refine List.foldl_ext _ _ _ fun n c _ => ?_
  rw [Nat.mul_comm]
  rfl

theorem isDigit_toDigits (n : ℕ) : ∀ c ∈ Nat.toDigits 10 n, c.isDigit = true :=
  fun _ hc => Nat.isDigit_of_mem_toDigits (by decide) (by decide) hc

theorem toList_padStartZeros (width n : ℕ) : (padStartZeros width n).toList =
    List.replicate (width - (Nat.toDigits 10 n).length) '0' ++ Nat.toDigits 10 n := by
  unfold padStartZeros
  rw [String.toList_append, String.toList_ofList]
  show List.replicate (width - n.repr.length) '0' ++ n.repr.toList = _
  rw [← String.length_toList, Nat.toList_repr]

theorem toList_toFixed2 {c : Cents} (h : ¬ c < 0) : (toFixed2 c).toList =
    Nat.toDigits 10 (c.natAbs / 100) ++ '.' :: (padStartZeros 2 (c.natAbs % 100)).toList := by
  unfold toFixed2
  dsimp only
  rw [if_neg h]
  simp only [String.toList_append, toString]
  rw [Nat.toList_repr]
  simp

theorem digits_padStartZeros {n : ℕ} (h : n < 100) : (padStartZeros 2 n).toList.length = 2 ∧
    (∀ c ∈ (padStartZeros 2 n).toList, c.isDigit = true) ∧
      digitsValue (padStartZeros 2 n).toList = n := by
  have hlength : (Nat.toDigits 10 n).length ≤ 2 :=
    (Nat.length_toDigits_le_iff (by decide) (by decide)).2 h
  rw [toList_padStartZeros]
  refine ⟨?_, fun c hc => ?_, ?_⟩
  · rw [List.length_append, List.length_replicate]
    omega
  · rcases List.mem_append.1 hc with hc | hc
    · rw [List.eq_of_mem_replicate hc]
      rfl
    · exact isDigit_toDigits n c hc
  · rw [digitsValue_eq, Nat.ofDigitChars_append, Nat.ofDigitChars_replicate_zero, Nat.mul_zero,
      Nat.ofDigitChars_ten_toDigits]

/-- A price that is written out and read again is the same. -/
theorem cents_toFixed2 {c price : Cents} (h : cents (toFixed2 c) = .ok price) : price = c := by
  rw [cents_eq_ok] at h
  by_cases hneg : c < 0
  · have hsign : (toFixed2 c).toList = '-' :: (toFixed2 c).toList.tail := by
      unfold toFixed2
      dsimp only
      rw [if_pos hneg]
      simp only [String.toList_append, toString]
      rfl
    unfold priceCents at h
    rw [hsign] at h
    cases h
  · obtain ⟨htwo, hdigits, hvalue⟩ := digits_padStartZeros (Nat.mod_lt c.natAbs (by decide : 0 < 100))
    unfold priceCents at h
    dsimp only at h
    rw [toList_toFixed2 hneg, List.takeWhile_append_of_pos (isDigit_toDigits _),
      List.dropWhile_append_of_pos (isDigit_toDigits _)] at h
    generalize (padStartZeros 2 (c.natAbs % 100)).toList = fraction at h htwo hdigits hvalue
    have hpoint : '.'.isDigit = false := rfl
    simp only [List.takeWhile_cons, List.dropWhile_cons, hpoint, Bool.false_eq_true, if_false,
      List.append_nil] at h
    split at h
    · cases h
    · rw [if_pos ⟨List.all_eq_true.2 hdigits, .inr htwo⟩] at h
      cases h
      rw [htwo, Nat.sub_self, List.replicate_zero, List.append_nil, hvalue, digitsValue_eq,
        Nat.ofDigitChars_ten_toDigits]
      unfold Cents at *
      omega

/-! ## Products -/

/-- `AttributeKind`, in the order of `kinds`. -/
inductive AttributeKind
  | color
  | size
  | style
  | material
  deriving DecidableEq

def kinds : List AttributeKind := [.color, .size, .style, .material]

structure Attribute where
  id : String
  kind : AttributeKind
  value : String
  deriving DecidableEq

structure Variant where
  id : String
  sku : String
  unitPrice : String
  quantityAvailable : ℤ
  attributes : List Attribute
  deriving DecidableEq

structure Product where
  id : String
  name : String
  description : Option String := none
  imageUrl : Option String := none
  currency : String
  reason : Option String := none
  variants : List Variant
  deriving DecidableEq

inductive Intent
  | chat
  | product
  deriving DecidableEq

/-- `DiscoveryFilters`. -/
structure Preferences where
  query : Option String := none
  family : Option String := none
  color : Option String := none
  size : Option String := none
  maxPrice : Option String := none
  currency : Option String := none
  intent : Option Intent := none
  deriving DecidableEq

inductive FollowupAction
  | more
  | cheaper
  | reset
  | buy
  | inspectOptions

structure Followup where
  action : FollowupAction
  subject : String := ""
  kind : Option AttributeKind := none

/-- How text is understood. The regular expressions over free text, in two languages,
and the case mapping of Unicode. -/
structure Language where
  toLowerCase : String → String
  toUpperCase : String → String
  normalize : String → String
  parseQuery : String → Preferences → Preferences
  intent : String → Option Followup
  /-- A size in the answer to an option question, without the word for it. -/
  sizeText : String → String
  /-- The answer to an option question is a size and nothing else. -/
  shortSize : String → Bool

def truthy (s : Option String) : Option String := s.filter fun text => text ≠ ""

variable (lang : Language)

def colors : List (String × List String) :=
  [("black", ["black", "အနက်", "အမည်း"]), ("white", ["white", "အဖြူ"]), ("red", ["red", "အနီ"]),
    ("blue", ["blue", "အပြာ"]), ("navy", ["navy", "နက်ပြာ"]), ("green", ["green", "အစိမ်း"]),
    ("yellow", ["yellow", "အဝါ"]), ("pink", ["pink", "ပန်းရောင်"]),
    ("grey", ["grey", "gray", "မီးခိုး"])]

def canonicalColor (value : String) : String :=
  let text := lang.toLowerCase (trim value)
  match colors.find? fun c => c.2.any fun name => text = name ∨ text = name ++ "ရောင်" with
  | some (key, _) => key
  | none => text

def eligibleVariants (product : Product) (filters : Preferences) (relaxColor : Bool) :
    List Variant :=
  let ceiling := filters.maxPrice.map priceCents
  if ∃ currency ∈ truthy filters.currency, product.currency ≠ currency then []
  else if ceiling = some none then []
  else product.variants.filter fun variant =>
    match priceCents variant.unitPrice with
    | none => false
    | some price =>
      variant.quantityAvailable > 0
        ∧ (∀ limit ∈ ceiling.join, price ≤ limit)
        ∧ (∀ size ∈ truthy filters.size, ∃ a ∈ variant.attributes, a.kind = .size ∧
            lang.toUpperCase (trim a.value) = lang.toUpperCase size)
        ∧ (relaxColor ∨ ∀ color ∈ truthy filters.color, ∃ a ∈ variant.attributes,
            a.kind = .color ∧ canonicalColor lang a.value = canonicalColor lang color)

end Shopping

end FashionErp
