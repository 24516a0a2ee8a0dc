/-
`shopping/discovery.js`: the words a query is searched by.

`searchTerms` looks a word up in the object `families`, which finds what every object has besides
its own keys.
-/
import FashionErp.Shopping.Catalog

namespace FashionErp

namespace Shopping

def families : List (String × List String) :=
  [("tshirt", ["t-shirt", "t shirt", "tshirt", "tee", "တီရှပ်"]),
    ("pants", ["pants", "pant", "trousers", "trouser", "ဘောင်းဘီ"]),
    ("shirt", ["shirt", "shirts", "ရှပ်အင်္ကျီ"]), ("dress", ["dress", "dresses", "ဂါဝန်"]),
    ("jacket", ["jacket", "jackets", "အပေါ်ထပ်"]), ("shoes", ["shoes", "shoe", "ဖိနပ်"])]

def objectProperties : List String :=
  ["constructor", "__defineGetter__", "__defineSetter__", "hasOwnProperty", "__lookupGetter__",
    "__lookupSetter__", "isPrototypeOf", "propertyIsEnumerable", "toString", "valueOf", "__proto__",
    "toLocaleString"]

/-- `text.split(/\s+/).filter(Boolean)`. -/
def words (text : String) : List String :=
  ((text.toList.splitOnP isWhiteSpace).filter fun word => word ≠ []).map String.ofList

def searchWords (query : String) : List String := (words query).take 10

/-- `families[term] || [term]`; `none` is a value that is no list. -/
def alternatives (term : String) : Option (List String) :=
  match families.lookup term with
  | some aliases => some aliases
  | none => if term ∈ objectProperties then none else some [term]

def searchTerms (query : String) : List (Option (List String)) := (searchWords query).map alternatives

example : searchTerms "red tee" = [some ["red"], some ["tee"]] := by decide +kernel
example : searchTerms "constructor" = [none] := by decide +kernel

theorem notMem_objectProperties_of_family {key : String} (h : key ∈ families.map Prod.fst) :
    key ∉ objectProperties := by
  revert key
  decide

theorem alternatives_isSome {term : String} : (alternatives term).isSome ↔ term ∉ objectProperties := by
  unfold alternatives
  cases hfamily : families.lookup term with
  | some aliases =>
    refine ⟨fun _ => notMem_objectProperties_of_family ?_, fun _ => rfl⟩
    obtain ⟨earlier, later, hsplit, -⟩ := List.lookup_eq_some_iff.1 hfamily
    rw [hsplit, List.map_append]
    exact List.mem_append_right _ List.mem_cons_self
  | none =>
    dsimp only
    by_cases hin : term ∈ objectProperties
    · rw [if_pos hin]
      exact ⟨fun h => absurd h Bool.false_ne_true, fun hnot => absurd hin hnot⟩
    · rw [if_neg hin]
      exact ⟨fun _ => hin, fun _ => rfl⟩

end Shopping

end FashionErp
