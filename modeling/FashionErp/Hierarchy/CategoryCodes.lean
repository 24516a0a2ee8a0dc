/-
The codes `CategoriesService.create` makes up.

The candidates, the name as a code and then that code with `-2`, `-3` and so on, are looked for
among the rows that are not deleted; the unique index is on all rows.
-/
import FashionErp.Hierarchy.Hierarchies
import Mathlib.Data.List.DropRight
import Mathlib.Data.Nat.Find

namespace FashionErp.CategoriesService

open Lib Hierarchy

abbrev Code := List Char

/-- `[A-Z0-9]`. -/
def isCodeChar (c : Char) : Bool := ('A' ≤ c && c ≤ 'Z') || ('0' ≤ c && c ≤ '9')

/-- `.replace(/[^A-Z0-9]+/g, '-')`; the flag is that the last character was replaced. -/
def dashRuns : Bool → Code → Code
  | _, [] => []
  | replaced, c :: cs =>
    if isCodeChar c then c :: dashRuns false cs
    else if replaced then dashRuns true cs
    else '-' :: dashRuns true cs

def dropDashes (code : Code) : Code := code.rdropWhile (· = '-')

def orElse (code other : Code) : Code := if code = [] then other else code

def truncateCode (code : Code) : Code := orElse (dropDashes (code.take 50)) "CAT-ITEM".toList

/-- The name as a code; `upper` is `toUpperCase`. -/
def slugOf (upper : String → String) (name : String) : Code :=
  let dashed := dashRuns false (upper (trim name)).toList
  orElse (dropDashes (dashed.dropWhile (· = '-'))) "ITEM".toList

def buildBaseCode (upper : String → String) (name : String) : Code :=
  truncateCode ("CAT-".toList ++ slugOf upper name)

def suffixText (suffix : ℕ) : Code := '-' :: Nat.toDigits 10 suffix

def appendNumericSuffix (baseCode : Code) (suffix : ℕ) : Code :=
  let maxBaseLength := 50 - (suffixText suffix).length
  dropDashes (baseCode.take maxBaseLength) ++ suffixText suffix

/-- `suffix += 1`, of a `number`. -/
def nextSuffix (suffix : ℕ) : ℕ := if suffix < 2 ^ 53 then suffix + 1 else suffix

/-- The `while` of `generateUniqueCode`; `none` is fuel that did not do. -/
def codeLoop (found : Code → Bool) (baseCode : Code) : ℕ → Code → ℕ → Option Code
  | 0, _, _ => none
  | fuel + 1, candidate, suffix =>
    if found candidate then
      codeLoop found baseCode fuel (appendNumericSuffix baseCode suffix) (nextSuffix suffix)
    else some candidate

/-- `findOne` of the code, which passes over the deleted rows. -/
def codeFound (companyId : Uuid) (db : HierarchyDb Category) (code : Code) : Bool :=
  service.CodeExists companyId (String.ofList code) db

def generateUniqueCode (upper : String → String) (fuel : ℕ) (companyId : Uuid) (name : String)
    (db : HierarchyDb Category) : Option Code :=
  let baseCode := buildBaseCode upper name
  codeLoop (codeFound companyId db) baseCode fuel baseCode 2

def create (upper : String → String) (fuel : ℕ) (companyId : Uuid) (dto : CreateCategoryDto)
    (db : HierarchyDb Category) : Option (Except Failure (String × HierarchyDb Category)) :=
  match service.assertNew companyId dto db with
  | .error error => some (.error error)
  | .ok _ =>
    match service.requestedCode dto with
    | some code =>
      if service.CodeExists companyId code db then
        some (.error (appException .Conflict service.codeExistsText))
      else some ((service.insertRow companyId code dto db).map fun db' => (code, db'))
    | none =>
      (generateUniqueCode upper fuel companyId dto.name db).map fun code =>
        (service.insertRow companyId (String.ofList code) dto db).map fun db' =>
          (String.ofList code, db')

/-! ## What is asked of the codes -/

def Used (companyId : Uuid) (db : HierarchyDb Category) (code : String) : Prop :=
  ∃ row ∈ db.rows.rows, row.companyId = companyId ∧ row.code = code

instance (companyId : Uuid) (db : HierarchyDb Category) (code : String) :
    Decidable (Used companyId db code) :=
  inferInstanceAs (Decidable (∃ row ∈ _, _))

/-- `CAT-` in front, and no more than fits the column. -/
def WellFormed (code : Code) : Prop := "CAT-".toList <+: code ∧ code.length ≤ 50

/-- The request succeeds, with a code of the right form that no other row has. -/
def Assigned (upper : String → String) (companyId : Uuid) (dto : CreateCategoryDto)
    (db : HierarchyDb Category) : Prop :=
  ∃ fuel code db', create upper fuel companyId dto db = some (.ok (String.ofList code, db')) ∧
    WellFormed code ∧ ¬ Used companyId db (String.ofList code)

def suffixAt (n : ℕ) : ℕ := min (n + 2) (2 ^ 53)

def candidate (baseCode : Code) : ℕ → Code
  | 0 => baseCode
  | n + 1 => appendNumericSuffix baseCode (suffixAt n)

/-- The first candidate that no visible row has is not that of a deleted one either. -/
def FirstIsFree (companyId : Uuid) (db : HierarchyDb Category) (baseCode : Code) : Prop :=
  ∃ n, ¬ Used companyId db (String.ofList (candidate baseCode n)) ∧
    ∀ m < n, service.CodeExists companyId (String.ofList (candidate baseCode m)) db

/-! ## The form of the codes -/

theorem prefix_dropDashes {front back : Code} {c : Char} (hc : c ≠ '-') :
    front ++ [c] <+: dropDashes (front ++ [c] ++ back) := by
  unfold dropDashes List.rdropWhile
  rw [← List.reverse_suffix, List.reverse_reverse, @List.reverse_append _ (front ++ [c]),
    List.dropWhile_append]
  have hkeep : (front ++ [c]).reverse.dropWhile (fun c => decide (c = '-')) =
      (front ++ [c]).reverse := by
    rw [List.reverse_append, List.reverse_singleton, List.singleton_append, List.dropWhile_cons,
      if_neg (by simpa using hc)]
  split
  · rw [hkeep]
  · exact List.suffix_append ..

theorem prefix_dropDashes_take {front code : Code} {c : Char} (hc : c ≠ '-')
    (h : front ++ [c] <+: code) {n : ℕ} (hn : front.length < n) :
    front ++ [c] <+: dropDashes (code.take n) := by
  obtain ⟨back, rfl⟩ := h
  have hlength : (front ++ [c]).length ≤ n := by
    rw [List.length_append, List.length_singleton]
    exact hn
  rw [List.take_append, List.take_of_length_le hlength]
  exact prefix_dropDashes hc

theorem slugOf_cons (upper : String → String) (name : String) :
    ∃ c rest, slugOf upper name = c :: rest ∧ c ≠ '-' := by
  unfold slugOf orElse
  dsimp only
  split
  · exact ⟨'I', "TEM".toList, by decide, by decide⟩
  · rename_i hne
    obtain ⟨c, rest, hslug⟩ := List.exists_cons_of_ne_nil hne
    refine ⟨c, rest, hslug, ?_⟩
    obtain ⟨back, hback⟩ := List.rdropWhile_prefix (p := fun c => decide (c = '-'))
      (l := (dashRuns false (upper (trim name)).toList).dropWhile (· = '-'))
    rw [show List.rdropWhile _ _ = c :: rest from hslug, List.cons_append] at hback
    rintro rfl
    have hhead := List.head?_dropWhile_not (fun c => decide (c = '-'))
      (dashRuns false (upper (trim name)).toList)
    rw [← hback] at hhead
    simp at hhead

theorem base_prefix (upper : String → String) (name : String) :
    ∃ c, c ≠ '-' ∧ "CAT-".toList ++ [c] <+: buildBaseCode upper name := by
  obtain ⟨c, rest, hslug, hc⟩ := slugOf_cons upper name
  refine ⟨c, hc, ?_⟩
  have hprefix : "CAT-".toList ++ [c] <+: dropDashes (("CAT-".toList ++ slugOf upper name).take 50) := by
    refine prefix_dropDashes_take hc ⟨rest, ?_⟩ (by decide)
    rw [hslug, List.append_assoc, List.singleton_append]
  unfold buildBaseCode truncateCode orElse
  rw [if_neg]
  · exact hprefix
  · rintro hnil
    rw [hnil, List.prefix_nil] at hprefix
    simp at hprefix

theorem length_dropDashes_le (code : Code) : (dropDashes code).length ≤ code.length :=
  (List.rdropWhile_prefix _ _).length_le

theorem length_truncateCode_le (code : Code) : (truncateCode code).length ≤ 50 := by
  unfold truncateCode orElse
  split
  · decide
  · exact (length_dropDashes_le _).trans (List.length_take_le ..)

theorem suffixAt_le (n : ℕ) : suffixAt n ≤ 2 ^ 53 := Nat.min_le_right ..

theorem length_suffixText_le (n : ℕ) : (suffixText (suffixAt n)).length ≤ 17 := by
  unfold suffixText
  rw [List.length_cons, Nat.add_le_add_iff_right, Nat.length_toDigits_le_iff (by decide) (by decide)]
  exact lt_of_le_of_lt (suffixAt_le n) (by decide)

theorem wellFormed_candidate (upper : String → String) (name : String) (n : ℕ) :
    WellFormed (candidate (buildBaseCode upper name) n) := by
  obtain ⟨c, hc, hbase⟩ := base_prefix upper name
  cases n with
  | zero => exact ⟨(List.prefix_append ..).trans hbase, length_truncateCode_le _⟩
  | succ n =>
    have hsuffix := length_suffixText_le n
    constructor
    · have hfront : "CAT-".toList ++ [c] <+: dropDashes ((buildBaseCode upper name).take
          (50 - (suffixText (suffixAt n)).length)) := by
        refine prefix_dropDashes_take hc hbase ?_
        rw [show "CAT-".toList.length = 4 from rfl]
        omega
      exact ((List.prefix_append ..).trans hfront).trans (List.prefix_append ..)
    · unfold candidate appendNumericSuffix
      have hfront := length_dropDashes_le ((buildBaseCode upper name).take
        (50 - (suffixText (suffixAt n)).length))
      rw [List.length_take] at hfront
      rw [List.length_append]
      omega

/-! ## The search -/

theorem nextSuffix_suffixAt (n : ℕ) : nextSuffix (suffixAt n) = suffixAt (n + 1) := by
  unfold nextSuffix suffixAt
  split <;> omega

/-- The search from a candidate on finds the first that is not found. -/
theorem codeLoop_eq_some (found : Code → Bool) (baseCode code : Code) (fuel n : ℕ) :
    codeLoop found baseCode fuel (candidate baseCode n) (suffixAt n) = some code ↔
      ∃ k < fuel, code = candidate baseCode (n + k) ∧ found code = false ∧
        ∀ m < k, found (candidate baseCode (n + m)) = true := by
  induction fuel generalizing n with
  | zero =>
    constructor
    · intro h
      cases h
    · rintro ⟨k, hk, -⟩
      exact absurd hk (Nat.not_lt_zero k)
  | succ fuel ih =>
    unfold codeLoop
    split
    · rename_i hfound
      rw [nextSuffix_suffixAt,
        show appendNumericSuffix baseCode (suffixAt n) = candidate baseCode (n + 1) from rfl, ih]
      constructor
      · rintro ⟨k, hk, rfl, hnot, hbefore⟩
        refine ⟨k + 1, by omega, by rw [Nat.add_right_comm, Nat.add_assoc], hnot, fun m hm => ?_⟩
        cases m with
        | zero => exact hfound
        | succ m =>
          have hm := hbefore m (by omega)
          rw [Nat.add_right_comm] at hm
          exact hm
      · rintro ⟨k, hk, rfl, hnot, hbefore⟩
        cases k with
        | zero => exact absurd hfound (by rw [Nat.add_zero] at hnot; simp [hnot])
        | succ k =>
          refine ⟨k, by omega, by rw [Nat.add_right_comm, Nat.add_assoc], hnot, fun m hm => ?_⟩
          have hm := hbefore (m + 1) (by omega)
          rw [← Nat.add_assoc, Nat.add_right_comm] at hm
          exact hm
    · rename_i hnot
      constructor
      · rintro h
        obtain rfl := Option.some.inj h
        exact ⟨0, Nat.succ_pos _, rfl, by simpa using hnot, fun m hm => absurd hm (Nat.not_lt_zero m)⟩
      · rintro ⟨k, -, rfl, -, hbefore⟩
        cases k with
        | zero => rfl
        | succ k => exact absurd (hbefore 0 (Nat.succ_pos k)) hnot

theorem suffixText_injective {a b : ℕ} {s t : Code} (h : s ++ suffixText a = t ++ suffixText b) :
    a = b := by
  have hdigits : ∀ k : ℕ, ∀ c ∈ (Nat.toDigits 10 k).reverse, (c ≠ '-') = true := by
    intro k c hc
    have hdigit := Nat.isDigit_of_mem_toDigits (by decide) (by decide) (List.mem_reverse.1 hc)
    rw [eq_iff_iff]
    refine iff_of_true ?_ rfl
    rintro rfl
    exact absurd hdigit (by decide)
  have htake : ∀ (k : ℕ) (s : Code),
      (s ++ suffixText k).reverse.takeWhile (· ≠ '-') = (Nat.toDigits 10 k).reverse := by
    intro k s
    unfold suffixText
    rw [List.reverse_append, List.reverse_cons, List.append_assoc, List.takeWhile_append_of_pos,
      List.singleton_append, List.takeWhile_cons, if_neg (by decide), List.append_nil]
    intro c hc
    exact decide_eq_true (of_eq_true ((hdigits k c hc).trans (by simp)))
  have hsame := htake a s
  rw [h, htake b t] at hsame
  have hdig := List.reverse_injective hsame
  rw [← Nat.ofDigitChars_ten_toDigits (n := a), ← hdig, Nat.ofDigitChars_ten_toDigits]

theorem exists_not_found (companyId : Uuid) (db : HierarchyDb Category) (baseCode : Code)
    (hfew : (service.ofCompany companyId db).length + 2 ≤ 2 ^ 53) :
    ∃ n, codeFound companyId db (candidate baseCode n) = false := by
  by_contra hall
  have hfound : ∀ n, codeFound companyId db (candidate baseCode n) = true := by
    intro n
    by_contra hn
    exact hall ⟨n, by simpa using hn⟩
  set rows := service.ofCompany companyId db with hrows
  have hnodup : ((List.range (rows.length + 1)).map fun n =>
      String.ofList (candidate baseCode (n + 1))).Nodup := by
    refine List.Nodup.map_on (fun a ha b hb heq => ?_) List.nodup_range
    have hsuffix := suffixText_injective (String.ofList_injective heq)
    rw [List.mem_range] at ha hb
    unfold suffixAt at hsuffix
    omega
  have hsubset : ((List.range (rows.length + 1)).map fun n =>
      String.ofList (candidate baseCode (n + 1))) ⊆ rows.map Category.code := by
    intro code hcode
    obtain ⟨n, -, rfl⟩ := List.mem_map.1 hcode
    obtain ⟨row, hrow, heq⟩ := of_decide_eq_true (hfound (n + 1))
    exact List.mem_map.2 ⟨row, hrow, heq⟩
  have hlength := (List.subperm_of_subset hnodup hsubset).length_le
  simp only [List.length_map, List.length_range] at hlength
  omega

/-- The search ends, at the first candidate no visible row has. -/
theorem generateUniqueCode_ends (upper : String → String) (companyId : Uuid) (name : String)
    (db : HierarchyDb Category) (hfew : (service.ofCompany companyId db).length + 2 ≤ 2 ^ 53) :
    ∃ fuel code, generateUniqueCode upper fuel companyId name db = some code := by
  have hexists := exists_not_found companyId db (buildBaseCode upper name) hfew
  refine ⟨Nat.find hexists + 1, candidate (buildBaseCode upper name) (Nat.find hexists),
    (codeLoop_eq_some _ _ _ _ 0).2 ⟨Nat.find hexists, Nat.lt_succ_self _, by rw [Nat.zero_add],
      Nat.find_spec hexists, fun m hm => ?_⟩⟩
  rw [Nat.zero_add]
  simpa using Nat.find_min hexists hm

theorem insertRow_ok_iff (companyId : Uuid) (code : String) (dto : CreateCategoryDto)
    (db : HierarchyDb Category) :
    (∃ db', service.insertRow companyId code dto db = .ok db') ↔ ¬ Used companyId db code := by
  unfold HierarchyService.insertRow
  constructor
  · rintro ⟨db', h⟩
    obtain ⟨_, hrefuse, -⟩ := except_bind_eq_ok.1 h
    exact refuseIf_eq_ok.1 hrefuse
  · intro hnot
    exact ⟨_, except_bind_eq_ok.2 ⟨(), refuseIf_eq_ok.2 hnot, rfl⟩⟩

section

variable {upper : String → String} {companyId : Uuid} {dto : CreateCategoryDto}
  {db : HierarchyDb Category}

theorem generateUniqueCode_eq_some {fuel : ℕ} {code : Code} :
    generateUniqueCode upper fuel companyId dto.name db = some code ↔
      ∃ k < fuel, code = candidate (buildBaseCode upper dto.name) k ∧
        codeFound companyId db code = false ∧
          ∀ m < k, codeFound companyId db (candidate (buildBaseCode upper dto.name) m) = true := by
  have hloop := codeLoop_eq_some (codeFound companyId db) (buildBaseCode upper dto.name) code fuel 0
  simp only [Nat.zero_add] at hloop
  exact hloop

theorem assigned_iff (hnew : service.assertNew companyId dto db = .ok ())
    (hcode : service.requestedCode dto = none) :
    Assigned upper companyId dto db ↔ FirstIsFree companyId db (buildBaseCode upper dto.name) := by
  unfold Assigned create
  rw [hnew]
  dsimp only
  rw [hcode]
  dsimp only
  constructor
  · rintro ⟨fuel, code, db', h, -, hunused⟩
    obtain ⟨found, hfound, heq⟩ := Option.map_eq_some_iff.1 h
    obtain ⟨k, -, rfl, -, hbefore⟩ := generateUniqueCode_eq_some.1 hfound
    cases hinsert : service.insertRow companyId
        (String.ofList (candidate (buildBaseCode upper dto.name) k)) dto db with
    | error error =>
      rw [hinsert] at heq
      cases heq
    | ok db' =>
      exact ⟨k, (insertRow_ok_iff ..).1 ⟨db', hinsert⟩, fun m hm => of_decide_eq_true (hbefore m hm)⟩
  · rintro ⟨n, hunused, hbefore⟩
    obtain ⟨db', hinsert⟩ := (insertRow_ok_iff companyId _ dto db).2 hunused
    -- What no row has at all, no visible row has.
    have hnot : codeFound companyId db (candidate (buildBaseCode upper dto.name) n) = false := by
      refine decide_eq_false ?_
      rintro ⟨row, hrow, heq⟩
      obtain ⟨hmem, hvisible⟩ := List.mem_filter.1 hrow
      exact hunused ⟨row, hmem, (of_decide_eq_true hvisible).1, heq⟩
    have hfound : generateUniqueCode upper (n + 1) companyId dto.name db =
        some (candidate (buildBaseCode upper dto.name) n) :=
      generateUniqueCode_eq_some.2
        ⟨n, Nat.lt_succ_self n, rfl, hnot, fun m hm => decide_eq_true (hbefore m hm)⟩
    refine ⟨n + 1, _, db', ?_, wellFormed_candidate .., hunused⟩
    rw [hfound, Option.map_some, hinsert]
    rfl

/-- A category without a code gets one exactly if the first candidate that no visible row has
is free. Either way the search ends, and what it finds has the right form. -/
theorem code_assigned_iff (hnew : service.assertNew companyId dto db = .ok ())
    (hcode : service.requestedCode dto = none) :
    (Assigned upper companyId dto db ↔
        FirstIsFree companyId db (buildBaseCode upper dto.name)) ∧
      ((service.ofCompany companyId db).length + 2 ≤ 2 ^ 53 →
        ∃ fuel code, generateUniqueCode upper fuel companyId dto.name db = some code) ∧
      ∀ fuel code, generateUniqueCode upper fuel companyId dto.name db = some code →
        WellFormed code := by
  refine ⟨assigned_iff hnew hcode, generateUniqueCode_ends upper companyId dto.name db, ?_⟩
  intro fuel code h
  obtain ⟨k, -, rfl, -⟩ := generateUniqueCode_eq_some.1 h
  exact wellFormed_candidate ..

end

/-! A company with a category of shirts. -/

namespace CodesDemo

def upper (s : String) : String := String.ofList (s.toList.map Char.toUpper)

def dto : CreateCategoryDto := { name := "Shirts" }

def db (deleted : Bool) : HierarchyDb Category where
  base := { master := { companies := .ofRows [{ id := 10, status := .Active, baseCurrency := "MMK" }] } }
  rows := .ofRows [{ id := 1, companyId := 10, code := "CAT-SHIRTS", name := "Shirts", deleted }]
  nextId := 2

end CodesDemo

open CodesDemo in
/-- Beside a visible `CAT-SHIRTS` there is `CAT-SHIRTS-2`. -/
theorem code_assigned_iff_second : Assigned upper 10 dto (db false) :=
  (code_assigned_iff (by decide +kernel) (by decide +kernel)).1.2
    ⟨1, by decide +kernel, by decide +kernel⟩

open CodesDemo in
theorem deleted_code_is_refused :
    create upper 1 10 dto (db true) = some (.error (.duplicateEntry "companyId_code")) ∧
      ¬ Assigned upper 10 dto (db true) := by
  refine ⟨rfl, ?_⟩
  rw [assigned_iff (by decide +kernel) (by decide +kernel)]
  rintro ⟨n, hunused, hbefore⟩
  cases n with
  | zero => exact hunused (by decide +kernel)
  | succ n => exact absurd (hbefore 0 (Nat.succ_pos n)) (by decide +kernel)

end FashionErp.CategoriesService
