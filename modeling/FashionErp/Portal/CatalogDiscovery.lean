/-
`discover` of `customer-catalog.service.ts`: what the company sells of what a shopper has asked for,
at most three products a page.

A page considers at most twelve candidates of the query, ends at the third product it can show, and
says at which candidate the next one starts.
-/
import FashionErp.Lib.Cursor
import FashionErp.Portal.CustomerCatalog
import FashionErp.Shopping.Discovery

namespace FashionErp.CustomerCatalogService

open Lib Shopping

/-! ## Requests -/

inductive Mode
  | exact
  | similar
  deriving DecidableEq

/-- `CatalogDiscoveryQueryDto`. A filter that is a property of the object may hold `undefined`. -/
structure CatalogDiscoveryQueryDto where
  query : Option String := none
  color : Option (Option String) := none
  size : Option (Option String) := none
  maxPrice : Option (Option String) := none
  currency : Option (Option String) := none
  mode : Option Mode := none
  offset : Option ℕ := none
  exclude : Option String := none

structure NextPage where
  mode : Mode
  offset : ℕ
  deriving DecidableEq

inductive MatchType
  | found (mode : Mode)
  | currencyMismatch
  | none
  deriving DecidableEq

structure CatalogDiscoveryResponse where
  products : List Product
  hasMore : Bool
  matchType : MatchType
  next : Option NextPage := none
  deriving DecidableEq

structure Sql where
  /-- `column LIKE '%term%'`, with the wildcards of the term escaped. -/
  contains : String → String → Bool
  /-- What `ORDER BY` puts a text by. -/
  sortKey : String → String

structure CatalogView where
  lang : Language
  sql : Sql
  text : Uuid ↪ String
  isPublicImageUrl : String → Bool
  catalog : CatalogTables
  db : Db
  companyId : Uuid

structure Search where
  parsed : Preferences
  mode : Mode
  filters : Preferences
  excluded : List String

/-- `{ ...parseQuery(input.query), ...input }` and what is made of the mode and of the exclude list. -/
def CatalogDiscoveryQueryDto.search (lang : Language) (input : CatalogDiscoveryQueryDto) : Search :=
  let parsed := lang.parseQuery (input.query.getD "") {}
  { parsed := parsed
    mode := input.mode.getD .exact
    filters := { parsed with
      color := input.color.getD parsed.color, size := input.size.getD parsed.size
      maxPrice := input.maxPrice.getD parsed.maxPrice
      currency := input.currency.getD parsed.currency }
    excluded := (split ',' (input.exclude.getD "")).take 60 }

def Search.hopeless (q : Search) : Prop := q.mode = .similar ∧ truthy q.parsed.family = none

instance (q : Search) : Decidable q.hopeless := inferInstanceAs (Decidable (_ ∧ _))

def Search.query (q : Search) : String :=
  (match q.mode with
    | .similar => q.parsed.family
    | .exact => q.parsed.query).getD ""

/-! ## Candidates -/

def CatalogView.matchesTerms (view : CatalogView) (terms : List (List String)) (row : ProductRow) : Bool :=
  terms.all fun alternatives => alternatives.any fun term =>
    view.sql.contains row.name term || view.sql.contains row.code term

def CatalogView.productRows (view : CatalogView) (terms : List (List String)) : List ProductRow :=
  match activeCompany view.db view.companyId with
  | none => []
  | some _ =>
    (view.catalog.products.rows.filter fun p =>
      p.companyId = view.companyId && p.status = .Active && !p.deleted &&
        view.matchesTerms terms p).insertionSort fun a b =>
      view.sql.sortKey a.name < view.sql.sortKey b.name ∨
        view.sql.sortKey a.name = view.sql.sortKey b.name ∧ view.text a.id ≤ view.text b.id

def CatalogView.currency (view : CatalogView) : String :=
  ((activeCompany view.db view.companyId).map Company.baseCurrency).getD ""

def CatalogView.shownVariants (view : CatalogView) (q : Search) (product : Product) : List Variant :=
  let exactColor := eligibleVariants view.lang product q.filters false
  if exactColor ≠ [] ∨ q.mode = .exact then exactColor
  else eligibleVariants view.lang product q.filters true

def CatalogView.reason (view : CatalogView) (q : Search) (product : Product) : String :=
  let exactColor := eligibleVariants view.lang product q.filters false
  let changedColor := q.mode = .similar ∧ (truthy q.filters.color).isSome ∧ exactColor = []
  let colors := unique (((view.shownVariants q product).flatMap Variant.attributes).filterMap fun a =>
    if a.kind = .color then some a.value else none)
  String.intercalate "\n" (
    [if q.mode = .similar then "ရှာထားတဲ့ ပစ္စည်းအမျိုးအစားနဲ့ နီးစပ်တဲ့ ရွေးချယ်စရာပါ။"
      else "ရှာထားတဲ့ အမည်နဲ့ ကိုက်ညီပြီး လက်ကျန်ရှိပါတယ်။"]
    ++ (if changedColor then ["အရောင်ကွဲ ရွေးချယ်စရာပါ — card ထဲက အရောင်ကို စစ်ပေးပါ။"] else [])
    ++ (match truthy q.filters.size with
        | some size => ["Size " ++ size ++ " ရပါတယ်။"]
        | none => [])
    ++ (match truthy q.filters.maxPrice with
        | some maxPrice => [maxPrice ++ " " ++ product.currency ++ " အတွင်းပါ။"]
        | none => [])
    ++ (if changedColor then ["အရောင်: " ++ String.intercalate ", " (colors.take 8)] else []))

inductive Verdict
  | passedOver
  | otherCurrency
  | card (product : Product)

def CatalogView.judge (view : CatalogView) (q : Search) (row : ProductRow) : Except Failure Verdict :=
  if view.text row.id ∈ q.excluded then .ok .passedOver
  else if (truthy q.parsed.family).isSome ∧
      (view.lang.parseQuery row.name {}).family ≠ q.parsed.family then .ok .passedOver
  else if ∃ currency ∈ truthy q.filters.currency, view.currency ≠ currency then .ok .otherCurrency
  else match project view.text view.isPublicImageUrl view.catalog view.db view.companyId row
      view.currency with
    | .error e => .error e
    | .ok product =>
      if view.shownVariants q product = [] then .ok .passedOver
      else .ok (.card { product with
        variants := view.shownVariants q product, reason := some (view.reason q product) })

/-! ## Pages -/

structure Scan where
  consumed : ℕ := 0
  currencyMismatch : Bool := false
  products : List Product := []

def scan (judge : ProductRow → Except Failure Verdict) : List ProductRow → Scan → Except Failure Scan
  | [], s => .ok s
  | row :: rest, s =>
    match judge row with
    | .error e => .error e
    | .ok .passedOver => scan judge rest { s with consumed := s.consumed + 1 }
    | .ok .otherCurrency =>
      scan judge rest { s with consumed := s.consumed + 1, currencyMismatch := true }
    | .ok (.card product) =>
      let s := { s with consumed := s.consumed + 1, products := s.products ++ [product] }
      if s.products.length = 3 then .ok s else scan judge rest s

/-- Where to go on: with what is left of the query, or with similar products. -/
def Search.next (q : Search) (offset found consumed : ℕ) : Option NextPage :=
  if found > consumed ∧ offset + consumed ≤ 10000 then
    some { mode := q.mode, offset := offset + consumed }
  else if q.mode = .exact ∧ (truthy q.parsed.family).isSome ∧
      (q.parsed.query ≠ q.parsed.family ∨ (truthy q.filters.color).isSome) then
    some { mode := .similar, offset := 0 }
  else none

def Search.matchType (q : Search) (s : Scan) : MatchType :=
  if s.products ≠ [] then .found q.mode else if s.currencyMismatch then .currencyMismatch else .none

/-- `discover`, with how many candidates it has considered. -/
def CatalogView.read (view : CatalogView) (input : CatalogDiscoveryQueryDto) :
    Except Failure (CatalogDiscoveryResponse × ℕ) :=
  let q := input.search view.lang
  if q.hopeless then .ok ({ products := [], hasMore := false, matchType := .none }, 0)
  else match (searchTerms q.query).mapM id with
    | none => .error .typeError
    | some terms =>
      let offset := input.offset.getD 0
      let candidates := ((view.productRows terms).drop offset).take 13
      match scan (view.judge q) (candidates.take 12) {} with
      | .error e => .error e
      | .ok s =>
        let next := q.next offset candidates.length s.consumed
        .ok ({ products := s.products, hasMore := next.isSome, matchType := q.matchType s, next := next },
          s.consumed)

def CatalogView.discover (view : CatalogView) (input : CatalogDiscoveryQueryDto) :
    Except Failure CatalogDiscoveryResponse :=
  (view.read input).map Prod.fst

/-! ## What a page considers -/

def CatalogView.candidates (view : CatalogView) (q : Search) : List ProductRow :=
  if q.hopeless then []
  else (((searchTerms q.query).mapM id).map view.productRows).getD []

def CatalogView.asked (view : CatalogView) (q : Search) (row : ProductRow) : Prop :=
  view.text row.id ∉ q.excluded ∧
    (∀ family ∈ truthy q.parsed.family, (view.lang.parseQuery row.name {}).family = some family) ∧
    ∀ currency ∈ truthy q.filters.currency, view.currency = currency

instance (view : CatalogView) (q : Search) (row : ProductRow) : Decidable (view.asked q row) :=
  inferInstanceAs (Decidable (_ ∧ (∀ family ∈ _, _ = _) ∧ ∀ currency ∈ _, _ = _))

def CatalogView.card (view : CatalogView) (q : Search) (row : ProductRow) : Option Product :=
  if view.asked q row then
    ((project view.text view.isPublicImageUrl view.catalog view.db view.companyId row
      view.currency).toOption.filter fun product => view.shownVariants q product ≠ []).map fun product =>
        { product with
          variants := view.shownVariants q product, reason := some (view.reason q product) }
  else none

def Verdict.product : Verdict → Option Product
  | .card product => some product
  | _ => none

theorem truthy_eq_some {value : Option String} {s : String} (h : truthy value = some s) :
    value = some s :=
  (Option.filter_eq_some_iff.1 h).1

variable {row : ProductRow} {input : CatalogDiscoveryQueryDto}

theorem card_of_judge {view : CatalogView} {q : Search} {verdict : Verdict}
    (h : view.judge q row = .ok verdict) : view.card q row = verdict.product := by
  unfold CatalogView.judge at h
  unfold CatalogView.card
  split at h
  · rename_i hexcluded
    cases h
    exact if_neg fun hasked => hasked.1 hexcluded
  split at h
  · rename_i hother
    cases h
    refine if_neg fun hasked => ?_
    obtain ⟨family, hfamily⟩ := Option.isSome_iff_exists.1 hother.1
    exact hother.2 ((hasked.2.1 family hfamily).trans (truthy_eq_some hfamily).symm)
  split at h
  · rename_i hcurrency
    cases h
    obtain ⟨currency, hin, hne⟩ := hcurrency
    exact if_neg fun hasked => hne (hasked.2.2 currency hin)
  · rename_i hlisted hfamily hcurrency
    have hasked : view.asked q row := by
      refine ⟨hlisted, fun family hin => ?_, fun currency hin => ?_⟩
      · by_contra hne
        refine hfamily ⟨Option.isSome_iff_exists.2 ⟨family, hin⟩, fun heq => hne ?_⟩
        exact heq.trans (truthy_eq_some hin)
      · by_contra hne
        exact hcurrency ⟨currency, hin, hne⟩
    rw [if_pos hasked]
    split at h
    · cases h
    · rename_i product hproduct
      rw [hproduct]
      change Option.map _ ((some product).filter _) = _
      split at h
      · rename_i hempty
        cases h
        rw [Option.filter_some, hempty]
        rfl
      · rename_i hshown
        cases h
        rw [Option.filter_some, if_pos (decide_eq_true hshown)]
        rfl

/-- No product has more variants or options than the limits. -/
def CatalogView.WithinLimits (view : CatalogView) : Prop :=
  ∀ p ∈ view.catalog.products.rows,
    let rows := variantRows view.text view.db view.companyId p.id
    rows.length ≤ VARIANT_LIMIT ∧
      (attributeRows view.text view.catalog view.companyId (rows.map (·.id))).length ≤ ATTRIBUTE_LIMIT

theorem project_ok {view : CatalogView} (hlimits : view.WithinLimits)
    (hrow : row ∈ view.catalog.products.rows) (currency : String) :
    ∃ product, project view.text view.isPublicImageUrl view.catalog view.db view.companyId row
      currency = .ok product := by
  obtain ⟨hvariants, hattributes⟩ := hlimits row hrow
  unfold project
  dsimp only
  rw [if_neg (Nat.not_lt.2 hvariants), if_neg fun h => absurd h.2 (Nat.not_lt.2 hattributes)]
  exact ⟨_, rfl⟩

theorem judge_ok {view : CatalogView} (hlimits : view.WithinLimits) (q : Search)
    (hrow : row ∈ view.catalog.products.rows) : ∃ verdict, view.judge q row = .ok verdict := by
  obtain ⟨product, hproduct⟩ := project_ok hlimits hrow view.currency
  unfold CatalogView.judge
  rw [hproduct]
  dsimp only
  split
  · exact ⟨_, rfl⟩
  split
  · exact ⟨_, rfl⟩
  split
  · exact ⟨_, rfl⟩
  split
  · exact ⟨_, rfl⟩
  · exact ⟨_, rfl⟩

theorem mem_productRows {view : CatalogView} {terms : List (List String)}
    (h : row ∈ view.productRows terms) : row ∈ view.catalog.products.rows := by
  unfold CatalogView.productRows at h
  split at h
  · cases h
  · rw [List.mem_insertionSort] at h
    exact List.mem_of_mem_filter h

/-- What the loop has considered when it ends: some of the rows from the first one on, at least
one if there are any, and it has the card of each of them that has one. -/
theorem scan_spec {view : CatalogView} {q : Search} {rows : List ProductRow}
    (hjudge : ∀ row ∈ rows, ∃ verdict, view.judge q row = .ok verdict) (s : Scan) :
    ∃ s' n, scan (view.judge q) rows s = .ok s' ∧ s'.consumed = s.consumed + n ∧ n ≤ rows.length ∧
      (rows ≠ [] → 0 < n) ∧ s'.products = s.products ++ (rows.take n).filterMap (view.card q) := by
  induction rows generalizing s with
  | nil => exact ⟨s, 0, rfl, rfl, le_rfl, fun h => absurd rfl h, (List.append_nil _).symm⟩
  | cons row rest ih =>
    obtain ⟨verdict, hverdict⟩ := hjudge row List.mem_cons_self
    have ih := ih fun r hr => hjudge r (List.mem_cons_of_mem row hr)
    have hcard : view.card q row = verdict.product := card_of_judge hverdict
    unfold scan
    rw [hverdict]
    -- What the rest of the loop makes of `s₁`, where `row` has left it.
    have hrest {s₁ : Scan} (hconsumed : s₁.consumed = s.consumed + 1)
        (hproducts : s₁.products = s.products ++ (view.card q row).toList) :
        ∃ s' n, scan (view.judge q) rest s₁ = .ok s' ∧ s'.consumed = s.consumed + n ∧
          n ≤ (row :: rest).length ∧ (row :: rest ≠ [] → 0 < n) ∧
            s'.products = s.products ++ ((row :: rest).take n).filterMap (view.card q) := by
      obtain ⟨s', n, hscan, hn, hle, -, hshown⟩ := ih s₁
      refine ⟨s', n + 1, hscan, ?_, Nat.succ_le_succ hle, fun _ => Nat.succ_pos n, ?_⟩
      · rw [hn, hconsumed]
        omega
      · rw [hshown, hproducts, List.take_succ_cons, List.append_assoc]
        congr 1
        cases hone : view.card q row with
        | none => rw [List.filterMap_cons_none hone, Option.toList_none, List.nil_append]
        | some product => rw [List.filterMap_cons_some hone, Option.toList_some, List.singleton_append]
    cases verdict with
    | passedOver =>
      refine hrest rfl ?_
      rw [hcard]
      exact (List.append_nil _).symm
    | otherCurrency =>
      refine hrest rfl ?_
      rw [hcard]
      exact (List.append_nil _).symm
    | card product =>
      dsimp only at hcard ⊢
      split
      · refine ⟨_, 1, rfl, rfl, Nat.succ_le_succ (Nat.zero_le _), fun _ => Nat.one_pos, ?_⟩
        rw [List.take_succ_cons, List.take_zero, List.filterMap_cons_some hcard, List.filterMap_nil]
      · refine hrest rfl ?_
        rw [hcard]
        rfl

/-! ## Reading on -/

def CatalogDiscoveryQueryDto.follow (input : CatalogDiscoveryQueryDto) (next : NextPage) :
    CatalogDiscoveryQueryDto :=
  { input with mode := some next.mode, offset := some next.offset }

def CatalogDiscoveryQueryDto.position (input : CatalogDiscoveryQueryDto) : ℕ := input.offset.getD 0

structure Visit where
  response : CatalogDiscoveryResponse
  considered : List ProductRow

def CatalogView.visit (view : CatalogView) (input : CatalogDiscoveryQueryDto) :
    Option (Visit × Option CatalogDiscoveryQueryDto) :=
  let q := input.search view.lang
  (view.read input).toOption.map fun (response, consumed) =>
    ({ response := response
       considered := ((view.candidates q).drop input.position).take consumed },
      (response.next.filter fun next => next.mode = q.mode).map input.follow)

/-- The pages are all there is: who reads from this page on comes to an end, has had every
candidate considered once and has been shown the card of each one that has a card, in their order. -/
def CatalogView.ReadsAll (view : CatalogView) (input : CatalogDiscoveryQueryDto) : Prop :=
  let q := input.search view.lang
  ∃ visits, Cursor.Follows view.visit input visits ∧
    visits.flatMap Visit.considered = view.candidates q ∧ (view.candidates q).Nodup ∧
    visits.flatMap (fun visit => visit.response.products) = (view.candidates q).filterMap (view.card q)

/-- No word that is searched for is one that `families` has without being a family. -/
def Search.searchable (q : Search) : Prop := ∀ term ∈ searchWords q.query, term ∉ objectProperties

instance (q : Search) : Decidable q.searchable :=
  inferInstanceAs (Decidable (∀ term ∈ searchWords q.query, _))

theorem mapM_id_isSome {α : Type} {l : List (Option α)} : (l.mapM id).isSome ↔ ∀ o ∈ l, o.isSome := by
  induction l with
  | nil => exact ⟨fun _ _ h => (List.not_mem_nil h).elim, fun _ => rfl⟩
  | cons o l ih =>
    rw [List.forall_mem_cons, ← ih, List.mapM_cons]
    cases o with
    | none => exact ⟨fun h => absurd h Bool.false_ne_true, fun h => absurd h.1 Bool.false_ne_true⟩
    | some a =>
      cases hrest : l.mapM id with
      | none =>
        simp only [id_eq, Option.bind_eq_bind, Option.bind_some]
        exact ⟨fun h => absurd h Bool.false_ne_true, fun h => absurd h.2 Bool.false_ne_true⟩
      | some rest =>
        simp only [id_eq, Option.bind_eq_bind, Option.bind_some]
        exact ⟨fun _ => ⟨rfl, rfl⟩, fun _ => rfl⟩

theorem searchable_iff (q : Search) : q.searchable ↔ ((searchTerms q.query).mapM id).isSome := by
  rw [mapM_id_isSome]
  unfold Search.searchable searchTerms
  rw [List.forall_mem_map]
  refine forall₂_congr fun term _ => alternatives_isSome.symm

theorem searchable_of_hopeless {q : Search} (h : q.hopeless) : q.searchable := by
  obtain ⟨hmode, hfamily⟩ := h
  have hquery : q.query = "" := by
    unfold Search.query
    rw [hmode]
    dsimp only
    cases hnone : q.parsed.family with
    | none => rfl
    | some family =>
      rw [hnone] at hfamily
      unfold truthy at hfamily
      rw [Option.filter_some] at hfamily
      split at hfamily
      · cases hfamily
      · rename_i hempty
        rw [decide_eq_true_eq, not_not] at hempty
        exact hempty
  unfold Search.searchable
  rw [hquery]
  intro term hterm
  cases hterm

theorem search_follow {lang : Language} {next : NextPage} (h : next.mode = (input.search lang).mode) :
    (input.follow next).search lang = input.search lang := by
  unfold CatalogDiscoveryQueryDto.search CatalogDiscoveryQueryDto.follow at *
  dsimp only at *
  rw [Option.getD_some, h]

theorem filter_next (q : Search) (offset found consumed : ℕ) :
    (q.next offset found consumed).filter (fun next => next.mode = q.mode) =
      if found > consumed ∧ offset + consumed ≤ 10000 then
        some { mode := q.mode, offset := offset + consumed }
      else none := by
  unfold Search.next
  split
  · rw [Option.filter_some, if_pos (decide_eq_true rfl)]
  · split
    · rename_i hsimilar
      rw [Option.filter_some, hsimilar.1]
      rfl
    · rfl

variable {next : Option CatalogDiscoveryQueryDto}

theorem visit_search {view : CatalogView} {visit : Visit}
    (h : view.visit input = some (visit, next)) :
    ∀ input' ∈ next, input'.search view.lang = input.search view.lang := by
  obtain ⟨⟨response, consumed⟩, -, heq⟩ := Option.map_eq_some_iff.1 h
  cases heq
  rintro input' hin
  obtain ⟨page, hpage, rfl⟩ := Option.map_eq_some_iff.1 hin
  rw [Option.filter_eq_some_iff, decide_eq_true_eq] at hpage
  exact search_follow hpage.2

/-- A page is the piece of the candidates it begins at. -/
theorem visit_reads {view : CatalogView} (hlimits : view.WithinLimits)
    (hsearchable : (input.search view.lang).searchable)
    (hcount : (view.candidates (input.search view.lang)).length ≤ 10000) :
    ∃ visit next, view.visit input = some (visit, next) ∧
      Cursor.Reads (view.candidates (input.search view.lang)) CatalogDiscoveryQueryDto.position
        Visit.considered input visit next := by
  unfold CatalogView.visit CatalogView.read
  dsimp only
  by_cases hhopeless : (input.search view.lang).hopeless
  · rw [if_pos hhopeless]
    refine ⟨_, none, rfl, ⟨0, rfl, fun _ h => (Option.not_mem_none _ h).elim, fun _ => ?_⟩⟩
    unfold CatalogView.candidates
    rw [if_pos hhopeless]
    exact Nat.zero_le _
  · rw [if_neg hhopeless]
    obtain ⟨terms, hterms⟩ := Option.isSome_iff_exists.1 ((searchable_iff _).1 hsearchable)
    have hcandidates : view.candidates (input.search view.lang) = view.productRows terms := by
      unfold CatalogView.candidates
      rw [if_neg hhopeless, hterms]
      rfl
    rw [hterms]
    dsimp only
    rw [hcandidates] at hcount ⊢
    generalize hrows : ((view.productRows terms).drop (input.offset.getD 0)).take 13 = found
    have hfound : found.length = min 13 ((view.productRows terms).length - input.position) := by
      rw [← hrows, List.length_take, List.length_drop]
      rfl
    have hjudge : ∀ row ∈ found.take 12, ∃ verdict,
        view.judge (input.search view.lang) row = .ok verdict := by
      intro row hrow
      have hin := List.mem_of_mem_take hrow
      rw [← hrows] at hin
      exact judge_ok hlimits _ (mem_productRows (List.mem_of_mem_drop (List.mem_of_mem_take hin)))
    obtain ⟨s, n, hscan, hconsumed, hle, hpos, -⟩ := scan_spec hjudge {}
    rw [hscan]
    dsimp only
    have hn : s.consumed = n := by rw [hconsumed, Nat.zero_add]
    rw [List.length_take] at hle
    refine ⟨_, _, rfl, s.consumed, rfl, fun input' hin => ?_, fun hnone => ?_⟩
    · dsimp only at hin
      rw [filter_next] at hin
      split at hin
      · rename_i hmore
        cases hin
        refine ⟨rfl, ?_, ?_⟩
        · rw [hn]
          refine hpos fun hempty => ?_
          rw [List.take_eq_nil_iff] at hempty
          rcases hempty with hzero | hempty
          · exact absurd hzero (by decide)
          · rw [hempty] at hmore
            exact absurd hmore.1 (Nat.not_lt_zero _)
        · omega
      · cases hin
    · dsimp only at hnone
      rw [filter_next] at hnone
      split at hnone
      · cases hnone
      · rename_i hend
        -- A page that is not full ends the query.
        have hposition : input.position = input.offset.getD 0 := rfl
        rw [not_and] at hend
        by_contra hleft
        exact hend (by omega) (by omega)

theorem visit_shows {view : CatalogView} (hlimits : view.WithinLimits) {visit : Visit} (h : view.visit input = some (visit, next)) :
    visit.response.products = visit.considered.filterMap (view.card (input.search view.lang)) := by
  unfold CatalogView.visit CatalogView.read at h
  dsimp only at h
  split at h
  · cases h
    rw [List.take_zero]
    rfl
  · rename_i hhopeless
    split at h
    · cases h
    · rename_i terms hterms
      have hcandidates : view.candidates (input.search view.lang) = view.productRows terms := by
        unfold CatalogView.candidates
        rw [if_neg hhopeless, hterms]
        rfl
      rw [hcandidates] at h
      have hjudge : ∀ row ∈ (((view.productRows terms).drop (input.offset.getD 0)).take 13).take 12,
          ∃ verdict, view.judge (input.search view.lang) row = .ok verdict := by
        intro row hrow
        exact judge_ok hlimits _ (mem_productRows
          (List.mem_of_mem_drop (List.mem_of_mem_take (List.mem_of_mem_take hrow))))
      obtain ⟨s, n, hscan, hconsumed, hle, -, hproducts⟩ := scan_spec hjudge {}
      rw [hscan] at h
      cases h
      have hn : s.consumed = n := by rw [hconsumed, Nat.zero_add]
      rw [List.length_take] at hle
      dsimp only
      have hwindow : min (min n 12) 13 = n := by omega
      rw [hproducts, hn, List.take_take, List.take_take, hwindow, List.nil_append]
      rfl

theorem nodup_candidates (view : CatalogView) (q : Search) : (view.candidates q).Nodup := by
  unfold CatalogView.candidates
  split
  · exact List.nodup_nil
  · cases hterms : (searchTerms q.query).mapM id with
    | none => exact List.nodup_nil
    | some terms =>
      rw [Option.map_some, Option.getD_some]
      unfold CatalogView.productRows
      split
      · exact List.nodup_nil
      · rw [(List.perm_insertionSort _ _).nodup_iff]
        exact view.catalog.products.nodup.of_map.filter _

/-- Paging loses and repeats nothing, unless the query cannot be searched for at all. -/
theorem discover_complete_iff {view : CatalogView} (hlimits : view.WithinLimits)
    {input : CatalogDiscoveryQueryDto} (hstart : input.position = 0)
    (hcount : (view.candidates (input.search view.lang)).length ≤ 10000) :
    view.ReadsAll input ↔ (input.search view.lang).searchable := by
  constructor
  · rintro ⟨visits, hfollows, -⟩
    by_contra hnot
    refine Cursor.not_follows_of_none ?_ hfollows
    have hhopeless : ¬ (input.search view.lang).hopeless := fun h => hnot (searchable_of_hopeless h)
    have hterms : (searchTerms (input.search view.lang).query).mapM id = none := by
      rw [searchable_iff, Option.not_isSome_iff_eq_none] at hnot
      exact hnot
    unfold CatalogView.visit CatalogView.read
    dsimp only
    rw [if_neg hhopeless, hterms]
    rfl
  · intro hsearchable
    have hpage (input' : CatalogDiscoveryQueryDto)
        (hsame : input'.search view.lang = input.search view.lang) :
        ∃ visit next, view.visit input' = some (visit, next) ∧
          Cursor.Reads (view.candidates (input.search view.lang)) CatalogDiscoveryQueryDto.position
            Visit.considered input' visit next ∧
          ∀ input'' ∈ next, input''.search view.lang = input.search view.lang := by
      rw [← hsame] at hsearchable hcount ⊢
      obtain ⟨visit, next, hvisit, hreads⟩ := visit_reads hlimits hsearchable hcount
      exact ⟨visit, next, hvisit, hreads, visit_search hvisit⟩
    obtain ⟨visits, hvisits, hconsidered⟩ := Cursor.exists_follows hpage rfl
    rw [hstart, List.drop_zero] at hconsidered
    refine ⟨visits, hvisits, hconsidered, nodup_candidates _ _, ?_⟩
    rw [← hconsidered]
    refine hvisits.shown (I := fun input' => input'.search view.lang = input.search view.lang) ?_ rfl
    intro input' visit next hsame hvisit
    rw [← hsame]
    exact ⟨visit_shows hlimits hvisit, visit_search hvisit⟩

/-! A shop with one product on stock, which is called Constructor. -/

namespace DiscoveryDemo

def shop : Db where
  master :=
    { companies := .ofRows [{ id := 10, status := .Active, baseCurrency := "MMK" }]
      branches := .ofRows [{ id := 2, companyId := 10, status := .Active }]
      warehouses := .ofRows [{ id := 1, companyId := 10, branchId := 2, status := .Active }]
      productVariants := .ofRows
        [{ id := 7, companyId := 10, productId := 5, sku := "CB-1", sellingPrice := 90000,
           status := .Active }] }
  stock :=
    { warehouseStock := .ofRows
        [{ warehouseId := 1, productVariantId := 7, onHandQuantity := 2, reservedQuantity := 0 }] }

def boots : ProductRow := { id := 5, companyId := 10, name := "Constructor boots", status := .Active }

def text : Uuid ↪ String where
  toFun n := String.ofList (List.replicate n 'f')
  inj' := by
    intro m n h
    have hlength := congrArg List.length (String.ofList_injective h)
    rw [List.length_replicate, List.length_replicate] at hlength
    exact hlength

def view : CatalogView where
  lang :=
    { toLowerCase := id, toUpperCase := id, normalize := id, intent := fun _ => none
      parseQuery := fun input p => { p with query := some input, intent := some .product }
      sizeText := id, shortSize := fun _ => false }
  sql :=
    { contains := fun column term => term.toList <:+: lowerAscii column.toList
      sortKey := id }
  text := text
  isPublicImageUrl := fun _ => false
  catalog := { products := .ofRows [boots] }
  db := shop
  companyId := 10

def asked (query : String) : CatalogDiscoveryQueryDto := { query := some query }

theorem withinLimits : view.WithinLimits := by
  intro p hp
  obtain rfl := List.mem_singleton.1 hp
  decide +kernel

end DiscoveryDemo

theorem discover_boots :
    DiscoveryDemo.view.ReadsAll (DiscoveryDemo.asked "boots") ∧
      (DiscoveryDemo.view.card ((DiscoveryDemo.asked "boots").search DiscoveryDemo.view.lang)
        DiscoveryDemo.boots).isSome := by
  refine ⟨(discover_complete_iff DiscoveryDemo.withinLimits rfl ?_).2 ?_, ?_⟩
  · decide +kernel
  · decide +kernel
  · decide +kernel

/-- A word may be no word to search by: the shop has what is asked for, and no page of it can be
read. -/
theorem discover_constructor :
    DiscoveryDemo.view.WithinLimits ∧
      ¬ DiscoveryDemo.view.ReadsAll (DiscoveryDemo.asked "constructor") ∧
      DiscoveryDemo.view.discover (DiscoveryDemo.asked "constructor") = .error .typeError ∧
      DiscoveryDemo.view.matchesTerms [["constructor"]] DiscoveryDemo.boots := by
  refine ⟨DiscoveryDemo.withinLimits, ?_, ?_, by decide +kernel⟩
  · rintro ⟨visits, hfollows, -⟩
    refine Cursor.not_follows_of_none ?_ hfollows
    have hnone : (DiscoveryDemo.view.visit (DiscoveryDemo.asked "constructor")).isNone := by
      decide +kernel
    exact Option.isNone_iff_eq_none.1 hnone
  · decide +kernel

end FashionErp.CustomerCatalogService
