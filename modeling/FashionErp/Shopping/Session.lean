/-
The session of a shopper, the context of the update that is being answered, and the
helpers of `shopping.js`: what they write into the session and say to the shopper.

A `Turn` is the pair the helpers work on.
-/
import FashionErp.Shopping.Catalog

namespace FashionErp

namespace Shopping

/-! ## Messages and requests -/

/-- `btn`. -/
structure Button where
  text : String
  data : String
  deriving DecidableEq

abbrev btn : String → String → Button := Button.mk

structure Message where
  text : String
  buttons : List (List Button)
  photo : Option String
  deriving DecidableEq

def rows (buttons : List Button) : List (List Button) :=
  (List.range ((buttons.length + 2) / 3)).map fun i => (buttons.drop (i * 3)).take 3

structure OrderItem where
  sku : String
  quantity : ℕ
  deriving DecidableEq

structure CartLine where
  productId : String
  variantId : String
  sku : String
  name : String
  label : String
  unitPrice : String
  quantity : ℕ

inductive Stage
  | cart
  | address
  | checkout
  | option
  | quantity
  | name
  | phone
  deriving DecidableEq

structure HistoryEntry where
  role : String
  text : String
  deriving DecidableEq

/-- `context` of `assistant.js`. -/
structure AgentContext where
  message : String
  stage : Option Stage
  recentProducts : List (String × String)
  latestProductIds : List String
  focusedProductId : Option String
  preferences : Preferences
  selection : Option (String × Option AttributeKind × List Attribute)
  cart : List (String × String × ℕ × String)
  currency : Option String
  history : List HistoryEntry
  deriving DecidableEq

/-- The fields of the bodies the engine sends; `none` is a field that is not there. -/
structure RequestBody where
  telegramUserId : Option String := none
  telegramUsername : Option String := none
  companyId : Option String := none
  phone : Option String := none
  code : Option String := none
  message : Option String := none
  conversationId : Option String := none
  name : Option String := none
  deliveryAddress : Option String := none
  items : Option (List OrderItem) := none
  idempotencyKey : Option String := none
  agent : Option AgentContext := none
  deriving DecidableEq

structure Request where
  method : String
  path : String
  query : List (String × String)
  body : RequestBody
  deriving DecidableEq

inductive Op
  | search
  | chat
  | view
  | buy
  | inspectOptions
  | pick
  | quantity
  | legacy
  | link
  | verify
  | checkAccount
  | checkout
  | validateCart
  | profile
  | createOrder
  | assistant
  deriving DecidableEq

/-! ## The session -/

structure IssuedCard where
  id : String
  name : String
  shownAt : ℕ

structure Selection where
  productId : String
  picks : List (AttributeKind × String) := []
  filters : Preferences := {}
  started : ℕ
  kind : Option AttributeKind := none
  choices : List Attribute := []
  token : Option String := none
  variantId : Option String := none

structure Page where
  mode : Option String := none
  offset : Option ℕ := none

structure Discovery where
  seen : List String := []
  token : Option String := none
  started : Option ℕ := none
  next : Option Page := none
  lowPrice : Option Cents := none
  currency : Option String := none

structure BudgetConfirmation where
  productId : String
  price : Cents
  currency : String
  token : String
  started : ℕ
  deriving DecidableEq

inductive SubmissionStatus
  | checking
  | sending
  | uncertain
  deriving DecidableEq

structure Submission where
  id : String
  status : SubmissionStatus

structure Handoff where
  requestedAt : ℕ
  reason : String
  eventId : String

/-- A session: `store.shoppers[userId]`. -/
structure Shopper where
  companyId : String
  cart : List CartLine := []
  currency : Option String := none
  cartToken : Option String := none
  submission : Option Submission := none
  stage : Option Stage := none
  customerId : Option String := none
  name : Option String := none
  phone : Option String := none
  address : Option String := none
  profileDirty : Bool := false
  seen : List String := []
  seq : ℕ := 0
  touched : ℕ
  catalog : List String := []
  catalogItems : List (String × String) := []
  issuedCards : Option (List IssuedCard) := none
  focused : Option String := none
  selection : Option Selection := none
  preferences : Preferences := {}
  discovery : Option Discovery := none
  budgetConfirmation : Option BudgetConfirmation := none
  conversationId : Option String := none
  assistantHistory : List HistoryEntry := []
  handoff : Option Handoff := none

/-- `body.sale` of an accepted order. -/
structure SaleSummary where
  saleNumber : Option String
  grandTotal : String
  currency : String
  deriving DecidableEq

/-- The context of an update: what the shopper is told, and the request that is
pending, with what its answer is to be applied to. -/
structure Context where
  chatId : Option String := none
  userId : String
  username : Option String := none
  companyId : String
  eventId : String
  callbackId : Option String := none
  text : String := ""
  messages : List Message := []
  request : Option Request := none
  hops : ℕ := 0
  op : Option Op := none
  productId : Option String := none
  budgetOverride : Option BudgetConfirmation := none
  pick : Option (AttributeKind × String) := none
  selectionToken : Option String := none
  amount : ℕ := 0
  optionKind : Option AttributeKind := none
  unavailableOption : Option String := none
  legacyItems : List OrderItem := []
  legacyIndex : ℕ := 0
  itemAdded : Bool := false
  submissionId : Option String := none
  checkIndex : ℕ := 0
  popular : Bool := false
  discoveryPages : ℕ := 0
  assistantStartedAt : Option ℕ := none
  assistantFailed : Bool := false
  agentToolCalls : ℕ := 0
  handoffRequested : Bool := false
  handoffReason : Option String := none
  orderCreated : Bool := false
  sale : Option SaleSummary := none
  onlineOrder : Option String := none
  deriving DecidableEq

structure Turn where
  s : Shopper
  c : Context

abbrev Outcome := Except Fault Turn

/-- `nonce`; the caller counts `seq` up. -/
def nonce (s : Shopper) (now : ℕ) : String := toString36 now ++ "-" ++ toString36 (s.seq + 1)

def Context.say (c : Context) (text : String) (buttons : List (List Button) := [])
    (photo : Option String := none) : Context :=
  let limit := if photo.isSome then 1000 else 3900
  { c with
    request := none
    messages := c.messages ++ [{ text := slice limit text, buttons := buttons, photo := photo }] }

def Turn.say (t : Turn) (text : String) (buttons : List (List Button) := [])
    (photo : Option String := none) : Turn :=
  { t with c := t.c.say text buttons photo }

def Turn.request (t : Turn) (op : Op) (method path : String) (query : List (String × String) := [])
    (body : RequestBody := {}) : Turn :=
  { t with c := { t.c with
    op := some op
    request := some { method := method, path := path, query := query, body := body }
    messages := [] } }

def detailPath (id : String) : String := "/customer-portal/catalog/" ++ encodeURIComponent id

def Turn.detail (t : Turn) (id : String) (op : Op) : Turn :=
  t.request op "GET" (detailPath id) [("companyId", t.c.companyId)]

/-! ## The cart -/

def CartLine.amount (line : CartLine) : Except Fault Cents :=
  (cents line.unitPrice).map fun price => price * line.quantity

def CartLine.describe (line : CartLine) (amount : Cents) : String :=
  let label := if line.label = "" then line.sku else line.label
  short line.name ++ " (" ++ short label ++ ") × " ++ toString line.quantity ++ " — " ++ money amount

/-- `lines.join('\n')`. -/
def joinLines (lines : List String) : String := String.intercalate "\n" lines

def printed (field : Option String) : String := field.getD "undefined"

def browseButtons : List (List Button) :=
  [[btn "🛍️ ပစ္စည်းအားလုံး ကြည့်မည်" "menu:browse", btn "🏷️ အမျိုးအစားများ" "menu:categories"],
    [btn "🔙 ပင်မမီနူးသို့" "menu:main"]]

def Turn.renderCart (t : Turn) (now : ℕ) (heading : String := "") : Outcome := do
  let token := nonce t.s now
  let s := { t.s with stage := some .cart, cartToken := some token, seq := t.s.seq + 1 }
  let t : Turn := { t with s := s }
  if s.cart = [] then
    return t.say "🛒 လူကြီးမင်း၏ Cart ထဲတွင် ပစ္စည်းမရှိသေးပါခင်ဗျာ။\n\nအောက်ပါခလုတ်ကို နှိပ်၍ ပစ္စည်းများ ကြည့်ရှုဝယ်ယူနိုင်ပါသည် —"
      browseButtons
  let amounts ← s.cart.mapM CartLine.amount
  let lines := (s.cart.zip amounts).zipIdx.map fun ((line, amount), i) =>
    toString (i + 1) ++ ". " ++ line.describe amount
  return t.say
    (heading ++ joinLines lines ++ "\nစုစုပေါင်း: " ++ money amounts.sum ++ " " ++ printed s.currency)
    [[btn "ထပ်ရွေးမယ်" ("cart:more:" ++ token),
      btn "အတည်ပြုမယ် / Checkout" ("cart:checkout:" ++ token)],
      [btn "Cart ဖျက်မယ်" ("cart:cancel:" ++ token)]]

/-- What `checkout` says of the cart and the contact data in `s`. -/
def checkoutText (s : Shopper) (heading : String) (amounts : List Cents) : String :=
  let lines := (s.cart.zip amounts).map fun (line, amount) => line.describe amount
  heading ++ joinLines lines ++ "\nစုစုပေါင်း: " ++ money amounts.sum ++ " " ++ printed s.currency
    ++ "\nအမည်: " ++ printed s.name ++ "\nဖုန်း: " ++ printed s.phone ++ "\nလိပ်စာ: "
    ++ printed s.address ++ "\nအချက်အလက်မှန်ရင် Submit Order နှိပ်ပါ။"

def checkoutButtons (token : String) : List (List Button) :=
  [[btn "အမည်ပြင်မယ်" ("cart:name:" ++ token), btn "ဖုန်းပြင်မယ်" ("cart:phone:" ++ token)],
    [btn "လိပ်စာပြင်မယ်" ("cart:address:" ++ token)],
    [btn "Submit Order" ("cart:submit:" ++ token), btn "Cart ဖျက်မယ်" ("cart:cancel:" ++ token)]]

def Turn.checkout (t : Turn) (now : ℕ) (heading : String := "") : Outcome := do
  let token := nonce t.s now
  let s := { t.s with cartToken := some token, seq := t.s.seq + 1 }
  if truthy s.address = none then
    let t : Turn := { t with s := { s with stage := some .address } }
    return t.say "ပို့ပေးရမယ့် လိပ်စာအပြည့်အစုံ ရေးပေးပါ။"
  let t : Turn := { t with s := { s with stage := some .checkout } }
  let amounts ← s.cart.mapM CartLine.amount
  return t.say (checkoutText s heading amounts) (checkoutButtons token)

/-- The first line under `sku` gets a new quantity and price. -/
def updateLine (sku unitPrice : String) (total : ℕ) : List CartLine → List CartLine
  | [] => []
  | line :: rest =>
    if line.sku = sku then { line with quantity := total, unitPrice := unitPrice } :: rest
    else line :: updateLine sku unitPrice total rest

def newLine (p : Product) (variant : Variant) (amount : ℕ) : CartLine :=
  { productId := p.id, variantId := variant.id, sku := variant.sku, name := p.name,
    label := String.intercalate ", " (variant.attributes.map Attribute.value),
    unitPrice := variant.unitPrice, quantity := amount }

def quantityOf (cart : List CartLine) (sku : String) : ℕ :=
  ((cart.find? fun line => line.sku = sku).map CartLine.quantity).getD 0

/-- The cart with `amount` more of a variant. -/
def addLine (cart : List CartLine) (p : Product) (variant : Variant) (amount : ℕ) : List CartLine :=
  if (cart.find? fun line => line.sku = variant.sku).isSome then
    updateLine variant.sku variant.unitPrice (quantityOf cart variant.sku + amount) cart
  else cart ++ [newLine p variant amount]

def Turn.addVariant (t : Turn) (p : Product) (variant : Variant) (amount now : ℕ) : Outcome :=
  let t : Turn := { t with c := { t.c with itemAdded := false } }
  let existing := t.s.cart.find? fun line => line.sku = variant.sku
  let total := quantityOf t.s.cart variant.sku + amount
  if (total : ℤ) > variant.quantityAvailable ∨ total > MAX_QUANTITY then
    return t.say ("လက်ကျန် " ++ toString variant.quantityAvailable
      ++ " ပဲရှိပါတယ်။ အရေအတွက် လျှော့ပေးပါ။")
  else if (truthy t.s.currency).isSome ∧ t.s.cart ≠ [] ∧ t.s.currency ≠ some p.currency then
    return t.say "Currency မတူတဲ့ ပစ္စည်းတွေကို order တစ်ခုထဲ ထည့်မရပါ။"
  else if existing.isNone ∧ t.s.cart.length ≥ MAX_LINES then
    return t.say "Order တစ်ခုမှာ ပစ္စည်းအမျိုးအစား ၂၀ အထိ ထည့်နိုင်ပါတယ်။"
  else
    let s := { t.s with
      currency := some p.currency, cart := addLine t.s.cart p variant amount, selection := none }
    Turn.renderCart { s := s, c := { t.c with itemAdded := true } } now

/-! ## Browsing -/

def SESSION_TTL : ℕ := 2 * 60 * 60 * 1000
def SELECTION_TTL : ℕ := 20 * 60 * 1000

def Context.stale (c : Context) (s : Option Shopper := none) : Context :=
  let id := s.bind fun s => (truthy (s.selection.map Selection.productId)).or (truthy s.focused)
  c.say "ရွေးချယ်မှုကို ပြန်ဖွင့်ပေးပါ။ လက်ရှိရနိုင်တဲ့ option တွေကို ပြန်စစ်ပေးပါမယ်။"
    (match s, id with
      | some s, some id =>
        if (s.issuedCards.getD []).any fun p => p.id = id then
          [[btn "ပြန်ရွေးမယ်" ("shop:buy:" ++ id)]]
        else []
      | _, _ => [])

def Turn.stale (t : Turn) : Turn := { t with c := t.c.stale }

def Turn.staleIn (t : Turn) : Turn := { t with c := t.c.stale (some t.s) }

def rememberCards (s : Shopper) (products : List (String × String)) (now : ℕ) : Shopper :=
  let kept := ((s.issuedCards.getD []).filter fun p => now - p.shownAt ≤ SESSION_TTL).foldl
    (fun cards p => assign cards p.id p) []
  let cards := products.foldl
    (fun cards p => remove cards p.1 ++ [(p.1, { id := p.1, name := p.2, shownAt := now })]) kept
  { s with issuedCards := some (lastN 60 (cards.map Prod.snd)) }

def Turn.catalogCard (t : Turn) (p : Product) (detailed : Bool := false) : Outcome := do
  let available := p.variants.filter fun v => v.quantityAvailable > 0
  let list := if available = [] then p.variants else available
  let prices ← list.mapM fun v => cents v.unitPrice
  let price := match prices.min?, prices.max? with
    | some low, some high => money low ++ if high ≠ low then " – " ++ money high else ""
    | _, _ => "—"
  let values (kind : AttributeKind) : List String :=
    unique (list.flatMap fun v =>
      (v.attributes.filter fun a => a.kind = kind).map Attribute.value)
  let colors := values .color
  let sizes := values .size
  let text := p.name ++ "\n" ++ price ++ " " ++ p.currency ++ "\n"
    ++ (if available = [] then "လက်ရှိ stock ကုန်နေပါတယ်" else "လက်ကျန်ရှိပါတယ်")
    ++ (if colors = [] then "" else "\nရနိုင်သော အရောင်: " ++ String.intercalate ", " colors)
    ++ (if sizes = [] then "" else "\nရနိုင်သော Size: " ++ String.intercalate ", " sizes)
    ++ (match truthy p.reason with
      | some reason => "\n" ++ reason
      | none => "")
    ++ (if detailed then "\n" ++ (truthy p.description).getD "အသေးစိတ်ဖော်ပြချက် မထည့်ရသေးပါ။"
      else "")
  let buttons := btn "ကြည့်မယ်" ("shop:view:" ++ p.id)
    :: if available = [] then [] else [btn "ယူမယ်" ("shop:buy:" ++ p.id)]
  return t.say text [buttons] (truthy p.imageUrl)

def Turn.renderWelcomeMenu (t : Turn) : Turn :=
  t.say "✨ Fashion ERP Store မှ နွေးထွေးစွာ ကြိုဆိုပါတယ်ခင်ဗျာ! ✨\n\nလူကြီးမင်း စိတ်ကြိုက် ဖက်ရှင်အဝတ်အထည်များကို အောက်ပါ ခလုတ်များနှိပ်၍ အလွယ်တကူ ရှာဖွေဝယ်ယူနိုင်ပါသည်ခင်ဗျာ။\n\n💡 လိုချင်သော ပစ္စည်းအမည်၊ အရောင်၊ Size များကိုလည်း စာရိုက်၍ တိုက်ရိုက် ရှာဖွေနိုင်ပါသည် (ဥပမာ — \"ဂျင်းဂျာကင်\", \"အနက်ရောင် တီရှပ်\")။"
    [[btn "🛍️ ပစ္စည်းအားလုံး ကြည့်မည်" "menu:browse", btn "🏷️ အမျိုးအစားများ" "menu:categories"],
      [btn "🛒 ဈေးဝယ်ခြင်း (Cart)" "menu:cart", btn "📦 အော်ဒါအခြေအနေ" "menu:orders"],
      [btn "💬 ဆိုင်သို့ မေးမြန်းမည် / အကူအညီ" "menu:help"]]

def Turn.renderCategoriesMenu (t : Turn) : Turn :=
  t.say "🏷️ ကြည့်ရှုလိုသော ဖက်ရှင်အမျိုးအစားကို ရွေးချယ်ပေးပါခင်ဗျာ —"
    [[btn "🧥 အပေါ်ထပ် / ဂျာကင်" "menu:cat:jacket", btn "👕 တီရှပ် / ရှပ်အင်္ကျီ" "menu:cat:shirt"],
      [btn "👗 ဂါဝန် / စကတ်" "menu:cat:dress", btn "👖 ဘောင်းဘီ" "menu:cat:pants"],
      [btn "👟 ဖိနပ်နှင့် အသုံးအဆောင်" "menu:cat:shoes"],
      [btn "🔙 ပင်မမီနူးသို့" "menu:main"]]

def Turn.renderHelp (t : Turn) : Turn :=
  t.say "ℹ️ Fashion ERP Store အကူအညီနှင့် ဝန်ဆောင်မှုများ —\n\n🕒 ဆိုင်ဖွင့်ချိန် - မနက် ၉:၀၀ မှ ည ၈:၀၀ ထိ\n🚚 ပို့ဆောင်ရေး - ရန်ကုန်/မန္တလေး မြို့တွင်း အိမ်အရောက်ငွေချေ (Cash on Delivery) ရရှိနိုင်ပြီး အခြားမြို့များသို့ ကားဂိတ်မှတစ်ဆင့် ပို့ဆောင်ပေးပါသည်\n💳 ငွေပေးချေမှု - KBZPay, CB Pay, AYA Pay, WavePay ဖြင့် ပေးချေနိုင်ပါသည်\n🔄 လဲလှယ်ခြင်း - ပစ္စည်းရောက်ရှိပြီး ၃ ရက်အတွင်း မူလအခြေအနေအတိုင်း ဆိုဒ်လဲလှယ်နိုင်ပါသည်\n\n📞 လူကြီးမင်း သိရှိလိုသည်များကို စာတိုပေးပို့၍ တိုက်ရိုက် မေးမြန်းနိုင်ပါသည်ခင်ဗျာ။"
    [[btn "🛍️ ပစ္စည်းများ ကြည့်မည်" "menu:browse", btn "🔙 ပင်မမီနူးသို့" "menu:main"]]

def Page.params (page : Page) : List (String × String) :=
  (page.mode.toList.map fun mode => ("mode", mode))
    ++ page.offset.toList.map fun offset => ("offset", toString offset)

/-- The filters of `discover` that are there. -/
def Preferences.params (p : Preferences) : List (String × String) :=
  [("query", p.query), ("color", p.color), ("size", p.size), ("maxPrice", p.maxPrice),
    ("currency", p.currency)].filterMap fun (key, value) => value.map fun v => (key, v)

def Turn.discover (t : Turn) (now : ℕ) (page : Page := {}) : Turn :=
  let discovery := { t.s.discovery.getD {} with
    token := some (nonce t.s now), started := some now }
  let s := { t.s with
    stage := none, selection := none, focused := none, catalog := [], catalogItems := []
    discovery := some discovery, seq := t.s.seq + 1 }
  Turn.request { t with s := s } .search "GET" "/customer-portal/catalog/discover"
    (("companyId", t.c.companyId) :: s.preferences.params ++ page.params
      ++ if discovery.seen = [] then []
        else [("exclude", String.intercalate "," discovery.seen)])

def Turn.discoveryControls (t : Turn) (next : Option Page) (now : ℕ) : Turn :=
  let token := nonce t.s now
  let discovery := { t.s.discovery.getD {} with
    token := some token, started := some now, next := next }
  let controls :=
    (if next.isSome then [btn "နောက်ထပ်ကြည့်မယ်" ("discover:more:" ++ token)] else [])
    ++ (if ∃ low ∈ discovery.lowPrice, low > 0 then
        [btn "ဈေးသက်သာတာပြမယ်" ("discover:cheaper:" ++ token)] else [])
    ++ [btn "ရွေးချယ်မှုရှင်းမယ်" ("discover:reset:" ++ token)]
  let prefs := t.s.preferences
  let currency := (truthy prefs.currency).or (truthy discovery.currency)
  let summary :=
    ((truthy prefs.size).toList.map fun size => "Size " ++ size)
    ++ (truthy prefs.color).toList
    ++ (truthy prefs.maxPrice).toList.map fun price => price ++ " " ++ currency.getD "" ++ " အတွင်း"
  Turn.say { t with s := { t.s with discovery := some discovery, seq := t.s.seq + 1 } }
    (if summary = [] then "နောက်ထပ် ရွေးချယ်နိုင်ပါတယ်။"
      else "ရွေးထားတာ: " ++ String.intercalate " / " summary
        ++ "\nပြောင်းချင်တာကို စာနဲ့ရေးနိုင်ပါတယ်။")
    (rows controls)

/-- More than `ttl` has passed since `started`; a time that is missing never has. -/
def expired (now ttl : ℕ) (started : Option ℕ) : Bool := started.any fun at' => now - at' > ttl

inductive DiscoveryAction
  | more
  | reset
  | cheaper

def Turn.discoveryAction (t : Turn) (action : DiscoveryAction) (now : ℕ) : Turn :=
  match t.s.discovery with
  | none => t.say "ရှာချင်တဲ့ ပစ္စည်းအမည်ကို ပြန်ရေးပေးပါ။"
  | some discovery =>
    if expired now SELECTION_TTL discovery.started then
      t.say "ရှာချင်တဲ့ ပစ္စည်းအမည်ကို ပြန်ရေးပေးပါ။"
    else match action with
      | .more =>
        match discovery.next with
        | some next => t.discover now next
        | none => t.say "ဒီရွေးချယ်မှုနဲ့ နောက်ထပ်ပစ္စည်း မရှိတော့ပါ။ ပစ္စည်းအမည် သို့မဟုတ် size/ဈေးကန့်သတ်ချက် ပြောင်းရှာနိုင်ပါတယ်။"
      | .reset =>
        let s := { t.s with
          preferences := { query := some (t.s.preferences.query.getD "") }, discovery := some {} }
        Turn.discover { t with s := s } now
      | .cheaper =>
        match discovery.lowPrice with
        | some low =>
          if low > 0 then
            let s := { t.s with
              preferences := { t.s.preferences with
                maxPrice := some (money (low - 1)), currency := discovery.currency }
              discovery := some {} }
            Turn.discover { t with s := s } now
          else t.say "ဈေးကန့်သတ်ချက်နဲ့ ပစ္စည်းအမည် ပြန်ရေးပေးပါ။"
        | none => t.say "ဈေးကန့်သတ်ချက်နဲ့ ပစ္စည်းအမည် ပြန်ရေးပေးပါ။"

section Options

variable (lang : Language)

def Selection.picked (selection : Selection) (v : Variant) : Bool :=
  selection.picks.all fun (_, id) => v.attributes.any fun a => a.id = id

def choicesOf (kind : AttributeKind) (variants : List Variant) : List Attribute :=
  ((variants.flatMap fun v => v.attributes.filter fun a => a.kind = kind).foldl
    (fun choices a => assign choices a.id a) []).map Prod.snd

/-- The question `options` asks for a kind. -/
def AttributeKind.prompt : AttributeKind → String
  | .color => "ဘယ်အရောင်ယူမလဲ?"
  | .size => "ဘယ် size ယူမလဲ?"
  | .style => "ဘယ် style ယူမလဲ?"
  | .material => "ဘယ်အသားယူမလဲ?"

def Turn.options (t : Turn) (selection : Selection) (p : Product) (now : ℕ)
    (inspectKind : Option AttributeKind := none) : Turn :=
  let found := (eligibleVariants lang p selection.filters true).filter selection.picked
  if found = [] then
    Turn.say { t with s := { t.s with selection := none, stage := none } }
      "ရွေးထားတဲ့ size/ဈေးနှုန်းနဲ့ ကိုက်တဲ့ option က လက်ကျန်မရှိတော့ပါ။ ပစ္စည်းကို ပြန်ရွေးပါ။"
  else
    let asked := (inspectKind.map fun kind => [kind]).getD kinds
    let question := asked.findSome? fun kind =>
      if (truthy (selection.picks.lookup kind)).isSome then none
      else match choicesOf kind found with
        | [] => none
        | choices => some (kind, choices)
    match question, inspectKind, found with
    | some (kind, choices), _, _ =>
      if choices.length > 30 then t.say "ရွေးချယ်စရာများနေပါသည်။ ဝန်ထမ်းထံ ဆက်သွယ်ပေးပါ။"
      else
        let token := nonce t.s now
        let selection := { selection with kind := some kind, choices := choices, token := some token }
        let pickedNames := selection.picks.filterMap fun (_, id) =>
          truthy (((p.variants.flatMap Variant.attributes).find? fun a => a.id = id).map
            Attribute.value)
        let title := if pickedNames = [] then p.name
          else p.name ++ " (" ++ String.intercalate ", " pickedNames ++ ")"
        let unavailable := match truthy t.c.unavailableOption with
          | some value => value ++ " က ရွေးထားတဲ့ option တွေနဲ့ မရနိုင်ပါ။ ရနိုင်တာတွေက —\n"
          | none => ""
        Turn.say { t with s := { t.s with
            selection := some selection, stage := some .option, seq := t.s.seq + 1 } }
          (title ++ "\n" ++ unavailable ++ kind.prompt)
          (rows (choices.zipIdx.map fun (a, i) =>
            btn a.value ("shop:pick:" ++ token ++ ":" ++ toString i)))
    | none, some kind, _ =>
      t.say (p.name ++ "\nဒီပစ္စည်းမှာ " ++ (if kind = .color then "အရောင်" else "size")
        ++ " ရွေးချယ်စရာ မထည့်ထားပါ။") [[btn "ယူမယ်" ("shop:buy:" ++ p.id)]]
    | none, none, [variant] =>
      let selection := { selection with
        variantId := some variant.id, choices := [], token := some (nonce t.s now) }
      Turn.say { t with s := { t.s with
          selection := some selection, stage := some .quantity, seq := t.s.seq + 1 } }
        (p.name ++ " (" ++ String.intercalate ", " (variant.attributes.map Attribute.value) ++ ")\n"
          ++ variant.unitPrice ++ " " ++ p.currency ++ "\nဘယ်နှထည်ယူမလဲ? ဥပမာ — ၂ ထည်")
    | none, none, _ =>
      t.say "ပစ္စည်း variant ကို တိတိကျကျ မခွဲနိုင်သေးပါ။ ဝန်ထမ်းထံ ဆက်သွယ်ပေးပါ။"

def thisOne : List String := ["ဒီဟာ", "အဲဒါ", "ဒီတစ်ခု", "ဒါ", "this", "it"]

/-- `resolve` of `conversation.js`: the card a name means, if it means one. -/
def resolve (s : Shopper) (subject : String) (now ttl : ℕ) : Option String :=
  match s.discovery with
  | none => none
  | some discovery =>
    if expired now ttl discovery.started then none
    else
      let name := lang.normalize subject
      if name = "" ∨ name ∈ thisOne then
        ((truthy (s.selection.map Selection.productId)).or (truthy s.focused)).or
          (match s.catalog with
            | [id] => some id
            | _ => none)
      else
        let cards := s.issuedCards.getD
          (s.catalogItems.map fun p => { id := p.1, name := p.2, shownAt := 0 })
        match cards.filter fun p =>
          lang.normalize p.name = name ∧ (p.shownAt = 0 ∨ now - p.shownAt ≤ ttl) with
        | [card] => some card.id
        | _ => none

def Selection.chosen (selection : Selection) (text : String) : Option Attribute :=
  selection.choices.find? fun a =>
    if a.kind = .color then canonicalColor lang a.value = canonicalColor lang text
    else lang.toLowerCase a.value = lang.toLowerCase text

end Options

/-! ## The assistant -/

structure Proposal where
  action : String
  query : Option String := none
  productId : Option String := none
  kind : Option String := none
  value : Option String := none
  quantity : Option ℤ := none
  text : Option String := none
  /-- Keys the schema does not have. -/
  others : List String := []

inductive AssistantAction
  | search (query : String)
  | popular (query : Option String)
  | buy (productId : Option String) (kind : Option AttributeKind)
  | pick (value : String)
  | quantity (amount : ℕ)
  | options (productId : Option String) (kind : Option AttributeKind)
  | cart
  | discovery (action : DiscoveryAction)
  | reply (text : String)
  | handoff (text : String)

def withinLength (value : Option String) (limit : ℕ) : Bool := value.all fun v => jsLength v ≤ limit

def proposedKind (kind : Option String) : Option AttributeKind :=
  match kind with
  | some "COLOR" => some .color
  | some "SIZE" => some .size
  | _ => none

def Proposal.WellFormed (p : Proposal) : Prop :=
  p.others = [] ∧ withinLength p.query 100 ∧ withinLength p.productId 36
    ∧ (p.kind.isSome → (proposedKind p.kind).isSome) ∧ withinLength p.value 40
    ∧ (∀ n ∈ p.quantity, 1 ≤ n ∧ n ≤ 999) ∧ withinLength p.text 1200

instance (p : Proposal) : Decidable p.WellFormed :=
  inferInstanceAs (Decidable (_ ∧ _ ∧ _ ∧ _ ∧ _ ∧ _ ∧ _))

/-- `validate` of `assistant.js`: the action with the value it needs. -/
def validate (p : Proposal) : Option AssistantAction :=
  if ¬ p.WellFormed then none
  else match p.action with
    | "search" => (truthy p.query).map .search
    | "popular" => some (.popular p.query)
    | "buy" => (truthy p.productId).map fun id => .buy (some id) (proposedKind p.kind)
    | "options" => (proposedKind p.kind).map fun kind => .options p.productId (some kind)
    | "pick" => (truthy p.value).map .pick
    | "quantity" => p.quantity.map fun n => .quantity n.toNat
    | "cart" => some .cart
    | "more" => some (.discovery .more)
    | "cheaper" => some (.discovery .cheaper)
    | "reset" => some (.discovery .reset)
    | "reply" => (truthy p.text).map .reply
    | "handoff" => (truthy p.text).map .handoff
    | _ => none

end Shopping

end FashionErp
