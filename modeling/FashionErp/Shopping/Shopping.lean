/-
`shopping.js`: what an update of the shopper and what the answer to a request do to the
session.

`prepare` takes an update, `respond` the answer to the request of a context. Neither
does any I/O.
-/
import FashionErp.Shopping.Session

namespace FashionErp

namespace Shopping

/-! ## Updates and answers -/

inductive JsonId
  | number (n : ℤ)
  | text (s : String)

/-- `String(id)`. -/
def JsonId.toText : JsonId → String
  | .number n => toString n
  | .text s => s

structure Sender where
  id : JsonId
  username : Option String := none

structure Chat where
  id : JsonId
  type : String

structure TelegramMessage where
  messageId : Option ℤ := none
  chat : Option Chat := none
  sender : Option Sender := none
  text : Option String := none

structure CallbackQuery where
  id : Option String := none
  sender : Option Sender := none
  message : Option TelegramMessage := none
  data : Option String := none

structure Update where
  updateId : Option ℤ := none
  callbackQuery : Option CallbackQuery := none
  message : Option TelegramMessage := none

structure Body where
  products : Option (List Product) := none
  next : Option Page := none
  matchType : Option String := none
  product : Option Product := none
  proposal : Option Proposal := none
  conversationId : Option String := none
  content : Option String := none
  code : Option String := none
  customerId : Option String := none
  customerName : Option String := none
  name : Option String := none
  phone : Option String := none
  sale : Option SaleSummary := none
  onlineOrderId : Option String := none

structure Response where
  statusCode : ℕ
  body : Option Body := none

def Response.ok (r : Response) : Bool := 200 ≤ r.statusCode ∧ r.statusCode < 300

/-- `store.shoppers`. -/
abbrev Store := List (String × Shopper)

structure Config where
  companyId : String
  assistantEnabled : Bool

/-- The value of `o`; reading a field of `undefined` is a `TypeError`. -/
def orTypeError {α : Type} (o : Option α) : Except Fault α :=
  match o with
  | some a => .ok a
  | none => .error .typeError

variable (lang : Language)

/-! ## The assistant -/

/-- The constraints a text states outright take the place of those in `p`. -/
def Preferences.override (p explicit : Preferences) : Preferences :=
  { p with
    size := explicit.size.or p.size
    color := explicit.color.or p.color
    maxPrice := explicit.maxPrice.or p.maxPrice
    currency := explicit.currency.or p.currency }

/-- `context` of `assistant.js`. -/
def agentContext (s : Shopper) (text : String) : AgentContext :=
  { message := slice 1000 text
    stage := s.stage
    recentProducts := (lastN 12 (s.issuedCards.getD [])).map fun p => (p.id, p.name)
    latestProductIds := s.catalog
    focusedProductId := (truthy (s.selection.map Selection.productId)).or (truthy s.focused)
    preferences := s.preferences
    selection := s.selection.map fun selection =>
      (selection.productId, selection.kind, selection.choices)
    cart := s.cart.map fun line => (line.name, line.label, line.quantity, line.unitPrice)
    currency := truthy s.currency
    history := s.assistantHistory }

/-- `remember` of `assistant.js`. -/
def remember (s : Shopper) (message : String) (p : Proposal) : Shopper :=
  { s with assistantHistory := lastN 12 (s.assistantHistory
      ++ [{ role := "user", text := slice 500 message },
        { role := "assistant", text := slice 500 ((truthy p.text).getD p.action) }]) }

def Turn.askAssistant (t : Turn) : Turn :=
  let explicit := lang.parseQuery t.c.text {}
  let body := agentContext t.s t.c.text
  let preferences := body.preferences.override explicit
  let preferences := match truthy explicit.family with
    | some family => { preferences with family := some family }
    | none => preferences
  Turn.request { t with c := { t.c with assistantStartedAt := some t.s.touched } }
    .assistant "AGENT" "/customer-portal/shopping/assistant" []
    { agent := some { body with preferences := preferences } }

def Turn.search (t : Turn) (preferences : Preferences) (now : ℕ) : Turn :=
  Turn.discover { t with s := { t.s with preferences := preferences, discovery := some {} } } now

def Turn.assistantFallback (t : Turn) (now : ℕ) : Turn :=
  let t : Turn := { t with c := { t.c with assistantFailed := true } }
  if t.s.selection.isSome then t.stale
  else
    let parsed := lang.parseQuery t.c.text t.s.preferences
    if parsed.intent = some .chat then
      t.say "အခု စကားပြောအကူအညီ ခဏချိတ်မရပါ။ ပစ္စည်းအမည်ရေးပြီး ရှာနိုင်ပါတယ်။"
    else t.search parsed now

/-- What `popular` filters by. -/
def popularFilters (s : Shopper) (text : String) (query : Option String) : Preferences :=
  let explicit := lang.parseQuery text {}
  let family := truthy explicit.family
  let asked := match truthy query with
    | some query => ((lang.parseQuery query {}).query).getD ""
    | none => (family.or (truthy s.preferences.family)).getD ""
  let asked := match family with
    | some family =>
      if (lang.parseQuery asked {}).family ≠ some family then family else asked
    | none => asked
  { s.preferences.override explicit with
    query := some asked, family := (lang.parseQuery asked {}).family }

/-- The action `popular` of `applyAssistant`. -/
def Turn.popular (t : Turn) (query : Option String) : Turn :=
  let filters := popularFilters lang t.s t.c.text query
  let s := { t.s with
    preferences := filters, discovery := some {}, stage := none, selection := none
    focused := none, catalog := [], catalogItems := [] }
  let params := [("query", filters.query), ("size", filters.size), ("color", filters.color),
    ("maxPrice", filters.maxPrice), ("currency", filters.currency)].filterMap
      fun (key, value) => value.map fun v => (key, v)
  Turn.request { s := s, c := { t.c with popular := true } } .search "GET"
    "/customer-portal/catalog/popular" (("companyId", t.c.companyId) :: params)

/-- The actions `buy` and `options` of `applyAssistant`. -/
def Turn.assistantDetail (t : Turn) (op : Op) (productId : Option String)
    (kind : Option AttributeKind) (now : ℕ) : Turn :=
  match (truthy productId).or (truthy (resolve lang t.s "" now SELECTION_TTL)) with
  | some id =>
    if (t.s.issuedCards.getD []).any fun p => p.id = id then
      Turn.detail { t with c := { t.c with optionKind := kind } } id op
    else t.say "ဘယ်ပစ္စည်းကို ဆိုလိုတာလဲ? ပြထားတဲ့ card ရဲ့ ယူမယ် button ကို နှိပ်နိုင်ပါတယ်။"
  | none => t.say "ဘယ်ပစ္စည်းကို ဆိုလိုတာလဲ? ပြထားတဲ့ card ရဲ့ ယူမယ် button ကို နှိပ်နိုင်ပါတယ်။"

def Turn.pickOption (t : Turn) (selection : Selection) (kind : AttributeKind) (chosen : Attribute) :
    Turn :=
  Turn.detail { t with c := { t.c with
    pick := some (kind, chosen.id), selectionToken := selection.token } } selection.productId .pick

def Turn.missOption (t : Turn) (selection : Selection) (value : String) : Turn :=
  Turn.detail { t with c := { t.c with
    optionKind := selection.kind, unavailableOption := some value } }
    selection.productId .inspectOptions

def Turn.askQuantity (t : Turn) (selection : Selection) (amount : ℕ) : Turn :=
  Turn.detail { t with c := { t.c with
    amount := amount, selectionToken := selection.token } } selection.productId .quantity

def Turn.applyAssistant (t : Turn) (proposal : Option Proposal) (now : ℕ) : Outcome :=
  match proposal, proposal.bind validate with
  | some p, some action =>
    let t : Turn := { t with s := remember t.s t.c.text p }
    match action with
    | .search query =>
      let parsed := lang.parseQuery query t.s.preferences
      return t.search (parsed.override (lang.parseQuery t.c.text {})) now
    | .cart => t.renderCart now
    | .popular query => return t.popular lang query
    | .discovery action => return t.discoveryAction action now
    | .reply text => return t.say text
    | .handoff text =>
      let s := { t.s with
        handoff := some { requestedAt := now, reason := text, eventId := t.c.eventId } }
      let c := { t.c with handoffRequested := true, handoffReason := some text }
      return Turn.say { s := s, c := c }
        "ဝန်ထမ်းအကူအညီလိုအပ်တဲ့ တောင်းဆိုချက်ကို မှတ်ထားပါပြီ။ Cart ကိုလည်း သိမ်းထားပါတယ်။"
    | .buy productId kind => return t.assistantDetail lang .buy productId kind now
    | .options productId kind => return t.assistantDetail lang .inspectOptions productId kind now
    | .pick value =>
      match t.s.stage, t.s.selection with
      | some .option, some selection =>
        match selection.chosen lang value with
        | some chosen => return t.pickOption selection chosen.kind chosen
        | none => return t.missOption selection value
      | _, _ => return t.staleIn
    | .quantity amount =>
      match t.s.stage, t.s.selection with
      | some .quantity, some selection => return t.askQuantity selection amount
      | _, _ => return t.staleIn
  | _, _ => return t.assistantFallback lang now

/-! ## `prepare` -/

/-- The callbacks `menu:..`. -/
def Turn.menuCallback (t : Turn) (parts : List String) (now : ℕ) : Outcome :=
  match parts[1]?.getD "" with
  | "main" => return t.renderWelcomeMenu
  | "browse" => return t.search {} now
  | "categories" => return t.renderCategoriesMenu
  | "cat" => return t.search (lang.parseQuery (parts[2]?.getD "") {}) now
  | "cart" => t.renderCart now
  | "orders" =>
    return t.request .checkAccount "GET" "/customer-portal/me" [("telegramUserId", t.c.userId)]
  | "help" => return t.renderHelp
  | _ => return t.stale

/-- The callbacks `discover:..`. -/
def Turn.discoverCallback (t : Turn) (parts : List String) (now : ℕ) : Turn :=
  match t.s.discovery with
  | none => t.stale
  | some discovery =>
    if parts[2]? ≠ discovery.token ∨ expired now SELECTION_TTL discovery.started then t.stale
    else match parts[1]?.getD "" with
      | "more" => t.discoveryAction .more now
      | "reset" => t.discoveryAction .reset now
      | "cheaper" => t.discoveryAction .cheaper now
      | _ => t.stale

def Turn.cardCallback (t : Turn) (id : Option String) (op : Op) : Turn :=
  match id with
  | some id =>
    if (t.s.issuedCards.getD []).any fun p => p.id = id then
      Turn.detail { t with c := { t.c with productId := some id } } id op
    else t.staleIn
  | none => t.staleIn

/-- The callbacks `shop:..`. -/
def Turn.shopCallback (t : Turn) (parts : List String) (now : ℕ) : Turn :=
  match parts[1]?.getD "" with
  | "buy" => t.cardCallback parts[2]? .buy
  | "view" => t.cardCallback parts[2]? .view
  | "budget" =>
    match t.s.budgetConfirmation with
    | none => t.staleIn
    | some budget =>
      if parts[2]? ≠ some budget.token ∨ expired now SELECTION_TTL (some budget.started) then
        t.staleIn
      else
        Turn.detail { s := { t.s with budgetConfirmation := none }
                      c := { t.c with budgetOverride := some budget } } budget.productId .buy
  | "pick" =>
    let index := (parts[3]?.getD "").toList
    match t.s.stage, t.s.selection with
    | some .option, some selection =>
      if selection.token ≠ parts[2]? ∨ index = [] ∨ ¬ index.all Char.isDigit then t.staleIn
      else match selection.choices[digitsValue index]?, selection.kind with
        | some chosen, some kind => t.pickOption selection kind chosen
        | _, _ => t.stale
    | _, _ => t.staleIn
  | _ => t.stale

/-- The first detail `submit` fetches. -/
def Turn.startSubmission (t : Turn) (first : CartLine) : Turn :=
  let s := { t.s with submission := some { id := t.c.eventId, status := .checking } }
  let c := { t.c with submissionId := some t.c.eventId, checkIndex := 0 }
  Turn.detail { s := s, c := c } first.productId .validateCart

def Turn.askContact (t : Turn) (stage : Stage) (text : String) : Turn :=
  Turn.say { t with s := { t.s with stage := some stage } } text

/-- The callbacks `cart:..`. -/
def Turn.cartCallback (t : Turn) (parts : List String) (now : ℕ) : Outcome :=
  if parts[2]? ≠ t.s.cartToken then return t.stale
  else match parts[1]?.getD "", t.s.cart with
    | "cancel", _ =>
      let s := { t.s with
        cart := [], selection := none, stage := none, cartToken := some (nonce t.s now)
        seq := t.s.seq + 1 }
      return Turn.say { t with s := s } "Cart ကို ဖျက်ပြီးပါပြီ။"
    | "more", _ =>
      return Turn.say { t with s := { t.s with stage := none, selection := none } }
        "ထပ်ရွေးချင်တဲ့ ပစ္စည်းအမည် ရေးပေးပါ။"
    | _, [] => t.renderCart now
    | "checkout", _ =>
      return t.request .checkout "GET" "/customer-portal/me" [("telegramUserId", t.c.userId)]
    | "name", _ => return t.askContact .name "အမည်အသစ် ရေးပေးပါ။"
    | "phone", _ => return t.askContact .phone "ဖုန်းနံပါတ်အသစ် ရေးပေးပါ။"
    | "address", _ => return t.askContact .address "ပို့ပေးရမယ့် လိပ်စာအပြည့်အစုံ ရေးပေးပါ။"
    | "submit", first :: _ =>
      if t.s.stage ≠ some .checkout ∨ truthy t.s.address = none ∨ truthy t.s.name = none
          ∨ truthy t.s.phone = none then
        t.checkout now
      else return t.startSubmission first
    | _, _ => return t.stale

def Turn.callback (t : Turn) (data : String) (now : ℕ) : Outcome :=
  let parts := split ':' data
  match parts[0]?.getD "" with
  | "menu" => t.menuCallback lang parts now
  | "discover" => return t.discoverCallback parts now
  | "shop" => return t.shopCallback parts now
  | "cart" => t.cartCallback parts now
  | _ => return t.stale

/-- A character of a word, for `\b`. -/
def isWordChar (c : Char) : Bool := c.isAlphanum || c = '_'

/-- The text after `/name`, which ends a word, and the white space that follows it. -/
def command (name text : String) : Option String :=
  let n := name.toList.length + 1
  let chars := text.toList
  if lowerAscii (chars.take n) = '/' :: name.toList ∧ ¬ (chars.drop n).head?.any isWordChar then
    some (String.ofList ((chars.drop n).dropWhile isWhiteSpace))
  else none

/-- One part of an `/order`: a SKU, and the quantity after an `x`. -/
def orderItem (part : String) : Option OrderItem :=
  let chars := (trim part).toList
  let sku := chars.takeWhile fun c => ¬ isWhiteSpace c
  let rest := chars.dropWhile fun c => ¬ isWhiteSpace c
  match rest.dropWhile isWhiteSpace with
  | x :: ds =>
    if sku ≠ [] ∧ rest ≠ [] ∧ (x = 'x' ∨ x = 'X') ∧ ds ≠ [] ∧ ds.length ≤ 3 ∧ ds.all Char.isDigit then
      (quantity (String.ofList ds)).map fun n => { sku := String.ofList sku, quantity := n }
    else none
  | [] => none

/-- The items of an `/order`; `none` where a part cannot be read. -/
def orderItems (rest : String) : Option (List OrderItem) :=
  let items := (split ',' rest).map orderItem
  if items.length > MAX_LINES then none else items.mapM id

/-- The lookup of the next item of an `/order`. -/
def Turn.askLegacy (t : Turn) (item : OrderItem) : Turn :=
  t.request .legacy "GET" "/customer-portal/catalog"
    [("companyId", t.c.companyId), ("query", item.sku)]

/-- The command `/order`. -/
def Turn.orderCommand (t : Turn) (rest : String) : Turn :=
  match orderItems rest with
  | some (first :: items) =>
    Turn.askLegacy { t with c := { t.c with legacyItems := first :: items, legacyIndex := 0 } } first
  | _ => t.say "/order SKU-001 x2, SKU-002 x1 ပုံစံဖြင့် ရေးပေးပါ။"

def phonePattern (value : String) : Bool :=
  let chars := match value.toList with
    | '+' :: rest => rest
    | all => all
  5 ≤ chars.length ∧ chars.length ≤ 50
    ∧ chars.all fun c => c.isDigit || isWhiteSpace c || c = '(' || c = ')' || c = '-'

inductive ContactField
  | address
  | name
  | phone
  deriving DecidableEq

def Stage.contactField : Stage → Option ContactField
  | .address => some .address
  | .name => some .name
  | .phone => some .phone
  | _ => none

def ContactField.limit : ContactField → ℕ
  | .name => 200
  | .phone => 50
  | .address => 500

def ContactField.read (field : ContactField) (text : String) : Option String :=
  let value := if field = .phone then digits text else text
  if value = "" ∨ jsLength value > field.limit ∨ (field = .phone ∧ ¬ phonePattern value) then none
  else some value

/-- `s[field] = value`. -/
def Shopper.enter (s : Shopper) (field : ContactField) (value : String) : Shopper :=
  match field with
  | .address => { s with address := some value }
  | .name => { s with name := some value, profileDirty := true }
  | .phone => { s with phone := some value, profileDirty := true }

def Turn.enterContact (t : Turn) (field : ContactField) (now : ℕ) : Outcome :=
  match field.read t.c.text with
  | none => return t.say "အချက်အလက်ကို မှန်ကန်စွာ ပြန်ရေးပေးပါ။"
  | some value => Turn.checkout { t with s := t.s.enter field value } now

def Turn.followup (t : Turn) (config : Config) (followup : Followup) (now : ℕ) : Turn :=
  let ask (op : Op) : Turn :=
    match truthy (resolve lang t.s followup.subject now SELECTION_TTL) with
    | some id => Turn.detail { t with c := { t.c with optionKind := followup.kind } } id op
    | none =>
      if config.assistantEnabled then t.askAssistant lang
      else t.say "မေးထားတဲ့ ပစ္စည်းကို တိတိကျကျ မရွေးနိုင်သေးပါ။ ပစ္စည်းအမည်နဲ့ ရှာပြီး card ပေါ်က ယူမယ် button ကို နှိပ်ပေးပါ။"
  match followup.action with
  | .more => t.discoveryAction .more now
  | .cheaper => t.discoveryAction .cheaper now
  | .reset => t.discoveryAction .reset now
  | .buy => ask .buy
  | .inspectOptions => ask .inspectOptions

/-- The answer to an option question; `none` where the text is no answer to it. -/
def Turn.answerOption (t : Turn) (selection : Selection) : Option Turn :=
  let text := t.c.text
  let optionText := if selection.kind = some .size then lang.sizeText text else text
  match selection.chosen lang optionText, selection.kind with
  | some chosen, some kind => some (t.pickOption selection kind chosen)
  | _, _ =>
    let parsed := lang.parseQuery text {}
    if (selection.kind = some .size ∧ lang.shortSize text)
        ∨ (selection.kind = some .color ∧ (truthy parsed.color).isSome
          ∧ truthy parsed.query = none) then
      some (t.missOption selection (short text))
    else none

def Turn.freeText (t : Turn) (config : Config) (now : ℕ) : Turn :=
  let text := t.c.text
  if text = "" ∨ jsLength text > 1000 then t.say "ရှာချင်တဲ့ ပစ္စည်းအမည်ကို စာသားနဲ့ ရေးပေးပါ။"
  else if config.assistantEnabled then t.askAssistant lang
  else
    let parsed := lang.parseQuery text t.s.preferences
    if parsed.intent = some .chat then
      t.request .chat "POST" "/ai/chat" []
        { companyId := some t.c.companyId, message := some text
          conversationId := truthy t.s.conversationId }
    else t.search parsed now

def Turn.plainText (t : Turn) (config : Config) (now : ℕ) : Turn :=
  match lang.intent t.c.text with
  | some followup => t.followup lang config followup now
  | none =>
    match t.s.stage, t.s.selection with
    | some .quantity, some selection =>
      match quantity t.c.text with
      | some n => t.askQuantity selection n
      | none =>
        if config.assistantEnabled then t.askAssistant lang
        else t.say "အရေအတွက် ၁ မှ ၉၉၉ အတွင်း ကိန်းပြည့်ရေးပေးပါ။ ဥပမာ — ၂ ထည်"
    | some .option, some selection =>
      (t.answerOption lang selection).getD (t.freeText lang config now)
    | _, _ => t.freeText lang config now

/-- The command `/cart`. -/
def Turn.cartCommand (t : Turn) (rest : String) (now : ℕ) : Outcome :=
  let subject := trim rest
  if subject = "" then t.renderCart now
  else
    return t.say "/cart က ရွေးထားတဲ့ cart ကို ကြည့်ရန် ဖြစ်ပါတယ်။ ဝယ်ယူရန် ပစ္စည်းရဲ့ ယူမယ် button ကို နှိပ်ပေးပါ။"
      (match truthy (resolve lang t.s subject now SELECTION_TTL) with
        | some id => [[btn "ယူမယ်" ("shop:buy:" ++ id)]]
        | none => [])

def Turn.text (t : Turn) (config : Config) (now : ℕ) : Outcome :=
  let text := t.c.text
  if (command "start" text).isSome ∨ (command "menu" text).isSome then return t.renderWelcomeMenu
  else if (command "browse" text).isSome then return t.search {} now
  else if (command "categories" text).isSome then return t.renderCategoriesMenu
  else if (command "help" text).isSome then return t.renderHelp
  else if let some rest := command "cart" text then t.cartCommand lang rest now
  else if let some rest := command "link" text then
    return t.request .link "POST" "/customer-portal/link/request" []
      { telegramUserId := some t.c.userId, companyId := some t.c.companyId
        phone := some (digits rest) }
  else if let some rest := command "verify" text then
    return t.request .verify "POST" "/customer-portal/link/verify" []
      { telegramUserId := some t.c.userId, code := some (digits rest) }
  else if let some rest := command "order" text then return t.orderCommand rest
  else match t.s.stage.bind Stage.contactField with
    | some field => t.enterContact field now
    | none => return t.plainText lang config now

def Turn.prepare (t : Turn) (config : Config) (data : Option String) (now : ℕ) : Outcome :=
  if t.c.eventId = "" ∨ t.c.eventId ∈ t.s.seen then return t
  else
    let t : Turn := { t with s := { t.s with seen := lastN 64 (t.s.seen ++ [t.c.eventId]) } }
    if t.s.submission.isSome then
      return t.say "Order တင်ထားမှုကို စစ်ဆေးနေပါတယ်။ ထပ်မတင်ဘဲ ဝန်ထမ်းထံ အတည်ပြုပေးပါ။"
    else
      let stalled := t.s.selection.any fun selection => now - selection.started > SELECTION_TTL
      let s := if stalled then { t.s with selection := none, stage := none } else t.s
      let t : Turn := { t with s := s }
      match data with
      | some data => t.callback lang data now
      | none => t.text lang config now

def Update.context (update : Update) (config : Config) : Context :=
  let callback := update.callbackQuery
  let message := (callback.bind CallbackQuery.message).or update.message
  let sender := (callback.bind CallbackQuery.sender).or (message.bind TelegramMessage.sender)
  let eventId := ((update.updateId.map toString).or (callback.bind CallbackQuery.id)).or
    ((message.bind TelegramMessage.messageId).map toString)
  { chatId := (message.bind TelegramMessage.chat).map fun chat => chat.id.toText
    userId := (sender.map fun sender => sender.id.toText).getD ""
    username := sender.bind fun sender => truthy sender.username
    companyId := config.companyId
    eventId := eventId.getD ""
    callbackId := truthy (callback.bind CallbackQuery.id)
    text := trim (((message.bind TelegramMessage.text)).getD "") }

def Update.isPrivate (update : Update) (c : Context) : Except Fault Bool :=
  let message := (update.callbackQuery.bind CallbackQuery.message).or update.message
  let sender := (update.callbackQuery.bind CallbackQuery.sender).or
    (message.bind TelegramMessage.sender)
  match message, sender with
  | some message, some _ => do
    let chat ← orTypeError message.chat
    return chat.type = "private" ∧ chat.id.toText = c.userId
  | _, _ => return false

def Store.alive (store : Store) (now : ℕ) : Store :=
  store.filter fun (_, session) => now - session.touched ≤ SESSION_TTL ∨ session.submission.isSome

def newShopper (companyId : String) (now : ℕ) : Shopper := { companyId := companyId, touched := now }

def Shopper.touch (s : Shopper) (now : ℕ) : Shopper :=
  let s := if s.issuedCards.isNone then
      rememberCards s s.catalogItems (((s.discovery.bind Discovery.started).filter (· ≠ 0)).getD now)
    else s
  { rememberCards s [] now with touched := now }

def prepare (store : Store) (update : Update) (config : Config) (now : ℕ) :
    Except Fault (Store × Context) := do
  let c := update.context config
  if !(← update.isPrivate c) then
    return (store, c.say "ဝယ်ယူရန် bot ရဲ့ private chat မှာ ဆက်သွယ်ပေးပါ။")
  let store := store.alive now
  let known := store.lookup c.userId
  if known.isNone ∧ store.length ≥ MAX_USERS then
    return (store, c.say "ခဏနေမှ ပြန်စမ်းပေးပါ။ ဆိုင်ဝန်ထမ်းကိုလည်း ဆက်သွယ်နိုင်ပါတယ်။")
  let moved := known.any fun s => s.companyId ≠ c.companyId
  if moved ∧ known.any fun s => s.submission.isSome then
    return (store, c.say "အရင် order ကို ဝန်ထမ်းထံ အတည်ပြုပေးပါ။")
  let store := if moved then remove store c.userId else store
  let s := ((store.lookup c.userId).getD (newShopper c.companyId now)).touch now
  let data := update.callbackQuery.map fun callback => callback.data.getD ""
  let t ← Turn.prepare lang { s := s, c := c } config data now
  return (assign store c.userId t.s, t.c)

/-! ## `respond` -/

def Shopper.noteProducts (s : Shopper) (products : List Product) (now : ℕ) : Shopper :=
  let cards := products.map fun p => (p.id, p.name)
  let s := rememberCards { s with
    catalog := products.map Product.id, focused := none, selection := none, stage := none
    catalogItems := cards } cards now
  let discovery := s.discovery.getD {}
  { s with discovery := some { discovery with
    seen := lastN 60 (unique (discovery.seen ++ products.map Product.id)) } }

def Body.currencyMismatch (body : Body) : Bool := body.matchType = some "currency_mismatch"

def Turn.sayNothingFound (t : Turn) (body : Body) : Turn :=
  if t.c.popular then
    t.say "အရောင်းမှတ်တမ်းအရ ထိပ်ဆုံး ၂၀ မျိုးထဲမှာ ရွေးထားတဲ့ size/ဈေးနှုန်းနဲ့ stock ရှိတဲ့ ပစ္စည်း မတွေ့ပါ။ ပစ္စည်းအမည်နဲ့ ဆက်ရှာနိုင်ပါတယ်။"
  else if body.currencyMismatch then
    t.say "သတ်မှတ်ထားတဲ့ currency နဲ့ မကိုက်ပါ။ ငွေလဲနှုန်းကို မခန့်မှန်းပါဘူး။ ဆိုင်သုံး currency နဲ့ ဈေးကန့်သတ်ချက် ပြန်ရေးပေးပါ။"
  else if body.next.isSome then
    t.say "စစ်ပြီးသလောက်မှာ ရွေးထားတဲ့ size/ဈေးနှုန်းနဲ့ ကိုက်တဲ့ပစ္စည်း မတွေ့သေးပါ။ နောက်ထပ်စစ်နိုင်ပါတယ်။"
  else
    t.say "ရွေးထားတဲ့ အမည်/size/ဈေးနှုန်းနဲ့ ကိုက်ပြီး လက်ကျန်ရှိတဲ့ ပစ္စည်း မတွေ့ပါ။ ရွေးချယ်မှုရှင်းပြီး သို့မဟုတ် ပစ္စည်းအမည်အသစ်နဲ့ ရှာနိုင်ပါတယ်။"

def Turn.showProducts (t : Turn) (products : List Product) (body : Body) (now : ℕ) : Outcome := do
  let t := if products = [] then t.sayNothingFound body else t
  let t ← products.foldlM (fun (t : Turn) p => t.catalogCard p) t
  let available := products.flatMap fun p => p.variants.filter fun v => v.quantityAvailable > 0
  let prices ← available.mapM fun v => cents v.unitPrice
  let discovery := { t.s.discovery.getD {} with
    lowPrice := prices.min?, currency := products.head?.map Product.currency }
  return Turn.discoveryControls { t with s := { t.s with discovery := some discovery } } body.next now

/-- The answer to `search`. Two pages without a product are gone past by themselves. -/
def Turn.applySearch (t : Turn) (body : Option Body) (now : ℕ) : Outcome :=
  match body, body.bind Body.products with
  | some body, some found =>
    let products := found.take 3
    let t : Turn := { t with s := t.s.noteProducts products now }
    let next := if products = [] ∧ t.c.discoveryPages < 2 ∧ ¬ body.currencyMismatch then body.next
      else none
    match next with
    | some next =>
      let c := { t.c with discoveryPages := t.c.discoveryPages + 1 }
      return Turn.discover { t with c := c } now next
    | none => t.showProducts products body now
  | _, _ =>
    return t.say "ဆိုင် server အချက်အလက်ရယူရာမှာ အခက်အခဲရှိနေပါတယ်။ ခဏနေမှ ပြန်စမ်းပေးပါ။"

def prePick (s : Shopper) (selection : Selection) (variants : List Variant) (kind : AttributeKind) :
    Selection × List Variant :=
  let preferred := truthy (if kind = .size then s.preferences.size else s.preferences.color)
  match preferred with
  | none => (selection, variants)
  | some preferred =>
    match (variants.flatMap Variant.attributes).find? fun a => a.kind = kind ∧
        (if kind = .color then canonicalColor lang a.value = canonicalColor lang preferred
          else lang.toUpperCase a.value = lang.toUpperCase preferred) with
    | none => (selection, variants)
    | some option =>
      ({ selection with picks := assign selection.picks kind option.id },
        variants.filter fun v => v.attributes.any fun a => a.id = option.id)

/-- What `buy` does with the limit the shopper has set: the selection to go on with, or
the prices the shopper has to agree to. -/
def withinBudget (selection : Selection) (c : Context) (p : Product) :
    Except Fault (Selection ⊕ Cents × Cents) := do
  let some maxPrice := truthy selection.filters.maxPrice
    | return .inl selection
  let available := eligibleVariants lang p { selection.filters with maxPrice := none } true
  let prices ← available.mapM fun v => cents v.unitPrice
  let some price := prices.min?
    | return .inl selection
  let ceiling := (prices.max?).getD price
  if price > (← cents maxPrice) then
    if c.budgetOverride.any fun o =>
        o.productId = p.id ∧ o.price = ceiling ∧ o.currency = p.currency then
      return .inl { selection with filters := { selection.filters with
        maxPrice := some (money ceiling) } }
    else return .inr (price, ceiling)
  else return .inl selection

def Shopper.newSelection (s : Shopper) (p : Product) (now : ℕ) : Selection :=
  { productId := p.id
    filters := { maxPrice := truthy s.preferences.maxPrice, currency := truthy s.preferences.currency }
    started := now }

/-- The selection `buy` and `inspect_options` start from: that of the session where the
options of the same product are looked at again. -/
def Shopper.selectionFor (s : Shopper) (op : Op) (p : Product) (now : ℕ) : Selection × Bool :=
  match s.selection with
  | some selection =>
    if op = .inspectOptions ∧ selection.productId = p.id then (selection, true)
    else (s.newSelection p now, false)
  | none => (s.newSelection p now, false)

def Turn.confirmBudget (t : Turn) (p : Product) (price ceiling : Cents) (now : ℕ) : Turn :=
  let token := nonce t.s now
  let confirmation : BudgetConfirmation :=
    { productId := p.id, price := ceiling, currency := p.currency, token := token, started := now }
  let s := { t.s with
    budgetConfirmation := some confirmation, selection := none, stage := none, seq := t.s.seq + 1 }
  let range := money price ++ if ceiling ≠ price then " – " ++ money ceiling else ""
  Turn.say { t with s := s }
    (p.name ++ "\nလက်ရှိဈေး " ++ range ++ " " ++ p.currency
      ++ " က ရှာထားတဲ့ ဈေးကန့်သတ်ချက်ထက် မြင့်ပါတယ်။ ဒီဈေးနဲ့ ဆက်ရွေးမလား?")
    [[btn "ဒီဈေးနဲ့ ဆက်ရွေးမယ်" ("shop:budget:" ++ token)]]

def prePicks (s : Shopper) (selection : Selection) (p : Product) : Selection :=
  let variants := eligibleVariants lang p selection.filters true
  let (selection, variants) := prePick lang s selection variants .size
  (prePick lang s selection variants .color).1

/-- The options of the selection; `inspect_options` asks for one kind of them again. -/
def Turn.openOptions (t : Turn) (op : Op) (selection : Selection) (p : Product) (now : ℕ) : Turn :=
  let selection := if op = .inspectOptions then
      { selection with
        picks := (t.c.optionKind.map fun kind => remove selection.picks kind).getD selection.picks
        variantId := none }
    else selection
  Turn.options lang { t with s := { t.s with selection := some selection } } selection p now
    (if op = .inspectOptions then t.c.optionKind else none)

/-- The answer to `buy` and to `inspect_options`. -/
def Turn.applyOptions (t : Turn) (op : Op) (p : Product) (now : ℕ) : Outcome :=
  let (selection, preserve) := t.s.selectionFor op p now
  let t : Turn := { t with s := { t.s with focused := some p.id } }
  if preserve then return t.openOptions lang op selection p now
  else do
    match ← withinBudget lang selection t.c p with
    | .inr (price, ceiling) => return t.confirmBudget p price ceiling now
    | .inl selection => return t.openOptions lang op (prePicks lang t.s selection p) p now

/-- The answer to `pick`. -/
def Turn.applyPick (t : Turn) (p : Product) (now : ℕ) : Outcome :=
  match t.s.selection with
  | none => return t.stale
  | some selection =>
    if selection.token ≠ t.c.selectionToken ∨ selection.productId ≠ p.id then return t.stale
    else match t.c.pick with
      | none => .error .typeError
      | some (kind, id) =>
        let selection := { selection with picks := assign selection.picks kind id }
        return Turn.options lang { t with s := { t.s with selection := some selection } } selection p now

/-- The answer to `quantity`. -/
def Turn.applyQuantity (t : Turn) (p : Product) (now : ℕ) : Outcome :=
  match t.s.selection with
  | none => return t.stale
  | some selection =>
    if selection.token ≠ t.c.selectionToken ∨ selection.productId ≠ p.id then return t.stale
    else match p.variants.find? fun v => some v.id = selection.variantId ∧ selection.picked v with
      | none => return t.say "ရွေးထားတဲ့ variant မရနိုင်တော့ပါ။ ပစ္စည်းကို ပြန်ရွေးပေးပါ။"
      | some variant =>
        if (eligibleVariants lang p selection.filters true).any fun v => v.id = variant.id then
          t.addVariant p variant t.c.amount now
        else
          return t.say "ရွေးထားတဲ့ size/ဈေးကန့်သတ်ချက် သို့မဟုတ် လက်ကျန် ပြောင်းသွားပါတယ်။ ပစ္စည်းကို ပြန်ရွေးပေးပါ။"

/-- The variant an item of an `/order` means, among the products found. -/
def findSku (products : List Product) (sku : String) : Option (Product × Variant) :=
  products.findSome? fun p =>
    (p.variants.find? fun v => lang.toLowerCase v.sku = lang.toLowerCase sku).map fun v => (p, v)

/-- The answer to `legacy`. -/
def Turn.applyLegacy (t : Turn) (body : Body) (now : ℕ) : Outcome := do
  let item ← orTypeError t.c.legacyItems[t.c.legacyIndex]?
  match findSku lang (body.products.getD []) item.sku with
  | none =>
    return t.say (item.sku ++ " ကို မတွေ့ပါ။ အရင်ထည့်ထားတဲ့ cart ကို /cart နဲ့ ကြည့်နိုင်ပါတယ်။")
  | some (p, v) =>
    let t ← t.addVariant p v item.quantity now
    if ¬ t.c.itemAdded then return t
    else
      let t : Turn := { t with c := { t.c with legacyIndex := t.c.legacyIndex + 1 } }
      match t.c.legacyItems[t.c.legacyIndex]? with
      | some next => return t.askLegacy next
      | none => return t

/-- The answer to `verify`. -/
def Turn.applyVerify (t : Turn) (body : Body) (now : ℕ) : Turn :=
  let s := { t.s with
    customerId := body.customerId, name := body.customerName, phone := none, address := none
    profileDirty := false, stage := none, cartToken := some (nonce t.s now), seq := t.s.seq + 1 }
  Turn.say { t with s := s }
    "Customer account ချိတ်ပြီးပါပြီ။ /cart ကနေ Checkout ဆက်လုပ်နိုင်ပါတယ်။"

/-- The answer to `check_account`. -/
def Turn.applyCheckAccount (t : Turn) (body : Body) : Turn :=
  let s := { t.s with customerId := body.customerId, name := body.name, phone := body.phone }
  Turn.say { t with s := s }
    ("📦 လူကြီးမင်း၏ ချိတ်ဆက်ထားသော အကောင့် —\n\n👤 အမည်: " ++ printed body.name ++ "\n📞 ဖုန်း: "
      ++ printed body.phone ++ "\n\nလူကြီးမင်း၏ အော်ဒါအခြေအနေများကို စစ်ဆေးရန် ဝန်ထမ်းများက အမြဲ အဆင်သင့်ရှိနေပါသည်ခင်ဗျာ။\nအော်ဒါအသစ် ထပ်မံဝယ်ယူလိုပါက အောက်ပါခလုတ်ကို နှိပ်နိုင်ပါသည် —")
    [[btn "🛍️ ပစ္စည်းများ ကြည့်မည်" "menu:browse", btn "🛒 Cart ကြည့်မည်" "menu:cart"],
      [btn "🔙 ပင်မမီနူးသို့" "menu:main"]]

/-- The contact data `checkout` goes on with. -/
def Shopper.linkCustomer (s : Shopper) (body : Body) : Shopper :=
  let other := (truthy s.customerId).isSome ∧ (truthy body.customerId).isSome
    ∧ s.customerId ≠ body.customerId
  let s := if other then { s with address := none, profileDirty := false } else s
  let s := { s with customerId := body.customerId }
  if s.profileDirty then s else { s with name := body.name, phone := body.phone }

def orderItemsOf (cart : List CartLine) : List OrderItem :=
  cart.map fun v => { sku := v.sku, quantity := v.quantity }

def Turn.submitRequest (t : Turn) : Outcome := do
  let submission ← orTypeError t.s.submission
  let s := { t.s with submission := some { submission with status := .sending } }
  return Turn.request { t with s := s } .createOrder "POST" "/customer-portal/orders" []
    { telegramUserId := some t.c.userId, telegramUsername := t.c.username
      deliveryAddress := t.s.address, items := some (orderItemsOf t.s.cart) }

def CartLine.variantIn (line : CartLine) (p : Product) : Option Variant :=
  p.variants.find? fun v => v.id = line.variantId ∧ v.sku = line.sku

def Turn.abortSubmission (t : Turn) (now : ℕ) : Outcome :=
  Turn.renderCart { t with s := { t.s with submission := none } } now
    "လက်ကျန်ပြောင်းသွားပါတယ်။ Cart ကို ဖျက်ပြီး ပစ္စည်းပြန်ရွေးပေးပါ။\n"

def Turn.lineChecked (t : Turn) : Outcome :=
  let t : Turn := { t with c := { t.c with checkIndex := t.c.checkIndex + 1 } }
  match t.s.cart[t.c.checkIndex]? with
  | some next => return t.detail next.productId .validateCart
  | none =>
    if t.s.profileDirty then
      return t.request .profile "PATCH" "/customer-portal/me" []
        { telegramUserId := some t.c.userId, name := t.s.name, phone := t.s.phone }
    else t.submitRequest

/-- The answer to `validate_cart`. -/
def Turn.applyValidation (t : Turn) (p : Product) (now : ℕ) : Outcome :=
  match t.s.cart[t.c.checkIndex]? with
  | none => if p.variants = [] then t.abortSubmission now else .error .typeError
  | some line =>
    match line.variantIn p with
    | none => t.abortSubmission now
    | some variant =>
      if variant.quantityAvailable < line.quantity then t.abortSubmission now
      else do
        if (← cents variant.unitPrice) ≠ (← cents line.unitPrice) then
          let cart := t.s.cart.set t.c.checkIndex { line with unitPrice := variant.unitPrice }
          Turn.checkout { t with s := { t.s with cart := cart, submission := none } } now
            "ဈေးနှုန်းပြောင်းသွားပါတယ်။ အသစ်ကို စစ်ပြီး ပြန်အတည်ပြုပေးပါ။\n"
        else t.lineChecked

def Turn.leaveUncertain (t : Turn) (text : String) : Outcome := do
  let submission ← orTypeError t.s.submission
  let s := { t.s with submission := some { submission with status := .uncertain } }
  return Turn.say { t with s := s } text

/-- The answer to `create_order`. -/
def Turn.applyOrder (t : Turn) (body : Body) (now : ℕ) : Outcome :=
  match body.sale, truthy (body.sale.bind SaleSummary.saleNumber), truthy body.onlineOrderId with
  | some sale, some saleNumber, some onlineOrder =>
    let s := { t.s with
      cart := [], selection := none, stage := none, submission := none
      cartToken := some (nonce t.s now), seq := t.s.seq + 1 }
    let c := { t.c with orderCreated := true, sale := some sale, onlineOrder := some onlineOrder }
    return Turn.say { s := s, c := c }
      ("Order လက်ခံရရှိပါပြီ။\nအမှတ်: " ++ saleNumber ++ "\nစုစုပေါင်း: " ++ sale.grandTotal ++ " "
        ++ sale.currency ++ "\nဝန်ထမ်းဘက်က စစ်ပြီး အတည်ပြုပေးပါမယ်။")
  | _, _, _ =>
    t.leaveUncertain "Order အခြေအနေကို ဝန်ထမ်းထံ အတည်ပြုပေးပါ။ ထပ်မတင်ပါနှင့်။"

def Turn.applyFailure (t : Turn) (status : ℕ) : Outcome :=
  if t.c.op = some .createOrder then
    t.leaveUncertain "Order အခြေအနေကို အတည်မပြုနိုင်သေးပါ။ ထပ်မတင်ဘဲ ဝန်ထမ်းထံ ဆက်သွယ်ပေးပါ။"
  else
    let t : Turn := { t with s := { t.s with submission := none } }
    if status = 403 ∧ (t.c.op = some .checkout ∨ t.c.op = some .profile) then
      return t.say "အရင် customer account ချိတ်ပေးပါ — /link ဖုန်းနံပါတ်၊ ပြီးရင် /verify code။ Cart ကို သိမ်းထားပါတယ်။"
    else if t.c.op = some .checkAccount then
      return t.say "📦 အော်ဒါအခြေအနေ စစ်ဆေးရန် လူကြီးမင်း၏ ဖုန်းနံပါတ်ဖြင့် အကောင့်ချိတ်ဆက်ပေးရန် လိုအပ်ပါသည်ခင်ဗျာ။\n\n👉 ချိတ်ဆက်ရန်: /link <ဖုန်းနံပါတ်>\nဥပမာ — /link 09123456789\n(SMS ကုဒ်ရောက်လာပါက /verify <ကုဒ်> ဖြင့် အတည်ပြုပေးပါ)"
    else
      return t.say "အချက်အလက်ရယူရာမှာ အခက်အခဲရှိနေပါတယ်။ /cart သို့မဟုတ် ပစ္စည်းအမည်နဲ့ ပြန်စမ်းပေးပါ။"

def Turn.applySuccess (t : Turn) (body : Option Body) (now : ℕ) : Outcome :=
  let product := orTypeError (body.bind Body.product)
  match t.c.op with
  | some .search => t.applySearch body now
  | some .chat => do
    let body ← orTypeError body
    let s := { t.s with conversationId := (truthy body.conversationId).or t.s.conversationId }
    return Turn.say { t with s := s } ((truthy body.content).getD "ခဏနေမှ ပြန်စမ်းပေးပါ။")
  | some .view => do
    let p ← product
    Turn.catalogCard { t with s := { t.s with focused := some p.id } } p true
  | some .buy => do t.applyOptions lang .buy (← product) now
  | some .inspectOptions => do t.applyOptions lang .inspectOptions (← product) now
  | some .pick => do t.applyPick lang (← product) now
  | some .quantity => do t.applyQuantity lang (← product) now
  | some .legacy => do t.applyLegacy lang (← orTypeError body) now
  | some .link => do
    let body ← orTypeError body
    return t.say ("Telegram ချိတ်ဆက် code: " ++ printed body.code ++ "\n/verify " ++ printed body.code
      ++ " လို့ ပို့ပေးပါ။ ဒီ code က SMS ဖုန်းပိုင်ရှင်စစ်ခြင်း မဟုတ်ပါ။")
  | some .verify => do return t.applyVerify (← orTypeError body) now
  | some .checkAccount => do return t.applyCheckAccount (← orTypeError body)
  | some .checkout => do
    Turn.checkout { t with s := t.s.linkCustomer (← orTypeError body) } now
  | some .validateCart => do t.applyValidation (← product) now
  | some .profile => Turn.submitRequest { t with s := { t.s with profileDirty := false } }
  | some .createOrder => do t.applyOrder (← orTypeError body) now
  | some .assistant | none => return t.say "မသိတဲ့လုပ်ဆောင်ချက် ဖြစ်နေပါတယ်။ /cart နဲ့ ပြန်စစ်ပေးပါ။"

def Turn.respond (t : Turn) (response : Response) (now : ℕ) : Outcome :=
  if t.c.hops > MAX_LINES + 5 then
    let checking := t.s.submission.any fun submission => submission.status = .checking
    let s := if checking then { t.s with submission := none } else t.s
    return Turn.say { t with s := s } "အဆင့်များနေပါသည်။ /cart နဲ့ ပြန်စစ်ပေးပါ။"
  else if (truthy t.c.submissionId).isSome ∧ t.s.submission.map Submission.id ≠ t.c.submissionId then
    return t.stale
  else if t.c.op = some .assistant then
    if response.ok then t.applyAssistant lang (response.body.bind Body.proposal) now
    else return t.assistantFallback lang now
  else if ¬ response.ok then t.applyFailure response.statusCode
  else
    Turn.applySuccess lang { t with s := { t.s with touched := now } } response.body now

def Context.next (c : Context) : Context :=
  { c with messages := [], request := none, hops := c.hops + 1 }

def respond (store : Store) (context : Context) (response : Response) (now : ℕ) :
    Except Fault (Store × Context) := do
  let c := context.next
  let some s := store.lookup c.userId
    | return (store, c.stale)
  let t ← Turn.respond lang { s := s, c := c } response now
  return (assign store c.userId t.s, t.c)

end Shopping

end FashionErp
