/-
`identifyUpdate` and `normalizeUpdate` of `services/shopping-session.ts`, beside what `prepare` reads
of an update.

All three read any JSON, each with operators of its own: `??` and `object` here, `?.` and `||`
there.
-/
import FashionErp.Lib.Json
import FashionErp.Shopping.Shopping

namespace FashionErp

open Lib

namespace Shopping

/-! ## Values of any kind -/

class JsNumber (ν : Type) where
  safeInteger : ν → Option ℤ
  text : ν → String
  text_safe : ∀ n i, safeInteger n = some i → text n = toString i

abbrev JsonObject (ν : Type) := List (String × Json ν)

variable {ν : Type}

/-- `object(value)`; what is missing is `undefined`. -/
def object : Option (Json ν) → JsonObject ν
  | some (.object properties) => properties
  | _ => []

@[simp] theorem object_some (o : JsonObject ν) : object (some (.object o)) = o := rfl

/-- `value?.key`, for a key that nothing but an object has. -/
def field (value : Option (Json ν)) (key : String) : Option (Json ν) := (object value).lookup key

/-- `a ?? b`. -/
def coalesce (a b : Option (Json ν)) : Option (Json ν) :=
  match a with
  | none => b
  | some .null => b
  | some v => some v

def text? : Option (Json ν) → Option String
  | some (.string s) => some s
  | _ => none

variable {value : Option (Json ν)}

theorem object_eq (h : object value ≠ []) : value = some (.object (object value)) := by
  unfold object at *
  split at h
  · rfl
  · exact absurd rfl h

theorem ne_nil_of_lookup {o : JsonObject ν} {key : String} {value : Json ν}
    (h : o.lookup key = some value) : o ≠ [] := by
  rintro rfl
  cases h

theorem eq_map_text? {p : String → Bool} (h : ¬ (value.isSome ∧ ¬ (text? value).any p)) :
    value = (text? value).map .string ∧ ∀ s ∈ text? value, p s = true := by
  cases value with
  | none => exact ⟨rfl, fun s hs => by cases hs⟩
  | some value =>
    have hany : (text? (some value)).any p = true := by
      by_contra hno
      exact h ⟨rfl, hno⟩
    cases value with
    | string s =>
      refine ⟨rfl, fun s' hs => ?_⟩
      cases hs
      exact hany
    | _ => cases hany

variable [JsNumber ν]

def isTruthy : Option (Json ν) → Bool
  | none => false
  | some .null => false
  | some (.bool b) => b
  | some (.number n) => JsNumber.safeInteger n ≠ some 0
  | some (.string s) => s ≠ ""
  | some (.array _) => true
  | some (.object _) => true

/-- `a || b`. -/
def orFalsy (a b : Option (Json ν)) : Option (Json ν) := if isTruthy a then a else b

mutual

/-- `String(value)`. -/
def jsString : Json ν → String
  | .null => "null"
  | .bool b => toString b
  | .number n => JsNumber.text n
  | .string s => s
  | .array elements => String.intercalate "," (jsStrings elements)
  | .object _ => "[object Object]"

def jsStrings : List (Json ν) → List String
  | [] => []
  | .null :: elements => "" :: jsStrings elements
  | v :: elements => jsString v :: jsStrings elements

end

def jsText (value : Option (Json ν)) : String := (value.map jsString).getD "undefined"

/-! ## The normal form -/

def telegramId : Option (Json ν) → String
  | some (.string s) =>
    match s.toList with
    | [] => ""
    | d :: ds => if d.isDigit ∧ d ≠ '0' ∧ ds.length ≤ 19 ∧ ds.all Char.isDigit then s else ""
  | some (.number n) =>
    match JsNumber.safeInteger n with
    | some i => if i > 0 then JsNumber.text n else ""
    | none => ""
  | _ => ""

structure BadRequestException where
  message : String

def safeInteger? : Option (Json ν) → Option ℤ
  | some (.number n) => JsNumber.safeInteger n
  | _ => none

def identifyUpdate (update : JsonObject ν) : Except BadRequestException (String × String) :=
  let callback := object (update.lookup "callback_query")
  let message := object (coalesce (callback.lookup "message") (update.lookup "message"))
  let sender := object (coalesce (callback.lookup "from") (message.lookup "from"))
  let chat := object (message.lookup "chat")
  if ¬ (safeInteger? (update.lookup "update_id")).any (0 ≤ ·) ∨ telegramId (sender.lookup "id") = ""
      ∨ text? (chat.lookup "type") ≠ some "private"
      ∨ telegramId (chat.lookup "id") ≠ telegramId (sender.lookup "id") then
    throw ⟨"A private Telegram update with matching sender and stable update_id is required"⟩
  else if (message.lookup "text").isSome ∧
      ¬ (text? (message.lookup "text")).any (jsLength · ≤ 4096) then
    throw ⟨"Invalid Telegram text"⟩
  else if (callback.lookup "data").isSome ∧
      ¬ (text? (callback.lookup "data")).any (·.utf8ByteSize ≤ 64) then
    throw ⟨"Invalid callback data"⟩
  else return (telegramId (sender.lookup "id"), jsText (update.lookup "update_id"))

/-- A property; one that is `undefined` is none. -/
def property (key : String) (value : Option (Json ν)) : JsonObject ν := value.toList.map (key, ·)

def normalizeUpdate (update : JsonObject ν) : Except BadRequestException (JsonObject ν) := do
  let _who ← identifyUpdate update
  let callback := object (update.lookup "callback_query")
  let message := object (coalesce (callback.lookup "message") (update.lookup "message"))
  let sender := object (coalesce (callback.lookup "from") (message.lookup "from"))
  let chat := object (message.lookup "chat")
  let normalizedSender : Json ν := .object (property "id" (sender.lookup "id") ++
    property "username" (((text? (sender.lookup "username")).map (slice 64)).map .string))
  let normalizedMessage : Json ν := .object
    ([("chat", .object (property "id" (chat.lookup "id") ++ [("type", .string "private")])),
      ("from", normalizedSender)] ++ property "text" ((text? (message.lookup "text")).map .string))
  return property "update_id" (update.lookup "update_id") ++
    if isTruthy (update.lookup "callback_query") then
      [("callback_query", .object
        ([("id", .string (((text? (callback.lookup "id")).map (slice 128)).getD "")),
          ("from", normalizedSender), ("message", normalizedMessage)] ++
          property "data" (coalesce (callback.lookup "data") (some (.string "")))))]
    else [("message", normalizedMessage)]

/-! ## What `prepare` reads -/

/-- `callback?.message || update.message`. -/
def engineMessage (update : JsonObject ν) : Option (Json ν) :=
  orFalsy (field (update.lookup "callback_query") "message") (update.lookup "message")

/-- `callback?.from || message?.from`. -/
def engineSender (update : JsonObject ν) : Option (Json ν) :=
  orFalsy (field (update.lookup "callback_query") "from") (field (engineMessage update) "from")

/-- `message?.chat?.id`. -/
def engineChatId (update : JsonObject ν) : Option (Json ν) := field (field (engineMessage update) "chat") "id"

def engineContext (update : JsonObject ν) (config : Config) : Context :=
  let callback := update.lookup "callback_query"
  let shown (value : Option (Json ν)) : Option String :=
    if isTruthy value then some (jsText value) else none
  { chatId := (engineChatId update).map jsString
    userId := jsText (orFalsy (field (engineSender update) "id") (some (.string "")))
    username := shown (field (engineSender update) "username")
    companyId := config.companyId
    eventId := jsText (coalesce (coalesce (coalesce (update.lookup "update_id") (field callback "id"))
      (field (engineMessage update) "message_id")) (some (.string "")))
    callbackId := shown (field callback "id")
    text := trim (jsText (orFalsy (field (engineMessage update) "text") (some (.string "")))) }

def enginePrivate (update : JsonObject ν) (userId : String) : Except Fault Bool :=
  if isTruthy (engineMessage update) ∧ isTruthy (engineSender update) then
    match field (engineMessage update) "chat" with
    | none => .error .typeError
    | some .null => .error .typeError
    | some chat => .ok (text? (field (some chat) "type") = some "private" ∧
        jsText (field (some chat) "id") = userId)
  else .ok false

/-- The data of the callback, if there is one; what is no text has no `split`. -/
def engineData (update : JsonObject ν) : Except Fault (Option String) :=
  let callback := update.lookup "callback_query"
  if isTruthy callback then
    (orTypeError (text? (orFalsy (field callback "data") (some (.string ""))))).map some
  else .ok none

variable (lang : Language)

/-- `Turn.prepare`, which looks at the data once the event is new and no order is under way. -/
def Turn.prepareWith (t : Turn) (config : Config) (data : Except Fault (Option String)) (now : ℕ) :
    Outcome :=
  match data with
  | .ok data => t.prepare lang config data now
  | .error fault =>
    if t.c.eventId = "" ∨ t.c.eventId ∈ t.s.seen ∨ t.s.submission.isSome then
      t.prepare lang config (some "") now
    else .error fault

/-- `prepare` after it has read the update. -/
def prepareWith (store : Store) (c : Context) (isPrivate : Except Fault Bool)
    (data : Except Fault (Option String)) (config : Config) (now : ℕ) :
    Except Fault (Store × Context) := do
  if !(← isPrivate) then
    return (store, c.say "ဝယ်ယူရန် bot ရဲ့ private chat မှာ ဆက်သွယ်ပေးပါ။")
  let store := store.alive now
  let known := store.lookup c.userId
  if known.isNone ∧ store.length ≥ MAX_USERS then
    return (store, c.say "ခဏနေမှ ပြန်စမ်းပေးပါ။ ဆိုင်ဝန်ထမ်းကိုလည်း ဆက်သွယ်နိုင်ပါတယ်။")
  let moved := known.any fun s => s.companyId ≠ c.companyId
  if moved ∧ known.any fun s => s.submission.isSome then
    return (store, c.say "အရင် order ကို ဝန်ထမ်းထံ အတည်ပြုပေးပါ။")
  let store := if moved then remove store c.userId else store
  let s := ((store.lookup c.userId).getD (newShopper c.companyId now)).touch now
  let t ← Turn.prepareWith lang { s := s, c := c } config data now
  return (assign store c.userId t.s, t.c)

/-- `prepare` of an update as it comes. -/
def prepareJson (store : Store) (update : JsonObject ν) (config : Config) (now : ℕ) :
    Except Fault (Store × Context) :=
  let c := engineContext update config
  prepareWith lang store c (enginePrivate update c.userId) (engineData update) config now

theorem prepare_eq (store : Store) (update : Update) (config : Config) (now : ℕ) :
    prepare lang store update config now =
      prepareWith lang store (update.context config) (update.isPrivate (update.context config))
        (.ok (update.callbackQuery.map fun callback => callback.data.getD "")) config now := rfl

/-! ## Fields the engine does not look at -/

section

abbrev Context.marked (c : Context) (username callbackId : Option String) : Context :=
  { c with username := username, callbackId := callbackId }

abbrev Turn.marked (t : Turn) (u k : Option String) : Turn := { t with c := t.c.marked u k }

variable (config : Config) (t : Turn) (u k : Option String) (now : ℕ)

theorem marked_ite (p : Prop) [Decidable p] (t t' : Turn) :
    (if p then t else t').marked u k = if p then t.marked u k else t'.marked u k :=
  apply_ite (Turn.marked · u k) p t t'

theorem map_marked_ite (p : Prop) [Decidable p] (o o' : Outcome) :
    (if p then o else o').map (Turn.marked · u k) =
      if p then o.map (Turn.marked · u k) else o'.map (Turn.marked · u k) :=
  apply_ite (Except.map (Turn.marked · u k)) p o o'

theorem discoveryAction_marked (action : DiscoveryAction) :
    (t.marked u k).discoveryAction action now = (t.discoveryAction action now).marked u k := by
  unfold Turn.discoveryAction
  dsimp only
  repeat' split
  all_goals rfl

theorem renderCart_marked (heading : String) :
    (t.marked u k).renderCart now heading = (t.renderCart now heading).map (Turn.marked · u k) := by
  unfold Turn.renderCart
  dsimp only
  split
  · rfl
  · cases List.mapM CartLine.amount t.s.cart <;> rfl

theorem checkout_marked (heading : String) :
    (t.marked u k).checkout now heading = (t.checkout now heading).map (Turn.marked · u k) := by
  unfold Turn.checkout
  dsimp only
  split
  · rfl
  · cases List.mapM CartLine.amount t.s.cart <;> rfl

theorem menuCallback_marked (parts : List String) :
    (t.marked u k).menuCallback lang parts now = (t.menuCallback lang parts now).map (Turn.marked · u k) := by
  unfold Turn.menuCallback
  split
  all_goals first | rfl | exact renderCart_marked ..

theorem discoverCallback_marked (parts : List String) :
    (t.marked u k).discoverCallback parts now = (t.discoverCallback parts now).marked u k := by
  unfold Turn.discoverCallback
  dsimp only
  repeat' split
  all_goals first | rfl | exact discoveryAction_marked ..

theorem cardCallback_marked (id : Option String) (op : Op) :
    (t.marked u k).cardCallback id op = (t.cardCallback id op).marked u k := by
  unfold Turn.cardCallback
  cases id with
  | none => rfl
  | some id =>
    simp only [marked_ite]
    rfl

theorem shopCallback_marked (parts : List String) :
    (t.marked u k).shopCallback parts now = (t.shopCallback parts now).marked u k := by
  unfold Turn.shopCallback
  dsimp only
  repeat' split
  all_goals first | rfl | exact cardCallback_marked ..

theorem cartCallback_marked (parts : List String) :
    (t.marked u k).cartCallback parts now = (t.cartCallback parts now).map (Turn.marked · u k) := by
  unfold Turn.cartCallback
  dsimp only
  by_cases htoken : parts[2]? ≠ t.s.cartToken
  · rw [if_pos htoken, if_pos htoken]
    rfl
  · rw [if_neg htoken, if_neg htoken]
    split
    all_goals first | rfl | exact renderCart_marked .. | skip
    rw [map_marked_ite]
    congr 1
    exact checkout_marked ..

theorem callback_marked (data : String) :
    (t.marked u k).callback lang data now = (t.callback lang data now).map (Turn.marked · u k) := by
  unfold Turn.callback
  dsimp only
  split
  · exact menuCallback_marked ..
  · exact congrArg Except.ok (discoverCallback_marked ..)
  · exact congrArg Except.ok (shopCallback_marked ..)
  · exact cartCallback_marked ..
  · rfl

theorem followup_marked (f : Followup) :
    (t.marked u k).followup lang config f now = (t.followup lang config f now).marked u k := by
  unfold Turn.followup
  dsimp only
  repeat' split
  all_goals first | rfl | exact discoveryAction_marked ..

theorem answerOption_marked (selection : Selection) :
    (t.marked u k).answerOption lang selection =
      (t.answerOption lang selection).map (Turn.marked · u k) := by
  unfold Turn.answerOption
  dsimp only
  repeat' split
  all_goals rfl

theorem freeText_marked :
    (t.marked u k).freeText lang config now = (t.freeText lang config now).marked u k := by
  unfold Turn.freeText
  dsimp only
  repeat' split
  all_goals rfl

theorem plainText_marked :
    (t.marked u k).plainText lang config now = (t.plainText lang config now).marked u k := by
  unfold Turn.plainText
  dsimp only
  cases lang.intent t.c.text with
  | some f => exact followup_marked ..
  | none =>
    dsimp only
    split
    · split
      · rfl
      · rw [marked_ite]
        rfl
    · rw [answerOption_marked, freeText_marked]
      cases t.answerOption lang _ <;> rfl
    · exact freeText_marked ..

theorem orderCommand_marked (rest : String) :
    (t.marked u k).orderCommand rest = (t.orderCommand rest).marked u k := by
  unfold Turn.orderCommand
  split <;> rfl

theorem cartCommand_marked (rest : String) :
    (t.marked u k).cartCommand lang rest now = (t.cartCommand lang rest now).map (Turn.marked · u k) := by
  unfold Turn.cartCommand
  dsimp only
  rw [map_marked_ite]
  congr 1
  exact renderCart_marked ..

theorem enterContact_marked (field : ContactField) :
    (t.marked u k).enterContact field now = (t.enterContact field now).map (Turn.marked · u k) := by
  unfold Turn.enterContact
  dsimp only
  cases field.read t.c.text with
  | none => rfl
  | some value => exact checkout_marked { t with s := t.s.enter field value } ..

theorem text_marked :
    (t.marked u k).text lang config now = (t.text lang config now).map (Turn.marked · u k) := by
  unfold Turn.text
  dsimp only
  repeat' split
  all_goals first
    | rfl
    | exact cartCommand_marked ..
    | exact enterContact_marked ..
    | exact congrArg Except.ok (orderCommand_marked ..)
    | exact congrArg Except.ok (plainText_marked ..)

theorem prepare_marked (data : Option String) : (t.marked u k).prepare lang config data now =
    (t.prepare lang config data now).map (Turn.marked · u k) := by
  unfold Turn.prepare
  dsimp only
  split
  · rfl
  · split
    · rfl
    · cases data with
      | none => exact text_marked lang config { t with s := _ } ..
      | some data => exact callback_marked lang { t with s := _ } ..

theorem turnWith_marked (data : Except Fault (Option String)) :
    (t.marked u k).prepareWith lang config data now =
      (t.prepareWith lang config data now).map (Turn.marked · u k) := by
  unfold Turn.prepareWith
  cases data with
  | ok data => exact prepare_marked ..
  | error fault =>
    dsimp only
    split
    · exact prepare_marked ..
    · rfl

theorem prepareWith_marked (store : Store) (c : Context) (isPrivate : Except Fault Bool)
    (data : Except Fault (Option String)) :
    prepareWith lang store (c.marked u k) isPrivate data config now =
      (prepareWith lang store c isPrivate data config now).map fun (store, c) => (store, c.marked u k) := by
  unfold prepareWith
  cases isPrivate with
  | error fault => rfl
  | ok b =>
    cases b with
    | false => rfl
    | true =>
      dsimp only [bind, Except.bind, pure, Except.pure]
      simp only [Bool.not_true, Bool.false_eq_true, if_false]
      split
      · rfl
      · split
        · rfl
        · generalize hs : (Option.getD _ _ : Shopper).touch now = s
          have hturn := turnWith_marked lang config { s := s, c := c } u k now data
          rw [hturn]
          cases Turn.prepareWith lang { s := s, c := c } config data now <;> rfl

end

/-! ## What an accepted update shows -/

structure Reading (ν : Type) where
  updateId : Json ν
  chatId : Json ν
  senderId : Json ν
  text : Option String
  data : Option String

def Reading.who (v : Reading ν) : String × String := (telegramId (some v.senderId), jsString v.updateId)

structure Valid (v : Reading ν) : Prop where
  updateId : (safeInteger? (some v.updateId)).any (0 ≤ ·) = true
  senderId : telegramId (some v.senderId) ≠ ""
  chatId : telegramId (some v.chatId) = telegramId (some v.senderId)
  text : ∀ s ∈ v.text, jsLength s ≤ 4096
  data : ∀ d ∈ v.data, d.utf8ByteSize ≤ 64

/-- `update` shows `v` in the message `m`, the sender `f` and the chat `ch`. -/
structure Shows (update : JsonObject ν) (v : Reading ν) (m f ch : JsonObject ν) : Prop where
  message : coalesce ((object (update.lookup "callback_query")).lookup "message")
    (update.lookup "message") = some (.object m)
  sender : coalesce ((object (update.lookup "callback_query")).lookup "from") (m.lookup "from") =
    some (.object f)
  chat : m.lookup "chat" = some (.object ch)
  type : text? (ch.lookup "type") = some "private"
  updateId : update.lookup "update_id" = some v.updateId
  chatId : ch.lookup "id" = some v.chatId
  senderId : f.lookup "id" = some v.senderId
  text : m.lookup "text" = v.text.map .string
  data : isTruthy (update.lookup "callback_query") = true → ∃ d, v.data = some d ∧
    ((object (update.lookup "callback_query")).lookup "data" = none ∧ d = "" ∨
      (object (update.lookup "callback_query")).lookup "data" = some (.string d))
  noData : isTruthy (update.lookup "callback_query") = false → v.data = none

/-- The normal form of an update that shows `v`. -/
def Reading.update (v : Reading ν) (username : Option String) (callbackId : String) : JsonObject ν :=
  let sender : Json ν :=
    .object ([("id", v.senderId)] ++ property "username" (username.map .string))
  let message : Json ν := .object
    ([("chat", .object [("id", v.chatId), ("type", .string "private")]), ("from", sender)] ++
      property "text" (v.text.map .string))
  ("update_id", v.updateId) :: match v.data with
    | some data =>
      [("callback_query", .object [("id", .string callbackId), ("from", sender), ("message", message),
        ("data", .string data)])]
    | none => [("message", message)]

variable {update : JsonObject ν} {v : Reading ν} {m f ch : JsonObject ν}

theorem orFalsy_of_coalesce {a b : Option (Json ν)} (h : coalesce a b = some (.object m)) :
    orFalsy a b = some (.object m) := by
  unfold coalesce at h
  unfold orFalsy
  split at h
  · exact h
  · exact h
  · rw [h]
    rfl

theorem orFalsy_text (o : Option String) :
    orFalsy (o.map Json.string) (some (.string "")) = (some (.string (o.getD "")) : Option (Json ν)) := by
  cases o with
  | none => rfl
  | some s =>
    unfold orFalsy
    split
    · rfl
    · rename_i hempty
      have hs : s = "" := by
        by_contra hne
        exact hempty (decide_eq_true hne)
      rw [hs]
      rfl

theorem telegramId_shown {value : Json ν} (h : telegramId (some value) ≠ "") :
    isTruthy (some value) = true ∧ jsString value = telegramId (some value) := by
  cases value with
  | string s =>
    have hne : s ≠ "" := by
      rintro rfl
      exact h rfl
    refine ⟨decide_eq_true hne, ?_⟩
    unfold telegramId at *
    dsimp only at *
    split
    · rename_i heq
      exact absurd (String.toList_inj.1 heq) hne
    · rename_i heq
      rw [heq] at h
      dsimp only at h
      split at h
      · rename_i hid
        rw [if_pos hid]
        rfl
      · exact absurd rfl h
  | number n =>
    unfold telegramId isTruthy at *
    dsimp only at *
    cases hsafe : JsNumber.safeInteger n with
    | none => simp [hsafe] at h
    | some i =>
      rw [hsafe] at h
      dsimp only at h ⊢
      by_cases hpos : i > 0
      · rw [if_pos hpos]
        refine ⟨decide_eq_true fun h => ?_, rfl⟩
        cases h
        exact absurd hpos (by decide)
      · rw [if_neg hpos] at h
        exact absurd rfl h
  | _ => exact absurd rfl h

theorem updateId_shown {value : Json ν} (h : (safeInteger? (some value)).any (0 ≤ ·) = true)
    (b : Option (Json ν)) : coalesce (some value) b = some value := by
  cases value with
  | number n => rfl
  | _ => cases h

theorem isTruthy_of_field {key : String} (h : (object value).lookup key ≠ none) :
    isTruthy value = true := by
  unfold object at h
  split at h
  · rfl
  · exact absurd rfl h

theorem exists_of_telegramId (h : telegramId value ≠ "") : ∃ v, value = some v := by
  cases value with
  | none => exact absurd rfl h
  | some v => exact ⟨v, rfl⟩

theorem shows_of_identify {who : String × String} (h : identifyUpdate update = .ok who) :
    ∃ v m f ch, Shows update v m f ch ∧ Valid v ∧ who = v.who := by
  unfold identifyUpdate at h
  dsimp only at h
  split at h
  · cases h
  rename_i hids
  split at h
  · cases h
  rename_i htext
  split at h
  · cases h
  rename_i hdata
  cases h
  set callback := object (update.lookup "callback_query") with hcallback
  set m := object (coalesce (callback.lookup "message") (update.lookup "message")) with hm
  set f := object (coalesce (callback.lookup "from") (m.lookup "from")) with hf
  set ch := object (m.lookup "chat") with hch
  obtain ⟨hupdate, hsender, htype, hchat⟩ : (safeInteger? (update.lookup "update_id")).any (0 ≤ ·) = true ∧
      telegramId (f.lookup "id") ≠ "" ∧ text? (ch.lookup "type") = some "private" ∧
      telegramId (ch.lookup "id") = telegramId (f.lookup "id") := by
    simpa only [not_or, not_not, ne_eq] using hids
  obtain ⟨senderId, hsenderId⟩ := exists_of_telegramId hsender
  obtain ⟨chatId, hchatId⟩ := exists_of_telegramId (hchat ▸ hsender)
  obtain ⟨updateId, hupdateId⟩ : ∃ v, update.lookup "update_id" = some v := by
    cases hid : update.lookup "update_id" with
    | none =>
      rw [hid] at hupdate
      cases hupdate
    | some v => exact ⟨v, rfl⟩
  obtain ⟨htexts, hlength⟩ := eq_map_text? htext
  obtain ⟨hdatas, hbytes⟩ := eq_map_text? hdata
  have hchats := object_eq (ne_nil_of_lookup (o := object (m.lookup "chat")) hchatId)
  rw [hsenderId, hchatId] at hchat
  rw [hsenderId] at hsender
  rw [hupdateId] at hupdate
  refine ⟨⟨updateId, chatId, senderId, text? (m.lookup "text"),
    if isTruthy (update.lookup "callback_query") then some ((text? (callback.lookup "data")).getD "")
    else none⟩, m, f, ch, ⟨?_, ?_, hchats, htype, hupdateId, hchatId, hsenderId, htexts, ?_, ?_⟩,
    ⟨hupdate, hsender, hchat, fun s hs => of_decide_eq_true (hlength s hs), ?_⟩, ?_⟩
  · exact object_eq (ne_nil_of_lookup hchats)
  · exact object_eq (ne_nil_of_lookup hsenderId)
  · intro htruthy
    refine ⟨_, if_pos htruthy, ?_⟩
    cases htext : text? (callback.lookup "data") with
    | none => exact .inl ⟨by rw [hdatas, htext]; rfl, rfl⟩
    | some d => exact .inr (by rw [hdatas, htext]; rfl)
  · intro hfalsy
    dsimp only
    rw [hfalsy]
    rfl
  · intro d hd
    dsimp only at hd
    split at hd
    · cases hd
      cases htext : text? (callback.lookup "data") with
      | none => decide
      | some d => exact of_decide_eq_true (hbytes d htext)
    · cases hd
  · rw [Reading.who, hsenderId, hupdateId]
    rfl

theorem Shows.data_lookup (h : Shows update v m f ch) :
    (object (update.lookup "callback_query")).lookup "data" = none ∨ ∃ d ∈ v.data,
      (object (update.lookup "callback_query")).lookup "data" = some (.string d) := by
  cases htruthy : isTruthy (update.lookup "callback_query") with
  | true =>
    obtain ⟨d, hd, ⟨hnone, -⟩ | hsome⟩ := h.data htruthy
    · exact .inl hnone
    · exact .inr ⟨d, hd, hsome⟩
  | false =>
    left
    by_contra hne
    rw [isTruthy_of_field hne] at htruthy
    cases htruthy

theorem Shows.identify (h : Shows update v m f ch) (hv : Valid v) :
    identifyUpdate update = .ok v.who := by
  unfold identifyUpdate
  dsimp only
  rw [h.message, object_some, h.sender, object_some, h.chat, object_some, h.updateId, h.senderId,
    h.chatId, h.text]
  rw [if_neg, if_neg, if_neg]
  · rfl
  · rintro ⟨hsome, hnot⟩
    rcases h.data_lookup with hnone | ⟨d, hd, hsome⟩
    · rw [hnone] at hsome
      cases hsome
    · rw [hsome] at hnot
      exact hnot (decide_eq_true (hv.data d hd))
  · rintro ⟨hsome, hnot⟩
    cases htext : v.text with
    | none =>
      rw [htext] at hsome
      cases hsome
    | some s =>
      rw [htext] at hnot
      exact hnot (decide_eq_true (hv.text s htext))
  · rw [not_or, not_or, not_or, not_not, not_not, not_not]
    exact ⟨hv.updateId, hv.senderId, h.type, hv.chatId⟩

theorem Shows.normalize (h : Shows update v m f ch) (hv : Valid v) : normalizeUpdate update =
    .ok (v.update ((text? (f.lookup "username")).map (slice 64))
      (((text? ((object (update.lookup "callback_query")).lookup "id")).map (slice 128)).getD "")) := by
  unfold normalizeUpdate
  rw [h.identify hv]
  dsimp only [bind, Except.bind]
  rw [h.message, object_some, h.sender, object_some, h.chat, object_some, h.updateId, h.senderId,
    h.chatId, h.text]
  have htext : text? (v.text.map (Json.string : String → Json ν)) = v.text := by cases v.text <;> rfl
  rw [htext]
  unfold Reading.update
  cases htruthy : isTruthy (update.lookup "callback_query") with
  | true =>
    obtain ⟨d, hd, hdata⟩ := h.data htruthy
    have hread : coalesce ((object (update.lookup "callback_query")).lookup "data")
        (some (.string "")) = some (.string d) := by
      rcases hdata with ⟨hnone, rfl⟩ | hsome
      · rw [hnone]
        rfl
      · rw [hsome]
        rfl
    rw [hread, hd]
    rfl
  | false =>
    rw [h.noData htruthy]
    rfl

theorem Reading.shows (v : Reading ν) (name : Option String) (id : String) :
    ∃ m f ch, Shows (v.update name id) v m f ch ∧ text? (f.lookup "username") = name := by
  have hname : text? (List.lookup "username"
      ([("id", v.senderId)] ++ property "username" (name.map Json.string))) = name := by
    cases name <;> rfl
  have htext : ∀ chat sender : Json ν, List.lookup "text" ([("chat", chat), ("from", sender)] ++
      property "text" (v.text.map Json.string)) = v.text.map Json.string := by
    intro chat sender
    cases v.text <;> rfl
  unfold Reading.update
  cases hdata : v.data with
  | some d =>
    exact ⟨_, _, _, ⟨rfl, rfl, rfl, rfl, rfl, rfl, rfl, htext .., fun _ => ⟨d, hdata, .inr rfl⟩,
      fun hfalse => by cases hfalse⟩, hname⟩
  | none =>
    exact ⟨_, _, _, ⟨rfl, rfl, rfl, rfl, rfl, rfl, rfl, htext .., (fun htrue => by cases htrue),
      fun _ => hdata⟩, hname⟩

/-! ## What the engine makes of it -/

def Reading.context (v : Reading ν) (config : Config) : Context :=
  { chatId := some (jsString v.chatId)
    userId := telegramId (some v.senderId)
    companyId := config.companyId
    eventId := jsString v.updateId
    text := trim (v.text.getD "") }

section

variable (h : Shows update v m f ch) (hv : Valid v)
include h

theorem Shows.engineMessage : engineMessage update = some (.object m) := orFalsy_of_coalesce h.message

theorem Shows.engineSender : engineSender update = some (.object f) := by
  unfold Shopping.engineSender
  rw [h.engineMessage]
  exact orFalsy_of_coalesce h.sender

theorem Shows.engineChatId : engineChatId update = some v.chatId := by
  unfold Shopping.engineChatId field
  rw [h.engineMessage, object_some, h.chat]
  exact h.chatId

theorem Shows.engineData : engineData update = .ok v.data := by
  unfold Shopping.engineData field
  dsimp only
  cases htruthy : isTruthy (update.lookup "callback_query") with
  | true =>
    obtain ⟨d, hd, ⟨hnone, rfl⟩ | hsome⟩ := h.data htruthy
    · rw [hnone, hd]
      rfl
    · have hread : _ = (some (.string d) : Option (Json ν)) := orFalsy_text (some d)
      rw [Option.map_some] at hread
      rw [hsome, hd, hread]
      rfl
  | false =>
    rw [h.noData htruthy]
    rfl

include hv

theorem Shows.enginePrivate : enginePrivate update (telegramId (some v.senderId)) = .ok true := by
  have hid : telegramId (some v.chatId) ≠ "" := hv.chatId ▸ hv.senderId
  unfold Shopping.enginePrivate field
  rw [h.engineMessage, h.engineSender, object_some, if_pos ⟨rfl, rfl⟩, h.chat]
  dsimp only
  rw [object_some, h.type, h.chatId, jsText, Option.map_some, Option.getD_some,
    (telegramId_shown hid).2, hv.chatId]
  simp

theorem Shows.engineContext (config : Config) :
    ∃ username callbackId, engineContext update config = (v.context config).marked username callbackId := by
  obtain ⟨htruthy, hid⟩ := telegramId_shown hv.senderId
  have huser : orFalsy (some v.senderId) (some (.string "")) = some v.senderId := if_pos htruthy
  refine ⟨(Shopping.engineContext update config).username,
    (Shopping.engineContext update config).callbackId, ?_⟩
  unfold Shopping.engineContext field
  dsimp only
  rw [h.engineChatId, h.engineSender, h.engineMessage, h.updateId, updateId_shown hv.updateId,
    updateId_shown hv.updateId, updateId_shown hv.updateId, object_some, object_some, h.senderId, huser,
    h.text, orFalsy_text]
  unfold Reading.context
  rw [← hid]
  rfl

end

/-- The engine runs on the reading, whatever the name of the sender and the id of the callback. -/
theorem Shows.prepareJson (h : Shows update v m f ch) (hv : Valid v) (lang : Language) (store : Store)
    (config : Config) (now : ℕ) : ∃ username callbackId, prepareJson lang store update config now =
      (prepareWith lang store (v.context config) (.ok true) (.ok v.data) config now).map
        fun (store, c) => (store, c.marked username callbackId) := by
  obtain ⟨username, callbackId, hcontext⟩ := h.engineContext hv config
  refine ⟨username, callbackId, ?_⟩
  unfold Shopping.prepareJson
  dsimp only
  rw [hcontext, h.engineData]
  have hprivate : Shopping.enginePrivate update ((v.context config).marked username callbackId).userId =
      .ok true := h.enginePrivate hv
  rw [hprivate]
  exact prepareWith_marked ..

theorem sliceChars_sliceChars (cs : List Char) : ∀ n, sliceChars n (sliceChars n cs) = sliceChars n cs := by
  induction cs with
  | nil => exact fun n => rfl
  | cons c cs ih =>
    intro n
    by_cases hfits : (if c.val < 0x10000 then 1 else 2) ≤ n
    · simp [sliceChars, hfits, ih]
    · simp [sliceChars, hfits]

theorem slice_slice (n : ℕ) (s : String) : slice n (slice n s) = slice n s := by
  unfold slice
  rw [String.toList_ofList, sliceChars_sliceChars]

/-- The normal form of an accepted update replays it: it is its own normal form, it is of the
same sender and event, and the engine makes the same session and the same answer of it. -/
theorem normal_form_replays {who : String × String} (h : identifyUpdate update = .ok who) :
    ∃ normalized, normalizeUpdate update = .ok normalized ∧
      normalizeUpdate normalized = .ok normalized ∧ identifyUpdate normalized = .ok who ∧
      engineChatId normalized = engineChatId update ∧
      ∀ (lang : Language) (store : Store) (config : Config) (now : ℕ), ∃ username callbackId,
        prepareJson lang store normalized config now =
          (prepareJson lang store update config now).map
            fun (store, c) => (store, c.marked username callbackId) := by
  obtain ⟨v, m, f, ch, hshows, hv, rfl⟩ := shows_of_identify h
  have hnormal := hshows.normalize hv
  generalize hname : (text? (f.lookup "username")).map (slice 64) = name at hnormal
  generalize hid : ((text? ((object (update.lookup "callback_query")).lookup "id")).map
    (slice 128)).getD "" = id at hnormal
  obtain ⟨m', f', ch', hshows', hname'⟩ := v.shows name id
  refine ⟨_, hnormal, ?_, hshows'.identify hv, ?_, fun lang store config now => ?_⟩
  · have hnames : name.map (slice 64) = name := by
      rw [← hname, Option.map_map]
      refine congrArg (Option.map · _) (funext fun s => ?_)
      exact slice_slice 64 s
    have hids : slice 128 id = id := by
      rw [← hid]
      cases text? ((object (update.lookup "callback_query")).lookup "id") with
      | none => rfl
      | some s => exact slice_slice 128 s
    rw [hshows'.normalize hv, hname', hnames]
    congr 1
    cases hdata : v.data with
    | none =>
      unfold Reading.update
      rw [hdata]
    | some d =>
      have hread : text? ((object ((v.update name id).lookup "callback_query")).lookup "id") = some id := by
        unfold Reading.update
        rw [hdata]
        rfl
      rw [hread, Option.map_some, Option.getD_some, hids]
  · rw [hshows'.engineChatId, hshows.engineChatId]
  · obtain ⟨u, k, hraw⟩ := hshows.prepareJson hv lang store config now
    obtain ⟨u', k', hreplay⟩ := hshows'.prepareJson hv lang store config now
    refine ⟨u', k', ?_⟩
    rw [hraw, hreplay]
    cases prepareWith lang store (v.context config) (.ok true) (.ok v.data) config now <;> rfl

/-! A button that came without its data, as integers for numbers show it. -/

namespace ReplayDemo

instance : JsNumber ℤ where
  safeInteger n := if -9007199254740991 ≤ n ∧ n ≤ 9007199254740991 then some n else none
  text := toString
  text_safe n i h := by
    split at h
    · cases h
      rfl
    · cases h

def pressed : JsonObject ℤ :=
  [("update_id", .number 7), ("callback_query", .object [("message", .null)]),
    ("message", .object [("chat", .object [("id", .string "42"), ("type", .string "private")]),
      ("from", .object [("id", .number 42), ("username", .bool true)])])]

end ReplayDemo

open ReplayDemo in
theorem normal_form_replays_button :
    ∃ normalized, normalizeUpdate pressed = .ok normalized ∧ identifyUpdate normalized = .ok ("42", "7") := by
  obtain ⟨normalized, hnormal, -, hwho, -⟩ := normal_form_replays
    (show identifyUpdate pressed = .ok ("42", "7") by rfl)
  exact ⟨normalized, hnormal, hwho⟩

end Shopping

end FashionErp
