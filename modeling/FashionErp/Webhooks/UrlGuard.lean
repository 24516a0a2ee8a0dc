/-
`webhooks/utils/webhook-url-guard.ts`: the addresses a webhook may be sent to.

An address comes as a text: that of a host, as the URL parser spells it, or that of a lookup.
-/
import FashionErp.Core.Basic

namespace FashionErp.WebhookUrlGuard

open Lib Lib.Tx

/-! ## Addresses and their texts -/

abbrev Chars := List Char

structure IPv4 where
  a : Fin 256
  b : Fin 256
  c : Fin 256
  d : Fin 256

structure IPv6 where
  w0 : Fin 65536
  w1 : Fin 65536
  w2 : Fin 65536
  w3 : Fin 65536
  w4 : Fin 65536
  w5 : Fin 65536
  w6 : Fin 65536
  w7 : Fin 65536

inductive Address
  | v4 (address : IPv4)
  | v6 (address : IPv6)

def IPv6.words (a : IPv6) : List ℕ := [a.w0, a.w1, a.w2, a.w3, a.w4, a.w5, a.w6, a.w7]

def decimal (n : ℕ) : Chars := Nat.toDigits 10 n

def hex (n : ℕ) : Chars := Nat.toDigits 16 n

def IPv4.text (a : IPv4) : Chars :=
  ['.'].intercalate [decimal a.a, decimal a.b, decimal a.c, decimal a.d]

def embedded (high low : Fin 65536) : IPv4 where
  a := ⟨high / 256, by omega⟩
  b := ⟨high % 256, by omega⟩
  c := ⟨low / 256, by omega⟩
  d := ⟨low % 256, by omega⟩

def joinWords (words : List ℕ) : Chars := [':'].intercalate (words.map hex)

def zeroRun (words : List ℕ) : ℕ := (words.takeWhile (· = 0)).length

def longestRun (words : List ℕ) : Option (ℕ × ℕ) :=
  let best := (List.range words.length).foldl
    (fun best i => if best.2 < zeroRun (words.drop i) then (i, zeroRun (words.drop i)) else best) (0, 0)
  if 2 ≤ best.2 then some best else none

def IPv6.urlText (a : IPv6) : Chars :=
  match longestRun a.words with
  | none => joinWords a.words
  | some (start, length) =>
    joinWords (a.words.take start) ++ ':' :: ':' :: joinWords (a.words.drop (start + length))

/-- The text `lookup` gives: as `inet_ntop`, with the last two pieces of some addresses as an
IPv4 address. -/
def IPv6.lookupText (a : IPv6) : Chars :=
  if longestRun a.words = some (0, 6) then "::".toList ++ (embedded a.w6 a.w7).text
  else if longestRun a.words = some (0, 5) ∧ a.w5 = 0xffff then
    "::ffff:".toList ++ (embedded a.w6 a.w7).text
  else a.urlText

/-! ## `net.isIP` -/

def isOctet (text : Chars) : Bool := (List.range 256).any fun n => text = decimal n

def isIPv4 (text : Chars) : Bool :=
  (text.splitOn '.').length = 4 && (text.splitOn '.').all isOctet

def isHexDigit (c : Char) : Bool := ('0' ≤ c && c ≤ '9') || ('a' ≤ c && c ≤ 'f') || ('A' ≤ c && c ≤ 'F')

def isPiece (text : Chars) : Bool := 0 < text.length && text.length ≤ 4 && text.all isHexDigit

def countPieces : List Chars → Option ℕ
  | [] => some 0
  | [last] => if isPiece last then some 1 else if isIPv4 last then some 2 else none
  | piece :: rest => if isPiece piece then (countPieces rest).map (· + 1) else none

def piecesOf (text : Chars) : List Chars := if text = [] then [] else text.splitOn ':'

def isIPv6 (text : Chars) : Bool :=
  countPieces (piecesOf text) = some 8 || (List.range text.length).any fun i =>
    (text.drop i).take 2 = [':', ':'] && (piecesOf (text.take i)).all isPiece &&
      (countPieces (piecesOf (text.drop (i + 2)))).any fun n => (piecesOf (text.take i)).length + n ≤ 7

def isIP (text : Chars) : ℕ := if isIPv4 text then 4 else if isIPv6 text then 6 else 0

/-! ## The guard -/

/-- `address.split('.').map(Number)`. -/
def octetsOf (address : Chars) : List ℕ := (address.splitOn '.').map fun s => Nat.ofDigitChars 10 s 0

/-- The tests of an IPv4 address, on its first two numbers. -/
def isPrivateOctets (octets : List ℕ) : Bool :=
  match octets with
  | a :: b :: _ =>
    if a = 127 then true
    else if a = 10 then true
    else if a = 172 ∧ 16 ≤ b ∧ b ≤ 31 then true
    else if a = 192 ∧ b = 168 then true
    else if a = 169 ∧ b = 254 then true
    else if a = 100 ∧ 64 ≤ b ∧ b ≤ 127 then true
    else if a = 0 then true
    else if 224 ≤ a then true
    else false
  | _ => false

def hexValue (c : Char) : ℕ := if c.isDigit then c.toNat - 48 else c.toNat - 87

/-- `parseInt(text, 16)`, of small digits. -/
def parseHex (text : Chars) : ℕ := text.foldl (fun n c => 16 * n + hexValue c) 0

/-- `[0-9a-f]{1,4}`. -/
def isSmallPiece (text : Chars) : Bool :=
  0 < text.length && text.length ≤ 4 &&
    text.all fun c => ('0' ≤ c && c ≤ '9') || ('a' ≤ c && c ≤ 'f')

/-- `\d+\.\d+\.\d+\.\d+`. -/
def isDotted (text : Chars) : Bool :=
  (text.splitOn '.').length = 4 && (text.splitOn '.').all fun s => s ≠ [] && s.all Char.isDigit

def extractIPv4MappedAddress (normalized : Chars) : Option Chars :=
  if "::ffff:".toList <+: normalized then
    let rest := normalized.drop 7
    if isDotted rest then some rest
    else
      match rest.splitOn ':' with
      | [first, second] =>
        if isSmallPiece first && isSmallPiece second then
          let high := parseHex first
          let low := parseHex second
          some (['.'].intercalate
            [decimal (high / 256 % 256), decimal (high % 256), decimal (low / 256 % 256),
              decimal (low % 256)])
        else none
      | _ => none
  else none

/-- An address in an address is an IPv4 address, and `depth` 2 is enough. -/
def isPrivateOrReserved : ℕ → Chars → Bool
  | 0, _ => true
  | depth + 1, address =>
    if isIP address = 4 then isPrivateOctets (octetsOf address)
    else if isIP address = 6 then
      let normalized := address.map Char.toLower
      if normalized = "::1".toList then true
      else if normalized = "::".toList then true
      else if "fe80:".toList <+: normalized then true
      else if "fc".toList <+: normalized ∨ "fd".toList <+: normalized then true
      else
        match extractIPv4MappedAddress normalized with
        | some mappedIPv4 => isPrivateOrReserved depth mappedIPv4
        | none => false
    else true

def isPrivateOrReservedAddress (address : Chars) : Bool := isPrivateOrReserved 2 address

def assertPublicAddress (address : Chars) : Except Failure Unit :=
  refuseIf (isPrivateOrReservedAddress address = true) (appException .ValidationError
    "url must not target a private, loopback, link-local, or reserved address")

inductive Host
  | address (a : Address)
  | domain (name : Chars) (notIP : isIP name = 0)

/-- What `assertSafeWebhookUrl` reads of a URL. -/
structure ParsedUrl where
  protocol : String
  host : Host

/-- `parsed.hostname`, without the brackets of an IPv6 address. -/
def Host.name : Host → Chars
  | address (.v4 a) => a.text
  | address (.v6 a) => a.urlText
  | domain name _ => name

def Address.lookupText : Address → Chars
  | v4 a => a.text
  | v6 a => a.lookupText

def assertSafeWebhookUrl (url : Option ParsedUrl) (lookup : Chars → Except Failure (List Address)) :
    Except Failure Unit := do
  let parsed ← orRefuse url (appException .ValidationError "url must be a valid URL")
  refuseIf (parsed.protocol ∉ ["http:", "https:"])
    (appException .ValidationError "url must use http or https")
  let hostname := parsed.host.name
  if isIP hostname ≠ 0 then assertPublicAddress hostname
  else
    refuseIf (hostname.map Char.toLower = "localhost".toList) (appException .ValidationError
      "url must not target localhost or an internal address")
    match lookup hostname with
    | .error _ =>
      throw (appException .ValidationError "url hostname could not be resolved")
    | .ok addresses =>
      refuseIf (addresses = []) (appException .ValidationError "url hostname could not be resolved")
      addresses.forM fun address => assertPublicAddress address.lookupText

/-! ## What is claimed -/

/-- Outside the loopback, unspecified, private, link-local, CGNAT, multicast and reserved ranges. -/
def IPv4.IsPublic (a : IPv4) : Prop :=
  a.a.val ≠ 127 ∧ a.a.val ≠ 0 ∧ a.a.val ≠ 10 ∧ ¬ (a.a.val = 172 ∧ 16 ≤ a.b.val ∧ a.b.val ≤ 31) ∧
    ¬ (a.a.val = 192 ∧ a.b.val = 168) ∧ ¬ (a.a.val = 169 ∧ a.b.val = 254) ∧
    ¬ (a.a.val = 100 ∧ 64 ≤ a.b.val ∧ a.b.val ≤ 127) ∧ a.a.val < 224

/-- `::ffff:0:0/96`. -/
def IPv6.IsMapped (a : IPv6) : Prop :=
  a.w0 = 0 ∧ a.w1 = 0 ∧ a.w2 = 0 ∧ a.w3 = 0 ∧ a.w4 = 0 ∧ a.w5 = 0xffff

/-- `fe80::/10`. -/
def IPv6.IsLinkLocal (a : IPv6) : Prop := 0xfe80 ≤ a.w0.val ∧ a.w0.val ≤ 0xfebf

/-- `fc00::/7`. -/
def IPv6.IsUniqueLocal (a : IPv6) : Prop := 0xfc00 ≤ a.w0.val ∧ a.w0.val ≤ 0xfdff

/-- `ff00::/8`. -/
def IPv6.IsMulticast (a : IPv6) : Prop := 0xff00 ≤ a.w0.val

structure IPv6.IsPublic (a : IPv6) : Prop where
  unspecified : a ≠ ⟨0, 0, 0, 0, 0, 0, 0, 0⟩
  loopback : a ≠ ⟨0, 0, 0, 0, 0, 0, 0, 1⟩
  linkLocal : ¬ a.IsLinkLocal
  uniqueLocal : ¬ a.IsUniqueLocal
  multicast : ¬ a.IsMulticast
  mapped : a.IsMapped → (embedded a.w6 a.w7).IsPublic
  sixToFour : a.w0 = 0x2002 → (embedded a.w1 a.w2).IsPublic

def Address.IsPublic : Address → Prop
  | v4 a => a.IsPublic
  | v6 a => a.IsPublic

/-- An address that is not public and that no test is for: link-local but for `fe80:`, multicast,
or a 6to4 address of an IPv4 address that is not public. -/
def Address.Missed : Address → Prop
  | v4 _ => False
  | v6 a => (a.IsLinkLocal ∧ a.w0 ≠ 0xfe80) ∨ a.IsMulticast ∨
      (a.w0 = 0x2002 ∧ ¬ (embedded a.w1 a.w2).IsPublic)

def Host.targets (lookup : Chars → Except Failure (List Address)) : Host → List (Address × Chars)
  | address a => [(a, (Host.address a).name)]
  | domain name _ => ((lookup name).toOption.getD []).map fun a => (a, a.lookupText)

/-- Only public addresses are admitted. -/
def AdmitsPublicOnly (url : ParsedUrl) (lookup : Chars → Except Failure (List Address)) : Prop :=
  assertSafeWebhookUrl (some url) lookup = .ok () → ∀ t ∈ url.host.targets lookup, t.1.IsPublic

/-- What the URL is refused for in any case: its protocol, the name `localhost`, or an address
that a test finds. -/
def IsRefused (url : ParsedUrl) (lookup : Chars → Except Failure (List Address)) : Prop :=
  url.protocol ∉ ["http:", "https:"] ∨
    (isIP url.host.name = 0 ∧ url.host.name.map Char.toLower = "localhost".toList) ∨
    ∃ t ∈ url.host.targets lookup, isPrivateOrReservedAddress t.2 = true

/-! ## Digits -/

theorem forall_mem_toDigits {b : ℕ} (hb : 1 < b) {P : Char → Prop} (h : ∀ d < b, P d.digitChar)
    (n : ℕ) : ∀ c ∈ Nat.toDigits b n, P c := by
  induction n using Nat.strong_induction_on with
  | _ n ih =>
    rw [Nat.toDigits_eq_if hb]
    split
    · rename_i hlt
      intro c hc
      rw [List.mem_singleton.1 hc]
      exact h n hlt
    · rename_i hge
      intro c hc
      rcases List.mem_append.1 hc with hc | hc
      · exact ih (n / b) (Nat.div_lt_self (by omega) hb) c hc
      · rw [List.mem_singleton.1 hc]
        exact h _ (Nat.mod_lt _ (by omega))

variable {n : ℕ}

theorem isSmallHex_of_mem_hex :
    ∀ c ∈ hex n, (('0' ≤ c && c ≤ '9') || ('a' ≤ c && c ≤ 'f')) = true :=
  forall_mem_toDigits (by decide) (by decide) n

theorem notMem_hex {c : Char} (hc : (('0' ≤ c && c ≤ '9') || ('a' ≤ c && c ≤ 'f')) = false) (n : ℕ) :
    c ∉ hex n := by
  intro h
  rw [isSmallHex_of_mem_hex c h] at hc
  cases hc

theorem notMem_decimal {c : Char} (hc : c.isDigit = false) (n : ℕ) : c ∉ decimal n := by
  intro h
  rw [Nat.isDigit_of_mem_toDigits (by decide) (by decide) h] at hc
  cases hc

theorem parseHex_hex (n : ℕ) : parseHex (hex n) = n := by
  have hdigit : ∀ d < 16, hexValue d.digitChar = d := by decide
  induction n using Nat.strong_induction_on with
  | _ n ih =>
    unfold hex at ih ⊢
    rw [Nat.toDigits_eq_if (by decide)]
    split
    · rename_i hlt
      unfold parseHex
      rw [List.foldl_cons, List.foldl_nil, hdigit n hlt, Nat.mul_zero, Nat.zero_add]
    · rename_i hge
      have hhigh := ih (n / 16) (by omega)
      unfold parseHex at hhigh ⊢
      rw [List.foldl_append, hhigh, List.foldl_cons, List.foldl_nil, hdigit _ (by omega)]
      omega

theorem length_hex (h : n < 65536) : 0 < (hex n).length ∧ (hex n).length ≤ 4 :=
  ⟨Nat.length_toDigits_pos, (Nat.length_toDigits_le_iff (by decide) (by decide)).2 h⟩

theorem hex_eq (h : 4096 ≤ n) (h' : n < 65536) :
    hex n = [(n / 4096).digitChar, (n / 256 % 16).digitChar, (n / 16 % 16).digitChar,
      (n % 16).digitChar] := by
  unfold hex
  rw [Nat.toDigits_of_base_le (by decide) (by omega), Nat.toDigits_of_base_le (by decide) (by omega),
    Nat.toDigits_of_base_le (by decide) (by omega), Nat.toDigits_of_lt_base (by omega)]
  have h₁ : n / 16 / 16 / 16 = n / 4096 := by omega
  have h₂ : n / 16 / 16 % 16 = n / 256 % 16 := by omega
  rw [h₁, h₂]
  rfl

theorem isPiece_hex (h : n < 65536) : isPiece (hex n) = true := by
  obtain ⟨hpos, hle⟩ := length_hex h
  unfold isPiece
  rw [decide_eq_true hpos, decide_eq_true hle, Bool.true_and, Bool.true_and, List.all_eq_true]
  intro c hc
  have hsmall := isSmallHex_of_mem_hex c hc
  unfold isHexDigit
  rw [hsmall, Bool.true_or]

theorem isSmallPiece_hex (h : n < 65536) : isSmallPiece (hex n) = true := by
  obtain ⟨hpos, hle⟩ := length_hex h
  unfold isSmallPiece
  rw [decide_eq_true hpos, decide_eq_true hle, Bool.true_and, Bool.true_and, List.all_eq_true]
  exact isSmallHex_of_mem_hex

/-! ## IPv4 addresses -/

theorem splitOn_text (a : IPv4) :
    a.text.splitOn '.' = [decimal a.a, decimal a.b, decimal a.c, decimal a.d] := by
  unfold IPv4.text
  refine List.splitOn_intercalate '.' ?_ (List.cons_ne_nil _ _)
  simp only [List.mem_cons, List.not_mem_nil, or_false, forall_eq_or_imp, forall_eq]
  exact ⟨notMem_decimal (by decide) _, notMem_decimal (by decide) _, notMem_decimal (by decide) _,
    notMem_decimal (by decide) _⟩

theorem isOctet_decimal (n : Fin 256) : isOctet (decimal n) = true :=
  List.any_eq_true.2 ⟨n, List.mem_range.2 n.isLt, by simp⟩

theorem isIPv4_text (a : IPv4) : isIPv4 a.text = true := by
  unfold isIPv4
  rw [splitOn_text]
  simp [isOctet_decimal]

theorem mem_intercalate {x c : Char} {pieces : List Chars} (h : c ∈ [x].intercalate pieces) :
    c = x ∨ ∃ piece ∈ pieces, c ∈ piece := by
  induction pieces with
  | nil => exact absurd h List.not_mem_nil
  | cons piece pieces ih =>
    by_cases hnone : pieces = []
    · rw [hnone, List.intercalate_singleton] at h
      exact .inr ⟨piece, List.mem_cons_self, h⟩
    · rw [List.intercalate_cons_of_ne_nil hnone, List.append_assoc, List.mem_append,
        List.mem_append] at h
      rcases h with h | h | h
      · exact .inr ⟨piece, List.mem_cons_self, h⟩
      · exact .inl (List.mem_singleton.1 h)
      · rcases ih h with hx | ⟨next, hnext, h⟩
        · exact .inl hx
        · exact .inr ⟨next, List.mem_cons_of_mem _ hnext, h⟩

theorem colon_notMem {text : Chars} (h : isIPv4 text = true) : ':' ∉ text := by
  unfold isIPv4 at h
  rw [Bool.and_eq_true, List.all_eq_true] at h
  intro hmem
  have hjoin : ['.'].intercalate (text.splitOn '.') = text := List.intercalate_splitOn '.'
  rw [← hjoin] at hmem
  rcases mem_intercalate hmem with hx | ⟨piece, hpiece, hmem⟩
  · exact absurd hx (by decide)
  · obtain ⟨n, -, hn⟩ := List.any_eq_true.1 (h.2 piece hpiece)
    rw [decide_eq_true_eq] at hn
    rw [hn] at hmem
    exact notMem_decimal (by decide) n hmem

/-- The tests of an IPv4 address are those of the ranges. -/
theorem isPrivateOctets_text (a : IPv4) : isPrivateOctets (octetsOf a.text) = true ↔ ¬ a.IsPublic := by
  have hoctets : octetsOf a.text = [a.a.val, a.b.val, a.c.val, a.d.val] := by
    unfold octetsOf
    rw [splitOn_text]
    simp [decimal]
  rw [hoctets]
  unfold isPrivateOctets IPv4.IsPublic
  dsimp only
  simp only [ne_eq, Bool.if_true_left, Bool.or_eq_true, decide_eq_true_eq, Bool.if_false_right,
    Bool.and_true]
  omega

/-! ## The texts of an IPv6 address -/

theorem IPv6.words_lt (a : IPv6) : ∀ w ∈ a.words, w < 65536 := by
  unfold IPv6.words
  simp only [List.mem_cons, List.not_mem_nil, or_false, forall_eq_or_imp, forall_eq]
  exact ⟨a.w0.isLt, a.w1.isLt, a.w2.isLt, a.w3.isLt, a.w4.isLt, a.w5.isLt, a.w6.isLt, a.w7.isLt⟩

variable {words : List ℕ}

theorem longestRun_spec {start length : ℕ} (h : longestRun words = some (start, length)) :
    2 ≤ length ∧ length = zeroRun (words.drop start) := by
  unfold longestRun at h
  dsimp only at h
  have hinv : ∀ (is : List ℕ) (best : ℕ × ℕ), (best.2 = 0 ∨ best.2 = zeroRun (words.drop best.1)) →
      let best := is.foldl (fun best i =>
        if best.2 < zeroRun (words.drop i) then (i, zeroRun (words.drop i)) else best) best
      best.2 = 0 ∨ best.2 = zeroRun (words.drop best.1) := by
    intro is
    induction is with
    | nil => exact fun best hbest => hbest
    | cons i is ih =>
      intro best hbest
      rw [List.foldl_cons]
      split
      · exact ih _ (.inr rfl)
      · exact ih _ hbest
  have hbest := hinv (List.range words.length) (0, 0) (.inl rfl)
  dsimp only at hbest
  split at h
  · rename_i hlong
    rw [Option.some.inj h] at hbest hlong
    dsimp only at hbest hlong
    exact ⟨hlong, hbest.resolve_left (by omega)⟩
  · cases h

theorem zeroRun_le (words : List ℕ) : zeroRun words ≤ words.length :=
  (List.takeWhile_prefix _).length_le

theorem start_pos {w : ℕ} (hw : w ≠ 0) {start length : ℕ}
    (h : longestRun (w :: words) = some (start, length)) : 0 < start := by
  obtain ⟨hlong, hrun⟩ := longestRun_spec h
  rcases Nat.eq_zero_or_pos start with rfl | hpos
  · rw [List.drop_zero] at hrun
    unfold zeroRun at hrun
    rw [List.takeWhile_cons_of_neg (by simpa using hw)] at hrun
    rw [List.length_nil] at hrun
    omega
  · exact hpos

theorem joinWords_singleton (w : ℕ) : joinWords [w] = hex w := by
  unfold joinWords
  rw [List.map_singleton, List.intercalate_singleton]

theorem joinWords_cons {w : ℕ} (h : words ≠ []) :
    joinWords (w :: words) = hex w ++ ':' :: joinWords words := by
  unfold joinWords
  rw [List.map_cons, List.intercalate_cons_of_ne_nil (by simpa using h), List.append_assoc]
  rfl

def IPv6.IsText (a : IPv6) (text : Chars) : Prop := text = a.urlText ∨ text = a.lookupText

section Texts

variable {a : IPv6} {text : Chars}

theorem urlText_of_ne_zero (hw : a.w0 ≠ 0) : ∃ rest, a.urlText = hex a.w0 ++ ':' :: rest := by
  have hw : (a.w0 : ℕ) ≠ 0 := fun h => hw (Fin.ext h)
  unfold IPv6.urlText
  cases hrun : longestRun a.words with
  | none => exact ⟨_, joinWords_cons (List.cons_ne_nil _ _)⟩
  | some run =>
    obtain ⟨start, length⟩ := run
    have hpos := start_pos hw hrun
    obtain ⟨k, rfl⟩ : ∃ k, start = k + 1 := ⟨start - 1, by omega⟩
    show ∃ rest, joinWords (a.words.take (k + 1)) ++ _ = _
    unfold IPv6.words
    rw [List.take_succ_cons]
    by_cases hnone : [a.w1.val, a.w2, a.w3, a.w4, a.w5, a.w6, a.w7].take k = []
    · rw [hnone, joinWords_singleton]
      exact ⟨_, rfl⟩
    · rw [joinWords_cons hnone, List.append_assoc]
      exact ⟨_, rfl⟩

/-- A text starts with the first piece of its address, unless that is zero. -/
theorem IPv6.IsText.start (h : a.IsText text) (hw : a.w0 ≠ 0) :
    ∃ rest, text = hex a.w0 ++ ':' :: rest := by
  rcases h with rfl | rfl
  · exact urlText_of_ne_zero hw
  · unfold IPv6.lookupText
    have hpos : ∀ length, longestRun a.words ≠ some (0, length) := by
      intro length hrun
      exact absurd (start_pos (fun h => hw (Fin.ext h)) hrun) (Nat.lt_irrefl 0)
    rw [if_neg (hpos 6), if_neg fun h => hpos 5 h.1]
    exact urlText_of_ne_zero hw

/-! ### Whole texts -/

theorem eq_of_isText_loopback (h : IPv6.IsText ⟨0, 0, 0, 0, 0, 0, 0, 1⟩ text) :
    text = "::1".toList := by
  rcases h with rfl | rfl <;> decide +kernel

theorem eq_of_isText_unspecified (h : IPv6.IsText ⟨0, 0, 0, 0, 0, 0, 0, 0⟩ text) :
    text = "::".toList := by
  rcases h with rfl | rfl <;> decide +kernel

theorem longestRun_mapped (high low : ℕ) :
    longestRun [0, 0, 0, 0, 0, 0xffff, high, low] = some (0, 5) := by
  have hlow : zeroRun [low] ≤ 1 := zeroRun_le [low]
  have hhigh : zeroRun [high, low] ≤ 2 := zeroRun_le [high, low]
  have hzeros : ∀ ws : List ℕ, zeroRun (0 :: ws) = zeroRun ws + 1 := by
    intro ws
    unfold zeroRun
    rw [List.takeWhile_cons_of_pos (by decide), List.length_cons]
  have hother : zeroRun [0xffff, high, low] = 0 := by
    unfold zeroRun
    rw [List.takeWhile_cons_of_neg (by decide), List.length_nil]
  unfold longestRun
  rw [show (List.range [0, 0, 0, 0, 0, 0xffff, high, low].length) = [0, 1, 2, 3, 4, 5, 6, 7] from rfl]
  simp only [List.foldl_cons, List.foldl_nil, List.drop_zero, List.drop_succ_cons, hzeros, hother]
  simp only [Nat.zero_add, Nat.reduceAdd, Nat.reduceLT, if_true, if_false]
  have h6 : ¬ 5 < zeroRun [high, low] := by omega
  have h7 : ¬ 5 < zeroRun [low] := by omega
  rw [if_neg h6, if_neg h7, if_pos (by omega)]

/-- A mapped address is spelled in one of two ways. -/
theorem IPv6.IsText.mapped (h : a.IsText text) (hmapped : a.IsMapped) :
    text = "::ffff:".toList ++ (hex a.w6 ++ ':' :: hex a.w7) ∨
      text = "::ffff:".toList ++ (embedded a.w6 a.w7).text := by
  obtain ⟨w0, w1, w2, w3, w4, w5, w6, w7⟩ := a
  obtain ⟨h0, h1, h2, h3, h4, h5⟩ := hmapped
  dsimp only at h0 h1 h2 h3 h4 h5
  subst h0 h1 h2 h3 h4 h5
  have hrun : longestRun (IPv6.words ⟨0, 0, 0, 0, 0, 0xffff, w6, w7⟩) = some (0, 5) :=
    longestRun_mapped w6 w7
  rcases h with rfl | rfl
  · left
    unfold IPv6.urlText
    rw [hrun]
    show [] ++ ':' :: ':' :: joinWords [0xffff, w6.val, w7.val] = _
    rw [joinWords_cons (List.cons_ne_nil _ _), joinWords_cons (List.cons_ne_nil _ _),
      joinWords_singleton]
    rfl
  · right
    unfold IPv6.lookupText
    rw [if_neg (by rw [hrun]; decide), if_pos ⟨hrun, rfl⟩]

end Texts

/-! ## `isIP` of the texts -/

theorem piecesOf_joinWords (words : List ℕ) : piecesOf (joinWords words) = words.map hex := by
  unfold piecesOf
  cases words with
  | nil => rfl
  | cons w words =>
    have hsplit : (joinWords (w :: words)).splitOn ':' = (w :: words).map hex := by
      unfold joinWords
      refine List.splitOn_intercalate ':' ?_ (List.cons_ne_nil _ _)
      intro piece hpiece
      obtain ⟨n, -, rfl⟩ := List.mem_map.1 hpiece
      exact notMem_hex (by decide) n
    have hsome : joinWords (w :: words) ≠ [] := by
      intro hnone
      rw [hnone, List.splitOn_nil, List.map_cons] at hsplit
      have hw : hex w = [] := (List.cons.inj hsplit).1.symm
      exact absurd hw (List.ne_nil_of_length_pos Nat.length_toDigits_pos)
    rw [if_neg hsome, hsplit]

theorem countPieces_hex (h : ∀ w ∈ words, w < 65536) :
    countPieces (words.map hex) = some words.length := by
  induction words with
  | nil => rfl
  | cons w words ih =>
    obtain ⟨hw, hrest⟩ := List.forall_mem_cons.1 h
    cases words with
    | nil =>
      show (if isPiece (hex w) then _ else _) = _
      rw [if_pos (isPiece_hex hw)]
      rfl
    | cons next words =>
      show (if isPiece (hex w) then (countPieces ((next :: words).map hex)).map (· + 1) else _) = _
      rw [if_pos (isPiece_hex hw), ih hrest]
      rfl

theorem isIPv6_gap {front back : Chars} (hfront : ∀ p ∈ piecesOf front, isPiece p = true)
    (hback : countPieces (piecesOf back) = some n) (hle : (piecesOf front).length + n ≤ 7) :
    isIPv6 (front ++ ':' :: ':' :: back) = true := by
  unfold isIPv6
  rw [Bool.or_eq_true, List.any_eq_true]
  right
  refine ⟨front.length, List.mem_range.2 ?_, ?_⟩
  · rw [List.length_append, List.length_cons]
    omega
  · have hskip : (front ++ ':' :: ':' :: back).drop (front.length + 2) = back := by
      rw [← List.drop_drop, List.drop_left]
      rfl
    rw [List.drop_left, List.take_left, hskip, hback, List.all_eq_true.2 hfront]
    simpa using hle

theorem isIP_eq_six {text : Chars} (hcolon : ':' ∈ text) (h : isIPv6 text = true) : isIP text = 6 := by
  have hnot : ¬ isIPv4 text = true := fun h => colon_notMem h hcolon
  unfold isIP
  rw [if_neg hnot, if_pos h]

theorem text_ne_nil (a : IPv4) : a.text ≠ [] := by
  intro hnone
  have hsplit := splitOn_text a
  rw [hnone, List.splitOn_nil] at hsplit
  have hlength := congrArg List.length hsplit
  rw [List.length_singleton, List.length_cons] at hlength
  simp at hlength

theorem countPieces_text (a : IPv4) : countPieces [a.text] = some 2 := by
  have hdot : '.' ∈ a.text := by
    unfold IPv4.text
    rw [List.intercalate_cons_of_ne_nil (List.cons_ne_nil _ _)]
    simp
  have hnot : ¬ isPiece a.text = true := by
    intro hpiece
    unfold isPiece at hpiece
    rw [Bool.and_eq_true, List.all_eq_true] at hpiece
    exact absurd (hpiece.2 '.' hdot) (by decide)
  show (if isPiece a.text then _ else if isIPv4 a.text then _ else _) = _
  rw [if_neg hnot, if_pos (isIPv4_text a)]

theorem isIPv6_compatible (a : IPv4) : isIPv6 ("::".toList ++ a.text) = true := by
  have hback : piecesOf a.text = [a.text] := by
    unfold piecesOf
    rw [if_neg (text_ne_nil a), List.splitOn_eq_singleton (colon_notMem (isIPv4_text a))]
  have hcount : countPieces (piecesOf a.text) = some 2 := by
    rw [hback]
    exact countPieces_text a
  have hfront : ∀ p ∈ piecesOf [], isPiece p = true := nofun
  exact isIPv6_gap hfront hcount (by decide)

theorem isIPv6_mapped (a : IPv4) : isIPv6 ("::ffff:".toList ++ a.text) = true := by
  have hback : piecesOf ("ffff:".toList ++ a.text) = ["ffff".toList, a.text] := by
    unfold piecesOf
    rw [if_neg (by simp)]
    show ("ffff".toList ++ ':' :: a.text).splitOn ':' = _
    rw [List.splitOn_append_cons_self_of_not_mem (by decide),
      List.splitOn_eq_singleton (colon_notMem (isIPv4_text a))]
  have hcount : countPieces (piecesOf ("ffff:".toList ++ a.text)) = some 3 := by
    rw [hback]
    show (if isPiece "ffff".toList then (countPieces [a.text]).map (· + 1) else _) = _
    rw [if_pos (by decide), countPieces_text]
    rfl
  have hfront : ∀ p ∈ piecesOf [], isPiece p = true := nofun
  exact isIPv6_gap hfront hcount (by decide)

theorem colon_mem_joinWords (w v : ℕ) (words : List ℕ) : ':' ∈ joinWords (w :: v :: words) := by
  rw [joinWords_cons (List.cons_ne_nil _ _)]
  exact List.mem_append_right _ List.mem_cons_self

theorem isIP_urlText (a : IPv6) : isIP a.urlText = 6 := by
  have hlt := a.words_lt
  have hlength : a.words.length = 8 := rfl
  unfold IPv6.urlText
  cases hrun : longestRun a.words with
  | none =>
    refine isIP_eq_six (colon_mem_joinWords _ _ _) ?_
    show isIPv6 (joinWords a.words) = true
    unfold isIPv6
    rw [piecesOf_joinWords, countPieces_hex hlt, Bool.or_eq_true]
    exact .inl rfl
  | some run =>
    obtain ⟨start, length⟩ := run
    obtain ⟨hlong, hzeros⟩ := longestRun_spec hrun
    have hle := zeroRun_le (a.words.drop start)
    rw [List.length_drop, ← hzeros, hlength] at hle
    refine isIP_eq_six (List.mem_append_right _ List.mem_cons_self) ?_
    refine isIPv6_gap (n := 8 - (start + length)) ?_ ?_ ?_
    · rw [piecesOf_joinWords]
      intro piece hpiece
      obtain ⟨w, hw, rfl⟩ := List.mem_map.1 hpiece
      exact isPiece_hex (hlt w (List.mem_of_mem_take hw))
    · rw [piecesOf_joinWords, countPieces_hex fun w hw => hlt w (List.mem_of_mem_drop hw),
        List.length_drop, hlength]
    · rw [piecesOf_joinWords, List.length_map, List.length_take, hlength]
      omega

theorem isIP_lookupText (a : IPv6) : isIP a.lookupText = 6 := by
  unfold IPv6.lookupText
  split
  · exact isIP_eq_six List.mem_cons_self (isIPv6_compatible _)
  · split
    · exact isIP_eq_six List.mem_cons_self (isIPv6_mapped _)
    · exact isIP_urlText a

theorem IPv6.IsText.isIP {a : IPv6} {text : Chars} (h : a.IsText text) :
    WebhookUrlGuard.isIP text = 6 := by
  rcases h with rfl | rfl
  · exact isIP_urlText a
  · exact isIP_lookupText a

theorem isIP_text (a : IPv4) : isIP a.text = 4 := by
  unfold isIP
  rw [if_pos (isIPv4_text a)]

/-! ## What the tests find -/

theorem isPrivateOrReserved_text (depth : ℕ) (a : IPv4) :
    isPrivateOrReserved (depth + 1) a.text = true ↔ ¬ a.IsPublic := by
  rw [← isPrivateOctets_text]
  unfold isPrivateOrReserved
  rw [if_pos (isIP_text a)]

theorem hex_toLower (n : ℕ) : (hex n).map Char.toLower = hex n := by
  have hsame : ∀ c ∈ hex n, c.toLower = c := forall_mem_toDigits (by decide) (by decide) n
  rw [List.map_congr_left (g := id) hsame, List.map_id]

theorem text_toLower (a : IPv4) : a.text.map Char.toLower = a.text := by
  have hdecimal : ∀ n, ∀ c ∈ decimal n, c.toLower = c :=
    fun n => forall_mem_toDigits (by decide) (by decide) n
  have hsame : ∀ c ∈ a.text, c.toLower = c := by
    intro c hc
    rcases mem_intercalate hc with rfl | ⟨piece, hpiece, hc⟩
    · rfl
    · simp only [List.mem_cons, List.not_mem_nil, or_false] at hpiece
      rcases hpiece with rfl | rfl | rfl | rfl <;> exact hdecimal _ c hc
  rw [List.map_congr_left (g := id) hsame, List.map_id]

theorem isPrivateOrReservedAddress_six {text normalized : Chars} (h : isIP text = 6)
    (hlower : text.map Char.toLower = normalized) :
    isPrivateOrReservedAddress text = true ↔
      normalized = "::1".toList ∨ normalized = "::".toList ∨ "fe80:".toList <+: normalized ∨
        ("fc".toList <+: normalized ∨ "fd".toList <+: normalized) ∨
        ∃ mapped, extractIPv4MappedAddress normalized = some mapped ∧
          isPrivateOrReserved 1 mapped = true := by
  unfold isPrivateOrReservedAddress
  rw [isPrivateOrReserved, h, hlower, if_neg (by decide), if_pos rfl]
  dsimp only
  cases hmapped : extractIPv4MappedAddress normalized with
  | none => simp
  | some mapped => simp

theorem digitChar_inj : ∀ m < 16, ∀ n < 16, m.digitChar = n.digitChar → m = n := by decide

/-- An address whose first piece has four digits is found by that piece only. -/
theorem private_iff_start {a : IPv6} {text : Chars} (h : a.IsText text) (hw : 4096 ≤ a.w0.val) :
    isPrivateOrReservedAddress text = true ↔ a.w0 = 0xfe80 ∨ a.IsUniqueLocal := by
  have hne : a.w0 ≠ 0 := by
    intro h
    rw [h] at hw
    exact absurd hw (by decide)
  obtain ⟨rest, htext⟩ := h.start hne
  have hlt : a.w0.val < 65536 := a.w0.isLt
  have hlower : text.map Char.toLower =
      (a.w0.val / 4096).digitChar :: (a.w0.val / 256 % 16).digitChar ::
        (a.w0.val / 16 % 16).digitChar :: (a.w0.val % 16).digitChar :: ':' ::
        rest.map Char.toLower := by
    rw [htext, List.map_append, hex_toLower, hex_eq hw hlt]
    rfl
  have hcolon : ∀ n < 16, n.digitChar ≠ ':' := by decide
  have hfirst := hcolon (a.w0.val / 4096) (by omega)
  have hmapped : ∀ rest, extractIPv4MappedAddress ((a.w0.val / 4096).digitChar :: rest) = none := by
    intro rest
    unfold extractIPv4MappedAddress
    rw [if_neg]
    intro hprefix
    exact hfirst (List.cons_prefix_cons.1 hprefix).1.symm
  rw [isPrivateOrReservedAddress_six h.isIP hlower, hmapped]
  show _ = ':' :: ':' :: '1' :: [] ∨ _ = ':' :: ':' :: [] ∨ 'f' :: 'e' :: '8' :: '0' :: ':' :: [] <+: _ ∨
    ('f' :: 'c' :: [] <+: _ ∨ 'f' :: 'd' :: [] <+: _) ∨ _ ↔ _
  simp only [List.cons_prefix_cons, List.nil_prefix, and_true, List.cons.injEq, hfirst, false_and,
    false_or, reduceCtorEq, exists_false, or_false]
  have hdigit : ∀ m < 16, ∀ c, c < 16 → (c.digitChar = m.digitChar ↔ m = c) := by
    intro m hm c hc
    exact ⟨fun heq => (digitChar_inj c hc m hm heq).symm, fun heq => by rw [heq]⟩
  have hf : 'f' = Nat.digitChar 15 := rfl
  have he : 'e' = Nat.digitChar 14 := rfl
  have hd : 'd' = Nat.digitChar 13 := rfl
  have hc : 'c' = Nat.digitChar 12 := rfl
  have h8 : '8' = Nat.digitChar 8 := rfl
  have h0 : '0' = Nat.digitChar 0 := rfl
  rw [hf, he, hd, hc, h8, h0, hdigit _ (by omega) _ (by omega), hdigit _ (by omega) _ (by omega),
    hdigit _ (by omega) _ (by omega), hdigit _ (by omega) _ (by omega),
    hdigit _ (by omega) _ (by omega), hdigit _ (by omega) _ (by omega), Fin.ext_iff]
  unfold IPv6.IsUniqueLocal
  show _ ↔ a.w0.val = 0xfe80 ∨ _
  omega

theorem isDotted_text (a : IPv4) : isDotted a.text = true := by
  have hdecimal : ∀ n, decimal n ≠ [] ∧ (decimal n).all Char.isDigit = true := by
    intro n
    constructor
    · exact List.ne_nil_of_length_pos Nat.length_toDigits_pos
    · exact List.all_eq_true.2 fun c hc => Nat.isDigit_of_mem_toDigits (by decide) (by decide) hc
  unfold isDotted
  rw [splitOn_text]
  simp [hdecimal]

theorem extract_mapped {a : IPv6} {text : Chars} (h : a.IsText text) (hmapped : a.IsMapped) :
    extractIPv4MappedAddress (text.map Char.toLower) = some (embedded a.w6 a.w7).text := by
  have hhead : ("::ffff:".toList).map Char.toLower = "::ffff:".toList := by decide
  have hrest : ∀ rest : Chars, ("::ffff:".toList ++ rest).drop 7 = rest :=
    fun rest => List.drop_left' (by decide)
  rcases h.mapped hmapped with rfl | rfl
  · have hcolon : ':'.toLower = ':' := rfl
    rw [List.map_append, hhead, List.map_append, List.map_cons, hex_toLower, hex_toLower, hcolon]
    have hsplit : (hex a.w6 ++ ':' :: hex a.w7).splitOn ':' = [hex a.w6, hex a.w7] := by
      rw [List.splitOn_append_cons_self_of_not_mem (notMem_hex (by decide) _),
        List.splitOn_eq_singleton (notMem_hex (by decide) _)]
    have hdot : '.' ∉ hex a.w6 ++ ':' :: hex a.w7 := by
      rw [List.mem_append, List.mem_cons]
      rintro (hmem | hmem | hmem)
      · exact notMem_hex (by decide) _ hmem
      · exact absurd hmem (by decide)
      · exact notMem_hex (by decide) _ hmem
    have hnot : ¬ isDotted (hex a.w6 ++ ':' :: hex a.w7) = true := by
      unfold isDotted
      rw [List.splitOn_eq_singleton hdot]
      simp
    have h6 : a.w6.val / 256 % 256 = a.w6.val / 256 := Nat.mod_eq_of_lt (by omega)
    have h7 : a.w7.val / 256 % 256 = a.w7.val / 256 := Nat.mod_eq_of_lt (by omega)
    unfold extractIPv4MappedAddress
    rw [if_pos (List.prefix_append _ _)]
    dsimp only
    rw [hrest, if_neg hnot, hsplit]
    dsimp only
    rw [isSmallPiece_hex a.w6.isLt, isSmallPiece_hex a.w7.isLt, if_pos (by decide), parseHex_hex,
      parseHex_hex, h6, h7]
    rfl
  · rw [List.map_append, hhead, text_toLower]
    unfold extractIPv4MappedAddress
    rw [if_pos (List.prefix_append _ _)]
    dsimp only
    rw [hrest, if_pos (isDotted_text _)]

theorem private_of_mapped {a : IPv6} {text : Chars} (h : a.IsText text) (hmapped : a.IsMapped)
    (hprivate : ¬ (embedded a.w6 a.w7).IsPublic) : isPrivateOrReservedAddress text = true := by
  rw [isPrivateOrReservedAddress_six h.isIP rfl]
  right; right; right; right
  exact ⟨_, extract_mapped h hmapped, (isPrivateOrReserved_text 0 _).2 hprivate⟩

/-! ## What the guard admits -/

theorem Address.Missed.not_isPublic {a : Address} (h : a.Missed) : ¬ a.IsPublic := by
  intro hpublic
  cases a with
  | v4 a => exact h
  | v6 a =>
    rcases h with ⟨hlink, -⟩ | hmulticast | ⟨hw, hprivate⟩
    · exact IPv6.IsPublic.linkLocal hpublic hlink
    · exact IPv6.IsPublic.multicast hpublic hmulticast
    · exact hprivate (IPv6.IsPublic.sixToFour hpublic hw)

def Address.IsText : Address → Chars → Prop
  | v4 a, text => text = a.text
  | v6 a, text => a.IsText text

theorem IPv6.not_isPublic {a : IPv6} (h : ¬ a.IsPublic) :
    a = ⟨0, 0, 0, 0, 0, 0, 0, 0⟩ ∨ a = ⟨0, 0, 0, 0, 0, 0, 0, 1⟩ ∨ a.IsLinkLocal ∨ a.IsUniqueLocal ∨
      a.IsMulticast ∨ (a.IsMapped ∧ ¬ (embedded a.w6 a.w7).IsPublic) ∨
      (a.w0 = 0x2002 ∧ ¬ (embedded a.w1 a.w2).IsPublic) := by
  by_contra hnone
  simp only [not_or, not_and, not_not] at hnone
  obtain ⟨hunspecified, hloopback, hlink, hunique, hmulticast, hmapped, hsixToFour⟩ := hnone
  exact h ⟨hunspecified, hloopback, hlink, hunique, hmulticast, hmapped, hsixToFour⟩

theorem private_of_not_isPublic {a : Address} {text : Chars} (htext : a.IsText text)
    (hpublic : ¬ a.IsPublic) (hmissed : ¬ a.Missed) : isPrivateOrReservedAddress text = true := by
  cases a with
  | v4 a =>
    have htext : text = a.text := htext
    rw [htext]
    exact (isPrivateOrReserved_text 1 a).2 hpublic
  | v6 a =>
    have htext : a.IsText text := htext
    rcases IPv6.not_isPublic hpublic with rfl | rfl | hlink | hunique | hmulticast |
      ⟨hmapped, hprivate⟩ | hsixToFour
    · rw [eq_of_isText_unspecified htext]
      decide +kernel
    · rw [eq_of_isText_loopback htext]
      decide +kernel
    · by_cases hw : a.w0 = 0xfe80
      · refine (private_iff_start htext ?_).2 (.inl hw)
        rw [hw]
        decide
      · exact absurd (.inl ⟨hlink, hw⟩) hmissed
    · refine (private_iff_start htext ?_).2 (.inr hunique)
      unfold IPv6.IsUniqueLocal at hunique
      omega
    · exact absurd (.inr (.inl hmulticast)) hmissed
    · exact private_of_mapped htext hmapped hprivate
    · exact absurd (.inr (.inr hsixToFour)) hmissed

theorem assertPublicAddress_eq_ok {text : Chars} {u : Unit} :
    assertPublicAddress text = .ok u ↔ isPrivateOrReservedAddress text = false := by
  unfold assertPublicAddress
  rw [refuseIf_eq_ok, Bool.not_eq_true]

theorem forM_assertPublicAddress {addresses : List Address} {u : PUnit} :
    addresses.forM (fun address => assertPublicAddress address.lookupText) = .ok u ↔
      ∀ a ∈ addresses, isPrivateOrReservedAddress a.lookupText = false := by
  induction addresses with
  | nil => exact ⟨fun _ => nofun, fun _ => rfl⟩
  | cons a addresses ih =>
    rw [List.forM, except_bind_eq_ok, List.forall_mem_cons, ← ih]
    constructor
    · rintro ⟨_, ha, hrest⟩
      exact ⟨assertPublicAddress_eq_ok.1 ha, hrest⟩
    · rintro ⟨ha, hrest⟩
      exact ⟨(), assertPublicAddress_eq_ok.2 ha, hrest⟩

variable {lookup : Chars → Except Failure (List Address)}

/-- The guard tests every address the webhook may be sent to, and admits the URL if there is
one and nothing is found. -/
theorem assertSafeWebhookUrl_eq_ok {url : ParsedUrl} :
    assertSafeWebhookUrl (some url) lookup = .ok () ↔
      url.host.targets lookup ≠ [] ∧ ¬ IsRefused url lookup := by
  obtain ⟨protocol, host⟩ := url
  unfold assertSafeWebhookUrl IsRefused
  rw [except_bind_eq_ok]
  simp only [orRefuse_eq_ok, Option.some.injEq, exists_eq_left', except_bind_eq_ok, refuseIf_eq_ok,
    exists_const, not_or, not_exists, not_and, Bool.not_eq_true]
  cases host with
  | address a =>
    have hip : isIP (Host.address a).name ≠ 0 := by
      cases a with
      | v4 a =>
        show isIP a.text ≠ 0
        rw [isIP_text]
        decide
      | v6 a =>
        show isIP a.urlText ≠ 0
        rw [isIP_urlText]
        decide
    rw [if_pos hip, assertPublicAddress_eq_ok]
    unfold Host.targets
    simp only [List.mem_singleton, forall_eq, ne_eq, List.cons_ne_self, not_false_eq_true, true_and, hip,
      false_implies]
  | domain name notIP =>
    have hname : ¬ isIP (Host.domain name notIP).name ≠ 0 := not_not.2 notIP
    have hlocal : (isIP (Host.domain name notIP).name = 0 →
        ¬ (Host.domain name notIP).name.map Char.toLower = "localhost".toList) ↔
        ¬ name.map Char.toLower = "localhost".toList :=
      ⟨fun h => h notIP, fun h _ => h⟩
    rw [if_neg hname, except_bind_eq_ok, hlocal]
    simp only [refuseIf_eq_ok, exists_const]
    unfold Host.targets
    dsimp only [Host.name]
    cases hlookup : lookup name with
    | error e =>
      constructor
      · rintro ⟨-, -, h⟩
        cases h
      · rintro ⟨h, -⟩
        exact absurd rfl h
    | ok addresses =>
      dsimp only
      rw [except_bind_eq_ok]
      simp only [refuseIf_eq_ok, exists_const, forM_assertPublicAddress]
      show _ ↔ addresses.map (fun a => (a, a.lookupText)) ≠ [] ∧ _ ∧ _ ∧
        ∀ t ∈ addresses.map fun a => (a, a.lookupText), isPrivateOrReservedAddress t.2 = false
      rw [List.forall_mem_map, ne_eq, List.map_eq_nil_iff]
      exact ⟨fun ⟨hprotocol, hlocal, hsome, hpublic⟩ => ⟨hsome, hprotocol, hlocal, hpublic⟩,
        fun ⟨hsome, hprotocol, hlocal, hpublic⟩ => ⟨hprotocol, hlocal, hsome, hpublic⟩⟩

theorem isText_of_mem_targets {host : Host}
    {t : Address × Chars} (h : t ∈ host.targets lookup) : t.1.IsText t.2 := by
  have htexts : ∀ a : Address, a.IsText (Host.address a).name ∧ a.IsText a.lookupText := by
    intro a
    cases a with
    | v4 a => exact ⟨rfl, rfl⟩
    | v6 a => exact ⟨.inl rfl, .inr rfl⟩
  cases host with
  | address a =>
    rw [List.mem_singleton.1 h]
    exact (htexts a).1
  | domain name notIP =>
    obtain ⟨a, -, rfl⟩ := List.mem_map.1 h
    exact (htexts a).2

/-- Only public addresses are admitted, unless a missed one is: exactly if every URL with a
target that the tests miss is refused for something else. -/
theorem guard_admits_public_iff (url : ParsedUrl) (lookup : Chars → Except Failure (List Address)) :
    AdmitsPublicOnly url lookup ↔
      ((∃ t ∈ url.host.targets lookup, t.1.Missed) → IsRefused url lookup) := by
  unfold AdmitsPublicOnly
  rw [assertSafeWebhookUrl_eq_ok]
  constructor
  · rintro h ⟨t, ht, hmissed⟩
    by_contra hadmitted
    exact hmissed.not_isPublic (h ⟨List.ne_nil_of_mem ht, hadmitted⟩ t ht)
  · rintro h ⟨-, hadmitted⟩ t ht
    by_contra hpublic
    by_cases hmissed : t.1.Missed
    · exact hadmitted (h ⟨t, ht, hmissed⟩)
    · have hfound := private_of_not_isPublic (isText_of_mem_targets ht) hpublic hmissed
      exact hadmitted (.inr (.inr ⟨t, ht, hfound⟩))

theorem guard_admits_multicast :
    let admitsOnly (a : IPv6) := AdmitsPublicOnly ⟨"http:", .address (.v6 a)⟩ fun _ => .ok []
    ¬ admitsOnly ⟨0xff02, 0, 0, 0, 0, 0, 0, 1⟩ ∧ ¬ admitsOnly ⟨0xfe90, 0, 0, 0, 0, 0, 0, 1⟩ ∧
      ¬ admitsOnly ⟨0x2002, 0x7f00, 1, 0, 0, 0, 0, 0⟩ := by
  have hmulticast : ¬ (IPv6.IsPublic ⟨0xff02, 0, 0, 0, 0, 0, 0, 1⟩) := by
    intro h
    exact h.multicast (by unfold IPv6.IsMulticast; decide)
  have hlink : ¬ (IPv6.IsPublic ⟨0xfe90, 0, 0, 0, 0, 0, 0, 1⟩) := by
    intro h
    exact h.linkLocal (by unfold IPv6.IsLinkLocal; decide)
  have hloopback : ¬ (IPv6.IsPublic ⟨0x2002, 0x7f00, 1, 0, 0, 0, 0, 0⟩) := by
    intro h
    exact (h.sixToFour rfl).1 rfl
  refine ⟨fun h => hmulticast ?_, fun h => hlink ?_, fun h => hloopback ?_⟩
  · exact h (by decide +kernel) _ List.mem_cons_self
  · exact h (by decide +kernel) _ List.mem_cons_self
  · exact h (by decide +kernel) _ List.mem_cons_self

end FashionErp.WebhookUrlGuard
