/-
`AiGuardrailsService` of `ai-assistant/services/ai-guardrails.service.ts`: what the arguments
of a tool may not contain, and what is blotted out of its result.

The patterns are regular expressions.
-/
import FashionErp.Core.Basic
import FashionErp.Lib.Json

namespace FashionErp

open Lib

/-! ## Patterns -/

inductive Pattern where
  | chars (p : Char → Bool)
  | wordBoundary
  | seq (ps : List Pattern)
  | alt (ps : List Pattern)
  | star (p : Pattern) (lazily : Bool)

structure Place where
  before : Option Char
  rest : List Char

namespace Pattern

/-- `\w`. -/
def isWord (c : Char) : Bool := c.isAlphanum || c = '_'

/-- A case-insensitive character; the other case of an ASCII letter is one too. -/
def same (c d : Char) : Bool := c.toLower = d.toLower

def repeated (once : Place → List Place) (lazily : Bool) : ℕ → Place → List Place
  | 0, place => [place]
  | n + 1, place =>
    let more := (once place).flatMap fun next =>
      if next.rest.length < place.rest.length then repeated once lazily n next else []
    if lazily then place :: more else more ++ [place]

mutual

def ends : Pattern → Place → List Place
  | chars p, place =>
    match place.rest with
    | [] => []
    | c :: rest => if p c then [⟨some c, rest⟩] else []
  | wordBoundary, place =>
    if place.before.any isWord = place.rest.head?.any isWord then [] else [place]
  | seq ps, place => endsSeq ps place
  | alt ps, place => endsAlt ps place
  | star p lazily, place => repeated (ends p) lazily place.rest.length place

def endsSeq : List Pattern → Place → List Place
  | [], place => [place]
  | p :: ps, place => (ends p place).flatMap (endsSeq ps)

def endsAlt : List Pattern → Place → List Place
  | [], _ => []
  | p :: ps, place => ends p place ++ endsAlt ps place

end

def find (p : Pattern) : Option Char → List Char → Bool
  | before, [] => (p.ends ⟨before, []⟩).head?.isSome
  | before, c :: rest => (p.ends ⟨before, c :: rest⟩).head?.isSome || find p (some c) rest

def test (p : Pattern) (s : String) : Bool := p.find none s.toList

/-- `String.prototype.replace` with a global pattern that matches no empty text. -/
def replaceFrom (p : Pattern) (replacement : List Char) : ℕ → Place → List Char
  | 0, place => place.rest
  | fuel + 1, place =>
    match place.rest with
    | [] => []
    | c :: rest =>
      match (p.ends place).head? with
      | some next => replacement ++ replaceFrom p replacement fuel next
      | none => c :: replaceFrom p replacement fuel ⟨some c, rest⟩

def replaceAll (p : Pattern) (replacement : String) (s : String) : String :=
  String.ofList (replaceFrom p replacement.toList s.toList.length ⟨none, s.toList⟩)

def text (s : String) : Pattern := seq (s.toList.map fun c => chars (· = c))

/-- The same with the flag `i`. -/
def textI (s : String) : Pattern := seq (s.toList.map fun c => chars (same c))

/-- `p+`. -/
def plus (p : Pattern) : Pattern := seq [p, star p false]

/-- `p?`. -/
def optional (p : Pattern) : Pattern := alt [p, seq []]

/-- `\s`. -/
def space : Pattern := chars isWhiteSpace

/-- `\s+`. -/
def spaces : Pattern := plus space

/-- `\w`. -/
def word : Pattern := chars isWord

/-- `\d`. -/
def digit : Pattern := chars Char.isDigit

def anyOf (texts : List String) : Pattern := alt (texts.map textI)

end Pattern

namespace AiGuardrailsService

open Pattern

/-! ## The service -/

structure GuardrailValidationResult where
  safe : Bool
  reason : Option String := none
  sanitized : Option String := none
  deriving DecidableEq

def INJECTION_PATTERNS : List Pattern :=
  [ seq [textI "ignore", spaces, optional (seq [textI "all", spaces]),
      anyOf ["previous", "prior", "above"], spaces, textI "instructions"],
    seq [textI "disregard", spaces, optional (seq [textI "all", spaces]),
      anyOf ["previous", "prior", "system"], spaces, textI "instructions"],
    seq [anyOf ["reveal", "show", "display", "print", "expose"], spaces,
      optional (seq [textI "your", spaces]),
      alt [seq [textI "system", spaces, textI "prompt"], seq [textI "initial", spaces, textI "prompt"],
        seq [textI "developer", spaces, textI "instructions"]]],
    seq [textI "you", spaces, textI "are", spaces, textI "now", spaces,
      optional (seq [textI "in", spaces]), anyOf ["developer", "jailbreak", "god", "dan"], spaces,
      textI "mode"],
    seq [wordBoundary,
      alt [seq [textI "drop", spaces, textI "table"], seq [textI "delete", spaces, textI "from"],
        seq [textI "update", spaces, plus word, spaces, textI "set"],
        seq [textI "truncate", spaces, textI "table"]], wordBoundary],
    seq [textI "<script", wordBoundary, star (chars (· ≠ '>')) false, text ">",
      star (chars fun _ => true) true, textI "</script>"],
    seq [anyOf ["exec", "eval", "system"], star space false, text "("] ]

def CREDIT_CARD_REGEX : Pattern :=
  let group := seq [digit, digit, digit, digit, optional (chars fun c => c = '-' || isWhiteSpace c)]
  seq [wordBoundary, group, group, group, digit, digit, digit, digit, wordBoundary]

def JWT_REGEX : Pattern :=
  let part := plus (chars fun c => c.isAlphanum || c = '-' || c = '_')
  seq [wordBoundary, text "eyJ", part, text ".", part, text ".", part, wordBoundary]

def validateArguments {ν : Type} [NumberText ν] (toolName : String) (args : Json ν) :
    GuardrailValidationResult :=
  match args with
  | .array _ | .object _ =>
    if INJECTION_PATTERNS.any fun pattern => pattern.test (Json.stringify args none) then
      { safe := false
        reason := some
          s!"Tool arguments for '{toolName}' contain disallowed SQL, code, or injection syntax." }
    else { safe := true }
  | _ => { safe := true }

def internalErrorText : String :=
  "စနစ်အတွင်း အချက်အလက်များ လုပ်ဆောင်ရာတွင် အခက်အခဲရှိနေပါသည်။ ကျေးဇူးပြု၍ ခဏအကြာမှ ထပ်မံကြိုးစားပေးပါ။"

def validateOutput (output : String) : GuardrailValidationResult :=
  if output = "" then { safe := true, sanitized := some "" }
  else
    let sanitized := JWT_REGEX.replaceAll "[REDACTED_JWT]"
      (CREDIT_CARD_REGEX.replaceAll "[REDACTED_CARD]" output)
    let internal := seq [textI "Error:", star space false, anyOf ["ER_", "ECONNREFUSED", "PROTOCOL_"]]
    if internal.test output then
      { safe := true, sanitized := some internalErrorText, reason := some "Internal error redacted" }
    else { safe := true, sanitized := some sanitized }

example : (validateArguments "lookup_product"
    (.object [("query", .string "test; DELETE FROM users;")] : Json ℤ)).safe = false := by
  decide +kernel

example : (validateArguments "get_sales_summary"
    (.object [("from", .string "2026-09-01"), ("to", .string "2026-09-17")] : Json ℤ)).safe = true := by
  decide +kernel

end AiGuardrailsService

end FashionErp
