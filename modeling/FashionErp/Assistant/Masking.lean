/-
`maskSensitiveData` of `ai-assistant/services/ai-guardrails.service.ts`.

A card number and a token both stand between word boundaries, begin with a word character, and have
no bracket.
-/
import FashionErp.Assistant.Guardrails

namespace FashionErp

open Lib

/-! ## What patterns read -/

namespace Pattern

/-- Every match reads characters of `K`, and could be made wherever these stand. -/
def Within (K : Char → Bool) (once : Place → List Place) : Prop :=
  ∀ place, ∀ next ∈ once place, ∃ m, place.rest = m ++ next.rest ∧
    next.before = m.getLast?.or place.before ∧ (∀ d ∈ m, K d = true) ∧
    ∀ b s, (⟨m.getLast?.or b, s⟩ : Place) ∈ once ⟨b, m ++ s⟩

variable {K F G L : Char → Bool}

theorem getLast?_cons_or (c : Char) (m : List Char) (b : Option Char) :
    (c :: m).getLast?.or b = (c :: m).getLast? := by
  rw [List.getLast?_cons]
  rfl

theorem getLast?_or_cons (c : Char) (m : List Char) (b : Option Char) :
    (c :: m).getLast?.or b = m.getLast?.or (some c) := by
  cases m with
  | nil => rfl
  | cons d m => rw [List.getLast?_cons_cons, getLast?_cons_or, getLast?_cons_or]

theorem within_nil : Within K fun place => [place] := by
  intro place next hnext
  rw [List.mem_singleton.1 hnext]
  exact ⟨[], rfl, rfl, by simp, fun _ _ => List.mem_singleton.2 rfl⟩

theorem Within.append {f g : Place → List Place} (hf : Within K f) (hg : Within K g) :
    Within K fun place => (f place).flatMap g := by
  intro place next hnext
  obtain ⟨mid, hmid, hnext⟩ := List.mem_flatMap.1 hnext
  obtain ⟨m, hrest, hbefore, hm, hread⟩ := hf place mid hmid
  obtain ⟨m', hrest', hbefore', hm', hread'⟩ := hg mid next hnext
  refine ⟨m ++ m', ?_, ?_, ?_, fun b s => ?_⟩
  · rw [hrest, hrest', List.append_assoc]
  · rw [hbefore', hbefore, List.getLast?_append, Option.or_assoc]
  · intro d hd
    exact (List.mem_append.1 hd).elim (hm d) (hm' d)
  · refine List.mem_flatMap.2 ⟨⟨m.getLast?.or b, m' ++ s⟩, ?_, ?_⟩
    · rw [List.append_assoc]
      exact hread b (m' ++ s)
    · rw [List.getLast?_append, Option.or_assoc]
      exact hread' _ s

theorem within_chars {p : Char → Bool} (h : ∀ c, p c = true → K c = true) :
    Within K (ends (chars p)) := by
  rintro ⟨b, rest⟩ next hnext
  cases rest with
  | nil => cases hnext
  | cons c rest =>
    simp only [ends] at hnext
    split at hnext
    · rename_i hc
      rw [List.mem_singleton.1 hnext]
      exact ⟨[c], rfl, rfl, by simpa using h c hc, fun b s => by simp [ends, hc]⟩
    · cases hnext

theorem within_seq {ps : List Pattern} (h : ∀ p ∈ ps, Within K (ends p)) : Within K (endsSeq ps) := by
  induction ps with
  | nil => exact within_nil
  | cons p ps ih =>
    exact (h p List.mem_cons_self).append (ih fun p hp => h p (List.mem_cons_of_mem _ hp))

theorem within_alt {ps : List Pattern} (h : ∀ p ∈ ps, Within K (ends p)) : Within K (endsAlt ps) := by
  induction ps with
  | nil => exact fun _ _ hnext => by cases hnext
  | cons p ps ih =>
    intro place next hnext
    rw [endsAlt, List.mem_append] at hnext
    rcases hnext with hnext | hnext
    · obtain ⟨m, hrest, hbefore, hm, hread⟩ := h p List.mem_cons_self place next hnext
      exact ⟨m, hrest, hbefore, hm, fun b s => List.mem_append_left _ (hread b s)⟩
    · obtain ⟨m, hrest, hbefore, hm, hread⟩ :=
        ih (fun p hp => h p (List.mem_cons_of_mem _ hp)) place next hnext
      exact ⟨m, hrest, hbefore, hm, fun b s => List.mem_append_right _ (hread b s)⟩

theorem mem_repeated_succ {once : Place → List Place} {lazily : Bool} {n : ℕ} {place next : Place} :
    next ∈ repeated once lazily (n + 1) place ↔ next = place ∨ ∃ mid ∈ once place,
      mid.rest.length < place.rest.length ∧ next ∈ repeated once lazily n mid := by
  have hmore : next ∈ ((once place).flatMap fun mid =>
      if mid.rest.length < place.rest.length then repeated once lazily n mid else []) ↔
      ∃ mid ∈ once place, mid.rest.length < place.rest.length ∧ next ∈ repeated once lazily n mid := by
    rw [List.mem_flatMap]
    refine exists_congr fun mid => and_congr_right fun _ => ?_
    split
    · rename_i hlt
      exact (and_iff_right hlt).symm
    · rename_i hge
      exact iff_of_false (fun h => by cases h) fun h => hge h.1
  simp only [repeated]
  split
  · rw [List.mem_cons, hmore]
  · rw [List.mem_append, List.mem_singleton, hmore, or_comm]

theorem self_mem_repeated (once : Place → List Place) (lazily : Bool) (n : ℕ) (place : Place) :
    place ∈ repeated once lazily n place := by
  cases n with
  | zero => exact List.mem_singleton.2 rfl
  | succ n => exact mem_repeated_succ.2 (.inl rfl)

theorem within_star {p : Pattern} {lazily : Bool} (h : Within K (ends p)) :
    Within K (ends (star p lazily)) := by
  -- What `n` rounds read, any number of rounds reads that is as long.
  have hrounds : ∀ n place, ∀ next ∈ repeated (ends p) lazily n place, ∃ m,
      place.rest = m ++ next.rest ∧ next.before = m.getLast?.or place.before ∧ (∀ d ∈ m, K d = true) ∧
      ∀ b s n', m.length ≤ n' →
        (⟨m.getLast?.or b, s⟩ : Place) ∈ repeated (ends p) lazily n' ⟨b, m ++ s⟩ := by
    intro n
    induction n with
    | zero =>
      intro place next hnext
      rw [List.mem_singleton.1 hnext]
      exact ⟨[], rfl, rfl, by simp, fun b s n' _ => self_mem_repeated ..⟩
    | succ n ih =>
      intro place next hnext
      rcases mem_repeated_succ.1 hnext with rfl | ⟨mid, hmid, hlt, hnext⟩
      · exact ⟨[], rfl, rfl, by simp, fun b s n' _ => self_mem_repeated ..⟩
      · obtain ⟨m, hrest, hbefore, hm, hread⟩ := h place mid hmid
        obtain ⟨m', hrest', hbefore', hm', hread'⟩ := ih mid next hnext
        have hpos : 0 < m.length := by
          rw [hrest, List.length_append] at hlt
          omega
        refine ⟨m ++ m', ?_, ?_, ?_, fun b s n' hn' => ?_⟩
        · rw [hrest, hrest', List.append_assoc]
        · rw [hbefore', hbefore, List.getLast?_append, Option.or_assoc]
        · intro d hd
          exact (List.mem_append.1 hd).elim (hm d) (hm' d)
        · rw [List.length_append] at hn'
          obtain ⟨k, rfl⟩ : ∃ k, n' = k + 1 := ⟨n' - 1, by omega⟩
          refine mem_repeated_succ.2 (.inr ⟨⟨m.getLast?.or b, m' ++ s⟩, ?_, ?_, ?_⟩)
          · rw [List.append_assoc]
            exact hread b (m' ++ s)
          · simp only [List.length_append]
            omega
          · rw [List.getLast?_append, Option.or_assoc]
            exact hread' _ s k (by omega)
  intro place next hnext
  obtain ⟨m, hrest, hbefore, hm, hread⟩ := hrounds _ place next hnext
  refine ⟨m, hrest, hbefore, hm, fun b s => hread b s _ ?_⟩
  rw [List.length_append]
  omega

/-! ## Matches between word boundaries -/

/-- A match begins with a character of `F`, reads characters of `K`, is between word boundaries, and
could be made wherever it is between word boundaries. -/
def Delimited (p : Pattern) (F K : Char → Bool) : Prop :=
  ∀ place, ∀ next ∈ p.ends place, ∃ c m, place.rest = c :: m ++ next.rest ∧ F c = true ∧
    (∀ d ∈ c :: m, K d = true) ∧ next.before = (c :: m).getLast? ∧
    place.before.any isWord ≠ isWord c ∧ next.before.any isWord ≠ next.rest.head?.any isWord ∧
    ∀ b s, b.any isWord = place.before.any isWord →
      s.head?.any isWord = next.rest.head?.any isWord → p.ends ⟨b, c :: m ++ s⟩ ≠ []

theorem mem_ends_wordBoundary {place next : Place} : next ∈ ends wordBoundary place ↔
    next = place ∧ place.before.any isWord ≠ place.rest.head?.any isWord := by
  unfold ends
  split
  · rename_i heq
    exact iff_of_false (fun h => by cases h) fun h => h.2 heq
  · rename_i hne
    rw [List.mem_singleton]
    exact (and_iff_left hne).symm

theorem mem_endsSeq_append {ps qs : List Pattern} {place next : Place} :
    next ∈ endsSeq (ps ++ qs) place ↔ ∃ mid ∈ endsSeq ps place, next ∈ endsSeq qs mid := by
  induction ps generalizing place with
  | nil => simp [endsSeq]
  | cons p ps ih =>
    rw [List.cons_append, endsSeq, endsSeq]
    simp only [List.mem_flatMap, ih]
    constructor
    · rintro ⟨a, ha, mid, hmid, hnext⟩
      exact ⟨mid, ⟨a, ha, hmid⟩, hnext⟩
    · rintro ⟨mid, ⟨a, ha, hmid⟩, hnext⟩
      exact ⟨a, ha, mid, hmid, hnext⟩

theorem mem_ends_delimited {ps : List Pattern} {place next : Place} :
    next ∈ ends (seq (wordBoundary :: (ps ++ [wordBoundary]))) place ↔
      place.before.any isWord ≠ place.rest.head?.any isWord ∧ next ∈ endsSeq ps place ∧
        next.before.any isWord ≠ next.rest.head?.any isWord := by
  rw [ends, endsSeq, List.mem_flatMap]
  simp only [mem_ends_wordBoundary, mem_endsSeq_append, endsSeq, List.flatMap_singleton']
  constructor
  · rintro ⟨_, ⟨rfl, hstart⟩, mid, hmid, rfl, hend⟩
    exact ⟨hstart, hmid, hend⟩
  · rintro ⟨hstart, hnext, hend⟩
    exact ⟨place, ⟨rfl, hstart⟩, next, hnext, rfl, hend⟩

theorem delimited (ps : List Pattern) (h : ∀ p ∈ ps, Within K (ends p))
    (hfirst : ∀ place, ∀ next ∈ endsSeq ps place, place.rest.head?.any F = true) :
    Delimited (seq (wordBoundary :: (ps ++ [wordBoundary]))) F K := by
  intro place next hnext
  obtain ⟨hstart, hmid, hend⟩ := mem_ends_delimited.1 hnext
  obtain ⟨m, hrest, hbefore, hm, hread⟩ := within_seq h place next hmid
  have hhead := hfirst _ _ (hread none [])
  cases m with
  | nil => cases hhead
  | cons c m =>
    rw [getLast?_cons_or] at hbefore
    refine ⟨c, m, hrest, hhead, hm, hbefore, ?_, hend, fun b s hb hs => ?_⟩
    · rw [hrest] at hstart
      exact hstart
    · refine List.ne_nil_of_mem (mem_ends_delimited.2 ⟨?_, hread b s, ?_⟩)
      · rw [hb]
        rw [hrest] at hstart
        exact hstart
      · rw [getLast?_cons_or, hs, ← hbefore]
        exact hend

/-! ## Replacing -/

variable {p q : Pattern} {repl : List Char}

theorem find_eq_false_of_nil (hp : Delimited p F K) (b : Option Char) : find p b [] = false := by
  cases hends : p.ends ⟨b, []⟩ with
  | nil =>
    unfold find
    rw [hends]
    rfl
  | cons next _ =>
    obtain ⟨c, m, hrest, -⟩ := hp _ next (hends ▸ List.mem_cons_self)
    cases hrest

theorem find_cons {b : Option Char} {c : Char} {rest : List Char} :
    find p b (c :: rest) = false ↔ p.ends ⟨b, c :: rest⟩ = [] ∧ find p (some c) rest = false := by
  rw [find, Bool.or_eq_false_iff, Option.isSome_eq_false_iff, Option.isNone_iff_eq_none,
    List.head?_eq_none_iff]

theorem replaceFrom_cons {c : Char} {rest : List Char} {n : ℕ} {b : Option Char}
    (h : q.ends ⟨b, c :: rest⟩ = []) :
    replaceFrom q repl (n + 1) ⟨b, c :: rest⟩ = c :: replaceFrom q repl n ⟨some c, rest⟩ := by
  simp [replaceFrom, h]

theorem replaceFrom_or (n : ℕ) (b : Option Char) (rest : List Char) :
    (replaceFrom q repl n ⟨b, rest⟩).head? = rest.head? ∨ ∃ k next, n = k + 1 ∧
      next ∈ q.ends ⟨b, rest⟩ ∧ replaceFrom q repl n ⟨b, rest⟩ = repl ++ replaceFrom q repl k next := by
  cases n with
  | zero => exact .inl rfl
  | succ n =>
    cases rest with
    | nil => exact .inl rfl
    | cons c rest =>
      cases hends : q.ends ⟨b, c :: rest⟩ with
      | nil =>
        rw [replaceFrom_cons hends]
        exact .inl rfl
      | cons next _ =>
        refine .inr ⟨n, next, rfl, List.mem_cons_self, ?_⟩
        simp [replaceFrom, hends]

theorem replaceFrom_eq_append (hbracket : repl.head? = some '[') :
    ∀ (m : List Char) {n : ℕ} {b : Option Char} {rest s : List Char},
      replaceFrom q repl n ⟨b, rest⟩ = m ++ s → '[' ∉ m →
        ∃ k s', rest = m ++ s' ∧ s = replaceFrom q repl k ⟨m.getLast?.or b, s'⟩
  | [], n, _, rest, _, h, _ => ⟨n, rest, rfl, h.symm⟩
  | c :: m, n, b, rest, s, h, hc => by
    have hopen : ∀ {X}, repl ++ X ≠ c :: m ++ s := by
      intro X heq
      have hfirst := congrArg List.head? heq
      rw [List.head?_append, hbracket] at hfirst
      exact hc (Option.some.inj hfirst ▸ List.mem_cons_self)
    cases rest with
    | nil =>
      cases n <;> cases h
    | cons c' rest =>
      cases n with
      | zero =>
        exact ⟨0, s, h, rfl⟩
      | succ n =>
        cases hends : q.ends ⟨b, c' :: rest⟩ with
        | nil =>
          rw [replaceFrom_cons hends] at h
          obtain ⟨rfl, htail⟩ := List.cons.inj h
          obtain ⟨k, s', hrest, hs⟩ := replaceFrom_eq_append hbracket m htail
            fun hmem => hc (List.mem_cons_of_mem _ hmem)
          refine ⟨k, s', by rw [hrest]; rfl, ?_⟩
          rw [getLast?_or_cons]
          exact hs
        | cons next _ =>
          simp only [replaceFrom, hends, List.head?_cons] at h
          exact absurd h hopen

/-- A match in the result is one in the text, where what stands before is as much a word. -/
theorem ends_of_replaceFrom (hp : Delimited p F K) (hq : Delimited q G L)
    (hbracket : repl.head? = some '[') (hF : ∀ c, F c = true → isWord c = true)
    (hG : ∀ c, G c = true → isWord c = true) (hK : K '[' = false) {n : ℕ} {b b' : Option Char}
    {rest : List Char} (hb : rest.head?.any isWord = true → b'.any isWord = b.any isWord)
    (h : p.ends ⟨b', replaceFrom q repl n ⟨b, rest⟩⟩ ≠ []) : p.ends ⟨b, rest⟩ ≠ [] := by
  obtain ⟨next, hnext⟩ := List.exists_mem_of_ne_nil _ h
  obtain ⟨c, m, hresult, hc, hm, hbefore, -, hend, htransfer⟩ := hp _ next hnext
  have hplain : '[' ∉ c :: m := fun hmem => by
    rw [hm _ hmem] at hK
    cases hK
  obtain ⟨k, s', hrest, hs⟩ := replaceFrom_eq_append hbracket (c :: m) hresult hplain
  rw [getLast?_cons_or, ← hbefore] at hs
  have hagree : s'.head?.any isWord = next.rest.head?.any isWord := by
    rcases replaceFrom_or k next.before s' with hhead | ⟨_, after, -, hafter, heq⟩
    · rw [hs, hhead]
    · -- A replacement begins right after the match, so the match ends with a word character; but
      -- what was replaced begins with one, and at a word boundary.
      obtain ⟨c', m', hrest', hc', -, -, hstart, -⟩ := hq _ after hafter
      rw [hs, heq, List.head?_append, hbracket] at hend
      rw [hG c' hc'] at hstart
      have hword : next.before.any isWord = true := Bool.eq_true_of_not_eq_false fun hno => hend hno
      exact absurd hword hstart
  rw [hrest]
  refine htransfer b s' ?_ hagree
  have hhead : rest.head?.any isWord = true := by
    rw [hrest]
    exact hF c hc
  exact (hb hhead).symm

theorem find_append {r s : List Char} (hp : Delimited p F K) (hr : ∀ d ∈ r, F d = false) :
    ∀ b, find p (r.getLast?.or b) s = false → find p b (r ++ s) = false := by
  induction r with
  | nil => exact fun b h => h
  | cons c r ih =>
    intro b h
    refine find_cons.2 ⟨?_, ih (fun d hd => hr d (List.mem_cons_of_mem _ hd)) (some c) ?_⟩
    · by_contra hne
      obtain ⟨next, hnext⟩ := List.exists_mem_of_ne_nil _ hne
      obtain ⟨c', m, hrest, hc', -⟩ := hp _ next hnext
      rw [← (List.cons.inj hrest).1, hr c List.mem_cons_self] at hc'
      cases hc'
    · rwa [getLast?_or_cons] at h

/-- No match of `p` is left, and none is made, by replacing `q` with a text in brackets, where
a place of the text at which `q` is not found has no match of `p` either. -/
theorem find_replaceFrom (hp : Delimited p F K) (hq : Delimited q G L)
    (hopen : repl.head? = some '[') (hclose : repl.getLast? = some ']')
    (hF : ∀ c, F c = true → isWord c = true) (hG : ∀ c, G c = true → isWord c = true)
    (hK : K '[' = false) (hrepl : ∀ d ∈ repl, F d = false)
    (Clear : Option Char → List Char → Prop)
    (hclear : ∀ {b rest}, Clear b rest → q.ends ⟨b, rest⟩ = [] → p.ends ⟨b, rest⟩ = [])
    (hstep : ∀ {b c rest}, Clear b (c :: rest) → Clear (some c) rest) :
    ∀ (n : ℕ) {b b' : Option Char} {rest : List Char}, rest.length ≤ n → Clear b rest →
      (rest.head?.any isWord = true → b'.any isWord = b.any isWord) →
        find p b' (replaceFrom q repl n ⟨b, rest⟩) = false := by
  have hskip : ∀ (m : List Char) {b : Option Char} {s : List Char}, Clear b (m ++ s) →
      Clear (m.getLast?.or b) s := by
    intro m
    induction m with
    | nil => exact fun h => h
    | cons c m ih =>
      intro b s h
      rw [getLast?_or_cons]
      exact ih (hstep h)
  intro n
  induction n with
  | zero =>
    intro b b' rest hlength hrest hb
    rw [List.eq_nil_of_length_eq_zero (Nat.le_zero.1 hlength)]
    exact find_eq_false_of_nil hp b'
  | succ n ih =>
    intro b b' rest hlength hrest hb
    cases rest with
    | nil => exact find_eq_false_of_nil hp b'
    | cons c rest =>
      cases hends : q.ends ⟨b, c :: rest⟩ with
      | nil =>
        have hnone : p.ends ⟨b', replaceFrom q repl (n + 1) ⟨b, c :: rest⟩⟩ = [] := by
          by_contra hne
          exact ends_of_replaceFrom hp hq hopen hF hG hK hb hne (hclear hrest hends)
        rw [replaceFrom_cons hends] at hnone ⊢
        refine find_cons.2 ⟨hnone, ih ?_ (hstep hrest) fun _ => rfl⟩
        rw [List.length_cons] at hlength
        omega
      | cons next _ =>
        obtain ⟨c', m, hmatch, -, -, hbefore, -, hend, -⟩ := hq _ next (hends ▸ List.mem_cons_self)
        dsimp only at hmatch
        simp only [replaceFrom, hends, List.head?_cons]
        refine find_append hp hrepl b' ?_
        rw [hclose]
        refine ih ?_ ?_ fun hword => ?_
        · have hsum := congrArg List.length hmatch
          rw [List.length_append, List.length_cons] at hsum
          rw [List.length_cons] at hlength hsum
          omega
        · have hafter := hskip (c' :: m) (hmatch ▸ hrest)
          rwa [getLast?_cons_or, ← hbefore] at hafter
        · rw [hword] at hend
          exact (Bool.eq_false_of_not_eq_true hend).symm

theorem replaceFrom_of_find : ∀ {n : ℕ} {b : Option Char} {rest : List Char},
    find q b rest = false → replaceFrom q repl n ⟨b, rest⟩ = rest
  | 0, _, _, _ => rfl
  | _ + 1, _, [], _ => rfl
  | n + 1, b, c :: rest, h => by
    obtain ⟨hnone, hrest⟩ := find_cons.1 h
    rw [replaceFrom_cons hnone, replaceFrom_of_find hrest]

end Pattern

namespace AiGuardrailsService

open Pattern

theorem head_of_chars {p : Char → Bool} {place next : Place} (h : next ∈ ends (chars p) place) :
    place.rest.head?.any p = true := by
  obtain ⟨b, rest⟩ := place
  cases rest with
  | nil => cases h
  | cons c rest =>
    simp only [ends] at h
    split at h
    · assumption
    · cases h

def inCardNumber (c : Char) : Bool := c.isDigit || (c = '-' || isWhiteSpace c)

def inToken (c : Char) : Bool := c = '.' || (c.isAlphanum || c = '-' || c = '_')

theorem delimited_creditCard : Delimited CREDIT_CARD_REGEX Char.isDigit inCardNumber := by
  have hdigit : Within inCardNumber digit.ends :=
    within_chars fun c h => by rw [inCardNumber, h, Bool.true_or]
  have hseparator : Within inCardNumber
      (optional (chars fun c => c = '-' || isWhiteSpace c)).ends := by
    refine within_alt (List.forall_mem_cons.2 ⟨?_, List.forall_mem_singleton.2 within_nil⟩)
    exact within_chars fun c h => by rw [inCardNumber, h, Bool.or_true]
  have hgroup : Within inCardNumber
      (seq [digit, digit, digit, digit, optional (chars fun c => c = '-' || isWhiteSpace c)]).ends :=
    within_seq (by simp [hdigit, hseparator])
  refine delimited [_, _, _, digit, digit, digit, digit] (by simp [hdigit, hgroup])
    fun place next hnext => ?_
  obtain ⟨_, hnext, -⟩ := List.mem_flatMap.1 hnext
  obtain ⟨_, hnext, -⟩ := List.mem_flatMap.1 hnext
  exact head_of_chars hnext

theorem delimited_jwt : Delimited JWT_REGEX (· = 'e') inToken := by
  have hpart : Within inToken (plus (chars fun c => c.isAlphanum || c = '-' || c = '_')).ends := by
    have hone : Within inToken (chars fun c => c.isAlphanum || c = '-' || c = '_').ends :=
      within_chars fun c h => by rw [inToken, h, Bool.or_true]
    exact within_seq (by simp [hone, within_star hone])
  have htext : ∀ s : String, (∀ c ∈ s.toList, inToken c = true) → Within inToken (text s).ends := by
    intro s hs
    refine within_seq fun p hp => ?_
    obtain ⟨c, hc, rfl⟩ := List.mem_map.1 hp
    exact within_chars fun d hd => by rw [of_decide_eq_true hd, hs c hc]
  have hopen := htext "eyJ" (List.all_eq_true.1 (by decide))
  have hdot := htext "." (List.all_eq_true.1 (by decide))
  refine delimited [text "eyJ", _, text ".", _, text ".", _] (by simp [hopen, hdot, hpart])
    fun place next hnext => ?_
  obtain ⟨_, hnext, -⟩ := List.mem_flatMap.1 hnext
  obtain ⟨_, hnext, -⟩ := List.mem_flatMap.1 hnext
  exact head_of_chars hnext

/-! ## The service -/

def maskText (s : String) : String :=
  JWT_REGEX.replaceAll "[REDACTED_JWT]" (CREDIT_CARD_REGEX.replaceAll "[REDACTED_CARD]" s)

def SENSITIVE_KEY_PATTERNS : List Pattern :=
  [ textI "password", textI "secret", textI "token", textI "apikey", textI "api_key",
    textI "authorization", seq [textI "credit", optional (text "_"), textI "card"], textI "cvv",
    textI "pin", seq [textI "private", optional (text "_"), textI "key"] ]

/-- `sensitivePatterns.some(..)`; an extra key is known by the test of its expression. -/
def isSensitiveKey (extraSensitiveKeys : List (String → Bool)) (key : String) : Bool :=
  (SENSITIVE_KEY_PATTERNS.map Pattern.test ++ extraSensitiveKeys).any fun test => test key

variable {ν : Type} (extraSensitiveKeys : List (String → Bool))

mutual

def maskSensitiveData : Json ν → Json ν
  | .null => .null
  | .string s => .string (maskText s)
  | .array elements => .array (maskElements elements)
  | .object properties => .object (maskProperties properties)
  | .bool b => .bool b
  | .number n => .number n

def maskElements : List (Json ν) → List (Json ν)
  | [] => []
  | item :: items => maskSensitiveData item :: maskElements items

def maskProperties : List (String × Json ν) → List (String × Json ν)
  | [] => []
  | (key, value) :: properties =>
    -- To assign to this one is to set the prototype, which is no property.
    if key = "__proto__" then maskProperties properties
    else if isSensitiveKey extraSensitiveKeys key then
      (key, .string "[REDACTED]") :: maskProperties properties
    -- What is not a text, an array or an object is kept.
    else (key, maskSensitiveData value) :: maskProperties properties

end

mutual

def Alike : Json ν → Json ν → Prop
  | .array xs, w => ∃ ys, w = .array ys ∧ AlikeElements xs ys
  | .object ps, w => ∃ qs, w = .object qs ∧ AlikeProperties ps qs
  | .null, w => w = .null
  | .bool b, w => w = .bool b
  | .number n, w => w = .number n
  | .string s, w => w = .string s

def AlikeElements : List (Json ν) → List (Json ν) → Prop
  | [], ws => ws = []
  | v :: vs, ws => ∃ w ws', ws = w :: ws' ∧ Alike v w ∧ AlikeElements vs ws'

def AlikeProperties : List (String × Json ν) → List (String × Json ν) → Prop
  | [], qs => qs = []
  | (key, v) :: ps, qs => ∃ w qs', qs = (key, w) :: qs' ∧
      (isSensitiveKey extraSensitiveKeys key = false → Alike v w) ∧ AlikeProperties ps qs'

end

mutual

def openTexts : Json ν → List String
  | .string s => [s]
  | .array elements => openTextsOfElements elements
  | .object properties => openTextsOfProperties properties
  | .null => []
  | .bool _ => []
  | .number _ => []

def openTextsOfElements : List (Json ν) → List String
  | [] => []
  | v :: vs => openTexts v ++ openTextsOfElements vs

def openTextsOfProperties : List (String × Json ν) → List String
  | [] => []
  | (key, v) :: ps =>
    if isSensitiveKey extraSensitiveKeys key then openTextsOfProperties ps
    else openTexts v ++ openTextsOfProperties ps

end

/-! ## What is hidden -/

theorem isWord_of_isDigit (c : Char) (h : c.isDigit = true) : isWord c = true := by
  simp [isWord, Char.isAlphanum, h]

theorem isWord_of_eq (c : Char) (h : decide (c = 'e') = true) : isWord c = true := by
  rw [of_decide_eq_true h]
  decide

theorem forall_of_not_any {F : Char → Bool} {l : List Char} (h : l.any F = false) :
    ∀ d ∈ l, F d = false :=
  fun d hd => Bool.eq_false_of_not_eq_true (List.any_eq_false.1 h d hd)

theorem test_maskText (s : String) :
    CREDIT_CARD_REGEX.test (maskText s) = false ∧ JWT_REGEX.test (maskText s) = false := by
  unfold maskText Pattern.test
  generalize hcards : CREDIT_CARD_REGEX.replaceAll "[REDACTED_CARD]" s = t
  have hcard : find CREDIT_CARD_REGEX none t.toList = false := by
    rw [← hcards, replaceAll, String.toList_ofList]
    exact find_replaceFrom delimited_creditCard delimited_creditCard (by decide) (by decide)
      isWord_of_isDigit isWord_of_isDigit (by decide) (forall_of_not_any (by decide)) (fun _ _ => True)
      (fun _ h => h) (fun _ => trivial) _ (Nat.le_refl _) trivial fun _ => rfl
  unfold replaceAll
  rw [String.toList_ofList]
  constructor
  · refine find_replaceFrom delimited_creditCard delimited_jwt (by decide) (by decide)
      isWord_of_isDigit isWord_of_eq (by decide) (forall_of_not_any (by decide))
      (fun b rest => find CREDIT_CARD_REGEX b rest = false) (fun {b rest} h _ => ?_)
      (fun h => (find_cons.1 h).2) _ (Nat.le_refl _) hcard fun _ => rfl
    cases rest with
    | nil =>
      rw [find, Option.isSome_eq_false_iff, Option.isNone_iff_eq_none, List.head?_eq_none_iff] at h
      exact h
    | cons c rest => exact (find_cons.1 h).1
  · exact find_replaceFrom delimited_jwt delimited_jwt (by decide) (by decide) isWord_of_eq isWord_of_eq
      (by decide) (forall_of_not_any (by decide)) (fun _ _ => True) (fun _ h => h) (fun _ => trivial) _
      (Nat.le_refl _) trivial fun _ => rfl

theorem maskText_maskText (s : String) : maskText (maskText s) = maskText s := by
  have hsame : ∀ {p : Pattern} {r : String}, p.test (maskText s) = false →
      p.replaceAll r (maskText s) = maskText s := by
    intro p r h
    rw [replaceAll, replaceFrom_of_find h, String.ofList_toList]
  obtain ⟨hcard, hjwt⟩ := test_maskText s
  conv_lhs => rw [maskText, hsame hcard, hsame hjwt]

mutual

theorem mask_congr : ∀ (v w : Json ν), Alike extraSensitiveKeys v w →
    maskSensitiveData extraSensitiveKeys v = maskSensitiveData extraSensitiveKeys w
  | .array xs, _, h => by
    rw [Alike] at h
    obtain ⟨ys, rfl, h⟩ := h
    rw [maskSensitiveData, maskSensitiveData, maskElements_congr xs ys h]
  | .object ps, _, h => by
    rw [Alike] at h
    obtain ⟨qs, rfl, h⟩ := h
    rw [maskSensitiveData, maskSensitiveData, maskProperties_congr ps qs h]
  | .null, _, h => by rw [Alike] at h; rw [h]
  | .bool _, _, h => by rw [Alike] at h; rw [h]
  | .number _, _, h => by rw [Alike] at h; rw [h]
  | .string _, _, h => by rw [Alike] at h; rw [h]

theorem maskElements_congr : ∀ (vs ws : List (Json ν)), AlikeElements extraSensitiveKeys vs ws →
    maskElements extraSensitiveKeys vs = maskElements extraSensitiveKeys ws
  | [], _, h => by rw [AlikeElements] at h; rw [h]
  | v :: vs, _, h => by
    rw [AlikeElements] at h
    obtain ⟨w, ws, rfl, hv, hvs⟩ := h
    rw [maskElements, maskElements, mask_congr v w hv, maskElements_congr vs ws hvs]

theorem maskProperties_congr : ∀ (ps qs : List (String × Json ν)),
    AlikeProperties extraSensitiveKeys ps qs →
      maskProperties extraSensitiveKeys ps = maskProperties extraSensitiveKeys qs
  | [], _, h => by rw [AlikeProperties] at h; rw [h]
  | (key, v) :: ps, _, h => by
    rw [AlikeProperties] at h
    obtain ⟨w, qs, rfl, hv, hps⟩ := h
    have htail := maskProperties_congr ps qs hps
    rw [maskProperties, maskProperties, htail]
    cases hkey : isSensitiveKey extraSensitiveKeys key with
    | true => rfl
    | false => rw [mask_congr v w (hv hkey)]

end

mutual

theorem openTexts_mask : ∀ (v : Json ν),
    ∀ s ∈ openTexts extraSensitiveKeys (maskSensitiveData extraSensitiveKeys v), ∃ t, s = maskText t
  | .array xs, s, hs => by
    rw [maskSensitiveData, openTexts] at hs
    exact openTextsOfElements_mask xs s hs
  | .object ps, s, hs => by
    rw [maskSensitiveData, openTexts] at hs
    exact openTextsOfProperties_mask ps s hs
  | .string t, s, hs => by
    rw [maskSensitiveData, openTexts] at hs
    exact ⟨t, List.mem_singleton.1 hs⟩
  | .null, _, hs => by rw [maskSensitiveData, openTexts] at hs; cases hs
  | .bool _, _, hs => by rw [maskSensitiveData, openTexts] at hs; cases hs
  | .number _, _, hs => by rw [maskSensitiveData, openTexts] at hs; cases hs

theorem openTextsOfElements_mask : ∀ (vs : List (Json ν)),
    ∀ s ∈ openTextsOfElements extraSensitiveKeys (maskElements extraSensitiveKeys vs), ∃ t, s = maskText t
  | [], _, hs => by rw [maskElements, openTextsOfElements] at hs; cases hs
  | v :: vs, s, hs => by
    rw [maskElements, openTextsOfElements, List.mem_append] at hs
    exact hs.elim (openTexts_mask v s) (openTextsOfElements_mask vs s)

theorem openTextsOfProperties_mask : ∀ (ps : List (String × Json ν)),
    ∀ s ∈ openTextsOfProperties extraSensitiveKeys (maskProperties extraSensitiveKeys ps),
      ∃ t, s = maskText t
  | [], _, hs => by rw [maskProperties, openTextsOfProperties] at hs; cases hs
  | (key, v) :: ps, s, hs => by
    have htail := openTextsOfProperties_mask ps s
    rw [maskProperties] at hs
    split at hs
    · exact htail hs
    · cases hkey : isSensitiveKey extraSensitiveKeys key with
      | true =>
        rw [hkey, if_pos rfl, openTextsOfProperties, hkey, if_pos rfl] at hs
        exact htail hs
      | false =>
        rw [hkey, if_neg (by decide), openTextsOfProperties, hkey, if_neg (by decide),
          List.mem_append] at hs
        exact hs.elim (openTexts_mask v s) htail

end

mutual

theorem mask_mask : ∀ (v : Json ν), maskSensitiveData extraSensitiveKeys
    (maskSensitiveData extraSensitiveKeys v) = maskSensitiveData extraSensitiveKeys v
  | .array xs => by rw [maskSensitiveData, maskSensitiveData, maskElements_maskElements xs]
  | .object ps => by rw [maskSensitiveData, maskSensitiveData, maskProperties_maskProperties ps]
  | .string s => by rw [maskSensitiveData, maskSensitiveData, maskText_maskText s]
  | .null => rfl
  | .bool _ => rfl
  | .number _ => rfl

theorem maskElements_maskElements : ∀ (vs : List (Json ν)), maskElements extraSensitiveKeys
    (maskElements extraSensitiveKeys vs) = maskElements extraSensitiveKeys vs
  | [] => rfl
  | v :: vs => by rw [maskElements, maskElements, mask_mask v, maskElements_maskElements vs]

theorem maskProperties_maskProperties : ∀ (ps : List (String × Json ν)),
    maskProperties extraSensitiveKeys (maskProperties extraSensitiveKeys ps) =
      maskProperties extraSensitiveKeys ps
  | [] => rfl
  | (key, v) :: ps => by
    have htail := maskProperties_maskProperties ps
    rw [maskProperties]
    split
    · exact htail
    · rename_i hkey
      split
      · rename_i hsensitive
        rw [maskProperties, if_neg hkey, if_pos hsensitive, htail]
      · rename_i hsensitive
        rw [maskProperties, if_neg hkey, if_neg hsensitive, mask_mask v, htail]

end

/-- Masking hides secrets: what is under sensitive keys does not show, no text elsewhere has a
card number or a token in it, and a masked value is left as it is. -/
theorem masking_hides_secrets :
    (∀ v w : Json ν, Alike extraSensitiveKeys v w →
        maskSensitiveData extraSensitiveKeys v = maskSensitiveData extraSensitiveKeys w) ∧
      (∀ v : Json ν, ∀ s ∈ openTexts extraSensitiveKeys (maskSensitiveData extraSensitiveKeys v),
        CREDIT_CARD_REGEX.test s = false ∧ JWT_REGEX.test s = false) ∧
      ∀ v : Json ν, maskSensitiveData extraSensitiveKeys (maskSensitiveData extraSensitiveKeys v) =
        maskSensitiveData extraSensitiveKeys v := by
  refine ⟨mask_congr extraSensitiveKeys, fun v s hs => ?_, mask_mask extraSensitiveKeys⟩
  obtain ⟨t, rfl⟩ := openTexts_mask extraSensitiveKeys v s hs
  exact test_maskText t

/-- Two arguments with different passwords, and one card number in the open. -/
theorem masking_hides_secrets_login :
    maskSensitiveData [] (.object [("password", .string "super"),
        ("query", .string "Card 4111-2222-3333-4444")] : Json ℤ) =
      maskSensitiveData [] (.object [("password", .string "other"),
        ("query", .string "Card 4111-2222-3333-4444")]) := by
  refine (masking_hides_secrets []).1 _ _ ?_
  simp only [Alike, AlikeProperties]
  exact ⟨_, rfl, _, _, rfl, fun h => absurd h (by decide +kernel), _, _, rfl, fun _ => rfl, rfl⟩

end AiGuardrailsService

end FashionErp
