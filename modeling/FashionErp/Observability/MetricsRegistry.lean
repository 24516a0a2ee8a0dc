/-
`observability/metrics/metrics-registry.service.ts` and `metrics.interceptor.ts`: the metrics of
HTTP requests, and the text they are rendered as.

The series of a metric are kept under their labels as they are printed, `key="value"` with
commas between.
-/
import FashionErp.Core.Basic
import FashionErp.Lib.Machine
import FashionErp.Lib.Table
import Mathlib.Data.List.Induction
import Mathlib.Data.List.Lex
import Mathlib.Data.List.Sort

namespace FashionErp.MetricsRegistryService

open Lib Lib.Tx

/-! ## Labels -/

abbrev Chars := List Char

/-- An entry of a `Labels` object; a number stands as its text. -/
structure Label where
  name : Chars
  value : Chars

instance : Keyed Label Chars := ⟨Label.name⟩

abbrev Labels := Table Label

/-- `a.localeCompare(b) <= 0`, of which only the names of the labels matter here: these are
words of small letters and stand in the order of the alphabet. -/
structure Collation where
  le : Chars → Chars → Bool
  words : ["le", "method", "route", "status_code"].Pairwise fun a b =>
    le a.toList b.toList = true ∧ le b.toList a.toList = false

/-- `replace(/"/g, '\\"')`. -/
def escape (value : Chars) : Chars :=
  value.flatMap fun c => if c = '"' then ['\\', '"'] else [c]

def formatLabel (label : Label) : Chars :=
  label.name ++ '=' :: '"' :: (escape label.value ++ ['"'])

def isPresent (label : Label) : Bool := label.value ≠ []

def serializeLabels (c : Collation) (labels : Labels) : Chars :=
  [','].intercalate ((((labels.rows.filter isPresent).insertionSort
    fun a b => c.le a.name b.name)).map formatLabel)

/-- The first half of `replace(/^"|"$/g, '')`. -/
def stripFirst (value : Chars) : Chars := if value.head? = some '"' then value.tail else value

def stripLast (value : Chars) : Chars :=
  if value.getLast? = some '"' then value.dropLast else value

def stripQuotes (value : Chars) : Chars := stripLast (stripFirst value)

/-- An entry of the text; without an equals sign there is no `rawValue` to replace in. -/
def deserializeEntry (entry : Chars) : Except Failure Label :=
  match entry.splitOn '=' with
  | rawKey :: rawValue :: _ => .ok { name := rawKey, value := stripQuotes rawValue }
  | _ => .error .typeError

def deserializeLabels (serializedLabels : Chars) : Except Failure Labels := do
  if serializedLabels = [] then return .empty
  else
    let entries ← (serializedLabels.splitOn ',').mapM deserializeEntry
    return .ofRows entries

/-! ## Sanitizing -/

def isHex (c : Char) : Bool :=
  ('0' ≤ c && c ≤ '9') || ('a' ≤ c && c ≤ 'f') || ('A' ≤ c && c ≤ 'F')

def replaceRun (run : Chars) : Chars := if 8 ≤ run.length then [':', 'i', 'd'] else run

/-- `replace(/[0-9a-f]{8,}/gi, ':id')`, with the run that is being read. -/
def replaceIds : Chars → Chars → Chars
  | run, [] => replaceRun run
  | run, c :: rest =>
    if isHex c then replaceIds (run ++ [c]) rest else replaceRun run ++ c :: replaceIds [] rest

def sanitizeRoute (route : Chars) : Chars :=
  if route = [] then "unknown".toList else replaceIds [] route

def isLabelChar (c : Char) : Bool :=
  ('a' ≤ c && c ≤ 'z') || ('A' ≤ c && c ≤ 'Z') || ('0' ≤ c && c ≤ '9') || c = ':' || c = '_' || c = '-'

def utf16Size (c : Char) : ℕ := if c.toNat < 0x10000 then 1 else 2

/-- `replace(/[^a-zA-Z0-9:_-]/g, '_')`, a `_` for each code unit. -/
def sanitizeLabel (value : Chars) : Chars :=
  value.flatMap fun c => if isLabelChar c then [c] else List.replicate (utf16Size c) '_'

/-! ## Metrics -/

/-- An entry of a `Map` from serialized labels. -/
structure Series (α : Type) where
  labels : Chars
  value : α

instance (α : Type) : Keyed (Series α) Chars := ⟨Series.labels⟩

/-- `values.get(key) ?? default`. -/
def getOr {α : Type} (values : Table (Series α)) (labels : Chars) (default : α) : α :=
  ((values.find? labels).map (·.value)).getD default

structure HistogramMetric where
  help : String
  buckets : List ℤ
  bucketValues : Table (Series (List ℕ)) := .empty
  sumValues : Table (Series ℤ) := .empty
  countValues : Table (Series ℕ) := .empty

inductive Metric
  | counter (help : String) (values : Table (Series ℕ))
  | gauge (help : String) (values : Table (Series ℤ))
  | histogram (metric : HistogramMetric)

/-- An entry of `metrics`. -/
structure NamedMetric where
  name : String
  metric : Metric

instance : Keyed NamedMetric String := ⟨NamedMetric.name⟩

abbrev Metrics := Table NamedMetric

def HTTP_DURATION_BUCKETS_MS : List ℤ := [50, 100, 250, 500, 1000, 2500, 5000]

def IO_DURATION_BUCKETS_MS : List ℤ := [5, 10, 25, 50, 100, 250, 500, 1000, 5000]

def createCounter (name help : String) : NamedMetric := ⟨name, .counter help .empty⟩

def createGauge (name help : String) : NamedMetric := ⟨name, .gauge help .empty⟩

def createHistogram (name help : String) (buckets : List ℤ) : NamedMetric :=
  ⟨name, .histogram { help, buckets }⟩

def initial : Metrics := .ofRows
  [createGauge "fashion_erp_active_http_requests" "Current number of in-flight HTTP requests.",
   createCounter "fashion_erp_http_requests_total" "Total number of completed HTTP requests.",
   createHistogram "fashion_erp_http_request_duration_ms" "HTTP request duration in milliseconds."
    HTTP_DURATION_BUCKETS_MS,
   createCounter "fashion_erp_redis_operations_total"
    "Total Redis cache operations by operation and outcome.",
   createHistogram "fashion_erp_redis_operation_duration_ms"
    "Redis operation duration in milliseconds." IO_DURATION_BUCKETS_MS,
   createCounter "fashion_erp_kafka_publish_total" "Total Kafka publish attempts by outcome.",
   createHistogram "fashion_erp_kafka_publish_duration_ms"
    "Kafka publish duration in milliseconds." IO_DURATION_BUCKETS_MS,
   createCounter "fashion_erp_kafka_consume_total"
    "Total Kafka consume attempts by topic and outcome.",
   createHistogram "fashion_erp_kafka_consume_duration_ms"
    "Kafka consume duration in milliseconds." IO_DURATION_BUCKETS_MS,
   createCounter "fashion_erp_bullmq_enqueue_total"
    "Total BullMQ enqueue attempts by queue and outcome.",
   createCounter "fashion_erp_bullmq_jobs_total"
    "Total BullMQ job outcomes by queue and job name.",
   createHistogram "fashion_erp_bullmq_job_duration_ms"
    "BullMQ job processing duration in milliseconds." IO_DURATION_BUCKETS_MS,
   createCounter "fashion_erp_ai_tool_executions_total"
    "Total AI agent tool executions by tool, outcome, and type.",
   createHistogram "fashion_erp_ai_tool_duration_ms"
    "AI agent tool execution duration in milliseconds." IO_DURATION_BUCKETS_MS,
   createCounter "fashion_erp_ai_guardrail_blocks_total"
    "Total AI guardrail violations blocked by rule type.",
   createCounter "fashion_erp_ai_approvals_total"
    "Total AI human-in-the-loop approvals by tool and action."]

def update (name : String) (change : Metric → Metric) (metrics : Metrics) : Metrics :=
  match metrics.find? name with
  | some m => metrics.save { m with metric := change m.metric }
  | none => metrics

section

variable (c : Collation)

def incrementCounter (name : String) (labels : Labels) : Metrics → Metrics :=
  update name fun
    | .counter help values =>
      let key := serializeLabels c labels
      .counter help (values.save ⟨key, getOr values key 0 + 1⟩)
    | metric => metric

def addGauge (name : String) (delta : ℤ) (labels : Labels) : Metrics → Metrics :=
  update name fun
    | .gauge help values =>
      let key := serializeLabels c labels
      .gauge help (values.save ⟨key, max 0 (getOr values key 0 + delta)⟩)
    | metric => metric

def countDuration (durationMs : ℤ) (buckets : List ℤ) (counts : List ℕ) : List ℕ :=
  List.zipWith (fun bucket count => if durationMs ≤ bucket then count + 1 else count) buckets counts

def HistogramMetric.observe (metric : HistogramMetric) (key : Chars) (durationMs : ℤ) :
    HistogramMetric :=
  let buckets := getOr metric.bucketValues key (metric.buckets.map fun _ => 0)
  { metric with
    bucketValues := metric.bucketValues.save ⟨key, countDuration durationMs metric.buckets buckets⟩
    sumValues := metric.sumValues.save ⟨key, getOr metric.sumValues key 0 + durationMs⟩
    countValues := metric.countValues.save ⟨key, getOr metric.countValues key 0 + 1⟩ }

def observeHistogram (name : String) (labels : Labels) (durationMs : ℤ) : Metrics → Metrics :=
  update name fun
    | .histogram metric => .histogram (metric.observe (serializeLabels c labels) durationMs)
    | metric => metric

def httpLabels (method route : Chars) (statusCode : ℕ) : Labels := .ofRows
  [{ name := "method".toList, value := sanitizeLabel method },
   { name := "route".toList, value := sanitizeRoute route },
   { name := "status_code".toList, value := Nat.toDigits 10 statusCode }]

def recordHttpRequest (method route : Chars) (statusCode : ℕ) (durationMs : ℤ) (metrics : Metrics) :
    Metrics :=
  let labels := httpLabels method route statusCode
  observeHistogram c "fashion_erp_http_request_duration_ms" labels durationMs
    (incrementCounter c "fashion_erp_http_requests_total" labels metrics)

/-! ## Rendering -/

def formatMetricLine (name serializedLabels value : Chars) : Chars :=
  if serializedLabels = [] then name ++ ' ' :: value
  else name ++ '{' :: (serializedLabels ++ '}' :: ' ' :: value)

def natText (n : ℕ) : Chars := Nat.toDigits 10 n

def intText (n : ℤ) : Chars := if n < 0 then '-' :: natText n.natAbs else natText n.natAbs

def renderSeries (name : Chars) (metric : HistogramMetric) (series : Series (List ℕ)) :
    Except Failure (List Chars) := do
  let baseLabels ← deserializeLabels series.labels
  let line := fun (le : Chars) (count : ℕ) =>
    formatMetricLine (name ++ "_bucket".toList)
      (serializeLabels c (baseLabels.save { name := "le".toList, value := le })) (natText count)
  let count := getOr metric.countValues series.labels 0
  return List.zipWith (fun bucket count => line (intText bucket) count) metric.buckets series.value ++
    [line "+Inf".toList count,
     formatMetricLine (name ++ "_sum".toList) series.labels
      (intText (getOr metric.sumValues series.labels 0)),
     formatMetricLine (name ++ "_count".toList) series.labels (natText count)]

def header (name : Chars) (help type : String) : List Chars :=
  ["# HELP ".toList ++ name ++ ' ' :: help.toList, "# TYPE ".toList ++ name ++ ' ' :: type.toList]

def renderGauge (name : Chars) (help : String) (values : List (Series ℤ)) : List Chars :=
  header name help "gauge" ++ values.map fun v => formatMetricLine name v.labels (intText v.value)

def renderMetric (m : NamedMetric) : Except Failure (List Chars) :=
  let name := m.name.toList
  match m.metric with
  | .counter help values =>
    return header name help "counter" ++
      values.rows.map fun v => formatMetricLine name v.labels (natText v.value)
  | .gauge help values => return renderGauge name help values.rows
  | .histogram metric => do
    let series ← metric.bucketValues.rows.mapM (renderSeries c name metric)
    return header name metric.help "histogram" ++ series.flatten

/-- A gauge that is collected when the metrics are rendered. -/
structure Extra where
  name : Chars
  help : String
  values : Table (Series ℤ)

/-- The service, as `render` describes it. -/
structure AppInfo where
  appName : Chars
  nodeEnv : Chars
  role : Chars

def infoLines (app : AppInfo) : List Chars :=
  let infoLabels := serializeLabels c (.ofRows
    [{ name := "service".toList, value := app.appName },
     { name := "environment".toList, value := app.nodeEnv },
     { name := "role".toList, value := app.role }])
  ["# HELP fashion_erp_app_info Static metadata about the running service.".toList,
   "# TYPE fashion_erp_app_info gauge".toList,
   "fashion_erp_app_info\x7b".toList ++ infoLabels ++ "\x7d 1".toList]

def render (app : AppInfo) (extras : List Extra) (metrics : Metrics) : Except Failure Chars := do
  let lines ← metrics.rows.mapM (renderMetric c)
  let extraLines := extras.flatMap fun extra => renderGauge extra.name extra.help extra.values.rows
  return ['\n'].intercalate (infoLines c app ++ lines.flatten ++ extraLines) ++ ['\n']

/-! ## The interceptor -/

structure Request where
  method : Chars
  baseUrl : Option Chars
  path : Option Chars
  url : Option Chars
  statusCode : ℕ
  durationMs : ℤ

def Request.route (request : Request) : Chars :=
  request.baseUrl.getD [] ++ (request.path.or request.url).getD "unknown".toList

def Request.labels (request : Request) : Labels :=
  httpLabels request.method request.route request.statusCode

inductive Event
  | started
  | finished (request : Request)

def Event.apply (metrics : Metrics) : Event → Metrics
  | started => addGauge c "fashion_erp_active_http_requests" 1 .empty metrics
  | finished request =>
    addGauge c "fashion_erp_active_http_requests" (-1) .empty
      (recordHttpRequest c request.method request.route request.statusCode request.durationMs metrics)

def after (events : List Event) : Metrics := events.foldl (Event.apply c) initial

/-! ## What is claimed -/

def requestsOf (events : List Event) : List Request :=
  events.filterMap fun
    | .started => none
    | .finished request => some request

def present (labels : Labels) : Labels := labels.deleteWhere fun label => !isPresent label

/-- The endpoint survives: the metrics are rendered, under the labels that were recorded, and
the buckets of each series add up. -/
structure Survives (events : List Event) : Prop where
  renders : ∀ app extras, ∃ text, render c app extras (after c events) = .ok text
  labels : ∀ r ∈ requestsOf events,
    deserializeLabels (serializeLabels c r.labels) = .ok (present r.labels)
  distinct : ∀ r ∈ requestsOf events, ∀ r' ∈ requestsOf events,
    serializeLabels c r.labels = serializeLabels c r'.labels → present r.labels = present r'.labels
  recorded : ∀ m ∈ (after c events).rows, ∀ h, m.metric = .histogram h → ∀ s ∈ h.bucketValues.rows,
    ∃ r ∈ requestsOf events, s.labels = serializeLabels c r.labels
  buckets : ∀ m ∈ (after c events).rows, ∀ h, m.metric = .histogram h → ∀ s ∈ h.bucketValues.rows,
    s.value.length = h.buckets.length ∧ s.value.Pairwise (· ≤ ·) ∧
      ∀ n ∈ s.value, n ≤ getOr h.countValues s.labels 0

def IsPlain (text : Chars) : Prop := ',' ∉ text ∧ '=' ∉ text ∧ '"' ∉ text

instance (text : Chars) : Decidable (IsPlain text) := inferInstanceAs (Decidable (_ ∧ _))

end

/-! ## Sanitized labels -/

theorem mem_replaceRun {c : Char} (hc : c ∉ [':', 'i', 'd']) (hhex : isHex c = false) {run : Chars}
    (hrun : ∀ x ∈ run, isHex x = true) : c ∉ replaceRun run := by
  unfold replaceRun
  split
  · exact hc
  · intro h
    rw [hrun c h] at hhex
    cases hhex

theorem mem_replaceIds {c : Char} (hc : c ∉ [':', 'i', 'd']) (hhex : isHex c = false)
    (rest run : Chars) (hrun : ∀ x ∈ run, isHex x = true) :
    c ∈ replaceIds run rest ↔ c ∈ rest := by
  induction rest generalizing run with
  | nil => exact iff_of_false (mem_replaceRun hc hhex hrun) List.not_mem_nil
  | cons d rest ih =>
    unfold replaceIds
    by_cases hd : isHex d = true
    · have hne : c ≠ d := by
        rintro rfl
        rw [hd] at hhex
        cases hhex
      have hrun' : ∀ x ∈ run ++ [d], isHex x = true := by
        intro x hx
        rcases List.mem_append.1 hx with hx | hx
        · exact hrun x hx
        · rw [List.mem_singleton.1 hx, hd]
      rw [if_pos hd, ih _ hrun', List.mem_cons, or_iff_right hne]
    · rw [if_neg hd, List.mem_append, or_iff_right (mem_replaceRun hc hhex hrun), List.mem_cons,
        List.mem_cons, ih [] (by simp)]

theorem isPlain_sanitizeRoute (route : Chars) : IsPlain (sanitizeRoute route) ↔ IsPlain route := by
  unfold sanitizeRoute
  split
  · rename_i hnone
    rw [hnone]
    decide
  · unfold IsPlain
    rw [mem_replaceIds (by decide) (by decide) route [] (by simp),
      mem_replaceIds (by decide) (by decide) route [] (by simp),
      mem_replaceIds (by decide) (by decide) route [] (by simp)]

theorem replaceRun_ne_nil {run : Chars} (h : run ≠ []) : replaceRun run ≠ [] := by
  unfold replaceRun
  split
  · exact List.cons_ne_nil _ _
  · exact h

theorem replaceIds_ne_nil {rest run : Chars} (h : run ≠ [] ∨ rest ≠ []) : replaceIds run rest ≠ [] := by
  induction rest generalizing run with
  | nil => exact replaceRun_ne_nil (h.resolve_right (not_not.2 rfl))
  | cons d rest ih =>
    unfold replaceIds
    split
    · exact ih (.inl (by simp))
    · simp

theorem sanitizeRoute_ne_nil (route : Chars) : sanitizeRoute route ≠ [] := by
  unfold sanitizeRoute
  split
  · decide
  · rename_i hsome
    exact replaceIds_ne_nil (.inr hsome)

theorem isPlain_sanitizeLabel (value : Chars) : IsPlain (sanitizeLabel value) := by
  have hmem : ∀ c : Char, isLabelChar c = false → c ≠ '_' → c ∉ sanitizeLabel value := by
    intro c hc hne h
    obtain ⟨d, -, hd⟩ := List.mem_flatMap.1 h
    split at hd
    · rename_i hlabel
      rw [List.mem_singleton.1 hd, hlabel] at hc
      cases hc
    · exact hne (List.eq_of_mem_replicate hd)
  exact ⟨hmem _ (by decide) (by decide), hmem _ (by decide) (by decide),
    hmem _ (by decide) (by decide)⟩

theorem isPlain_toDigits (n : ℕ) : IsPlain (Nat.toDigits 10 n) := by
  have hmem : ∀ c : Char, c.isDigit = false → c ∉ Nat.toDigits 10 n := by
    intro c hc h
    rw [Nat.isDigit_of_mem_toDigits (by decide) (by decide) h] at hc
    cases hc
  exact ⟨hmem _ (by decide), hmem _ (by decide), hmem _ (by decide)⟩

/-! ## Round trips -/

theorem escape_eq_self {value : Chars} : escape value = value ↔ '"' ∉ value := by
  unfold escape
  constructor
  · intro h hquote
    -- A quote makes the text longer.
    have hlength : ∀ t : Chars, t.length + t.countP (· = '"') =
        (t.flatMap fun c => if c = '"' then ['\\', '"'] else [c]).length := by
      intro t
      induction t with
      | nil => rfl
      | cons c t ih =>
        rw [List.flatMap_cons, List.length_append, ← ih, List.countP_cons, List.length_cons]
        by_cases hc : c = '"'
        · rw [if_pos hc, if_pos (by simpa using hc)]
          simp only [List.length_cons, List.length_nil]
          omega
        · rw [if_neg hc, if_neg (by simpa using hc)]
          simp only [List.length_cons, List.length_nil]
          omega
    have hpos : 0 < value.countP (· = '"') := List.countP_pos_iff.2 ⟨'"', hquote, by simp⟩
    have hsame := hlength value
    rw [h] at hsame
    omega
  · intro hquote
    induction value with
    | nil => rfl
    | cons c value ih =>
      rw [List.flatMap_cons, ih fun h => hquote (List.mem_cons_of_mem _ h), if_neg]
      · rfl
      · rintro rfl
        exact hquote List.mem_cons_self

theorem mem_escape {c : Char} (hslash : c ≠ '\\') {value : Chars} : c ∈ escape value ↔ c ∈ value := by
  unfold escape
  rw [List.mem_flatMap]
  constructor
  · rintro ⟨d, hd, hc⟩
    split at hc
    · rename_i hquote
      rcases List.mem_cons.1 hc with rfl | hc
      · exact absurd rfl hslash
      · rw [List.mem_singleton.1 hc, ← hquote]
        exact hd
    · rw [List.mem_singleton.1 hc]
      exact hd
  · intro hc
    refine ⟨c, hc, ?_⟩
    split
    · rename_i hquote
      rw [hquote]
      exact List.mem_cons_of_mem _ List.mem_cons_self
    · exact List.mem_cons_self

theorem stripQuotes_quoted (w : Chars) : stripQuotes ('"' :: (w ++ ['"'])) = w := by
  unfold stripQuotes stripFirst
  rw [List.head?_cons, if_pos rfl, List.tail_cons]
  unfold stripLast
  rw [List.getLast?_concat, if_pos rfl, List.dropLast_concat]

theorem mem_of_mem_stripQuotes {c : Char} {w : Chars} (h : c ∈ stripQuotes w) : c ∈ w := by
  have hfirst : c ∈ stripFirst w := by
    unfold stripQuotes stripLast at h
    split at h
    · exact List.dropLast_subset _ h
    · exact h
  unfold stripFirst at hfirst
  split at hfirst
  · exact List.mem_of_mem_tail hfirst
  · exact hfirst

structure IsEntry (label : Label) : Prop where
  name : ',' ∉ label.name ∧ '=' ∉ label.name
  value : ',' ∉ label.value ∧ '=' ∉ label.value

def readBack (label : Label) : Label := { label with value := escape label.value }

theorem comma_notMem_formatLabel {label : Label} (h : IsEntry label) : ',' ∉ formatLabel label := by
  have hvalue : ',' ∉ escape label.value := by
    rw [mem_escape (by decide)]
    exact h.value.1
  unfold formatLabel
  simp [h.name.1, hvalue]

theorem deserializeEntry_formatLabel {label : Label} (h : IsEntry label) :
    deserializeEntry (formatLabel label) = .ok (readBack label) := by
  have hvalue : '=' ∉ '"' :: (escape label.value ++ ['"']) := by
    have hescape : '=' ∉ escape label.value := by
      rw [mem_escape (by decide)]
      exact h.value.2
    simp [hescape]
  unfold deserializeEntry formatLabel
  rw [List.splitOn_append_cons_self_of_not_mem h.name.2, List.splitOn_eq_singleton hvalue]
  dsimp only
  rw [stripQuotes_quoted]
  rfl

theorem mapM_deserializeEntry {rows : List Label} (h : ∀ label ∈ rows, IsEntry label) :
    (rows.map formatLabel).mapM deserializeEntry = .ok (rows.map readBack) := by
  induction rows with
  | nil => rfl
  | cons label rows ih =>
    rw [List.map_cons, List.mapM_cons, deserializeEntry_formatLabel (h label List.mem_cons_self),
      ih fun l hl => h l (List.mem_cons_of_mem _ hl)]
    rfl

theorem rows_ofRows {ρ κ : Type} [Keyed ρ κ] [DecidableEq κ] {rows : List ρ}
    (h : (rows.map key).Nodup) : (Table.ofRows rows).rows = rows := by
  induction rows using List.reverseRecOn with
  | nil => rfl
  | append_singleton rows r ih =>
    rw [List.map_append, List.nodup_append] at h
    unfold Table.ofRows at ih ⊢
    rw [List.foldl_append, List.foldl_cons, List.foldl_nil, Table.rows_save_new, ih h.1]
    rw [Table.find?_eq_none, ih h.1]
    intro x hx
    exact h.2.2 _ (List.mem_map_of_mem hx) _ List.mem_cons_self

theorem table_ext {ρ κ : Type} [Keyed ρ κ] {t u : Table ρ} (h : t.rows = u.rows) : t = u := by
  obtain ⟨rows, nodup⟩ := t
  obtain ⟨rows', nodup'⟩ := u
  obtain rfl : rows = rows' := h
  rfl

section

variable {c : Collation}

theorem intercalate_ne_nil {rows : List Label} (h : rows ≠ []) :
    [','].intercalate (rows.map formatLabel) ≠ [] := by
  intro hnil
  cases rows with
  | nil => exact h rfl
  | cons label rows =>
    have hlong : formatLabel label ≠ [] := by
      unfold formatLabel
      simp
    rw [List.map_cons] at hnil
    cases rows with
    | nil => exact hlong (by simpa using hnil)
    | cons next rows =>
      simp at hnil

/-- What is read back of sorted labels without separators: the labels, their quotes escaped. -/
theorem deserialize_serialize {labels : Labels} (hentries : ∀ l ∈ labels.rows, IsEntry l)
    (hsorted : labels.rows.Pairwise fun a b => c.le a.name b.name = true)
    (hsome : labels.rows.filter isPresent ≠ []) :
    (deserializeLabels (serializeLabels c labels)).map (·.rows) =
      .ok ((labels.rows.filter isPresent).map readBack) := by
  have hsort : (labels.rows.filter isPresent).insertionSort (fun a b => c.le a.name b.name) =
      labels.rows.filter isPresent :=
    (hsorted.sublist List.filter_sublist).insertionSort_eq
  have hfilter : ∀ l ∈ labels.rows.filter isPresent, IsEntry l := fun l hl =>
    hentries l (List.mem_of_mem_filter hl)
  have hnames : (((labels.rows.filter isPresent).map readBack).map key).Nodup := by
    rw [List.map_map]
    exact labels.nodup.sublist (List.filter_sublist.map key)
  unfold deserializeLabels serializeLabels
  rw [hsort, if_neg (intercalate_ne_nil hsome), List.splitOn_intercalate ',' ?_ (by simpa using hsome),
    mapM_deserializeEntry hfilter]
  · exact congrArg Except.ok (rows_ofRows hnames)
  · intro entry hentry
    obtain ⟨label, hlabel, rfl⟩ := List.mem_map.1 hentry
    exact comma_notMem_formatLabel (hfilter label hlabel)

theorem mem_splitOn {x : Char} {text piece : Chars} (h : piece ∈ text.splitOn x) :
    x ∉ piece ∧ ∀ c ∈ piece, c ∈ text := by
  induction text generalizing piece with
  | nil =>
    rw [List.splitOn_nil, List.mem_singleton] at h
    rw [h]
    exact ⟨List.not_mem_nil, fun _ hc => hc⟩
  | cons y text ih =>
    rw [List.splitOn_cons_eq_if_modifyHead] at h
    split at h
    · rcases List.mem_cons.1 h with rfl | h
      · exact ⟨List.not_mem_nil, fun _ hc => absurd hc List.not_mem_nil⟩
      · exact ⟨(ih h).1, fun c hc => List.mem_cons_of_mem y ((ih h).2 c hc)⟩
    · rename_i hne
      cases hpieces : text.splitOn x with
      | nil =>
        rw [hpieces] at h
        exact absurd h List.not_mem_nil
      | cons first rest =>
        rw [hpieces] at h ih
        rcases List.mem_cons.1 h with rfl | h
        · obtain ⟨hfirst, hsub⟩ := ih List.mem_cons_self
          refine ⟨fun hx => ?_, fun c hc => ?_⟩
          · rcases List.mem_cons.1 hx with rfl | hx
            · exact hne (beq_self_eq_true x)
            · exact hfirst hx
          · rcases List.mem_cons.1 hc with rfl | hc
            · exact List.mem_cons_self
            · exact List.mem_cons_of_mem y (hsub c hc)
        · obtain ⟨hpiece, hsub⟩ := ih (List.mem_cons_of_mem _ h)
          exact ⟨hpiece, fun c hc => List.mem_cons_of_mem y (hsub c hc)⟩

theorem mem_of_mem_ofRows {ρ κ : Type} [Keyed ρ κ] [DecidableEq κ] {rows : List ρ} {r : ρ}
    (h : r ∈ (Table.ofRows rows).rows) : r ∈ rows := by
  induction rows using List.reverseRecOn with
  | nil => exact h
  | append_singleton rows x ih =>
    unfold Table.ofRows at ih h
    rw [List.foldl_append, List.foldl_cons, List.foldl_nil, Table.mem_save] at h
    rcases h with rfl | ⟨h, -⟩
    · exact List.mem_append_right _ List.mem_cons_self
    · exact List.mem_append_left _ (ih h)

theorem value_of_deserialize {text : Chars} {labels : Labels}
    (h : deserializeLabels text = .ok labels) {l : Label} (hl : l ∈ labels.rows) :
    ',' ∉ l.value ∧ '=' ∉ l.value := by
  unfold deserializeLabels at h
  split at h
  · cases h
    exact absurd hl List.not_mem_nil
  · obtain ⟨entries, hentries, h⟩ := except_bind_eq_ok.1 h
    cases h
    obtain ⟨entry, hentry, hlabel⟩ := (mem_mapM_ok hentries l).1 (mem_of_mem_ofRows hl)
    unfold deserializeEntry at hlabel
    split at hlabel
    · rename_i rawKey rawValue rest hpieces
      cases hlabel
      have hpiece : rawValue ∈ entry.splitOn '=' := by
        rw [hpieces]
        exact List.mem_cons_of_mem _ List.mem_cons_self
      obtain ⟨hequals, hsub⟩ := mem_splitOn hpiece
      exact ⟨fun h => (mem_splitOn hentry).1 (hsub _ (mem_of_mem_stripQuotes h)),
        fun h => hequals (mem_of_mem_stripQuotes h)⟩
    · cases hlabel

end

/-! ## The labels of a request -/

section

variable {c : Collation} {r : Request}

def httpRows (r : Request) : List Label :=
  [{ name := "method".toList, value := sanitizeLabel r.method },
   { name := "route".toList, value := sanitizeRoute r.route },
   { name := "status_code".toList, value := Nat.toDigits 10 r.statusCode }]

theorem labels_rows (r : Request) : r.labels.rows = httpRows r :=
  rows_ofRows (show ["method".toList, "route".toList, "status_code".toList].Nodup by decide)

theorem labels_sorted (c : Collation) (r : Request) :
    r.labels.rows.Pairwise fun a b => c.le a.name b.name = true := by
  rw [labels_rows]
  have hwords := c.words
  simp only [List.pairwise_cons, List.mem_cons, forall_eq_or_imp, List.not_mem_nil,
    IsEmpty.forall_iff, implies_true, and_true, List.Pairwise.nil] at hwords
  unfold httpRows
  simp only [List.pairwise_cons, List.mem_cons, forall_eq_or_imp, List.not_mem_nil,
    IsEmpty.forall_iff, implies_true, and_true, List.Pairwise.nil]
  exact ⟨⟨hwords.2.1.1.1, hwords.2.1.2.1⟩, hwords.2.2.1⟩

theorem route_present (r : Request) :
    { name := "route".toList, value := sanitizeRoute r.route } ∈ r.labels.rows.filter isPresent := by
  rw [labels_rows, List.mem_filter]
  refine ⟨?_, ?_⟩
  · unfold httpRows
    simp
  · unfold isPresent
    simpa using sanitizeRoute_ne_nil r.route

theorem labels_entries (h : ',' ∉ sanitizeRoute r.route ∧ '=' ∉ sanitizeRoute r.route) :
    ∀ l ∈ r.labels.rows, IsEntry l := by
  have hmethod := isPlain_sanitizeLabel r.method
  have hstatus := isPlain_toDigits r.statusCode
  have hnames : ∀ name ∈ ["method".toList, "route".toList, "status_code".toList],
      ',' ∉ name ∧ '=' ∉ name := by decide
  rw [labels_rows]
  unfold httpRows
  simp only [List.mem_cons, List.not_mem_nil, or_false, forall_eq_or_imp, forall_eq] at hnames ⊢
  exact ⟨⟨hnames.1, hmethod.1, hmethod.2.1⟩, ⟨hnames.2.1, h⟩,
    ⟨hnames.2.2, hstatus.1, hstatus.2.1⟩⟩

/-- The labels of a request are read back as they are when its path is plain, and only then. -/
theorem deserialize_labels_iff :
    deserializeLabels (serializeLabels c r.labels) = .ok (present r.labels) ↔ IsPlain r.route := by
  have hrows : (present r.labels).rows = r.labels.rows.filter isPresent := by
    unfold present Table.deleteWhere
    simp
  have hroundTrip : ∀ h : ',' ∉ sanitizeRoute r.route ∧ '=' ∉ sanitizeRoute r.route,
      (deserializeLabels (serializeLabels c r.labels)).map (·.rows) =
        .ok ((r.labels.rows.filter isPresent).map readBack) := fun h =>
    deserialize_serialize (labels_entries h) (labels_sorted c r)
      (List.ne_nil_of_mem (route_present r))
  rw [← isPlain_sanitizeRoute]
  constructor
  · intro h
    have hroute := route_present r
    rw [← hrows] at hroute
    obtain ⟨hcomma, hequals⟩ := value_of_deserialize h hroute
    refine ⟨hcomma, hequals, ?_⟩
    -- The route is read back with its quotes escaped.
    have hback := hroundTrip ⟨hcomma, hequals⟩
    rw [h] at hback
    have hsame : r.labels.rows.filter isPresent = (r.labels.rows.filter isPresent).map readBack :=
      hrows.symm.trans (Except.ok.inj hback)
    have hfixed := List.map_inj_left.1 (hsame.symm.trans (List.map_id _).symm) _ (route_present r)
    exact escape_eq_self.1 (congrArg Label.value hfixed)
  · rintro ⟨hcomma, hequals, hquote⟩
    have hback := hroundTrip ⟨hcomma, hequals⟩
    have hsame : (r.labels.rows.filter isPresent).map readBack = r.labels.rows.filter isPresent := by
      refine (List.map_congr_left fun l hl => ?_).trans (List.map_id _)
      have hplain : '"' ∉ l.value := by
        have hmem := List.mem_of_mem_filter hl
        rw [labels_rows] at hmem
        unfold httpRows at hmem
        simp only [List.mem_cons, List.not_mem_nil, or_false] at hmem
        rcases hmem with rfl | rfl | rfl
        · exact (isPlain_sanitizeLabel r.method).2.2
        · exact hquote
        · exact (isPlain_toDigits r.statusCode).2.2
      show { l with value := escape l.value } = l
      rw [escape_eq_self.2 hplain]
    rw [hsame] at hback
    cases hread : deserializeLabels (serializeLabels c r.labels) with
    | error e =>
      rw [hread] at hback
      cases hback
    | ok labels =>
      rw [hread] at hback
      have hlabels : labels.rows = (present r.labels).rows := (Except.ok.inj hback).trans hrows.symm
      rw [table_ext hlabels]

end

/-! ## The series of a histogram -/

variable {metrics : Metrics}

section

variable {c : Collation}

def durationsOf (c : Collation) (events : List Event) (labels : Chars) : List ℤ :=
  ((requestsOf events).filter fun r => serializeLabels c r.labels = labels).map (·.durationMs)

structure Counts (h : HistogramMetric) (s : Series (List ℕ)) (durations : List ℤ) : Prop where
  buckets : s.value = h.buckets.map fun bucket => durations.countP (· ≤ bucket)
  count : getOr h.countValues s.labels 0 = durations.length

/-- The histogram of the requests: a series for each of their labels, with their durations. -/
structure HoldsRequests (c : Collation) (events : List Event) (h : HistogramMetric) : Prop where
  buckets : h.buckets = HTTP_DURATION_BUCKETS_MS
  series : ∀ s ∈ h.bucketValues.rows, durationsOf c events s.labels ≠ [] ∧
    Counts h s (durationsOf c events s.labels)
  absent : ∀ labels, h.bucketValues.find? labels = none → durationsOf c events labels = [] ∧
    getOr h.countValues labels 0 = 0

/-- What holds of the metrics after `events`: the histogram of the requests holds them, the
others hold nothing. -/
def MetricHolds (c : Collation) (events : List Event) (m : NamedMetric) : Prop :=
  ∀ h, m.metric = .histogram h →
    if m.name = "fashion_erp_http_request_duration_ms" then HoldsRequests c events h
    else h.bucketValues.rows = []

variable {name : String}

theorem forall_update {P : NamedMetric → Prop} {change : Metric → Metric}
    (h : ∀ m ∈ metrics.rows, m.name ≠ name → P m)
    (hchange : ∀ m ∈ metrics.rows, m.name = name → P { m with metric := change m.metric }) :
    ∀ m ∈ (update name change metrics).rows, P m := by
  unfold update
  cases hfound : metrics.find? name with
  | none =>
    intro m hm
    refine h m hm fun hname => ?_
    exact Table.find?_eq_none.1 hfound m hm hname
  | some m₀ =>
    have hname : m₀.name = name := Table.key_of_find? hfound
    intro m hm
    rcases (Table.mem_save _ _ _).1 hm with rfl | ⟨hm, hne⟩
    · exact hchange m₀ (Table.mem_of_find? hfound) hname
    · refine h m hm fun heq => hne ?_
      show m.name = m₀.name
      rw [heq, hname]

theorem forall_update_other {events : List Event} {change : Metric → Metric}
    (hchange : ∀ metric h, change metric = .histogram h → metric = .histogram h)
    (hall : ∀ m ∈ metrics.rows, MetricHolds c events m) :
    ∀ m ∈ (update name change metrics).rows, MetricHolds c events m :=
  forall_update (fun m hm _ => hall m hm) fun m hm _ h hmetric => hall m hm h (hchange _ h hmetric)

theorem addGauge_holds {events : List Event} {delta : ℤ} {labels : Labels}
    (hall : ∀ m ∈ metrics.rows, MetricHolds c events m) :
    ∀ m ∈ (addGauge c name delta labels metrics).rows, MetricHolds c events m := by
  refine forall_update_other (fun metric h heq => ?_) hall
  cases metric with
  | counter help values => exact heq
  | gauge help values => cases heq
  | histogram metric => exact heq

theorem incrementCounter_holds {events : List Event} {labels : Labels}
    (hall : ∀ m ∈ metrics.rows, MetricHolds c events m) :
    ∀ m ∈ (incrementCounter c name labels metrics).rows, MetricHolds c events m := by
  refine forall_update_other (fun metric h heq => ?_) hall
  cases metric with
  | counter help values => cases heq
  | gauge help values => exact heq
  | histogram metric => exact heq

theorem durationsOf_started (events : List Event) (labels : Chars) :
    durationsOf c (events ++ [.started]) labels = durationsOf c events labels := by
  unfold durationsOf requestsOf
  rw [List.filterMap_append]
  simp

theorem durationsOf_finished (events : List Event) (r : Request) (labels : Chars) :
    durationsOf c (events ++ [.finished r]) labels =
      if serializeLabels c r.labels = labels then durationsOf c events labels ++ [r.durationMs]
      else durationsOf c events labels := by
  unfold durationsOf requestsOf
  rw [List.filterMap_append, List.filter_append, List.map_append]
  by_cases hkey : serializeLabels c r.labels = labels
  · rw [if_pos hkey]
    simp [hkey]
  · rw [if_neg hkey]
    simp [hkey]

theorem countDuration_map (d : ℤ) (buckets durations : List ℤ) :
    countDuration d buckets (buckets.map fun bucket => durations.countP (· ≤ bucket)) =
      buckets.map fun bucket => (durations ++ [d]).countP (· ≤ bucket) := by
  unfold countDuration
  induction buckets with
  | nil => rfl
  | cons bucket buckets ih =>
    rw [List.map_cons, List.zipWith_cons_cons, ih, List.map_cons, List.countP_append]
    congr 1
    by_cases hle : d ≤ bucket
    · rw [if_pos hle, List.countP_cons_of_pos (by simpa using hle), List.countP_nil]
    · rw [if_neg hle, List.countP_cons_of_neg (by simpa using hle), List.countP_nil, Nat.add_zero]

theorem getOr_save {α : Type} (values : Table (Series α)) (key labels : Chars) (value default : α) :
    getOr (values.save ⟨key, value⟩) labels default =
      if key = labels then value else getOr values labels default := by
  unfold getOr
  rw [Table.find?_save]
  show ((if key = labels then _ else _ : Option (Series α)).map _).getD _ = _
  split <;> rfl

section Observe

variable {events : List Event} {h : HistogramMetric}

theorem HoldsRequests.getOr_buckets (hholds : HoldsRequests c events h) (key : Chars) :
    getOr h.bucketValues key (h.buckets.map fun _ => 0) =
      h.buckets.map fun bucket => (durationsOf c events key).countP (· ≤ bucket) := by
  unfold getOr
  cases hfound : h.bucketValues.find? key with
  | none =>
    rw [(hholds.absent key hfound).1]
    rfl
  | some s =>
    have hkey : s.labels = key := Table.key_of_find? hfound
    rw [← hkey]
    exact (hholds.series s (Table.mem_of_find? hfound)).2.buckets

theorem HoldsRequests.getOr_count (hholds : HoldsRequests c events h) (key : Chars) :
    getOr h.countValues key 0 = (durationsOf c events key).length := by
  cases hfound : h.bucketValues.find? key with
  | none =>
    obtain ⟨hnone, hcount⟩ := hholds.absent key hfound
    rw [hcount, hnone]
    rfl
  | some s =>
    have hkey : s.labels = key := Table.key_of_find? hfound
    rw [← hkey]
    exact (hholds.series s (Table.mem_of_find? hfound)).2.count

/-- One more request is one more duration of its series. -/
theorem HoldsRequests.observe (hholds : HoldsRequests c events h) (r : Request) :
    HoldsRequests c (events ++ [.finished r])
      (h.observe (serializeLabels c r.labels) r.durationMs) := by
  generalize hkey : serializeLabels c r.labels = key
  have hdurations : ∀ labels, durationsOf c (events ++ [.finished r]) labels =
      if key = labels then durationsOf c events labels ++ [r.durationMs]
      else durationsOf c events labels := by
    intro labels
    rw [durationsOf_finished, hkey]
  have hcounts : ∀ labels, getOr (h.observe key r.durationMs).countValues labels 0 =
      if key = labels then getOr h.countValues key 0 + 1 else getOr h.countValues labels 0 :=
    fun labels => getOr_save _ _ _ _ _
  refine ⟨hholds.buckets, fun s hs => ?_, fun labels hnone => ?_⟩
  · rcases (Table.mem_save _ _ _).1 hs with rfl | ⟨hs, hne⟩
    · show durationsOf c (events ++ [.finished r]) key ≠ [] ∧ _
      rw [hdurations, if_pos rfl]
      refine ⟨by simp, ?_, ?_⟩
      · show countDuration r.durationMs h.buckets (getOr h.bucketValues key _) = _
        rw [hholds.getOr_buckets, countDuration_map]
        rfl
      · show getOr (h.observe key r.durationMs).countValues key 0 = _
        rw [hcounts, if_pos rfl, hholds.getOr_count, List.length_append]
        rfl
    · have hother : key ≠ s.labels := fun heq => hne heq.symm
      rw [hdurations, if_neg hother]
      obtain ⟨hsome, hbuckets, hcount⟩ := hholds.series s hs
      refine ⟨hsome, hbuckets, ?_⟩
      rw [hcounts, if_neg hother, hcount]
  · have hother : key ≠ labels := by
      rintro rfl
      have hself := Table.find?_save_self h.bucketValues ⟨key, countDuration r.durationMs h.buckets
        (getOr h.bucketValues key (h.buckets.map fun _ => 0))⟩
      have hsome : (h.observe key r.durationMs).bucketValues.find? key = some _ := hself
      rw [hnone] at hsome
      cases hsome
    have hold : h.bucketValues.find? labels = none := by
      rw [← hnone]
      exact (Table.find?_save_ne _ _ _ hother).symm
    rw [hdurations, if_neg hother, hcounts, if_neg hother]
    exact hholds.absent labels hold

theorem observeHistogram_holds (hall : ∀ m ∈ metrics.rows, MetricHolds c events m) (r : Request) :
    ∀ m ∈ (observeHistogram c "fashion_erp_http_request_duration_ms" r.labels r.durationMs
      metrics).rows, MetricHolds c (events ++ [.finished r]) m := by
  refine forall_update (fun m hm hne h hmetric => ?_) fun m hm heq h hmetric => ?_
  · have hempty := hall m hm h hmetric
    rw [if_neg hne] at hempty ⊢
    exact hempty
  · cases hold : m.metric with
    | counter help values =>
      rw [hold] at hmetric
      cases hmetric
    | gauge help values =>
      rw [hold] at hmetric
      cases hmetric
    | histogram metric =>
      rw [hold] at hmetric
      obtain rfl := Metric.histogram.inj hmetric
      have hholds := hall m hm metric hold
      rw [if_pos heq] at hholds
      show if m.name = _ then _ else _
      rw [if_pos heq]
      exact hholds.observe r

def isFresh (m : NamedMetric) : Bool :=
  match m.metric with
  | .histogram h => h.bucketValues.rows.isEmpty && h.countValues.rows.isEmpty &&
      (m.name ≠ "fashion_erp_http_request_duration_ms" || h.buckets = HTTP_DURATION_BUCKETS_MS)
  | _ => true

theorem initial_holds (c : Collation) : ∀ m ∈ initial.rows, MetricHolds c [] m := by
  have hfresh : initial.rows.all isFresh = true := by decide +kernel
  intro m hm h hmetric
  have hm := List.all_eq_true.1 hfresh m hm
  unfold isFresh at hm
  rw [hmetric] at hm
  simp only [Bool.and_eq_true, List.isEmpty_iff, Bool.or_eq_true, decide_eq_true_eq] at hm
  obtain ⟨⟨hbuckets, hcounts⟩, hhttp⟩ := hm
  split
  · rename_i hname
    refine ⟨hhttp.resolve_left (not_not.2 hname), fun s hs => ?_, fun labels _ => ⟨rfl, ?_⟩⟩
    · rw [hbuckets] at hs
      exact absurd hs List.not_mem_nil
    · unfold getOr Table.find?
      rw [hcounts]
      rfl
  · exact hbuckets

/-- The metrics hold the requests, whatever has happened. -/
theorem after_holds (c : Collation) (events : List Event) :
    ∀ m ∈ (after c events).rows, MetricHolds c events m := by
  induction events using List.reverseRecOn with
  | nil => exact initial_holds c
  | append_singleton events event ih =>
    unfold after at ih ⊢
    rw [List.foldl_append, List.foldl_cons, List.foldl_nil]
    cases event with
    | started =>
      have hsame : ∀ m, MetricHolds c events m → MetricHolds c (events ++ [.started]) m := by
        intro m hm h hmetric
        have hm := hm h hmetric
        split at hm
        · rename_i hname
          rw [if_pos hname]
          refine ⟨hm.buckets, fun s hs => ?_, fun labels hnone => ?_⟩
          · rw [durationsOf_started]
            exact hm.series s hs
          · rw [durationsOf_started]
            exact hm.absent labels hnone
        · rename_i hname
          rw [if_neg hname]
          exact hm
      exact fun m hm => hsame m (addGauge_holds ih m hm)
    | finished r => exact addGauge_holds (observeHistogram_holds (incrementCounter_holds ih) r)

end Observe

/-! ## When the endpoint survives -/

section Survives

variable {events : List Event}

theorem exists_of_durationsOf {labels : Chars} (h : durationsOf c events labels ≠ []) :
    ∃ r ∈ requestsOf events, labels = serializeLabels c r.labels := by
  unfold durationsOf at h
  have hsome : (requestsOf events).filter (fun r => serializeLabels c r.labels = labels) ≠ [] :=
    fun hnil => h (by rw [hnil]; rfl)
  obtain ⟨r, hr⟩ := List.exists_mem_of_ne_nil _ hsome
  rw [List.mem_filter, decide_eq_true_eq] at hr
  exact ⟨r, hr.1, hr.2.symm⟩

theorem series_spec {m : NamedMetric} (hm : m ∈ (after c events).rows) {h : HistogramMetric}
    (hmetric : m.metric = .histogram h) {s : Series (List ℕ)} (hs : s ∈ h.bucketValues.rows) :
    HoldsRequests c events h ∧ ∃ r ∈ requestsOf events, s.labels = serializeLabels c r.labels := by
  have hholds := after_holds c events m hm h hmetric
  split at hholds
  · exact ⟨hholds, exists_of_durationsOf (hholds.series s hs).1⟩
  · rw [hholds] at hs
    exact absurd hs List.not_mem_nil

theorem Counts.pairwise {h : HistogramMetric} {s : Series (List ℕ)} {durations : List ℤ}
    (hcounts : Counts h s durations) (hbuckets : h.buckets.Pairwise (· ≤ ·)) :
    s.value.length = h.buckets.length ∧ s.value.Pairwise (· ≤ ·) ∧
      ∀ n ∈ s.value, n ≤ getOr h.countValues s.labels 0 := by
  rw [hcounts.buckets, hcounts.count]
  refine ⟨List.length_map _, ?_, fun n hn => ?_⟩
  · rw [List.pairwise_map]
    refine hbuckets.imp fun {a b} hle => List.countP_mono_left fun d _ hd => ?_
    rw [decide_eq_true_eq] at hd ⊢
    exact hd.trans hle
  · obtain ⟨bucket, -, rfl⟩ := List.mem_map.1 hn
    exact List.countP_le_length

theorem render_isOk (app : AppInfo) (extras : List Extra)
    (h : ∀ m ∈ (after c events).rows, ∀ h, m.metric = .histogram h → ∀ s ∈ h.bucketValues.rows,
      ∃ labels, deserializeLabels s.labels = .ok labels) :
    ∃ text, render c app extras (after c events) = .ok text := by
  have hmetric : ∀ m ∈ (after c events).rows, ∃ lines, renderMetric c m = .ok lines := by
    intro m hm
    unfold renderMetric
    cases hkind : m.metric with
    | counter help values => exact ⟨_, rfl⟩
    | gauge help values => exact ⟨_, rfl⟩
    | histogram metric =>
      have hseries : ∀ s ∈ metric.bucketValues.rows, ∃ lines,
          renderSeries c m.name.toList metric s = .ok lines := by
        intro s hs
        obtain ⟨labels, hlabels⟩ := h m hm metric hkind s hs
        unfold renderSeries
        rw [hlabels]
        exact ⟨_, rfl⟩
      obtain ⟨series, hall⟩ := (mapM_ok_iff _ _).2 hseries
      dsimp only
      rw [hall]
      exact ⟨_, rfl⟩
  obtain ⟨lines, hall⟩ := (mapM_ok_iff _ _).2 hmetric
  unfold render
  rw [hall]
  exact ⟨_, rfl⟩

/-- The endpoint survives the requests exactly when their paths are plain. -/
theorem survives_iff (c : Collation) (events : List Event) :
    Survives c events ↔ ∀ r ∈ requestsOf events, IsPlain r.route := by
  constructor
  · intro h r hr
    exact deserialize_labels_iff.1 (h.labels r hr)
  · intro hplain
    have hlabels : ∀ r ∈ requestsOf events,
        deserializeLabels (serializeLabels c r.labels) = .ok (present r.labels) := fun r hr =>
      deserialize_labels_iff.2 (hplain r hr)
    refine ⟨fun app extras => render_isOk app extras fun m hm h hmetric s hs => ?_, hlabels,
      fun r hr r' hr' heq => ?_, fun m hm h hmetric s hs => (series_spec hm hmetric hs).2,
      fun m hm h hmetric s hs => ?_⟩
    · obtain ⟨-, r, hr, hkey⟩ := series_spec hm hmetric hs
      exact ⟨_, by rw [hkey, hlabels r hr]⟩
    · have hread := hlabels r hr
      rw [heq, hlabels r' hr'] at hread
      exact (Except.ok.inj hread).symm
    · obtain ⟨hholds, -⟩ := series_spec hm hmetric hs
      refine (hholds.series s hs).2.pairwise ?_
      rw [hholds.buckets]
      decide

end Survives

end

namespace MetricsDemo

def collation : Collation where
  le a b := (a.map Char.toNat) ≤ (b.map Char.toNat)
  words := by decide +kernel

def request (path : String) : Request where
  method := "GET".toList
  baseUrl := none
  path := some path.toList
  url := none
  statusCode := 400
  durationMs := 12

def app : AppInfo where
  appName := "fashion-erp".toList
  nodeEnv := "production".toList
  role := "all".toList

end MetricsDemo

open MetricsDemo in
theorem comma_breaks_render : ¬ ∀ c events, Survives c events := by
  intro hall
  obtain ⟨text, htext⟩ := (hall collation [.started, .finished (request "/api/v1/products/a,b"), .started,
    .finished (request "/api/v1/health")]).renders app []
  have hfails : (render collation app [] (after collation [.started, .finished (request "/api/v1/products/a,b"),
    .started, .finished (request "/api/v1/health")])).toOption = none := by decide +kernel
  rw [htext] at hfails
  cases hfails

end FashionErp.MetricsRegistryService
