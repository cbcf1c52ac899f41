import Telemetry.Proofs.Record.Layouts
import Telemetry.Proofs.Store.Soundness
import Telemetry.Query.Respond

/-!
# Layouts of answers and of printed lines

Each route has a layout (`Route.layout`), and so has each kind of record that a verbose store prints
(`Layout.printed`).  Where `U` holds of the keys of all attribute maps and of the names of all
headers in a store (`Store.Keeps`), every answer of the store shows the layout of its route
(`Store.Keeps.shows_answer`), and every line that is printed shows that of its record
(`Store.Keeps.exists_of_mem_lines`).
-/

namespace Telemetry

variable {U : List String → Prop}

/-! ### Layouts -/

namespace Layout

/-- The records that a record came from. -/
def originRecords : List (String × Layout) :=
  field "scope" scope ++ field "resource" resource ++ field "request" request

def traceTable : Layout :=
  .table .trace (.table .span spanSummary)

def spanAnswer : Layout :=
  .record (field "span" span ++ originRecords)

def logList : Layout :=
  .array logSummary

def logAnswer : Layout :=
  .record (field "log" logRecord ++ originRecords)

def metricTables : Layout :=
  .record (field "metrics" (.table .metric listedMetric) ++
    (field "resources" (.table .resource resource) ++ field "scopes" (.table .scope scope)))

def metricAnswer : Layout :=
  .record (field "metric" metric ++ field "requests" (.table .request request))

/-- What a verbose store prints in front of each record, and the layout of the record. -/
def printed : List (String × Layout) :=
  [("req: ", request), ("res: ", resource), ("  scope: ", scope), ("    span: ", span),
    ("    log: ", logRecord), ("    metric: ", metric)]

theorem isProper_of_mem_printed {line : String × Layout} (h : line ∈ printed) :
    line.2.isProper := by
  have hall : fieldsAreProper printed := by decide
  exact isProper_of_mem_fields hall h

end Layout

namespace Route

/-- The layout of what a route is answered with. -/
def layout : Route → Layout
  | .traces => .traceTable
  | .span .. => .spanAnswer
  | .logs => .logList
  | .log _ => .logAnswer
  | .metrics => .metricTables
  | .metric _ => .metricAnswer
  | .reset => .record []

theorem isProper_layout (route : Route) : route.layout.isProper := by
  have hspan : Layout.spanAnswer.isProper := by decide
  have hlog : Layout.logAnswer.isProper := by decide
  have hmetrics : Layout.metricTables.isProper := by decide
  have hmetric : Layout.metricAnswer.isProper := by decide
  cases route with
  | traces | logs | reset => rfl
  | span => exact hspan
  | log => exact hlog
  | metrics => exact hmetrics
  | metric => exact hmetric

/-- Decoding a route decodes its parameters, if it has any. -/
theorem eq_or_of_decode? {route decoded : Route} (h : route.decode? = some decoded) :
    decoded = route ∨
      (∃ trace span trace' span', route = .span trace span ∧ decoded = .span trace' span') ∨
      (∃ index index', route = .log index ∧ decoded = .log index') ∨
      ∃ id id', route = .metric id ∧ decoded = .metric id' := by
  cases route with
  | span trace span =>
    obtain ⟨trace', -, h⟩ := Option.bind_eq_some_iff.mp h
    obtain ⟨span', -, h⟩ := Option.bind_eq_some_iff.mp h
    exact .inr (.inl ⟨trace, span, trace', span', rfl, (Option.some.inj h).symm⟩)
  | log index =>
    obtain ⟨index', -, h⟩ := Option.bind_eq_some_iff.mp h
    exact .inr (.inr (.inl ⟨index, index', rfl, (Option.some.inj h).symm⟩))
  | metric id =>
    obtain ⟨id', -, h⟩ := Option.bind_eq_some_iff.mp h
    exact .inr (.inr (.inr ⟨id, id', rfl, (Option.some.inj h).symm⟩))
  | _ => exact .inl (Option.some.inj h).symm

/-- Decoding the parameters of a route does not change what it is about. -/
theorem layout_decode? {route decoded : Route} (h : route.decode? = some decoded) :
    decoded.layout = route.layout := by
  rcases eq_or_of_decode? h with
    rfl | ⟨_, _, _, _, rfl, rfl⟩ | ⟨_, _, rfl, rfl⟩ | ⟨_, _, rfl, rfl⟩ <;> rfl

theorem eq_reset_of_decode? {route : Route} (h : route.decode? = some .reset) :
    route = .reset := by
  rcases eq_or_of_decode? h with hsame | ⟨_, _, _, _, -, h⟩ | ⟨_, _, -, h⟩ | ⟨_, _, -, h⟩
  · exact hsame.symm
  · cases h
  · cases h
  · cases h

end Route

/-! ### Stores -/

/-- `U` holds of the names of the headers, if they are known. -/
def RequestMeta.Keeps (U : List String → Prop) (r : RequestMeta) : Prop :=
  ∀ headers, r.headers = some headers → U headers.keys

/-- `U` holds of the keys of all attribute maps and of the names of headers that a step brings. -/
structure Step.Brings (U : List String → Prop) (a : Step) : Prop where
  maps : ∀ m ∈ a.maps, U m.keys
  headers : ∀ r, a = .internRequest r → r.Keeps U

namespace Store

/-- `U` holds of the keys of all attribute maps and of the names of all headers. -/
structure Keeps (U : List String → Prop) (s : Store) : Prop where
  maps : s.AllMaps fun m => U m.keys
  headers : s.requests.All fun _ r => r.Keeps U

namespace Keeps

theorem empty : Store.empty.Keeps U where
  maps := allMaps_empty _
  headers := Table.all_empty _

theorem apply {s : Store} (h : s.Keeps U) {a : Step} (ha : a.Brings U) : (a.apply s).Keeps U where
  maps := h.maps.apply ha.maps
  headers := by
    cases a with
    | internRequest r => exact h.headers.insertIfNew (ha.headers r rfl)
    | reset => exact Table.all_empty _
    | _ => exact h.headers

theorem applyAll {s : Store} (h : s.Keeps U) {steps : List Step}
    (hsteps : ∀ a ∈ steps, a.Brings U) : (Step.applyAll s steps).Keeps U := by
  induction steps generalizing s with
  | nil => exact h
  | cons a steps ih =>
    rw [List.forall_mem_cons] at hsteps
    exact ih (h.apply hsteps.1) hsteps.2

variable {s : Store} (h : s.Keeps U)

include h

/-! ### Answers -/

theorem fills_originMembers (o : Origin) :
    Doc.Fills U Layout.originRecords (s.originMembers o) :=
  Doc.Fills.member? (fun c hc => Scope.shows_toDoc (h.maps.scopes o.scope c hc))
    |>.append (.member? fun r hr => Resource.shows_toDoc (h.maps.resources o.resource r hr))
    |>.append (.member? fun r hr => RequestMeta.shows_toDoc (h.headers o.request r hr))

theorem shows_spanDoc {ref : SpanRef} {span : Span} (hspan : s.span? ref = some span) :
    (s.spanDoc span).Shows U .spanAnswer := by
  obtain ⟨trace, htrace, hspan⟩ := Option.bind_eq_some_iff.mp hspan
  have hmaps := h.maps.traces ref.trace trace htrace ref.span span hspan
  exact Doc.shows_record (by decide)
    (.cons (Span.shows_toDoc hmaps) (h.fills_originMembers span.origin))

theorem shows_logDoc {index : Nat} {log : LogRecord} (hlog : s.logs[index]? = some log) :
    (s.logDoc log).Shows U .logAnswer :=
  Doc.shows_record (by decide)
    (.cons (LogRecord.shows_toDoc (h.maps.logs log (Array.mem_of_getElem? hlog)))
      (h.fills_originMembers log.origin))

theorem shows_metricsDoc : s.metricsDoc.Shows U .metricTables :=
  Doc.shows_record (by decide) <|
    .cons (Doc.shows_table Metric.listingDoc fun _ m _ => m.shows_listingDoc)
      (.cons (Doc.shows_table Resource.toDoc fun id r hr =>
          Resource.shows_toDoc (h.maps.resources id r hr))
        (.member (Doc.shows_table Scope.toDoc fun id c hc =>
          Scope.shows_toDoc (h.maps.scopes id c hc))))

theorem all_contributingRequests (metric : Metric) :
    (s.contributingRequests metric).All fun _ r => r.Keeps U := by
  refine Table.all_ofPairs fun pair hpair _ => ?_
  obtain ⟨id, -, hid⟩ := List.mem_filterMap.mp hpair
  obtain ⟨r, hr, rfl⟩ := Option.map_eq_some_iff.mp hid
  exact h.headers id r hr

theorem shows_metric {id : MetricId} {metric : Metric} (hmetric : s.metrics.get? id = some metric) :
    metric.toDoc.Shows U .metric :=
  Metric.shows_toDoc (h.maps.metadata id metric hmetric) (h.maps.streams id metric hmetric)

theorem shows_metricDoc {id : MetricId} {metric : Metric}
    (hmetric : s.metrics.get? id = some metric) : (s.metricDoc metric).Shows U .metricAnswer :=
  Doc.shows_record (by decide) <|
    .cons (h.shows_metric hmetric) (.member (Doc.shows_table RequestMeta.toDoc fun id r hr =>
      RequestMeta.shows_toDoc (h.all_contributingRequests metric id r hr)))

/-- **Every answer shows the layout of its route.** -/
theorem shows_answer {route : Route} {query : Query} (hquery : route.query = .ok (some query))
    {doc : Doc} (hdoc : s.answer? query = some doc) : doc.Shows U route.layout := by
  cases route with
  | traces =>
    cases hquery
    cases hdoc
    exact Doc.shows_table Trace.toDoc fun _ trace _ => trace.shows_toDoc
  | logs =>
    cases hquery
    cases hdoc
    exact Doc.shows_array (List.forall_mem_map.mpr fun log _ => log.summary.shows_toDoc)
  | metrics =>
    cases hquery
    cases hdoc
    exact h.shows_metricsDoc
  | reset => cases hquery
  -- a route with parameters makes a query only if they can be read
  | span traceId spanId =>
    obtain ⟨trace, -, hquery⟩ := exists_of_bind_eq_ok hquery
    obtain ⟨span, -, hquery⟩ := exists_of_bind_pure_eq_ok hquery
    cases hquery
    obtain ⟨span, hspan, rfl⟩ := Option.map_eq_some_iff.mp hdoc
    exact h.shows_spanDoc hspan
  | log index =>
    obtain ⟨index, -, hquery⟩ := exists_of_bind_pure_eq_ok hquery
    cases hquery
    obtain ⟨log, hlog, rfl⟩ := Option.map_eq_some_iff.mp hdoc
    exact h.shows_logDoc hlog
  | metric id =>
    obtain ⟨id, -, hquery⟩ := exists_of_bind_pure_eq_ok hquery
    cases hquery
    obtain ⟨metric, hmetric, rfl⟩ := Option.map_eq_some_iff.mp hdoc
    exact h.shows_metricDoc hmetric

/-! ### Lines -/

/-- **Every line that a step prints shows the layout of its record.** -/
theorem exists_of_mem_lines {a : Step} (ha : a.Brings U) {line : String}
    (hline : line ∈ a.lines s) :
    ∃ printed ∈ Layout.printed, ∃ doc : Doc,
      line = printed.1 ++ doc.render ∧ doc.Shows U printed.2 := by
  cases a with
  | internRequest r =>
    obtain rfl := List.mem_singleton.mp hline
    exact ⟨("req: ", .request), by simp [Layout.printed],
      r.toDoc, rfl, RequestMeta.shows_toDoc (ha.headers r rfl)⟩
  | internResource r =>
    obtain rfl := List.mem_singleton.mp hline
    exact ⟨("res: ", .resource), by simp [Layout.printed],
      r.toDoc, rfl, Resource.shows_toDoc ha.maps⟩
  | internScope c =>
    obtain rfl := List.mem_singleton.mp hline
    exact ⟨("  scope: ", .scope), by simp [Layout.printed], c.toDoc, rfl, Scope.shows_toDoc ha.maps⟩
  | commitSpan ref span =>
    obtain rfl := List.mem_singleton.mp hline
    exact ⟨("    span: ", .span), by simp [Layout.printed],
      span.toDoc, rfl, Span.shows_toDoc ha.maps⟩
  | commitLog log =>
    obtain rfl := List.mem_singleton.mp hline
    exact ⟨("    log: ", .logRecord), by simp [Layout.printed],
      log.toDoc, rfl, LogRecord.shows_toDoc ha.maps⟩
  | showMetric id =>
    rw [Step.lines] at hline
    split at hline
    · rename_i metric hmetric
      obtain rfl := List.mem_singleton.mp hline
      exact ⟨("    metric: ", .metric), by simp [Layout.printed],
        metric.toDoc, rfl, h.shows_metric hmetric⟩
    · cases hline
  | _ => cases hline

end Keeps

end Store

end Telemetry
