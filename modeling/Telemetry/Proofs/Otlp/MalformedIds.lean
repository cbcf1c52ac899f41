import Telemetry.Store.Ingest

/-!
# Which export requests are refused

A payload carries the ids of traces and spans as byte strings of any length, and converting it
reads them one after the other.  `Payload.ids` lists them in that order, and `Reads ids x` says
that the conversion `x` fails with the error of the first malformed one among `ids` and succeeds
if there is none.  The rules for `pure`, `>>=` and `mapM` (`reads_pure`, `Reads.bind`,
`Reads.mapM`) carry this from a single id to a whole payload (`reads_ingest`).

`ingest_refuses_iff` then says for each signal which requests are refused, that a refused request
leaves the store as it was, and that the error names the first malformed id.
-/

namespace Telemetry

/-- An id as a payload carries it: what it names and its bytes. -/
structure CarriedId where
  kind : IdKind
  bytes : Bytes

namespace CarriedId

/-- There are bytes, but not as many as an id of the kind has. -/
def IsMalformed (id : CarriedId) : Prop :=
  id.bytes.length ≠ 0 ∧ id.bytes.length ≠ id.kind.width

instance : DecidablePred IsMalformed := fun id =>
  inferInstanceAs (Decidable (id.bytes.length ≠ 0 ∧ id.bytes.length ≠ id.kind.width))

/-- The error that names an id of the wrong length. -/
def error (id : CarriedId) : Error :=
  .payload s!"{id.kind.noun} must be {id.kind.width} bytes, got {id.bytes.length}"

end CarriedId

/-! ### The ids of a payload -/

namespace Otlp

/-- The ids of a link. -/
def Link.ids (l : Link) : List CarriedId :=
  [⟨.trace, l.trace⟩, ⟨.span, l.span⟩]

/-- The ids of a span: those of its links first, then its own. -/
def Span.ids (s : Span) : List CarriedId :=
  s.links.flatMap Link.ids ++ [⟨.trace, s.trace⟩, ⟨.span, s.span⟩, ⟨.span, s.parent⟩]

/-- The ids of a log record. -/
def LogRecord.ids (l : LogRecord) : List CarriedId :=
  [⟨.trace, l.trace⟩, ⟨.span, l.span⟩]

/-- The ids of an exemplar. -/
def Exemplar.ids (e : Exemplar) : List CarriedId :=
  [⟨.trace, e.trace⟩, ⟨.span, e.span⟩]

/-- The exemplars of all points, in order.  The points of a summary have none. -/
def MetricData.exemplars : MetricData → List Exemplar
  | .gauge points | .sum points _ _ => points.flatMap NumberPoint.exemplars
  | .histogram points _ => points.flatMap fun p => p.distribution.exemplars
  | .exponential points _ => points.flatMap fun p => p.distribution.exemplars
  | .summary _ => []

/-- The exemplars of a metric, in order. -/
def Metric.exemplars (m : Metric) : List Exemplar :=
  (m.data.map MetricData.exemplars).getD []

/-- The ids of a metric. -/
def Metric.ids (m : Metric) : List CarriedId :=
  m.exemplars.flatMap Exemplar.ids

end Otlp

/-- The ids that a payload carries, in the order in which they are converted. -/
def Payload.ids : Payload → List CarriedId
  | .traces request => request.items.flatMap Otlp.Span.ids
  | .logs request => request.items.flatMap Otlp.LogRecord.ids
  | .metrics request => request.items.flatMap Otlp.Metric.ids

/-! ### Conversions that read ids -/

section Reads

variable {α β : Type} {ids rest : List CarriedId}

/-- The conversion fails with the error of the first malformed id, and succeeds if no id is
malformed. -/
def Reads (ids : List CarriedId) (x : Except Error α) : Prop :=
  match ids.find? fun id => decide id.IsMalformed with
  | some id => x = .error id.error
  | none => ∃ a, x = .ok a

theorem reads_pure (a : α) : Reads [] (pure a : Except Error α) := ⟨a, rfl⟩

theorem reads_ofBytes (kind : IdKind) (bytes : Bytes) :
    Reads [⟨kind, bytes⟩] (Id.ofBytes bytes : Except Error (Id kind)) := by
  unfold Reads Id.ofBytes
  by_cases hempty : bytes = []
  · simp [hempty, CarriedId.IsMalformed]
  · by_cases hwidth : bytes.length = kind.width
    · simp [hempty, hwidth, CarriedId.IsMalformed]
    · simp [hempty, hwidth, CarriedId.IsMalformed, CarriedId.error, Id.wrongLength]

theorem Reads.bind {x : Except Error α} {f : α → Except Error β} (hx : Reads ids x)
    (hf : ∀ a, Reads rest (f a)) : Reads (ids ++ rest) (x >>= f) := by
  unfold Reads at hx ⊢
  rw [List.find?_append]
  split at hx
  · rename_i id hid
    rw [hid, hx]
    rfl
  · rename_i hnone
    obtain ⟨a, rfl⟩ := hx
    rw [hnone]
    exact hf a

/-- What is done to the result of a conversion reads no more ids. -/
theorem Reads.bind_pure {x : Except Error α} (hx : Reads ids x) (f : α → β) :
    Reads ids (x >>= fun a => pure (f a)) := by
  rw [← List.append_nil ids]
  exact hx.bind fun a => reads_pure (f a)

theorem Reads.map {x : Except Error α} (hx : Reads ids x) (f : α → β) : Reads ids (x.map f) := by
  have hmap : x.map f = x >>= fun a => pure (f a) := by cases x <;> rfl
  rw [hmap]
  exact hx.bind_pure f

theorem Reads.mapM {idsOf : α → List CarriedId} {f : α → Except Error β} (xs : List α)
    (hf : ∀ a, Reads (idsOf a) (f a)) : Reads (xs.flatMap idsOf) (xs.mapM f) := by
  induction xs with
  | nil => exact reads_pure []
  | cons a xs ih =>
    rw [List.mapM_cons, List.flatMap_cons]
    exact (hf a).bind fun b => ih.bind_pure fun bs => b :: bs

/-- A conversion fails iff some id that it reads is malformed. -/
theorem Reads.fails_iff {x : Except Error α} (hx : Reads ids x) :
    (∃ e, x = .error e) ↔ ∃ id ∈ ids, id.IsMalformed := by
  unfold Reads at hx
  split at hx
  · rename_i id hid
    have hbad : id.IsMalformed := by simpa using List.find?_some hid
    exact ⟨fun _ => ⟨id, List.mem_of_find?_eq_some hid, hbad⟩, fun _ => ⟨_, hx⟩⟩
  · rename_i hnone
    obtain ⟨a, rfl⟩ := hx
    constructor
    · rintro ⟨e, he⟩
      cases he
    · rintro ⟨id, hid, hbad⟩
      exact absurd (List.find?_eq_none.mp hnone id hid) (by simpa using hbad)

/-- A conversion that fails names the first malformed id that it reads. -/
theorem Reads.error_eq {x : Except Error α} (hx : Reads ids x) {e : Error} (he : x = .error e) :
    ∃ before id after, ids = before ++ id :: after ∧ (∀ i ∈ before, ¬ i.IsMalformed) ∧
      id.IsMalformed ∧ e = id.error := by
  unfold Reads at hx
  split at hx
  · rename_i id hid
    obtain ⟨hbad, before, after, rfl, hgood⟩ := List.find?_eq_some_iff_append.mp hid
    rw [hx] at he
    exact ⟨before, id, after, rfl, fun i hi => by simpa using hgood i hi, by simpa using hbad,
      (Except.error.inj he).symm⟩
  · obtain ⟨a, rfl⟩ := hx
    cases he

end Reads

/-! ### Converting a request -/

namespace Otlp

theorem reads_link (l : Link) : Reads l.ids l.toRecord :=
  (reads_ofBytes .trace l.trace).bind fun _ =>
    (reads_ofBytes .span l.span).bind fun _ => reads_pure _

theorem reads_span (s : Span) : Reads s.ids s.prepare :=
  (Reads.mapM s.links reads_link).bind fun _ =>
    (reads_ofBytes .trace s.trace).bind fun _ =>
      (reads_ofBytes .span s.span).bind fun _ =>
        (reads_ofBytes .span s.parent).bind fun _ => reads_pure _

theorem reads_logRecord (now : UInt64) (l : LogRecord) : Reads l.ids (l.prepare now) :=
  (reads_ofBytes .trace l.trace).bind fun _ =>
    (reads_ofBytes .span l.span).bind fun _ => reads_pure _

theorem reads_timedLog (l : TimedLog) : Reads l.record.ids l.prepare :=
  reads_logRecord l.now l.record

theorem reads_exemplar (e : Exemplar) : Reads e.ids e.toRecord :=
  (reads_ofBytes .trace e.trace).bind fun _ =>
    (reads_ofBytes .span e.span).bind fun _ => reads_pure _

theorem reads_exemplars (exemplars : List Exemplar) :
    Reads (exemplars.flatMap Exemplar.ids) (exemplars.mapM Exemplar.toRecord) :=
  Reads.mapM exemplars reads_exemplar

/-- A conversion of points that reads their exemplars reads those of all points in order. -/
theorem reads_preparePoints {π : Type} (base : π → PointBase) (exemplars : π → List Exemplar)
    {convert : π → Except Error Point}
    (hconvert : ∀ p, Reads ((exemplars p).flatMap Exemplar.ids) (convert p)) (points : List π) :
    Reads ((points.flatMap exemplars).flatMap Exemplar.ids)
      (preparePoints base convert points) := by
  rw [List.flatMap_assoc]
  exact Reads.mapM points fun p => (hconvert p).bind_pure _

theorem reads_numberPoint (p : NumberPoint) :
    Reads (p.exemplars.flatMap Exemplar.ids) p.toRecord :=
  (reads_exemplars p.exemplars).bind_pure _

theorem reads_distribution (d : Distribution) :
    Reads (d.exemplars.flatMap Exemplar.ids) d.toRecord :=
  (reads_exemplars d.exemplars).bind_pure _

theorem reads_metricData (data : MetricData) :
    Reads (data.exemplars.flatMap Exemplar.ids) data.preparePoints := by
  cases data with
  | gauge points => exact reads_preparePoints _ _ reads_numberPoint points
  | sum points temporality monotonic => exact reads_preparePoints _ _ reads_numberPoint points
  | histogram points temporality =>
    exact reads_preparePoints _ (fun p => p.distribution.exemplars)
      (fun p => (reads_distribution p.distribution).bind_pure _) points
  | exponential points temporality =>
    exact reads_preparePoints _ (fun p => p.distribution.exemplars)
      (fun p => (reads_distribution p.distribution).bind_pure _) points
  | summary points =>
    have hnone : (MetricData.summary points).exemplars = points.flatMap fun _ => [] := by
      simp [MetricData.exemplars]
    rw [hnone]
    exact reads_preparePoints _ (fun _ => []) (fun p => reads_pure _) points

theorem reads_metric (m : Metric) : Reads m.ids m.prepare := by
  unfold Metric.ids Metric.exemplars Metric.prepare
  cases m.data with
  | none => exact reads_pure _
  | some data => exact (reads_metricData data).bind_pure _

/-- Converting a request reads the ids of its items in order. -/
theorem reads_toBatch {ι α : Type} {idsOf : ι → List CarriedId} {convert : ι → Except Error α}
    (hconvert : ∀ i, Reads (idsOf i) (convert i)) (request : Export ι) :
    Reads (request.items.flatMap idsOf) (request.toBatch convert) := by
  have hscope (c : ScopeItems ι) : Reads (c.items.flatMap idsOf)
      (do let items ← c.items.mapM convert
          pure (ScopeGroup.mk (scopeRecord c.scope c.schema) items)) :=
    (Reads.mapM c.items hconvert).bind_pure _
  unfold Export.items Export.toBatch
  rw [List.flatMap_assoc]
  refine (Reads.mapM request.resources fun r => ?_).bind_pure _
  rw [List.flatMap_assoc]
  exact (Reads.mapM r.scopes hscope).bind_pure _

/-- Whatever the clock tells, converting log records reads the ids that were sent. -/
theorem reads_timed (clock : Clock) (request : LogExport) :
    Reads (request.items.flatMap LogRecord.ids)
      ((request.timed clock).toBatch TimedLog.prepare) := by
  have hreads := reads_toBatch reads_timedLog (request.timed clock)
  have hitems : (request.timed clock).items.map TimedLog.record = request.items := by
    rw [← Export.items_map, request.map_record_timed]
  rw [← hitems, List.flatMap_map]
  exact hreads

end Otlp

/-- Taking in a payload reads its ids in order. -/
theorem reads_ingest (s : Store) (clock : Clock) (payload : Payload) (sender : RequestMeta) :
    Reads payload.ids (s.ingest clock payload sender).1 := by
  have hsteps : Reads payload.ids (payload.steps clock sender) := by
    cases payload with
    | traces request => exact (Otlp.reads_toBatch Otlp.reads_span request).map _
    | logs request => exact (Otlp.reads_timed clock request).map _
    | metrics request => exact (Otlp.reads_toBatch Otlp.reads_metric request).map _
  have hresult :
      (s.ingest clock payload sender).1 = (payload.steps clock sender).map fun _ => () := by
    unfold Store.ingest
    cases payload.steps clock sender <;> rfl
  rw [hresult]
  exact hsteps.map _

/-! ### Main statement -/

theorem exists_malformed_flatMap {α : Type} {idsOf : α → List CarriedId} {xs : List α} :
    (∃ id ∈ xs.flatMap idsOf, id.IsMalformed) ↔ ∃ x ∈ xs, ∃ id ∈ idsOf x, id.IsMalformed := by
  constructor
  · rintro ⟨id, hid, hbad⟩
    obtain ⟨x, hx, hid⟩ := List.mem_flatMap.mp hid
    exact ⟨x, hx, id, hid, hbad⟩
  · rintro ⟨x, hx, id, hid, hbad⟩
    exact ⟨id, List.mem_flatMap.mpr ⟨x, hx, hid⟩, hbad⟩

theorem exists_malformed_append {ids rest : List CarriedId} :
    (∃ id ∈ ids ++ rest, id.IsMalformed) ↔
      (∃ id ∈ ids, id.IsMalformed) ∨ ∃ id ∈ rest, id.IsMalformed := by
  simp only [List.mem_append, or_and_right, exists_or]

/-- A trace id has sixteen bytes and a span id eight, and either may be left out. -/
theorem exists_malformed_pair (trace span : Bytes) :
    (∃ id ∈ [CarriedId.mk .trace trace, ⟨.span, span⟩], id.IsMalformed) ↔
      trace.length ∉ [0, 16] ∨ span.length ∉ [0, 8] := by
  simp [CarriedId.IsMalformed, IdKind.width]

theorem Otlp.Span.exists_malformed (s : Otlp.Span) :
    (∃ id ∈ s.ids, id.IsMalformed) ↔
      (∃ link ∈ s.links, link.trace.length ∉ [0, 16] ∨ link.span.length ∉ [0, 8]) ∨
        s.trace.length ∉ [0, 16] ∨ s.span.length ∉ [0, 8] ∨ s.parent.length ∉ [0, 8] := by
  have hown : (∃ id ∈ [CarriedId.mk .trace s.trace, ⟨.span, s.span⟩, ⟨.span, s.parent⟩],
        id.IsMalformed) ↔
      s.trace.length ∉ [0, 16] ∨ s.span.length ∉ [0, 8] ∨ s.parent.length ∉ [0, 8] := by
    simp [CarriedId.IsMalformed, IdKind.width]
  unfold Otlp.Span.ids
  rw [exists_malformed_append, exists_malformed_flatMap, hown]
  simp only [Otlp.Link.ids, exists_malformed_pair]

/-- **A request is refused iff it carries a malformed id, and then nothing is stored.**  For traces
the ids are those of the spans, their parents and their links, for logs those of the records, and
for metrics those of the exemplars.  Whatever stands before the malformed id, the store stays as
it was, and the error names the first malformed id in the order of conversion. -/
theorem ingest_refuses_iff (s : Store) (clock : Clock) (sender : RequestMeta) :
    (∀ request : Otlp.TraceExport,
      (∃ e, (s.ingest clock (.traces request) sender).1 = .error e) ↔
        ∃ span ∈ request.items,
          (∃ link ∈ span.links, link.trace.length ∉ [0, 16] ∨ link.span.length ∉ [0, 8]) ∨
            span.trace.length ∉ [0, 16] ∨ span.span.length ∉ [0, 8] ∨
              span.parent.length ∉ [0, 8]) ∧
    (∀ request : Otlp.LogExport,
      (∃ e, (s.ingest clock (.logs request) sender).1 = .error e) ↔
        ∃ log ∈ request.items, log.trace.length ∉ [0, 16] ∨ log.span.length ∉ [0, 8]) ∧
    (∀ request : Otlp.MetricExport,
      (∃ e, (s.ingest clock (.metrics request) sender).1 = .error e) ↔
        ∃ metric ∈ request.items, ∃ exemplar ∈ metric.exemplars,
          exemplar.trace.length ∉ [0, 16] ∨ exemplar.span.length ∉ [0, 8]) ∧
    ∀ (payload : Payload) (e : Error), (s.ingest clock payload sender).1 = .error e →
      (s.ingest clock payload sender).2.store = s ∧
        ∃ before id after, payload.ids = before ++ id :: after ∧
          (∀ i ∈ before, ¬ i.IsMalformed) ∧ id.IsMalformed ∧ e = id.error := by
  refine ⟨fun request => ?_, fun request => ?_, fun request => ?_, fun payload e he => ⟨?_, ?_⟩⟩
  · rw [(reads_ingest s clock (.traces request) sender).fails_iff, Payload.ids,
      exists_malformed_flatMap]
    simp only [Otlp.Span.exists_malformed]
  · rw [(reads_ingest s clock (.logs request) sender).fails_iff, Payload.ids,
      exists_malformed_flatMap]
    simp only [Otlp.LogRecord.ids, exists_malformed_pair]
  · rw [(reads_ingest s clock (.metrics request) sender).fails_iff, Payload.ids,
      exists_malformed_flatMap]
    simp only [Otlp.Metric.ids, exists_malformed_flatMap, Otlp.Exemplar.ids, exists_malformed_pair]
  · unfold Store.ingest at he ⊢
    split at he
    · cases he
    · rfl
  · exact (reads_ingest s clock payload sender).error_eq he

/-- A span with nothing in it. -/
def Otlp.Span.blank : Otlp.Span :=
  { trace := [], span := [], state := "", parent := [], flags := 0, name := "", kind := 0,
    start := 0, finish := 0, attributes := [], dropped := 0, events := [], eventsDropped := 0,
    links := [], linksDropped := 0, status := none }

/-- A request with a well-formed span under one resource.  Under the next one stands a span with
a link to a span id of four bytes, and its own trace id is too short as well. -/
def requestWithBrokenLink : Otlp.TraceExport :=
  let link : Otlp.Link := ⟨List.replicate 16 2, [1, 2, 3, 4], "", [], 0, 0⟩
  let good : Otlp.Span := { Otlp.Span.blank with
    trace := List.replicate 16 1, span := List.replicate 8 7 }
  let bad : Otlp.Span := { good with trace := [1, 1, 1], links := [link] }
  ⟨[⟨none, [⟨none, [good], ""⟩], ""⟩, ⟨none, [⟨none, [good, bad], ""⟩], ""⟩]⟩

/-- The link of the broken span is named before its trace id. -/
theorem ingest_refuses_requestWithBrokenLink :
    let s := Store.empty.internRequest (.bare .grpc "a")
    let outcome := s.ingest 0 (.traces requestWithBrokenLink) (.bare .http "b")
    outcome.1 = .error (.payload "span id must be 8 bytes, got 4") ∧ outcome.2.store = s ∧
      ∃ before id after, (Payload.traces requestWithBrokenLink).ids = before ++ id :: after ∧
        (∀ i ∈ before, ¬ i.IsMalformed) ∧ id.IsMalformed ∧
        Error.payload "span id must be 8 bytes, got 4" = id.error := by
  intro s outcome
  have herror : outcome.1 = .error (.payload "span id must be 8 bytes, got 4") := by rfl
  exact ⟨herror, (ingest_refuses_iff s 0 (.bare .http "b")).2.2.2 _ _ herror⟩

end Telemetry
