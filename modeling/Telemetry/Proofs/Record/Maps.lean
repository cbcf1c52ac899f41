import Telemetry.Proofs.Store.Call
import Telemetry.Proofs.Value.Attributes

/-!
# The attribute maps of records

`maps` lists the attribute maps of a value or of a record, those that are nested in values
included.  Whatever a call stores was converted from its payload, and the conversion makes every
map from pairs, at any depth (`Call.built_of_mem_steps`).
-/

namespace Telemetry

/-! ### Maps at any depth -/

namespace Value

mutual

/-- The attribute maps in a value. -/
def maps : Value → List Attributes
  | .array items => itemsMaps items
  | .map entries => entries :: entriesMaps entries
  | _ => []

/-- The attribute maps in the items of an array. -/
def itemsMaps : List Value → List Attributes
  | [] => []
  | v :: vs => maps v ++ itemsMaps vs

/-- The attribute maps in the values of entries. -/
def entriesMaps : List (String × Value) → List Attributes
  | [] => []
  | (_, v) :: rest => maps v ++ entriesMaps rest

end

theorem mem_entriesMaps {entries : List (String × Value)} {m : Attributes} :
    m ∈ entriesMaps entries ↔ ∃ entry ∈ entries, m ∈ entry.2.maps := by
  induction entries with
  | nil => simp [entriesMaps]
  | cons entry rest ih => simp [entriesMaps, ih]

end Value

/-- An attribute map and those in its values. -/
def Attributes.maps (m : Attributes) : List Attributes :=
  m :: Value.entriesMaps m

/-- The attribute maps in a value that may be missing. -/
def Value.mapsOf (v : Option Value) : List Attributes :=
  (v.map Value.maps).getD []

/-- The attribute maps of a resource. -/
def Resource.maps (r : Resource) : List Attributes := Attributes.maps r.attr

/-- The attribute maps of a scope. -/
def Scope.maps (s : Scope) : List Attributes := Attributes.maps s.attr

/-- The attribute maps of a span, of its events and of its links. -/
def Span.maps (s : Span) : List Attributes :=
  Attributes.maps s.attr ++ s.events.flatMap (fun e => Attributes.maps e.attr) ++
    s.links.flatMap fun l => Attributes.maps l.attr

/-- The attribute maps of a log record and of its body. -/
def LogRecord.maps (l : LogRecord) : List Attributes :=
  Value.mapsOf l.body ++ Attributes.maps l.attr

/-- The attribute maps of an exemplar. -/
def Exemplar.maps (e : Exemplar) : List Attributes :=
  Value.mapsOf e.value ++ Attributes.maps e.attr

/-- The exemplars of a point of any type. -/
def Point.exemplars : Point → List Exemplar
  | .number p => p.exemplars
  | .histogram p => p.distribution.exemplars
  | .exponential p => p.distribution.exemplars
  | .summary _ => []

/-- The value of a point, which only the points of gauges and sums have. -/
def Point.value? : Point → Option Value
  | .number p => p.value
  | _ => none

/-- The attribute maps of a point: those of its value and of its exemplars. -/
def Point.maps (p : Point) : List Attributes :=
  Value.mapsOf p.value? ++ p.exemplars.flatMap Exemplar.maps

/-- The attribute maps of a stream and of its points. -/
def MetricStream.maps (s : MetricStream) : List Attributes :=
  Attributes.maps s.attr ++ s.points.flatMap Point.maps

/-- The attribute maps that a step puts into the store. -/
def Step.maps : Step → List Attributes
  | .internResource r => r.maps
  | .internScope c => c.maps
  | .commitSpan _ span => span.maps
  | .commitLog log => log.maps
  | .commitMetric _ _ metadata => Attributes.maps metadata
  | .commitPoint _ _ metadata attr point =>
    Attributes.maps metadata ++ Attributes.maps attr ++ point.maps
  | _ => []

/-! ### Maps of converted values -/

/-- The maps inside a map of pairs are maps inside the pairs. -/
theorem Attributes.built_of_mem_maps_ofPairs {pairs : List (String × Value)}
    (h : ∀ m ∈ Value.entriesMaps pairs, m.Built) : ∀ m ∈ maps (ofPairs pairs), m.Built := by
  intro m hm
  rcases List.mem_cons.mp hm with rfl | hm
  · exact .ofPairs pairs
  · obtain ⟨entry, hentry, hm⟩ := Value.mem_entriesMaps.mp hm
    exact h m (Value.mem_entriesMaps.mpr ⟨entry, mem_ofPairs hentry, hm⟩)

namespace Otlp

mutual

theorem AnyValue.built_of_mem_maps : ∀ (v : AnyValue) (w : Value), v.toValue? = some w →
    ∀ m ∈ w.maps, m.Built
  | .empty, w, h => by cases h
  | .string s, w, h => by cases h; simp [Value.maps]
  | .bool b, w, h => by cases h; simp [Value.maps]
  | .int n, w, h => by cases h; simp [Value.maps]
  | .double x, w, h => by cases h; simp [Value.maps]
  | .bytes b, w, h => by cases h; simp [Value.maps]
  | .array values, w, h => by
    cases h
    rw [Value.maps]
    exact AnyValue.built_of_mem_itemsMaps values
  | .keyValues entries, w, h => by
    cases h
    rw [Value.maps]
    exact Attributes.built_of_mem_maps_ofPairs (KeyValue.built_of_mem_entriesMaps entries)

theorem AnyValue.built_of_mem_itemsMaps : ∀ values : List AnyValue,
    ∀ m ∈ Value.itemsMaps (AnyValue.toItems values), m.Built
  | [] => by simp [AnyValue.toItems, Value.itemsMaps]
  | v :: vs => by
    have hrest := AnyValue.built_of_mem_itemsMaps vs
    rw [AnyValue.toItems]
    split
    · rename_i item hitem
      rw [Value.itemsMaps, List.forall_mem_append]
      exact ⟨AnyValue.built_of_mem_maps v item hitem, hrest⟩
    · exact hrest

theorem KeyValue.built_of_mem_entriesMaps : ∀ entries : List KeyValue,
    ∀ m ∈ Value.entriesMaps (KeyValue.toPairs entries), m.Built
  | [] => by simp [KeyValue.toPairs, Value.entriesMaps]
  | .bare _ :: rest => by
    rw [KeyValue.toPairs]
    exact KeyValue.built_of_mem_entriesMaps rest
  | .entry key v :: rest => by
    have hrest := KeyValue.built_of_mem_entriesMaps rest
    rw [KeyValue.toPairs]
    split
    · rename_i value hvalue
      rw [Value.entriesMaps, List.forall_mem_append]
      exact ⟨AnyValue.built_of_mem_maps v value hvalue, hrest⟩
    · exact hrest

end

/-- Attributes are converted to a map of pairs with maps of pairs inside. -/
theorem KeyValue.built_toAttributes (entries : List KeyValue) :
    ∀ m ∈ Attributes.maps (toAttributes entries), m.Built :=
  Attributes.built_of_mem_maps_ofPairs (built_of_mem_entriesMaps entries)

theorem AnyValue.built_mapsOf_toValue? (v : AnyValue) :
    ∀ m ∈ Value.mapsOf v.toValue?, m.Built := by
  unfold Value.mapsOf
  cases h : v.toValue? with
  | none => simp
  | some w => exact v.built_of_mem_maps w h

/-- A measured number has no map in it. -/
theorem Number.maps_toValue (n : Number) : n.toValue.maps = [] := by
  cases n <;> rfl

/-! ### Maps of converted records -/

/-- Without attributes there is one map, the empty one. -/
theorem KeyValue.built_nil : ∀ m ∈ Attributes.maps [], m.Built := by
  rw [← toAttributes_nil]
  exact built_toAttributes []

theorem built_resourceRecord (resource : Option Resource) (schema : String) :
    ∀ m ∈ (resourceRecord resource schema).maps, m.Built := by
  cases resource with
  | none => exact KeyValue.built_nil
  | some r => exact KeyValue.built_toAttributes r.attributes

theorem built_scopeRecord (scope : Option Scope) (schema : String) :
    ∀ m ∈ (scopeRecord scope schema).maps, m.Built := by
  cases scope with
  | none => exact KeyValue.built_nil
  | some s => exact KeyValue.built_toAttributes s.attributes

theorem Link.built_of_toRecord {l : Link} {record : SpanLink} (h : l.toRecord = .ok record) :
    ∀ m ∈ Attributes.maps record.attr, m.Built := by
  obtain ⟨trace, -, h⟩ := exists_of_bind_eq_ok h
  obtain ⟨span, -, rfl⟩ := exists_of_bind_pure_eq_ok h
  exact KeyValue.built_toAttributes l.attributes

theorem Span.built_of_prepare {s : Span} {p : PreparedSpan} (h : s.prepare = .ok p) :
    ∀ m ∈ p.span.maps, m.Built := by
  obtain ⟨links, hlinks, h⟩ := exists_of_bind_eq_ok h
  obtain ⟨trace, -, h⟩ := exists_of_bind_eq_ok h
  obtain ⟨span, -, h⟩ := exists_of_bind_eq_ok h
  obtain ⟨parent, -, rfl⟩ := exists_of_bind_pure_eq_ok h
  rw [Span.maps, List.forall_mem_append, List.forall_mem_append]
  refine ⟨⟨KeyValue.built_toAttributes s.attributes, fun m hm => ?_⟩, fun m hm => ?_⟩
  · obtain ⟨event, hevent, hm⟩ := List.mem_flatMap.mp hm
    obtain ⟨e, -, rfl⟩ := List.mem_map.mp hevent
    exact KeyValue.built_toAttributes e.attributes m hm
  · obtain ⟨link, hlink, hm⟩ := List.mem_flatMap.mp hm
    obtain ⟨l, -, hl⟩ := exists_mem_of_forall₂ (forall₂_of_mapM_eq_ok hlinks) hlink
    exact Link.built_of_toRecord hl m hm

theorem LogRecord.built_of_prepare {now : UInt64} {l : LogRecord} {record : Telemetry.LogRecord}
    (h : l.prepare now = .ok record) : ∀ m ∈ record.maps, m.Built := by
  obtain ⟨trace, -, h⟩ := exists_of_bind_eq_ok h
  obtain ⟨span, -, rfl⟩ := exists_of_bind_pure_eq_ok h
  rw [LogRecord.maps, List.forall_mem_append]
  exact ⟨AnyValue.built_mapsOf_toValue? l.body, KeyValue.built_toAttributes l.attributes⟩

theorem Number.mapsOf_toValue (n : Option Number) : Value.mapsOf (n.map toValue) = [] := by
  cases n with
  | none => rfl
  | some n => exact n.maps_toValue

theorem Exemplar.built_of_toRecord {e : Exemplar} {record : Telemetry.Exemplar}
    (h : e.toRecord = .ok record) : ∀ m ∈ record.maps, m.Built := by
  obtain ⟨trace, -, h⟩ := exists_of_bind_eq_ok h
  obtain ⟨span, -, rfl⟩ := exists_of_bind_pure_eq_ok h
  rw [Exemplar.maps, Number.mapsOf_toValue]
  exact KeyValue.built_toAttributes e.attributes

theorem Exemplar.built_of_mapM_toRecord {es : List Exemplar} {records : List Telemetry.Exemplar}
    (h : es.mapM toRecord = .ok records) : ∀ m ∈ records.flatMap Exemplar.maps, m.Built := by
  intro m hm
  obtain ⟨record, hrecord, hm⟩ := List.mem_flatMap.mp hm
  obtain ⟨e, -, he⟩ := exists_mem_of_forall₂ (forall₂_of_mapM_eq_ok h) hrecord
  exact built_of_toRecord he m hm

theorem NumberPoint.built_of_toRecord {p : NumberPoint} {point : Point}
    (h : p.toRecord = .ok point) : ∀ m ∈ point.maps, m.Built := by
  obtain ⟨exemplars, hexemplars, rfl⟩ := exists_of_bind_pure_eq_ok h
  rw [Point.maps, Point.value?, Number.mapsOf_toValue]
  exact Exemplar.built_of_mapM_toRecord hexemplars

theorem HistogramPoint.built_of_toRecord {p : HistogramPoint} {point : Point}
    (h : p.toRecord = .ok point) : ∀ m ∈ point.maps, m.Built := by
  obtain ⟨distribution, hdistribution, rfl⟩ := exists_of_bind_pure_eq_ok h
  obtain ⟨exemplars, hexemplars, rfl⟩ := exists_of_bind_pure_eq_ok hdistribution
  exact Exemplar.built_of_mapM_toRecord hexemplars

theorem ExponentialPoint.built_of_toRecord {p : ExponentialPoint} {point : Point}
    (h : p.toRecord = .ok point) : ∀ m ∈ point.maps, m.Built := by
  obtain ⟨distribution, hdistribution, rfl⟩ := exists_of_bind_pure_eq_ok h
  obtain ⟨exemplars, hexemplars, rfl⟩ := exists_of_bind_pure_eq_ok hdistribution
  exact Exemplar.built_of_mapM_toRecord hexemplars

theorem SummaryPoint.built_of_toRecord {p : SummaryPoint} {point : Point}
    (h : p.toRecord = .ok point) : ∀ m ∈ point.maps, m.Built := by
  cases h
  intro m hm
  cases hm

theorem built_of_preparePoints {π : Type} {base : π → PointBase} {convert : π → Except Error Point}
    (hconvert : ∀ p point, convert p = .ok point → ∀ m ∈ point.maps, m.Built) {points : List π}
    {prepared : List (Attributes × Point)} (h : preparePoints base convert points = .ok prepared) :
    ∀ x ∈ prepared, ∀ m ∈ Attributes.maps x.1 ++ x.2.maps, m.Built := by
  intro x hx
  obtain ⟨p, -, hp⟩ := exists_mem_of_forall₂ (forall₂_of_mapM_eq_ok h) hx
  obtain ⟨point, hpoint, rfl⟩ := exists_of_bind_pure_eq_ok hp
  rw [List.forall_mem_append]
  exact ⟨KeyValue.built_toAttributes _, hconvert p point hpoint⟩

theorem MetricData.built_of_preparePoints {data : MetricData}
    {prepared : List (Attributes × Point)} (h : data.preparePoints = .ok prepared) :
    ∀ x ∈ prepared, ∀ m ∈ Attributes.maps x.1 ++ x.2.maps, m.Built := by
  cases data with
  | gauge points | sum points temporality monotonic =>
    exact Otlp.built_of_preparePoints (fun _ _ => NumberPoint.built_of_toRecord) h
  | histogram points temporality =>
    exact Otlp.built_of_preparePoints (fun _ _ => HistogramPoint.built_of_toRecord) h
  | exponential points temporality =>
    exact Otlp.built_of_preparePoints (fun _ _ => ExponentialPoint.built_of_toRecord) h
  | summary points =>
    exact Otlp.built_of_preparePoints (fun _ _ => SummaryPoint.built_of_toRecord) h

theorem Metric.built_of_prepare {m : Metric} {p : PreparedMetric} (h : m.prepare = .ok p) :
    (∀ m ∈ Attributes.maps p.metadata, m.Built) ∧
      ∀ x ∈ p.points, ∀ m ∈ Attributes.maps x.1 ++ x.2.maps, m.Built := by
  unfold Metric.prepare at h
  cases hdata : m.data with
  | none =>
    rw [hdata] at h
    cases h
    exact ⟨KeyValue.built_toAttributes m.metadata, List.forall_mem_nil _⟩
  | some data =>
    rw [hdata] at h
    obtain ⟨points, hpoints, rfl⟩ := exists_of_bind_pure_eq_ok h
    exact ⟨KeyValue.built_toAttributes m.metadata, data.built_of_preparePoints hpoints⟩

end Otlp

/-! ### Maps of steps -/

/-- Who delivers a point does not change its maps. -/
theorem Point.maps_deliveredBy (request : RequestId) (point : Point) :
    (point.deliveredBy request).maps = point.maps := by
  cases point <;> rfl

theorem Otlp.Metric.built_of_mem_commit {m : Otlp.Metric} {p : PreparedMetric}
    (h : m.prepare = .ok p) (origin : Origin) {a : Step} (ha : a ∈ p.commit origin) :
    ∀ m ∈ a.maps, m.Built := by
  obtain ⟨hmetadata, hbuilt⟩ := Metric.built_of_prepare h
  simp only [PreparedMetric.commit, List.cons_append, List.mem_cons, List.mem_append, List.mem_map,
    List.not_mem_nil, or_false] at ha
  rcases ha with rfl | ⟨⟨attr, point⟩, hpoint, rfl⟩ | rfl
  · exact hmetadata
  · rw [Step.maps, Point.maps_deliveredBy, List.append_assoc, List.forall_mem_append]
    exact ⟨hmetadata, hbuilt _ hpoint⟩
  · intro m hm
    cases hm

/-- **Every map that a call stores was made from pairs.** -/
theorem Call.built_of_mem_steps {call : Call} {a : Step} (ha : a ∈ call.steps) :
    ∀ m ∈ a.maps, m.Built := by
  unfold Call.steps at ha
  split at ha
  · rename_i steps hsteps
    have hall : ∀ a ∈ steps, ∀ m ∈ a.maps, m.Built := by
      cases hpayload : call.payload with
      | traces request =>
        rw [hpayload] at hsteps
        refine Otlp.Export.forall_mem_steps (Q := fun a => ∀ m ∈ a.maps, m.Built) hsteps
          (List.forall_mem_nil _) Otlp.built_resourceRecord Otlp.built_scopeRecord
          fun x p hp origin a ha => ?_
        obtain rfl := List.mem_singleton.mp ha
        exact Otlp.Span.built_of_prepare hp
      | logs request =>
        rw [hpayload] at hsteps
        refine Otlp.Export.forall_mem_steps (Q := fun a => ∀ m ∈ a.maps, m.Built) hsteps
          (List.forall_mem_nil _) Otlp.built_resourceRecord Otlp.built_scopeRecord
          fun x p hp origin a ha => ?_
        obtain rfl := List.mem_singleton.mp ha
        have hbuilt := Otlp.LogRecord.built_of_prepare hp
        exact hbuilt
      | metrics request =>
        rw [hpayload] at hsteps
        exact Otlp.Export.forall_mem_steps (Q := fun a => ∀ m ∈ a.maps, m.Built) hsteps
          (List.forall_mem_nil _) Otlp.built_resourceRecord Otlp.built_scopeRecord
          fun x p hp origin a ha => Otlp.Metric.built_of_mem_commit hp origin ha
    exact hall a ha
  · cases ha

end Telemetry
