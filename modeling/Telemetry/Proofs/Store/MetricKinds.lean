import Telemetry.Proofs.Otlp.Names
import Telemetry.Proofs.Record.Encoding
import Telemetry.Proofs.Store.Soundness
import Telemetry.Proofs.Store.Streams

/-!
# What metrics are filed together

The texts of a metric identity are fed to the digest one after the other, with nothing in between.
So metrics of different types can be filed as one even where the digest has no collision: it is
enough that name, type, unit and temporality make up the same text (`exponential_under_histogram`).

`points_of_metric` says what remains.  A point is filed under a metric only if it was sent from the
metric's resource and scope, with the metric's text, and if also the name and the unit it was sent
with are the metric's, then it was sent with the metric's identity and is of the metric's type.
-/

namespace Telemetry

/-! ### Types of metrics and shapes of points -/

/-- The shape of a point is that of the points of a type of metric.  No point is of type `Empty`. -/
def Point.Fits (kind : String) : Point → Prop
  | .number _ => kind = "Gauge" ∨ kind = "Sum"
  | .histogram _ => kind = "Histogram"
  | .exponential _ => kind = "ExponentialHistogram"
  | .summary _ => kind = "Summary"

instance (kind : String) : (point : Point) → Decidable (point.Fits kind)
  | .number _ => inferInstanceAs (Decidable (_ ∨ _))
  | .histogram _ | .exponential _ | .summary _ => inferInstanceAs (Decidable (_ = _))

theorem Point.Fits.deliveredBy {kind : String} {point : Point} (h : point.Fits kind)
    (request : RequestId) : (point.deliveredBy request).Fits kind := by
  cases point <;> exact h

namespace MetricIdentity

/-- The types of metrics. -/
def kinds : List String :=
  ["Gauge", "Sum", "Histogram", "ExponentialHistogram", "Summary", "Empty"]

/-- The identity has one of the types, and a temporality without the letter that tells `Summary`
from `Sum` and `Empty` from `ExponentialHistogram`. -/
structure IsTyped (i : MetricIdentity) : Prop where
  kind : i.kind ∈ kinds
  temporality : 'y' ∉ i.temporality.toList

/-- The first letter of a type and the number of its `y`s determine it. -/
theorem kind_eq_of_mem : ∀ a ∈ kinds, ∀ b ∈ kinds, a.toList.head? = b.toList.head? →
    a.toList.count 'y' = b.toList.count 'y' → a = b := by
  decide

theorem kind_ne_nil : ∀ a ∈ kinds, a.toList ≠ [] := by
  decide

/-- **Under one name and one unit the text tells types apart**, though `Sum` is a prefix of
`Summary`. -/
theorem IsTyped.eq_of_text_eq {i j : MetricIdentity} (hi : i.IsTyped) (hj : j.IsTyped)
    (hname : i.name = j.name) (hunit : i.unit = j.unit) (htext : i.text = j.text) :
    i.kind = j.kind ∧ i.temporality = j.temporality := by
  have hlist : i.kind.toList ++ (j.unit.toList ++ i.temporality.toList) =
      j.kind.toList ++ (j.unit.toList ++ j.temporality.toList) := by
    have hchars := congrArg String.toList htext
    simpa [text, hname, hunit] using hchars
  have hkind : i.kind = j.kind := by
    refine kind_eq_of_mem _ hi.kind _ hj.kind ?_ ?_
    · have hhead := congrArg List.head? hlist
      rwa [List.head?_append_of_ne_nil _ (kind_ne_nil _ hi.kind),
        List.head?_append_of_ne_nil _ (kind_ne_nil _ hj.kind)] at hhead
    · have hcount := congrArg (List.count 'y') hlist
      simp only [List.count_append, List.count_eq_zero_of_not_mem hi.temporality,
        List.count_eq_zero_of_not_mem hj.temporality] at hcount
      omega
  rw [hkind] at hlist
  exact ⟨hkind, String.toList_inj.mp (List.append_cancel_left (List.append_cancel_left hlist))⟩

end MetricIdentity

namespace Otlp

theorem temporalityName_no_y (value : Int32) : 'y' ∉ (temporalityName value).toList := by
  rcases nameAmong_mem_or temporalityNames value with h | h
  · have hnames : ∀ name ∈ temporalityNames, 'y' ∉ name.toList := by decide
    exact hnames _ h
  · rw [temporalityName, h]
    intro hy
    exact absurd (Numeral.of_mem_toString_int hy) (by decide)

theorem MetricData.no_y_temporality (data : MetricData) : 'y' ∉ data.temporality.toList := by
  cases data with
  | gauge points | summary points => exact List.not_mem_nil
  | sum points t monotonic | histogram points t | exponential points t =>
    exact temporalityName_no_y t

theorem Metric.isTyped_identity (m : Metric) : m.identity.IsTyped := by
  unfold identity
  cases m.data with
  | none => exact ⟨by simp [MetricIdentity.kinds], List.not_mem_nil⟩
  | some data =>
    refine ⟨?_, data.no_y_temporality⟩
    cases data <;> simp [MetricIdentity.kinds, MetricData.kind]

/-- Points of a metric are prepared by a conversion into one shape. -/
theorem fits_of_preparePoints {π : Type} {base : π → PointBase} {convert : π → Except Error Point}
    {kind : String} (hconvert : ∀ p point, convert p = .ok point → point.Fits kind)
    {points : List π} {prepared : List (Attributes × Point)}
    (h : preparePoints base convert points = .ok prepared) : ∀ x ∈ prepared, x.2.Fits kind := by
  intro x hx
  obtain ⟨p, -, hp⟩ := exists_mem_of_forall₂ (forall₂_of_mapM_eq_ok h) hx
  obtain ⟨point, hpoint, rfl⟩ := exists_of_bind_pure_eq_ok hp
  exact hconvert p point hpoint

theorem MetricData.fits_of_preparePoints {data : MetricData} {prepared : List (Attributes × Point)}
    (h : data.preparePoints = .ok prepared) : ∀ x ∈ prepared, x.2.Fits data.kind := by
  cases data with
  | gauge points =>
    refine Otlp.fits_of_preparePoints (fun p point hp => ?_) h
    obtain ⟨exemplars, -, rfl⟩ := exists_of_bind_pure_eq_ok hp
    exact .inl rfl
  | sum points temporality monotonic =>
    refine Otlp.fits_of_preparePoints (fun p point hp => ?_) h
    obtain ⟨exemplars, -, rfl⟩ := exists_of_bind_pure_eq_ok hp
    exact .inr rfl
  | histogram points temporality =>
    refine Otlp.fits_of_preparePoints (fun p point hp => ?_) h
    obtain ⟨distribution, -, rfl⟩ := exists_of_bind_pure_eq_ok hp
    rfl
  | exponential points temporality =>
    refine Otlp.fits_of_preparePoints (fun p point hp => ?_) h
    obtain ⟨distribution, -, rfl⟩ := exists_of_bind_pure_eq_ok hp
    rfl
  | summary points =>
    refine Otlp.fits_of_preparePoints (fun p point hp => ?_) h
    cases hp
    rfl

/-- A converted metric has the identity of what was sent, and its points are of that type. -/
theorem Metric.of_prepare {m : Metric} {p : PreparedMetric} (h : m.prepare = .ok p) :
    p.identity = m.identity ∧ ∀ x ∈ p.points, x.2.Fits m.identity.kind := by
  unfold prepare at h
  cases hdata : m.data with
  | none =>
    rw [hdata] at h
    cases h
    exact ⟨rfl, List.forall_mem_nil _⟩
  | some data =>
    rw [hdata] at h
    obtain ⟨points, hpoints, rfl⟩ := exists_of_bind_pure_eq_ok h
    refine ⟨rfl, ?_⟩
    rw [identity, hdata]
    exact data.fits_of_preparePoints hpoints

end Otlp

/-! ### What the steps of a call feed to the digest -/

namespace Step

/-- The byte strings whose digests a step takes. -/
def encodings : Step → List Bytes
  | .internRequest r => [r.encoding]
  | .internResource r => [r.encoding]
  | .internScope c => [c.encoding]
  | .commitMetric identity _ metadata => [identity.encoding, Attributes.encoding metadata]
  | .commitPoint identity _ _ attr _ => [identity.encoding, Attributes.encoding attr]
  | _ => []

/-- Different byte strings that the steps feed to the digest have different digests. -/
def DigestsDiffer (steps : List Step) : Prop :=
  ∀ a ∈ steps.flatMap encodings, ∀ b ∈ steps.flatMap encodings,
    Digest.start.write a = Digest.start.write b → a = b

instance (steps : List Step) : Decidable (DigestsDiffer steps) :=
  inferInstanceAs (Decidable (∀ a ∈ _, ∀ b ∈ _, _ → _))

theorem of_identity?_eq_some {a : Step} {id : MetricId} {i : MetricIdentity}
    (h : a.identity? id = some i) : i.id = id ∧ i.encoding ∈ a.encodings := by
  cases a with
  | commitMetric identity _ _ | commitPoint identity _ _ _ _ =>
    obtain ⟨hid, hi⟩ := Option.ite_none_right_eq_some.mp h
    obtain rfl := Option.some.inj hi
    exact ⟨hid, List.mem_cons_self⟩
  | _ => cases h

/-- A point is filed under its identity. -/
theorem identity?_of_pointIn? {a : Step} {id : MetricId} {st : StreamId} {point : Point}
    (h : a.pointIn? id st = some point) : ∃ i, a.identity? id = some i := by
  cases a with
  | commitPoint identity _ _ _ _ =>
    obtain ⟨⟨hid, -⟩, -⟩ := Option.ite_none_right_eq_some.mp h
    exact ⟨identity, if_pos hid⟩
  | _ => cases h

end Step

/-- The call sends the point in a metric that has the identity once its origin is known. -/
def Call.Sends (call : Call) (identity : MetricIdentity) (point : Point) : Prop :=
  match call.payload with
  | .metrics request =>
    ∃ x ∈ request.sent, ∃ p attr measured, x.item.prepare = .ok p ∧
      p.identityFrom (x.origin call.sender) = identity ∧ (attr, measured) ∈ p.points ∧
      measured.deliveredBy call.sender.id = point
  | _ => False

/-- A point is of the type it is sent with. -/
theorem Call.Sends.fits {call : Call} {i : MetricIdentity} {point : Point}
    (h : call.Sends i point) : point.Fits i.kind := by
  unfold Sends at h
  split at h
  · obtain ⟨x, -, p, attr, measured, hp, rfl, hmeasured, rfl⟩ := h
    obtain ⟨hidentity, hfits⟩ := Otlp.Metric.of_prepare hp
    have hkind : measured.Fits p.identity.kind := hidentity ▸ hfits _ hmeasured
    exact hkind.deliveredBy _
  · exact h.elim

theorem PreparedMetric.of_mem_commit {p : PreparedMetric} {origin : Origin} {a : Step}
    (ha : a ∈ p.commit origin) {id : MetricId} {i : MetricIdentity} (hi : a.identity? id = some i) :
    i = p.identityFrom origin ∧ ∀ st point, a.pointIn? id st = some point →
      ∃ x ∈ p.points, x.2.deliveredBy origin.request = point := by
  simp only [commit, List.cons_append, List.mem_cons, List.mem_append, List.mem_map,
    List.not_mem_nil, or_false] at ha
  rcases ha with rfl | ⟨x, hx, rfl⟩ | rfl
  · obtain ⟨-, hi⟩ := Option.ite_none_right_eq_some.mp hi
    exact ⟨(Option.some.inj hi).symm, fun _ _ hpoint => by cases hpoint⟩
  · obtain ⟨-, hi⟩ := Option.ite_none_right_eq_some.mp hi
    refine ⟨(Option.some.inj hi).symm, fun st point hpoint => ⟨x, hx, ?_⟩⟩
    obtain ⟨-, hpoint⟩ := Option.ite_none_right_eq_some.mp hpoint
    exact Option.some.inj hpoint
  · cases hi

/-- The identity that a step of a call is about is that of a metric which the call sends, and so is
the point that the step commits. -/
theorem Call.of_identity? {call : Call} {a : Step} (ha : a ∈ call.steps) {id : MetricId}
    {i : MetricIdentity} (hi : a.identity? id = some i) :
    i.IsTyped ∧ ∀ st point, a.pointIn? id st = some point → call.Sends i point := by
  rcases of_mem_taken List.prefix_rfl ha with hintern | ⟨resource, scope, hcommits, -⟩
  · cases a <;> first | cases hi | cases hintern
  · unfold Commits at hcommits
    unfold Sends
    split at hcommits
    · obtain ⟨x, p, -, -, hcommit⟩ := hcommits
      obtain rfl := List.mem_singleton.mp hcommit
      cases hi
    · obtain ⟨x, now, p, -, -, -, hcommit⟩ := hcommits
      obtain rfl := List.mem_singleton.mp hcommit
      cases hi
    · rename_i request hpayload
      obtain ⟨x, p, hx, hp, hcommit⟩ := hcommits
      obtain ⟨rfl, hpoints⟩ := PreparedMetric.of_mem_commit hcommit hi
      have htyped : p.identity.IsTyped := (Otlp.Metric.of_prepare hp).1 ▸ x.isTyped_identity
      refine ⟨⟨htyped.kind, htyped.temporality⟩, fun st point hpoint => ?_⟩
      obtain ⟨⟨attr, measured⟩, hmeasured, rfl⟩ := hpoints st point hpoint
      rw [hpayload]
      exact ⟨_, hx, p, attr, measured, hp, rfl, hmeasured, rfl⟩

/-! ### What is filed under a metric -/

/-- The store after calls that are made one after the other. -/
def Store.afterCalls (calls : List Call) : Store :=
  Operation.applyAll .empty (calls.map .ingest)

theorem Store.afterCalls_eq_after (calls : List Call) :
    afterCalls calls = after (calls.flatMap Call.steps) := by
  rw [afterCalls, Operation.applyAll_eq_applyAll, List.flatMap_map]
  rfl

theorem Step.mem_of_mem_sinceReset {steps : List Step} {a : Step} (h : a ∈ sinceReset steps) :
    a ∈ steps :=
  (List.rtakeWhile_suffix _ _).subset h

theorem Store.exists_of_mem_points {calls : List Call} {id : MetricId} {metric : Metric}
    {st : StreamId} {stream : MetricStream} {point : Point}
    (hmetric : (afterCalls calls).metrics.get? id = some metric)
    (hstream : metric.streams.get? st = some stream) (hpoint : point ∈ stream.points) :
    ∃ call ∈ calls, ∃ a ∈ call.steps, a.pointIn? id st = some point := by
  have hstored : (afterCalls calls).pointsOf id st = stream.points := by
    rw [pointsOf, stream?, hmetric, Option.bind_some, hstream]
    rfl
  rw [← hstored, afterCalls_eq_after, pointsOf_after] at hpoint
  obtain ⟨a, ha, hpoint⟩ := List.mem_filterMap.mp hpoint
  obtain ⟨call, hcall, ha⟩ := List.mem_flatMap.mp (Step.mem_of_mem_sinceReset ha)
  exact ⟨call, hcall, a, ha, hpoint⟩

theorem Store.exists_of_get?_metrics {calls : List Call} {id : MetricId} {metric : Metric}
    (hmetric : (afterCalls calls).metrics.get? id = some metric) :
    ∃ call ∈ calls, ∃ a ∈ call.steps, a.identity? id = some metric.identity := by
  have hfirst := (keepsFirst_identity id).after (calls.flatMap Call.steps)
  rw [← afterCalls_eq_after, hmetric, Option.map_some] at hfirst
  obtain ⟨a, ha, hidentity⟩ := List.exists_of_findSome?_eq_some hfirst.symm
  obtain ⟨call, hcall, ha⟩ := List.mem_flatMap.mp (Step.mem_of_mem_sinceReset ha)
  exact ⟨call, hcall, a, ha, hidentity⟩

/-- **What is filed under a metric**, where different byte strings have different digests.  Every
point was sent by one of the calls, from the metric's resource and scope, as monotonic as the metric
is and with the same text of name, type, unit and temporality, and it is of the type it was sent
with.  Where also its name and unit are the metric's, it was sent with the metric's identity and is
of the metric's type. -/
theorem Store.points_of_metric {calls : List Call}
    (hdiffer : Step.DigestsDiffer (calls.flatMap Call.steps)) {id : MetricId} {metric : Metric}
    {st : StreamId} {stream : MetricStream} {point : Point}
    (hmetric : (afterCalls calls).metrics.get? id = some metric)
    (hstream : metric.streams.get? st = some stream) (hpoint : point ∈ stream.points) :
    ∃ call ∈ calls, ∃ sent : MetricIdentity, call.Sends sent point ∧ point.Fits sent.kind ∧
      (sent.resource = metric.identity.resource ∧ sent.scope = metric.identity.scope ∧
        sent.text = metric.identity.text ∧ sent.monotonic = metric.identity.monotonic) ∧
      (sent.name = metric.identity.name → sent.unit = metric.identity.unit →
        sent = metric.identity ∧ point.Fits metric.identity.kind) := by
  obtain ⟨call, hcall, a, ha, hcommits⟩ := exists_of_mem_points hmetric hstream hpoint
  obtain ⟨first, hfirst, b, hb, hidentity⟩ := exists_of_get?_metrics hmetric
  obtain ⟨sent, hsent⟩ := Step.identity?_of_pointIn? hcommits
  obtain ⟨htyped, hsends⟩ := Call.of_identity? ha hsent
  obtain ⟨hmetricTyped, -⟩ := Call.of_identity? hb hidentity
  obtain ⟨hsentId, hsentEncoding⟩ := Step.of_identity?_eq_some hsent
  obtain ⟨hmetricId, hmetricEncoding⟩ := Step.of_identity?_eq_some hidentity
  -- both identities are fed to the digest in the run, and both have the id of the metric
  have hencoding : sent.encoding = metric.identity.encoding :=
    hdiffer _ (List.mem_flatMap.mpr ⟨a, List.mem_flatMap.mpr ⟨call, hcall, ha⟩, hsentEncoding⟩)
      _ (List.mem_flatMap.mpr ⟨b, List.mem_flatMap.mpr ⟨first, hfirst, hb⟩, hmetricEncoding⟩)
      (MetricIdentity.id_eq_iff.mp (hsentId.trans hmetricId.symm))
  have hsame := MetricIdentity.encoding_eq_iff.mp hencoding
  obtain ⟨hresource, hscope, htext, hmonotonic⟩ := hsame
  have hsendsPoint := hsends st point hcommits
  refine ⟨call, hcall, sent, hsendsPoint, hsendsPoint.fits, ⟨hresource, hscope, htext, hmonotonic⟩,
    fun hname hunit => ?_⟩
  obtain ⟨hkind, htemporality⟩ := htyped.eq_of_text_eq hmetricTyped hname hunit htext
  have heq : sent = metric.identity := by
    cases sent
    cases hm : metric.identity
    simp_all
  exact ⟨heq, heq ▸ hsendsPoint.fits⟩

/-! ### Calls with one metric -/

/-- A call that sends one metric from a resource and a scope about which nothing is known. -/
def metricCall (metric : Otlp.Metric) : Call where
  clock := 0
  sender := .bare .grpc "a"
  payload := .metrics ⟨[⟨none, [⟨none, [metric], ""⟩], ""⟩]⟩

/-- A histogram without points. -/
def plainHistogram : Otlp.Metric :=
  ⟨"latencyExponential", "", "", [], some (.histogram [] 2)⟩

/-- An exponential histogram with one point. -/
def exponentialHistogram : Otlp.Metric :=
  ⟨"latency", "", "", [], some (.exponential
    [⟨⟨⟨[], 0, 0, 0⟩, 0, none, none, none, []⟩, 0, 0, ⟨0⟩, none, none⟩] 2)⟩

/-- The id that the metric of such a call is filed under. -/
def metricCallId (metric : Otlp.Metric) : MetricId :=
  { metric.identity with
    resource := (Otlp.resourceRecord none "").id
    scope := (Otlp.scopeRecord none "").id }.id

theorem Store.points_of_metric_exponentialHistogram :
    Step.DigestsDiffer ([metricCall exponentialHistogram].flatMap Call.steps) ∧
    ∃ metric stream point,
      (afterCalls [metricCall exponentialHistogram]).metrics.get?
        (metricCallId exponentialHistogram) = some metric ∧
      metric.streams.get? (Attributes.streamId []) = some stream ∧ point ∈ stream.points ∧
      point.Fits metric.identity.kind ∧
      (metricCall exponentialHistogram).Sends metric.identity point := by
  have hdiffer : Step.DigestsDiffer ([metricCall exponentialHistogram].flatMap Call.steps) := by
    decide +kernel
  have hstored : ((afterCalls [metricCall exponentialHistogram]).metrics.get?
      (metricCallId exponentialHistogram)).any fun metric =>
        metric.identity.name = "latency" ∧ metric.identity.unit = "" ∧
          (metric.streams.get? (Attributes.streamId [])).any fun stream => stream.points ≠ [] := by
    decide +kernel
  obtain ⟨metric, hmetric, hstored⟩ := (Option.any_eq_true _ _).mp hstored
  obtain ⟨hname, hunit, hstored⟩ := of_decide_eq_true hstored
  obtain ⟨stream, hstream, hstored⟩ := (Option.any_eq_true _ _).mp hstored
  obtain ⟨point, hpoint⟩ := List.exists_mem_of_ne_nil _ (of_decide_eq_true hstored)
  obtain ⟨call, hcall, sent, hsends, -, -, hsame⟩ :=
    points_of_metric hdiffer hmetric hstream hpoint
  obtain rfl := List.mem_singleton.mp hcall
  have hsent : sent.name = "latency" ∧ sent.unit = "" := by
    obtain ⟨x, hx, p, attr, measured, hp, rfl, -⟩ := hsends
    have hitem : x.item = exponentialHistogram := by rw [List.mem_singleton.mp hx]
    have hidentity : p.identity = exponentialHistogram.identity :=
      (Otlp.Metric.of_prepare hp).1.trans (congrArg _ hitem)
    exact ⟨congrArg MetricIdentity.name hidentity, congrArg MetricIdentity.unit hidentity⟩
  obtain ⟨rfl, hfits⟩ := hsame (hsent.1.trans hname.symm) (hsent.2.trans hunit.symm)
  exact ⟨hdiffer, metric, stream, point, hmetric, hstream, hpoint, hfits, hsends⟩

/-- **Types are mixed where their texts run together.**  The name of the one and the type of the
other make up for each other, so a point of an exponential histogram is filed under a histogram
that no call has sent it in, although no digests collide. -/
theorem Store.exponential_under_histogram :
    Step.DigestsDiffer
      ([metricCall plainHistogram, metricCall exponentialHistogram].flatMap Call.steps) ∧
    ∃ id metric st stream point,
      (afterCalls [metricCall plainHistogram, metricCall exponentialHistogram]).metrics.get? id =
        some metric ∧
      metric.streams.get? st = some stream ∧ point ∈ stream.points ∧
      ¬ point.Fits metric.identity.kind ∧
      ∀ call : Call, ¬ call.Sends metric.identity point := by
  have hmixed : ((afterCalls [metricCall plainHistogram,
      metricCall exponentialHistogram]).metrics.get? (metricCallId plainHistogram)).any
        fun metric => (metric.streams.get? (Attributes.streamId [])).any fun stream =>
          stream.points.any fun point => ¬ point.Fits metric.identity.kind := by
    decide +kernel
  obtain ⟨metric, hmetric, hmixed⟩ := (Option.any_eq_true _ _).mp hmixed
  obtain ⟨stream, hstream, hmixed⟩ := (Option.any_eq_true _ _).mp hmixed
  obtain ⟨point, hpoint, hfits⟩ := List.any_eq_true.mp hmixed
  have hfits : ¬ point.Fits metric.identity.kind := by simpa using hfits
  exact ⟨by decide +kernel, _, metric, _, stream, point, hmetric, hstream, hpoint, hfits,
    fun call hsends => hfits hsends.fits⟩

end Telemetry
