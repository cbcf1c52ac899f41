import Telemetry.Proofs.Record.Faithful
import Telemetry.Store.Batch

/-!
# Texts of points and metrics

The text of a point has no member for its shape, but no two shapes have the same members: only the
points of histograms and summaries have a count, of these only the points of exponential histograms
have a scale, and only the points of summaries have quantiles.  So the text of a point tells its
shape and every field, and the text of a metric every point of every stream
(`pointText_metricText_eq_iff`).

What the text does not tell is which of two values that are alike it was, the payload of a NaN, the
sign of a zero threshold, and whether something other than a sum is monotonic, which nothing is.
-/

namespace Telemetry

open Doc (Faithful FaithfulMembers faithful_bool faithful_string faithful_int faithful_uint
  faithful_timestamp faithful_flags faithful_double faithful_id faithful_spanRef faithful_table)

/-! ### What points have in common -/

theorem PointBase.faithful_members :
    FaithfulMembers ["time", "time.start", "flags", "req"] members Eq := by
  have hmembers := (FaithfulMembers.member "time" (faithful_timestamp.comap time))
    |>.append (.memberUnless "time.start" start 0 faithful_timestamp) (by decide)
    |>.append (.memberUnless "flags" flags 0 faithful_flags) (by decide)
    |>.append (.member "req" (faithful_id.comap request)) (by decide)
  refine hmembers.congr fun a b => ?_
  cases a
  cases b
  simp only [PointBase.mk.injEq, and_assoc]

theorem SpanRef.eq_zero_of_isPresent {ref : SpanRef}
    (h : (ref.trace.isPresent || ref.span.isPresent) = false) : ref = ⟨.zero, .zero⟩ := by
  rw [Bool.or_eq_false_iff] at h
  rw [← Id.eq_zero_of_isPresent h.1, ← Id.eq_zero_of_isPresent h.2]

/-- The exemplars agree in every field. -/
@[mk_iff]
structure Exemplar.Alike (a b : Exemplar) : Prop where
  time : a.time = b.time
  value : Option.Rel Value.Alike a.value b.value
  attr : a.attr.Alike b.attr
  source : a.source = b.source

theorem Exemplar.faithful_toDoc : Faithful toDoc Alike := by
  -- an exemplar without a span has neither a trace id nor a span id
  have hsource : FaithfulMembers ["span"]
      (fun e : Exemplar => Doc.memberIf (e.source.trace.isPresent || e.source.span.isPresent)
        "span" e.source.toDoc)
      fun a b => a.source = b.source :=
    .memberIf "span" (faithful_spanRef.comap source) (fun _ _ _ _ => .rfl)
      (fun a b h => by rw [h])
      fun a b ha hb => by
        rw [SpanRef.eq_zero_of_isPresent ha, SpanRef.eq_zero_of_isPresent hb]
  have hmembers := (FaithfulMembers.member "time" (faithful_timestamp.comap time))
    |>.append (.member? "value" value Value.faithful_toDoc) (by decide)
    |>.append (.memberUnlessEmpty "attr" attr Attributes.faithful_toDoc) (by decide)
    |>.append hsource (by decide)
  refine hmembers.record.congr fun a b => ?_
  rw [alike_iff]
  simp only [and_assoc]
  rfl

theorem Exemplar.faithful_members :
    FaithfulMembers ["exemplars"] members (List.Forall₂ Alike) :=
  .memberUnlessEmpty "exemplars" id faithful_toDoc.array

theorem Doc.faithful_counts : Faithful Doc.counts Eq := by
  have harray := faithful_uint.array
  rw [List.forall₂_eq_eq_eq] at harray
  exact harray

/-- The distributions agree in every field. -/
@[mk_iff]
structure Distribution.Alike (a b : Distribution) : Prop where
  base : a.base = b.base
  count : a.count = b.count
  sum : Option.Rel Double.Alike a.sum b.sum
  min : Option.Rel Double.Alike a.min b.min
  max : Option.Rel Double.Alike a.max b.max
  exemplars : List.Forall₂ Exemplar.Alike a.exemplars b.exemplars

/-- The names of the members of a distribution. -/
def Distribution.memberNames : List String :=
  ["time", "time.start", "flags", "req", "cnt", "sum", "min", "max", "exemplars"]

theorem Distribution.faithful_members : FaithfulMembers memberNames members Alike := by
  have hmembers := (PointBase.faithful_members.comap base)
    |>.append (.member "cnt" (faithful_uint.comap count)) (by decide)
    |>.append (.member? "sum" sum faithful_double) (by decide)
    |>.append (.member? "min" min faithful_double) (by decide)
    |>.append (.member? "max" max faithful_double) (by decide)
    |>.append (Exemplar.faithful_members.comap exemplars) (by decide)
  refine hmembers.congr fun a b => ?_
  rw [alike_iff]
  simp only [and_assoc]

/-! ### Points -/

/-- The points agree in every field. -/
@[mk_iff]
structure NumberPoint.Alike (a b : NumberPoint) : Prop where
  base : a.base = b.base
  value : Option.Rel Value.Alike a.value b.value
  exemplars : List.Forall₂ Exemplar.Alike a.exemplars b.exemplars

theorem NumberPoint.faithful_members :
    FaithfulMembers ["time", "time.start", "flags", "req", "val", "exemplars"]
      (fun p => (Point.number p).members) Alike := by
  have hmembers := (PointBase.faithful_members.comap base)
    |>.append (.member? "val" value Value.faithful_toDoc) (by decide)
    |>.append (Exemplar.faithful_members.comap exemplars) (by decide)
  refine hmembers.congr fun a b => ?_
  rw [alike_iff, and_assoc]

/-- The points agree in every field. -/
@[mk_iff]
structure HistogramPoint.Alike (a b : HistogramPoint) : Prop where
  distribution : a.distribution.Alike b.distribution
  buckets : a.buckets = b.buckets
  bounds : List.Forall₂ Double.Alike a.bounds b.bounds

theorem HistogramPoint.faithful_members :
    FaithfulMembers (Distribution.memberNames ++ ["buckets", "bounds"])
      (fun p => (Point.histogram p).members) Alike := by
  have hcounts : Faithful Doc.counts (List.Forall₂ Eq) := faithful_uint.array
  have hmembers := (Distribution.faithful_members.comap distribution)
    |>.append (.memberUnlessEmpty "buckets" buckets hcounts) (by decide)
    |>.append (.memberUnlessEmpty "bounds" bounds faithful_double.array) (by decide)
  refine hmembers.congr fun a b => ?_
  rw [alike_iff, List.forall₂_eq_eq_eq, and_assoc]

namespace Double

theorem isZero_eq_false_of_isNaN {x : Double} (h : x.isNaN = true) : x.isZero = false := by
  simp only [isNaN, Bool.and_eq_true, beq_iff_eq] at h
  rw [isZero, h.1]
  rfl

/-- The doubles are alike, or both are zeros, whatever their signs. -/
def AlikeOrZero (x y : Double) : Prop :=
  x.Alike y ∨ x.isZero = true ∧ y.isZero = true

theorem AlikeOrZero.isZero_eq {x y : Double} (h : x.AlikeOrZero y) : x.isZero = y.isZero := by
  rcases h with (rfl | ⟨hx, hy⟩) | ⟨hx, hy⟩
  · rfl
  · rw [isZero_eq_false_of_isNaN hx, isZero_eq_false_of_isNaN hy]
  · rw [hx, hy]

end Double

/-- The points agree in every field. -/
@[mk_iff]
structure ExponentialPoint.Alike (a b : ExponentialPoint) : Prop where
  distribution : a.distribution.Alike b.distribution
  scale : a.scale = b.scale
  zeroCount : a.zeroCount = b.zeroCount
  zeroThreshold : a.zeroThreshold.AlikeOrZero b.zeroThreshold
  positive : a.positive = b.positive
  negative : a.negative = b.negative

theorem Doc.faithful_int32 : Faithful (fun n : Int32 => .int n.toInt64) Eq :=
  (faithful_int.comap Int32.toInt64).congr fun m n => by
    rw [← Int64.toInt_inj, Int32.toInt_toInt64, Int32.toInt_toInt64, Int32.toInt_inj]

theorem ExponentialPoint.faithful_members :
    FaithfulMembers
      (Distribution.memberNames ++
        ["scale", "zeros", "zeros.thre", "pos.off", "pos", "neg.off", "neg"])
      (fun p => (Point.exponential p).members) Alike := by
  have hthreshold : FaithfulMembers ["zeros.thre"]
      (fun p : ExponentialPoint =>
        Doc.memberIf (!p.zeroThreshold.isZero) "zeros.thre" (.double p.zeroThreshold))
      fun a b => a.zeroThreshold.AlikeOrZero b.zeroThreshold :=
    .memberIf "zeros.thre" (faithful_double.comap zeroThreshold)
      (fun a b ha _ => ⟨.inl, fun h => h.resolve_right fun hzero => by simp [hzero.1] at ha⟩)
      (fun a b h => by rw [h.isZero_eq])
      fun a b ha hb => by
        rw [Bool.not_eq_false'] at ha hb
        exact .inr ⟨ha, hb⟩
  have hmembers := (Distribution.faithful_members.comap distribution)
    |>.append (.append (.member "scale" (Doc.faithful_int32.comap scale))
      (.member "zeros" (faithful_uint.comap zeroCount)) (by decide)) (by decide)
    |>.append hthreshold (by decide)
    |>.append (.append (.member "pos.off" (Doc.faithful_int32.comap fun p => p.positive.offset))
      (.append (.member "pos" (Doc.faithful_counts.comap fun p => p.positive.counts))
        (.append (.member "neg.off" (Doc.faithful_int32.comap fun p => p.negative.offset))
          (.member "neg" (Doc.faithful_counts.comap fun p => p.negative.counts))
          (by decide)) (by decide)) (by decide)) (by decide)
  have hbuckets (b c : ExponentialBuckets) : b = c ↔ b.offset = c.offset ∧ b.counts = c.counts := by
    cases b
    cases c
    rw [ExponentialBuckets.mk.injEq]
  refine hmembers.congr fun a b => ?_
  rw [alike_iff, hbuckets, hbuckets]
  simp only [and_assoc]

/-- The quantiles agree in every field. -/
@[mk_iff]
structure Quantile.Alike (a b : Quantile) : Prop where
  quantile : a.quantile.Alike b.quantile
  value : a.value.Alike b.value

theorem Quantile.faithful_toDoc : Faithful Point.quantileDoc Alike := by
  have hmembers := (FaithfulMembers.member "q" (faithful_double.comap quantile))
    |>.append (.member "v" (faithful_double.comap value)) (by decide)
  refine hmembers.record.congr fun a b => ?_
  rw [alike_iff]

/-- The points agree in every field. -/
@[mk_iff]
structure SummaryPoint.Alike (a b : SummaryPoint) : Prop where
  base : a.base = b.base
  count : a.count = b.count
  sum : a.sum.Alike b.sum
  quantiles : List.Forall₂ Quantile.Alike a.quantiles b.quantiles

theorem SummaryPoint.faithful_members :
    FaithfulMembers ["time", "time.start", "flags", "req", "cnt", "sum", "quantiles"]
      (fun p => (Point.summary p).members) Alike := by
  have hmembers := (PointBase.faithful_members.comap base)
    |>.append (.append (.member "cnt" (faithful_uint.comap count))
      (.append (.member "sum" (faithful_double.comap sum))
        (.member "quantiles" (Quantile.faithful_toDoc.array.comap quantiles)) (by decide))
      (by decide)) (by decide)
  refine hmembers.congr fun a b => ?_
  rw [alike_iff]

namespace Point

/-- The points are of one shape and agree in every field. -/
def Alike : Point → Point → Prop
  | .number p, .number q => p.Alike q
  | .histogram p, .histogram q => p.Alike q
  | .exponential p, .exponential q => p.Alike q
  | .summary p, .summary q => p.Alike q
  | _, _ => False

/-- The shapes in the order in which their members tell them apart. -/
def rank : Point → Nat
  | .number _ => 0
  | .histogram _ => 1
  | .exponential _ => 2
  | .summary _ => 3

/-- Of two shapes, the later one has a member that the earlier one never has. -/
theorem tree_ne_of_rank_lt {p q : Point} (h : p.rank < q.rank) : p.toDoc.tree ≠ q.toDoc.tree := by
  cases p with
  | number p =>
    have hcount : "cnt" ∈ q.members.map Prod.fst := by
      cases q with
      | number q => exact absurd h (Nat.lt_irrefl 0)
      | histogram q | exponential q | summary q => simp [members, Distribution.members]
    exact NumberPoint.faithful_members.tree_ne hcount (by decide) p
  | histogram p =>
    cases q with
    | number q | histogram q => exact absurd h (by simp [rank])
    | exponential q =>
      have hscale : "scale" ∈ (exponential q).members.map Prod.fst := by simp [members]
      exact HistogramPoint.faithful_members.tree_ne hscale (by decide) p
    | summary q =>
      have hquantiles : "quantiles" ∈ (summary q).members.map Prod.fst := by simp [members]
      exact HistogramPoint.faithful_members.tree_ne hquantiles (by decide) p
  | exponential p =>
    cases q with
    | number q | histogram q | exponential q => exact absurd h (by simp [rank])
    | summary q =>
      have hquantiles : "quantiles" ∈ (summary q).members.map Prod.fst := by simp [members]
      exact ExponentialPoint.faithful_members.tree_ne hquantiles (by decide) p
  | summary p => cases q <;> exact absurd h (by simp [rank])

theorem Alike.rank_eq {p q : Point} (h : p.Alike q) : p.rank = q.rank := by
  cases p <;> cases q <;> first | rfl | exact h.elim

/-- **A document of a point tells its shape and every field.** -/
theorem faithful_toDoc : Faithful toDoc Alike := by
  intro p q
  rcases Nat.lt_trichotomy p.rank q.rank with hlt | hrank | hgt
  · exact iff_of_false (tree_ne_of_rank_lt hlt) fun h => hlt.ne h.rank_eq
  · cases p with
    | number p =>
      cases q with
      | number q => exact NumberPoint.faithful_members.record p q
      | histogram | exponential | summary => simp [rank] at hrank
    | histogram p =>
      cases q with
      | histogram q => exact HistogramPoint.faithful_members.record p q
      | number | exponential | summary => simp [rank] at hrank
    | exponential p =>
      cases q with
      | exponential q => exact ExponentialPoint.faithful_members.record p q
      | number | histogram | summary => simp [rank] at hrank
    | summary p =>
      cases q with
      | summary q => exact SummaryPoint.faithful_members.record p q
      | number | histogram | exponential => simp [rank] at hrank
  · exact iff_of_false (tree_ne_of_rank_lt hgt).symm fun h => hgt.ne' h.rank_eq

end Point

/-! ### Metrics -/

/-- The streams agree in every field. -/
@[mk_iff]
structure MetricStream.Alike (a b : MetricStream) : Prop where
  attr : a.attr.Alike b.attr
  points : List.Forall₂ Point.Alike a.points b.points

theorem MetricStream.faithful_toDoc : Faithful toDoc Alike := by
  have hmembers := (FaithfulMembers.member "attr" (Attributes.faithful_toDoc.comap attr))
    |>.append (.memberUnlessEmpty "pts" points Point.faithful_toDoc.array) (by decide)
  refine hmembers.record.congr fun a b => ?_
  rw [alike_iff]

namespace MetricIdentity

/-- The identities agree in every field, where monotonicity is of meaning for sums only. -/
@[mk_iff]
structure Alike (i j : MetricIdentity) : Prop where
  resource : i.resource = j.resource
  scope : i.scope = j.scope
  name : i.name = j.name
  kind : i.kind = j.kind
  unit : i.unit = j.unit
  temporality : i.temporality = j.temporality
  monotonic : i.kind = "Sum" → i.monotonic = j.monotonic

/-- Nothing but a sum is monotonic. -/
def OnlySumIsMonotonic (i : MetricIdentity) : Prop :=
  i.monotonic = true → i.kind = "Sum"

theorem alike_iff_eq {i j : MetricIdentity} (hi : i.OnlySumIsMonotonic)
    (hj : j.OnlySumIsMonotonic) : i.Alike j ↔ i = j := by
  constructor
  · intro h
    have hmonotonic : i.monotonic = j.monotonic := by
      by_cases hkind : i.kind = "Sum"
      · exact h.monotonic hkind
      · rw [Bool.eq_false_iff.mpr (mt hi hkind), Bool.eq_false_iff.mpr (mt hj (h.kind ▸ hkind))]
    obtain ⟨hresource, hscope, hname, hkind, hunit, htemporality, -⟩ := h
    cases i
    cases j
    congr
  · rintro rfl
    exact ⟨rfl, rfl, rfl, rfl, rfl, rfl, fun _ => rfl⟩

theorem faithful_members :
    FaithfulMembers ["res", "scope", "name", "type", "unit", "tempo", "mono"] members Alike := by
  -- by itself this member tells only whether it is about a sum; the type is told by another one
  have hmonotonic : FaithfulMembers ["mono"]
      (fun i : MetricIdentity => Doc.memberIf (i.kind == "Sum") "mono" (.bool i.monotonic))
      fun i j => (i.kind == "Sum") = (j.kind == "Sum") ∧
        (i.kind = "Sum" → i.monotonic = j.monotonic) :=
    .memberIf "mono" (faithful_bool.comap monotonic)
      (fun i j hi hj => ⟨fun h => ⟨hi.trans hj.symm, fun _ => h⟩, fun h => h.2 (beq_iff_eq.mp hi)⟩)
      (fun i j h => h.1)
      fun i j hi hj => ⟨hi.trans hj.symm, fun hkind => absurd hkind (beq_eq_false_iff_ne.mp hi)⟩
  have hmembers := (FaithfulMembers.append (.member "res" (faithful_id.comap resource))
      (.append (.member "scope" (faithful_id.comap scope))
        (.append (.member "name" (faithful_string.comap name))
          (.member "type" (faithful_string.comap kind)) (by decide)) (by decide)) (by decide))
    |>.append (.memberUnless "unit" unit "" faithful_string) (by decide)
    |>.append (.memberUnless "tempo" temporality "" faithful_string) (by decide)
    |>.append hmonotonic (by decide)
  refine hmembers.congr fun i j => ?_
  rw [alike_iff]
  constructor
  · rintro ⟨⟨⟨⟨hresource, hscope, hname, hkind⟩, hunit⟩, htemporality⟩, -, hmonotonic⟩
    exact ⟨hresource, hscope, hname, hkind, hunit, htemporality, hmonotonic⟩
  · rintro ⟨hresource, hscope, hname, hkind, hunit, htemporality, hmonotonic⟩
    exact ⟨⟨⟨⟨hresource, hscope, hname, hkind⟩, hunit⟩, htemporality⟩, by rw [hkind], hmonotonic⟩

end MetricIdentity

/-- The identities that metrics are stored under are such identities. -/
theorem Otlp.Metric.onlySumIsMonotonic_identity (m : Otlp.Metric) :
    m.identity.OnlySumIsMonotonic := by
  unfold identity
  rcases m.data with _ | ⟨_⟩ | ⟨_⟩ | ⟨_⟩ | ⟨_⟩ | ⟨_⟩
  case some.sum => exact fun _ => rfl
  all_goals exact nofun

/-- The metrics agree in every field and have the same streams, each with the same points in
order. -/
@[mk_iff]
structure Metric.Alike (a b : Metric) : Prop where
  identity : a.identity.Alike b.identity
  description : a.description = b.description
  metadata : a.metadata.Alike b.metadata
  conflict : a.conflict = b.conflict
  streams : List.Forall₂ (fun e f => e.1 = f.1 ∧ e.2.Alike f.2) a.streams.entries b.streams.entries

/-- **A document of a metric tells every field and every stream.** -/
theorem Metric.faithful_toDoc : Faithful toDoc Alike := by
  have hconflict : FaithfulMembers ["conflict"]
      (fun m : Metric => Doc.memberIf m.conflict "conflict" (.bool true))
      fun a b => a.conflict = b.conflict :=
    .memberIf "conflict" (faithful_bool.comap fun _ => true)
      (fun a b ha hb => iff_of_true rfl (ha.trans hb.symm)) (fun a b h => h)
      fun a b ha hb => ha.trans hb.symm
  have hmembers := (MetricIdentity.faithful_members.comap identity)
    |>.append (.memberUnless "desc" description "" faithful_string) (by decide)
    |>.append (.memberUnlessEmpty "meta" metadata Attributes.faithful_toDoc) (by decide)
    |>.append hconflict (by decide)
    |>.append (.member "streams" ((faithful_table MetricStream.faithful_toDoc).comap streams))
      (by decide)
  refine hmembers.record.congr fun a b => ?_
  rw [alike_iff]
  simp only [and_assoc]
  rfl

/-- **The text of a point and of a metric carries all of it.**  Points have one text exactly if they
are of one shape and agree in every field.  Metrics of which only sums are monotonic have one text
exactly if they have one identity and agree in every other field and every point of every stream. -/
theorem pointText_metricText_eq_iff :
    (∀ p q : Point, p.toDoc.render = q.toDoc.render ↔ p.Alike q) ∧
      ∀ a b : Metric, a.identity.OnlySumIsMonotonic → b.identity.OnlySumIsMonotonic →
        (a.toDoc.render = b.toDoc.render ↔ a.identity = b.identity ∧ a.Alike b) := by
  constructor
  · exact Point.faithful_toDoc.render_eq_iff fun p =>
      (Point.shows_toDoc (U := fun _ => True) fun _ _ => trivial).plain
  · intro a b ha hb
    have htext := Metric.faithful_toDoc.render_eq_iff (fun m => (Metric.shows_toDoc
      (U := fun _ => True) (fun _ _ => trivial) fun _ _ _ _ _ => trivial).plain) a b
    rw [htext, ← MetricIdentity.alike_iff_eq ha hb]
    exact ⟨fun h => ⟨h.identity, h⟩, And.right⟩

/-- The distribution of no measurements. -/
def Distribution.ofNothing : Distribution :=
  ⟨⟨7, 0, 0, .zero⟩, 0, none, none, none, []⟩

/-- A metric that was sent as a histogram and holds a point of no measurements with explicit
bounds. -/
def Metric.explicitOfNothing : Metric :=
  (new (Otlp.Metric.identity ⟨"latency", "", "ms", [], some (.histogram [] 2)⟩) "" []).pushPoint []
    (.histogram ⟨.ofNothing, [], []⟩)

/-- The same with a point of an exponential histogram. -/
def Metric.exponentialOfNothing : Metric :=
  (new (Otlp.Metric.identity ⟨"latency", "", "ms", [], some (.histogram [] 2)⟩) "" []).pushPoint []
    (.exponential ⟨.ofNothing, 0, 0, .zero, ⟨0, []⟩, ⟨0, []⟩⟩)

/-- Points of no measurements, one of each kind of histogram, are told apart by the texts of the
metrics that hold them. -/
theorem metricText_ne_ofNothing :
    Metric.explicitOfNothing.identity.OnlySumIsMonotonic ∧
      Metric.exponentialOfNothing.identity.OnlySumIsMonotonic ∧
      Metric.explicitOfNothing.toDoc.render ≠ Metric.exponentialOfNothing.toDoc.render := by
  have hidentity := Otlp.Metric.onlySumIsMonotonic_identity
    ⟨"latency", "", "ms", [], some (.histogram [] 2)⟩
  refine ⟨hidentity, hidentity, fun htext => ?_⟩
  have halike := ((pointText_metricText_eq_iff.2 _ _ hidentity hidentity).mp htext).2
  -- under the one stream id stand points of two shapes
  obtain _ | ⟨⟨-, -, hpoints⟩, -⟩ := halike.streams
  obtain _ | ⟨hpoint, -⟩ := hpoints
  exact hpoint

end Telemetry
