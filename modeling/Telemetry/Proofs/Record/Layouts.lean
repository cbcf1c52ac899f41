import Telemetry.Proofs.Value.Layout
import Telemetry.Record.Metric

/-!
# Layouts of records

Every record has a layout, which lists its members in the order they are written in.  What a record
shows has this layout (`Span.shows_toDoc` and the like), where `U` holds of the keys of all its
attribute maps, and of the names of headers for a request.
-/

namespace Telemetry

namespace Layout

/-! ### Layouts -/

/-- A name of a header has one value or several. -/
def headers : Layout :=
  .map (.oneOf [.string, .array .string])

def request : Layout :=
  .record (field "transport" .string ++ field "peer" .string ++ field "headers" headers)

def attributeFields : List (String × Layout) :=
  field "attr" attributes ++ field "attr.dropped" (.envelope .int)

def resource : Layout :=
  .record (attributeFields ++ field "schema" .string)

def scope : Layout :=
  .record (field "name" .string ++ field "version" .string ++ attributeFields ++
    field "schema" .string)

def spanEvent : Layout :=
  .record (field "name" .string ++ field "time" (.envelope .timestamp) ++ attributeFields)

def spanLink : Layout :=
  .record (field "span" (.envelope .spanRef) ++ attributeFields ++ field "state" .string)

def summaryFields : List (String × Layout) :=
  field "parent" (.envelope .span) ++ field "name" .string ++ field "status" .string ++
    (field "start" (.envelope .timestamp) ++ field "end" (.envelope .timestamp))

def spanSummary : Layout :=
  .record summaryFields

def originFields : List (String × Layout) :=
  field "req" (.envelope .request) ++
    (field "res" (.envelope .resource) ++ field "scope" (.envelope .scope))

def span : Layout :=
  .record (originFields ++ summaryFields ++ field "kind" .string ++ field "status.msg" .string ++
    attributeFields ++ field "state" .string ++ field "flags" (.envelope .flags) ++
    field "events" (.array spanEvent) ++ field "events.dropped" (.envelope .int) ++
    field "links" (.array spanLink) ++ field "links.dropped" (.envelope .int))

def logSummary : Layout :=
  .record (field "time" (.envelope .timestamp) ++ (field "sev" .string ++ field "body" .string))

def logRecord : Layout :=
  .record (originFields ++ field "time" (.envelope .timestamp) ++
    field "time.obs" (.envelope .timestamp) ++ field "sev" .string ++ field "sev.text" .string ++
    field "event" .string ++ field "body" .value ++ attributeFields ++
    field "flags" (.envelope .flags) ++
    (field "span" (.envelope .spanRef) ++ field "trace" .string))

def identityFields : List (String × Layout) :=
  field "res" (.envelope .resource) ++ (field "scope" (.envelope .scope) ++
    (field "name" .string ++ field "type" .string)) ++
    field "unit" .string ++ field "tempo" .string ++ field "mono" .bool

def pointFields : List (String × Layout) :=
  field "time" (.envelope .timestamp) ++ field "time.start" (.envelope .timestamp) ++
    field "flags" (.envelope .flags) ++ field "req" (.envelope .request)

def exemplar : Layout :=
  .record (field "time" (.envelope .timestamp) ++ field "value" .value ++
    field "attr" attributes ++ field "span" (.envelope .spanRef))

def distributionFields : List (String × Layout) :=
  pointFields ++ field "cnt" (.envelope .int) ++ field "sum" .double ++ field "min" .double ++
    field "max" .double ++ field "exemplars" (.array exemplar)

def counts : Layout :=
  .array (.envelope .int)

def numberPoint : Layout :=
  .record (pointFields ++ field "val" .value ++ field "exemplars" (.array exemplar))

def histogramPoint : Layout :=
  .record (distributionFields ++ field "buckets" counts ++ field "bounds" (.array .double))

def exponentialPoint : Layout :=
  .record (distributionFields ++
    (field "scale" (.envelope .int) ++ field "zeros" (.envelope .int)) ++
    field "zeros.thre" .double ++
    (field "pos.off" (.envelope .int) ++ (field "pos" counts ++
      (field "neg.off" (.envelope .int) ++ field "neg" counts))))

def quantile : Layout :=
  .record (field "q" .double ++ field "v" .double)

def summaryPoint : Layout :=
  .record (pointFields ++ (field "cnt" (.envelope .int) ++
    (field "sum" .double ++ field "quantiles" (.array quantile))))

def point : Layout :=
  .oneOf [numberPoint, histogramPoint, exponentialPoint, summaryPoint]

def stream : Layout :=
  .record (field "attr" attributes ++ field "pts" (.array point))

/-- What listings show of a metric. -/
def listedMetric : Layout :=
  .record (identityFields ++ field "desc" .string)

def metric : Layout :=
  .record (identityFields ++ field "desc" .string ++ field "meta" attributes ++
    field "conflict" .bool ++ field "streams" (.table .stream stream))

end Layout

open Doc (Fills shows_record shows_string shows_double shows_count shows_timestamp shows_flags
  shows_int shows_uint shows_array)

variable {U : List String → Prop}

/-! ### What records come from -/

theorem Headers.shows_toDoc {headers : Headers} (h : U headers.keys) :
    headers.toDoc.Shows U .headers := by
  refine Doc.shows_map ?_ (List.forall_mem_map.mpr ?_)
  · rw [List.map_map]
    -- how many values a name has does not change the name
    refine (congrArg U (List.map_congr_left ?_)).mpr h
    rintro ⟨name, _ | ⟨value, _ | ⟨next, more⟩⟩⟩ - <;> rfl
  · have hall (values : List String) : (Doc.array (values.map .string)).Shows U (.array .string) :=
      shows_array (List.forall_mem_map.mpr fun value _ => shows_string value)
    rintro ⟨name, _ | ⟨value, _ | ⟨next, more⟩⟩⟩ -
    · exact (hall []).oneOf (by simp)
    · exact (shows_string value).oneOf (by simp)
    · exact (hall (value :: next :: more)).oneOf (by simp)

theorem RequestMeta.shows_toDoc {r : RequestMeta}
    (h : ∀ headers, r.headers = some headers → U headers.keys) : r.toDoc.Shows U .request :=
  shows_record (by decide) <| Fills.member (shows_string _)
    |>.append (.memberIf (shows_string _))
    |>.append (.member? fun headers hheaders => Headers.shows_toDoc (h headers hheaders))

theorem fills_attributeMembers {attr : Attributes} (h : ∀ m ∈ attr.maps, U m.keys)
    (dropped : UInt32) : Fills U Layout.attributeFields (attributeMembers attr dropped) :=
  (Fills.memberIf (Attributes.shows_toDoc h)).append (.memberIf (shows_count dropped))

theorem Resource.shows_toDoc {r : Resource} (h : ∀ m ∈ r.maps, U m.keys) :
    r.toDoc.Shows U .resource :=
  shows_record (by decide) <| (fills_attributeMembers h r.dropped).append
    (.memberIf (shows_string _))

theorem Scope.shows_toDoc {c : Scope} (h : ∀ m ∈ c.maps, U m.keys) : c.toDoc.Shows U .scope :=
  shows_record (by decide) <| Fills.memberIf (shows_string _)
    |>.append (.memberIf (shows_string _))
    |>.append (fills_attributeMembers h c.dropped)
    |>.append (.memberIf (shows_string _))

theorem Origin.fills_members (o : Origin) : Fills U Layout.originFields o.members :=
  .cons (Doc.shows_request _) (.cons (Doc.shows_resource _) (.member (Doc.shows_scope _)))

/-! ### Spans -/

theorem SpanEvent.shows_toDoc {e : SpanEvent} (h : ∀ m ∈ Attributes.maps e.attr, U m.keys) :
    e.toDoc.Shows U .spanEvent :=
  shows_record (by decide) <| Fills.member (shows_string _)
    |>.append (.memberIf (shows_timestamp _))
    |>.append (fills_attributeMembers h e.dropped)

theorem SpanLink.shows_toDoc {l : SpanLink} (h : ∀ m ∈ Attributes.maps l.attr, U m.keys) :
    l.toDoc.Shows U .spanLink :=
  shows_record (by decide) <| Fills.member (Doc.shows_spanRef _)
    |>.append (fills_attributeMembers h l.dropped)
    |>.append (.memberIf (shows_string _))

theorem SpanSummary.fills_members (s : SpanSummary) : Fills U Layout.summaryFields s.members :=
  Fills.memberIf (Doc.shows_span _)
    |>.append (.member (shows_string _))
    |>.append (.memberIf (shows_string _))
    |>.append (.cons (shows_timestamp _) (.member (shows_timestamp _)))

theorem SpanSummary.shows_toDoc (s : SpanSummary) : s.toDoc.Shows U .spanSummary :=
  shows_record (by decide) s.fills_members

theorem Span.shows_toDoc {s : Span} (h : ∀ m ∈ s.maps, U m.keys) : s.toDoc.Shows U .span := by
  rw [Span.maps, List.forall_mem_append, List.forall_mem_append] at h
  obtain ⟨⟨hattr, hevents⟩, hlinks⟩ := h
  have hevent : ∀ e ∈ s.events, e.toDoc.Shows U .spanEvent := fun e he =>
    SpanEvent.shows_toDoc fun m hm => hevents m (List.mem_flatMap.mpr ⟨e, he, hm⟩)
  have hlink : ∀ l ∈ s.links, l.toDoc.Shows U .spanLink := fun l hl =>
    SpanLink.shows_toDoc fun m hm => hlinks m (List.mem_flatMap.mpr ⟨l, hl, hm⟩)
  exact shows_record (by decide) <| s.origin.fills_members
    |>.append s.summary.fills_members
    |>.append (.member (shows_string _))
    |>.append (.memberIf (shows_string _))
    |>.append (fills_attributeMembers hattr s.dropped)
    |>.append (.memberIf (shows_string _))
    |>.append (.memberIf (shows_flags _))
    |>.append (.memberIf (shows_array (List.forall_mem_map.mpr hevent)))
    |>.append (.memberIf (shows_count _))
    |>.append (.memberIf (shows_array (List.forall_mem_map.mpr hlink)))
    |>.append (.memberIf (shows_count _))

/-- A trace shows the summaries of its spans. -/
theorem Trace.shows_toDoc (trace : Trace) : trace.toDoc.Shows U (.table .span .spanSummary) :=
  Doc.shows_table (fun span : Span => span.summary.toDoc) fun _ span _ => span.summary.shows_toDoc

/-! ### Log records -/

theorem LogSummary.shows_toDoc (s : LogSummary) : s.toDoc.Shows U .logSummary :=
  shows_record (by decide) <|
    .cons (shows_timestamp _) (.cons (shows_string _) (.member (shows_string _)))

theorem LogRecord.fills_traceMembers (trace : TraceId) (span : SpanId) :
    Fills U (Layout.field "span" (.envelope .spanRef) ++ Layout.field "trace" .string)
      (traceMembers trace span) := by
  unfold traceMembers
  split
  · split
    · exact .take (Doc.shows_spanRef _) (.skip .nil)
    · exact .skip (.take (shows_string _) .nil)
  · exact .skip (.skip .nil)

theorem Value.shows_of_mapsOf {v : Option Value} (h : ∀ m ∈ mapsOf v, U m.keys) :
    ∀ w, v = some w → w.toDoc.Shows U .value := by
  rintro w rfl
  exact w.shows_toDoc h

theorem LogRecord.shows_toDoc {l : LogRecord} (h : ∀ m ∈ l.maps, U m.keys) :
    l.toDoc.Shows U .logRecord := by
  rw [LogRecord.maps, List.forall_mem_append] at h
  exact shows_record (by decide) <| l.origin.fills_members
    |>.append (.memberIf (shows_timestamp _))
    |>.append (.memberIf (shows_timestamp _))
    |>.append (.memberIf (shows_string _))
    |>.append (.memberIf (shows_string _))
    |>.append (.memberIf (shows_string _))
    |>.append (.member? (Value.shows_of_mapsOf h.1))
    |>.append (fills_attributeMembers h.2 l.dropped)
    |>.append (.memberIf (shows_flags _))
    |>.append (fills_traceMembers l.trace l.span)

/-! ### Metrics -/

theorem MetricIdentity.fills_members (i : MetricIdentity) :
    Fills U Layout.identityFields i.members :=
  Fills.cons (Doc.shows_resource _) (.cons (Doc.shows_scope _)
      (.cons (shows_string _) (.member (shows_string _))))
    |>.append (.memberIf (shows_string _))
    |>.append (.memberIf (shows_string _))
    |>.append (.memberIf (Doc.shows_bool _))

theorem PointBase.fills_members (b : PointBase) : Fills U Layout.pointFields b.members :=
  Fills.member (shows_timestamp _)
    |>.append (.memberIf (shows_timestamp _))
    |>.append (.memberIf (shows_flags _))
    |>.append (.member (Doc.shows_request _))

theorem Exemplar.shows_toDoc {e : Exemplar} (h : ∀ m ∈ e.maps, U m.keys) :
    e.toDoc.Shows U .exemplar := by
  rw [Exemplar.maps, List.forall_mem_append] at h
  exact shows_record (by decide) <| Fills.member (shows_timestamp _)
    |>.append (.member? (Value.shows_of_mapsOf h.1))
    |>.append (.memberIf (Attributes.shows_toDoc h.2))
    |>.append (.memberIf (Doc.shows_spanRef _))

theorem Exemplar.fills_members {exemplars : List Exemplar}
    (h : ∀ m ∈ exemplars.flatMap Exemplar.maps, U m.keys) :
    Fills U (Layout.field "exemplars" (.array .exemplar)) (members exemplars) :=
  .memberIf (shows_array (List.forall_mem_map.mpr fun e he =>
    shows_toDoc fun m hm => h m (List.mem_flatMap.mpr ⟨e, he, hm⟩)))

theorem Doc.shows_counts (counts : List UInt64) : (Doc.counts counts).Shows U .counts :=
  shows_array (List.forall_mem_map.mpr fun n _ => shows_uint n)

theorem Distribution.fills_members {d : Distribution}
    (h : ∀ m ∈ d.exemplars.flatMap Exemplar.maps, U m.keys) :
    Fills U Layout.distributionFields d.members :=
  d.base.fills_members
    |>.append (.member (shows_uint _))
    |>.append (.member? fun x _ => shows_double x)
    |>.append (.member? fun x _ => shows_double x)
    |>.append (.member? fun x _ => shows_double x)
    |>.append (Exemplar.fills_members h)

theorem Point.shows_toDoc {p : Point} (h : ∀ m ∈ p.maps, U m.keys) : p.toDoc.Shows U .point := by
  rw [Point.maps, List.forall_mem_append] at h
  obtain ⟨hvalue, hexemplars⟩ := h
  cases p with
  | number p =>
    have hshows : (Point.number p).toDoc.Shows U .numberPoint :=
      shows_record (by decide) <| p.base.fills_members
        |>.append (.member? (Value.shows_of_mapsOf hvalue))
        |>.append (Exemplar.fills_members hexemplars)
    exact hshows.oneOf (by simp)
  | histogram p =>
    have hshows : (Point.histogram p).toDoc.Shows U .histogramPoint :=
      shows_record (by decide) <| (Distribution.fills_members hexemplars)
        |>.append (.memberIf (Doc.shows_counts _))
        |>.append (.memberIf (shows_array (List.forall_mem_map.mpr fun x _ => shows_double x)))
    exact hshows.oneOf (by simp)
  | exponential p =>
    have hshows : (Point.exponential p).toDoc.Shows U .exponentialPoint :=
      shows_record (by decide) <| (Distribution.fills_members hexemplars)
        |>.append (.cons (shows_int _) (.member (shows_uint _)))
        |>.append (.memberIf (shows_double _))
        |>.append (.cons (shows_int _) (.cons (Doc.shows_counts _)
          (.cons (shows_int _) (.member (Doc.shows_counts _)))))
    exact hshows.oneOf (by simp)
  | summary p =>
    have hquantile (q : Quantile) : (quantileDoc q).Shows U .quantile :=
      shows_record (by decide) (.cons (shows_double _) (.member (shows_double _)))
    have hshows : (Point.summary p).toDoc.Shows U .summaryPoint :=
      shows_record (by decide) <| p.base.fills_members.append
        (.cons (shows_uint _) (.cons (shows_double _)
          (.member (shows_array (List.forall_mem_map.mpr fun q _ => hquantile q)))))
    exact hshows.oneOf (by simp)

theorem MetricStream.shows_toDoc {s : MetricStream} (h : ∀ m ∈ s.maps, U m.keys) :
    s.toDoc.Shows U .stream := by
  rw [MetricStream.maps, List.forall_mem_append] at h
  have hpoint : ∀ p ∈ s.points, p.toDoc.Shows U .point := fun p hp =>
    Point.shows_toDoc fun m hm => h.2 m (List.mem_flatMap.mpr ⟨p, hp, hm⟩)
  exact shows_record (by decide) <| (Fills.member (Attributes.shows_toDoc h.1)).append
    (.memberIf (shows_array (List.forall_mem_map.mpr hpoint)))

theorem Metric.shows_listingDoc (m : Metric) : m.listingDoc.Shows U .listedMetric :=
  shows_record (by decide) <| m.identity.fills_members.append (.member (shows_string _))

theorem Metric.shows_toDoc {metric : Metric}
    (hmetadata : ∀ m ∈ Attributes.maps metric.metadata, U m.keys)
    (hstreams : metric.streams.All fun _ stream => ∀ m ∈ stream.maps, U m.keys) :
    metric.toDoc.Shows U .metric :=
  shows_record (by decide) <| metric.identity.fills_members
    |>.append (.memberIf (shows_string _))
    |>.append (.memberIf (Attributes.shows_toDoc hmetadata))
    |>.append (.memberIf (Doc.shows_bool _))
    |>.append (.member (Doc.shows_table MetricStream.toDoc fun id stream hstream =>
      MetricStream.shows_toDoc (hstreams id stream hstream)))

end Telemetry
