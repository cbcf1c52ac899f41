import Telemetry.Proofs.Query.Parameters
import Telemetry.Proofs.Store.MetricKinds
import Telemetry.Proofs.Store.WholeCalls

/-!
# Contributing requests

A metric is shown with the requests that delivered its points, by id.  A request that is not stored
is left out without a word (`Store.mem_keys_contributingRequests`), but where the store is changed by
whole calls and resets only, none is missing.

So a request is shown with a metric exactly if a call with this request has delivered a point of the
metric since the last reset, and a call that has had nothing but the header of the metric, or points
of other metrics, does not count (`Operation.shows_contributing_requests`).
-/

namespace Telemetry

/-! ### Requests that are shown -/

namespace Store

variable {s : Store} {metric : Metric}

/-- Requests are shown as they are stored. -/
theorem get?_of_mem_contributingRequests {entry : RequestId × RequestMeta}
    (h : entry ∈ (s.contributingRequests metric).entries) :
    s.requests.get? entry.1 = some entry.2 := by
  have hall : (s.contributingRequests metric).All fun id r => s.requests.get? id = some r := by
    refine Table.all_ofPairs fun pair hpair _ => ?_
    obtain ⟨id, -, hid⟩ := List.mem_filterMap.mp hpair
    obtain ⟨r, hr, rfl⟩ := Option.map_eq_some_iff.mp hid
    exact hr
  exact hall _ _ (Table.get?_eq_some_iff.mpr h)

/-- The requests that are shown are those of the points, as far as they are stored. -/
theorem mem_keys_contributingRequests {request : RequestId} :
    request ∈ (s.contributingRequests metric).keys ↔
      request ∈ metric.contributingRequests ∧ (s.requests.get? request).isSome = true := by
  rw [contributingRequests, Table.mem_keys_ofPairs, List.mem_map]
  constructor
  · rintro ⟨pair, hpair, rfl⟩
    obtain ⟨id, hid, hpair⟩ := List.mem_filterMap.mp hpair
    obtain ⟨r, hr, rfl⟩ := Option.map_eq_some_iff.mp hpair
    exact ⟨hid, by rw [hr]; rfl⟩
  · rintro ⟨hmem, hstored⟩
    obtain ⟨r, hr⟩ := Option.isSome_iff_exists.mp hstored
    exact ⟨(request, r), List.mem_filterMap.mpr ⟨request, hmem, by rw [hr]; rfl⟩, rfl⟩

end Store

/-! ### Documents -/

/-- A table is shown as an object with the texts of the ids as names. -/
theorem Doc.tree_tableDoc {kind : IdKind} {α : Type} (toDoc : α → Doc)
    (table : Table (@Id.order kind) α) :
    (Store.tableDoc toDoc table).tree =
      .object (table.entries.map fun entry => (some entry.1.hex, (toDoc entry.2).tree)) := by
  rw [Store.tableDoc, tree, memberTrees_eq_map, List.map_map]
  congr 1
  refine List.map_congr_left fun entry _ => ?_
  rw [Function.comp_apply, shownName_eq_self (Id.not_head?_hex entry.1)]

theorem Store.tree_metricDoc (s : Store) (metric : Metric) :
    (s.metricDoc metric).tree = .object [(some "metric", metric.toDoc.tree),
      (some "requests", .object ((s.contributingRequests metric).entries.map fun entry =>
        (some entry.1.hex, entry.2.toDoc.tree)))] := by
  have hmetric : Doc.shownName "metric" = "metric" := Doc.shownName_eq_self (by decide)
  have hrequests : Doc.shownName "requests" = "requests" := Doc.shownName_eq_self (by decide)
  rw [metricDoc, Doc.tree, Doc.memberTrees_eq_map, List.map_cons, List.map_cons, List.map_nil,
    hmetric, hrequests, Doc.tree_tableDoc]

/-- A metric is asked for under the text of its id. -/
theorem Http.Request.gets_metric (id : MetricId) :
    (⟨.get, "/api/metric/" ++ id.hex, [], [], ""⟩ : Request).Gets (.metric id.hex) := by
  have htext := (Id.isText_hex id).2
  have hne : id.hex ≠ "" := by
    intro hempty
    have hlength := (Id.isText_hex id).1
    rw [hempty] at hlength
    cases hlength
  refine Route.gets_of_path ?_ ?_ (Route.ofPath?_metricPath htext.isAlphanumeric.slash_not_mem hne) ?_
  · simp
  · have hdigits : ∀ c ∈ "0123456789abcdefABCDEF".toList, isEnd c = false :=
      not_isEnd_of_all (by decide)
    rw [String.toList_append, List.forall_mem_append]
    exact ⟨not_isEnd_of_all (by decide), fun c hc => hdigits c (htext c hc)⟩
  · rw [Route.decode?, Route.decodeParameter?_eq_some htext.isAlphanumeric]
    rfl

/-! ### Answers -/

namespace Operation

open Http (Request)

variable {operations : List Operation}

/-- **A metric is shown with the requests that contributed to it.**  After whole calls and resets, in
any order, a GET of a stored metric is answered with the metric and an object of requests.  The names
in the object are ids that ascend, so each stands there once, and under it is the request that is
stored under the id.  They are the ids of the requests of all points in all streams of the metric.
They are also those of the calls since the last reset that were accepted and had points of the
metric, so a call that had only the header of the metric, or points of others, does not count. -/
theorem shows_contributing_requests (site : Site)
    (hwhole : ∀ operation ∈ operations, operation.IsWhole) {id : MetricId} {metric : Metric}
    (hmetric : (applyAll .empty operations).metrics.get? id = some metric) {r : Request}
    {text : String} (hget : r.Gets (.metric text)) (hid : Id.parse text = .ok id) :
    ∃ entries : List (RequestId × RequestMeta),
      (Query.respond site (applyAll .empty operations) r).1 = Query.documentResponse
        (Doc.map [("metric", metric.toDoc), ("requests", .map (entries.map fun entry =>
          (entry.1.hex, entry.2.toDoc)))]).render ∧
      (Query.respond site (applyAll .empty operations) r).1.Shows
        (.object [(some "metric", metric.toDoc.tree), (some "requests", .object (entries.map
          fun entry => (some entry.1.hex, entry.2.toDoc.tree)))]) ∧
      ((entries.map fun entry => entry.1.hex).Pairwise fun a b => Text.compareBytes a b = .lt) ∧
      (∀ entry ∈ entries, (applyAll .empty operations).requests.get? entry.1 = some entry.2) ∧
      ∀ request,
        (request ∈ entries.map Prod.fst ↔ ∃ st stream point,
          metric.streams.get? st = some stream ∧ point ∈ stream.points ∧
            point.base.request = request) ∧
        (request ∈ entries.map Prod.fst ↔ ∃ call, .ingest call ∈ sinceReset operations ∧
          call.sender.id = request ∧ call.HasPoints id) := by
  obtain ⟨s, hs⟩ : ∃ s, s = applyAll .empty operations := ⟨_, rfl⟩
  have hasks : r.Asks (.metric id) := by
    refine hget.asks ?_
    rw [Route.query, Route.idOf, hid]
    rfl
  have hanswer : s.answer? (.metric id) = some (s.metricDoc metric) := by
    rw [Store.answer?, hs, hmetric, Option.map_some]
  have hkeys {request : RequestId} :
      request ∈ (s.contributingRequests metric).keys ↔ request ∈ metric.contributingRequests := by
    rw [Store.mem_keys_contributingRequests, hs]
    exact and_iff_left_of_imp (isSome_request hwhole hmetric)
  rw [← hs]
  refine ⟨(s.contributingRequests metric).entries, hasks.respond_of_answer hanswer site, ?_, ?_,
    fun entry hentry => Store.get?_of_mem_contributingRequests hentry,
    fun request => ⟨hkeys.trans Metric.mem_contributingRequests,
      hkeys.trans (mem_contributingRequests_iff hwhole hmetric)⟩⟩
  · rw [← Store.tree_metricDoc]
    exact hasks.shows_of_answer hanswer site
  · have hascending := Id.pairwise_map_hex (s.contributingRequests metric).ascending
    rwa [List.map_map] at hascending

/-- A call with the header of the metric that `exponentialHistogram` has a point of, but without
points. -/
def headerCall : Call :=
  { metricCall ⟨"latency", "", "", [], some (.exponential [] 2)⟩ with sender := .bare .grpc "b" }

/-- Two calls after a reset, of which the second has no points. -/
def pointAndHeader : List Operation :=
  [.ingest headerCall, .step .reset, .ingest (metricCall exponentialHistogram), .ingest headerCall]

/-- A request that is stored is not shown with a metric of which it had only the header. -/
theorem shows_contributing_requests_pointAndHeader :
    let s := applyAll .empty pointAndHeader
    let id := metricCallId exponentialHistogram
    let r : Request := ⟨.get, "/api/metric/" ++ id.hex, [], [], ""⟩
    let first : RequestMeta := .bare .grpc "a"
    let second : RequestMeta := .bare .grpc "b"
    (s.requests.get? second.id).isSome = true ∧
    ∃ metric, s.metrics.get? id = some metric ∧ ∃ entries : List (RequestId × RequestMeta),
      (Query.respond ⟨[], 0⟩ s r).1.Shows
        (.object [(some "metric", metric.toDoc.tree), (some "requests", .object (entries.map
          fun entry => (some entry.1.hex, entry.2.toDoc.tree)))]) ∧
      first.id ∈ entries.map Prod.fst ∧ second.id ∉ entries.map Prod.fst := by
  intro s id r first second
  have hstored : (s.metrics.get? id).any fun metric =>
      first.id ∈ metric.contributingRequests ∧ second.id ∉ metric.contributingRequests := by
    decide +kernel
  have hsecond : (s.requests.get? second.id).isSome = true := by
    decide +kernel
  have hwhole : ∀ operation ∈ pointAndHeader, operation.IsWhole := by
    simp [pointAndHeader, IsWhole]
  obtain ⟨metric, hmetric, hstored⟩ := (Option.any_eq_true _ _).mp hstored
  obtain ⟨hfirst, hother⟩ := of_decide_eq_true hstored
  obtain ⟨entries, -, hshows, -, -, hentries⟩ := shows_contributing_requests ⟨[], 0⟩ hwhole hmetric
    (Request.gets_metric id) (Id.parse_hex id)
  refine ⟨hsecond, metric, hmetric, entries, hshows, ?_, ?_⟩
  · exact (hentries first.id).1.mpr (Metric.mem_contributingRequests.mp hfirst)
  · exact fun h => hother (Metric.mem_contributingRequests.mpr ((hentries second.id).1.mp h))

end Operation

end Telemetry
