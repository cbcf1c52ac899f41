import Telemetry.Proofs.Query.Documents
import Telemetry.Proofs.Query.Paths

/-!
# Listings and lookups

What a listing has under an id, and what is answered to a GET of that id, come from two places:
a listing goes through a table and shows the ids as texts (`Doc.member?_tableDoc`), and a lookup
reads the id from a path and looks into the table.  `lookups_match_listings` says that the two
agree in every store: a record can be looked up, in either case of its digits, exactly if it is
listed, it is "not found" otherwise, and what the listing says of it is what the record says
(`Span.member?_toDoc`, `Metric.member?_toDoc`).
-/

namespace Telemetry

/-! ### Members of objects -/

/-- What an object has under a name. -/
def Json.member? (name : String) : Json → Option Json
  | .object members => members.lookup (some name)
  | _ => none

/-- Keys that stay apart are looked up among the new keys like among the old ones. -/
theorem lookup_map_of_injective {κ ι α β : Type} [BEq κ] [LawfulBEq κ] [BEq ι] [LawfulBEq ι]
    {f : κ → ι} (hf : Function.Injective f) (g : α → β) (entries : List (κ × α)) (key : κ) :
    (entries.map fun entry => (f entry.1, g entry.2)).lookup (f key) =
      (entries.lookup key).map g := by
  induction entries with
  | nil => rfl
  | cons entry entries ih =>
    obtain ⟨k, a⟩ := entry
    rw [List.map_cons, List.lookup_cons, List.lookup_cons, ih]
    by_cases h : key = k
    · rw [h, beq_self_eq_true, beq_self_eq_true]
      rfl
    · rw [beq_eq_false_iff_ne.mpr h, beq_eq_false_iff_ne.mpr (hf.ne h)]

namespace Doc

/-- A name that does not begin with an underscore is shown as it is. -/
theorem member?_tree {name : String} (h : name.toList.head? ≠ some '_')
    (members : List (String × Doc)) :
    (Doc.map members).tree.member? name = (members.lookup name).map tree := by
  have hshown : Function.Injective fun name => some (shownName name) :=
    (Option.some_injective _).comp shownName_injective
  have hlookup := lookup_map_of_injective hshown tree members name
  rw [shownName_eq_self h] at hlookup
  rw [tree, memberTrees_eq_map]
  exact hlookup

/-- **A table shows under the text of an id what it holds at the id.** -/
theorem member?_tableDoc {kind : IdKind} {α : Type} (toDoc : α → Doc)
    (table : Table (@Id.order kind) α) (id : Id kind) :
    (Store.tableDoc toDoc table).tree.member? id.hex =
      (table.get? id).map fun a => (toDoc a).tree := by
  have hlookup : (table.entries.map fun entry => (entry.1.hex, toDoc entry.2)).lookup id.hex =
      (table.get? id).map toDoc := by
    rw [lookup_map_of_injective Id.hex_injective, Table.get?, Table.lookup_eq_lookup]
  rw [Store.tableDoc, member?_tree (Id.not_head?_hex id)]
  exact (congrArg (Option.map tree) hlookup).trans (Option.map_map ..)

theorem lookup_member_of_ne {name key : String} (h : key ≠ name) (doc : Doc) :
    [(name, doc)].lookup key = none := by
  rw [List.lookup_cons, beq_eq_false_iff_ne.mpr h]
  rfl

theorem lookup_memberIf_of_ne {name key : String} (h : key ≠ name) (present : Bool) (doc : Doc) :
    (memberIf present name doc).lookup key = none := by
  cases present with
  | false => rfl
  | true => exact lookup_member_of_ne h doc

end Doc

/-! ### What records and summaries share -/

/-- The members of a summary of a span. -/
def SpanSummary.names : List String :=
  ["parent", "name", "status", "start", "end"]

/-- The members of the identity of a metric. -/
def MetricIdentity.names : List String :=
  ["res", "scope", "name", "type", "unit", "tempo", "mono"]

theorem Origin.lookup_members_of_not_mem {name : String} (h : name ∉ ["req", "res", "scope"])
    (origin : Origin) : origin.members.lookup name = none := by
  simp only [List.mem_cons, List.not_mem_nil, or_false, not_or] at h
  simp [members, List.lookup_eq_none_iff, h]

theorem lookup_attributeMembers_of_not_mem {name : String} (h : name ∉ ["attr", "attr.dropped"])
    (attr : Attributes) (dropped : UInt32) : (attributeMembers attr dropped).lookup name = none := by
  simp only [List.mem_cons, List.not_mem_nil, or_false, not_or] at h
  rw [attributeMembers, List.lookup_append, Doc.lookup_memberIf_of_ne h.1,
    Doc.lookup_memberIf_of_ne h.2, Option.or_none]

/-- **A span says the same as its summary.** -/
theorem Span.member?_toDoc (span : Span) {name : String} (h : name ∈ SpanSummary.names) :
    span.toDoc.tree.member? name = span.summary.toDoc.tree.member? name := by
  have hhead : ∀ name ∈ SpanSummary.names, name.toList.head? ≠ some '_' := by decide
  rw [Span.toDoc, SpanSummary.toDoc, Doc.member?_tree (hhead name h),
    Doc.member?_tree (hhead name h)]
  -- no other member has one of these names
  simp only [SpanSummary.names, List.mem_cons, List.not_mem_nil, or_false] at h
  rcases h with rfl | rfl | rfl | rfl | rfl <;>
    simp (disch := decide) only [List.lookup_append, Origin.lookup_members_of_not_mem,
      lookup_attributeMembers_of_not_mem, Doc.lookup_member_of_ne, Doc.lookup_memberIf_of_ne,
      Option.none_or, Option.or_none]

/-- **A metric says the same of its identity as a listing does.** -/
theorem Metric.member?_toDoc (metric : Metric) {name : String}
    (h : name ∈ MetricIdentity.names) :
    metric.toDoc.tree.member? name = metric.listingDoc.tree.member? name := by
  have hhead : ∀ name ∈ MetricIdentity.names, name.toList.head? ≠ some '_' := by decide
  rw [Metric.toDoc, Metric.listingDoc, Doc.member?_tree (hhead name h),
    Doc.member?_tree (hhead name h)]
  simp only [MetricIdentity.names, List.mem_cons, List.not_mem_nil, or_false] at h
  rcases h with rfl | rfl | rfl | rfl | rfl | rfl | rfl <;>
    simp (disch := decide) only [List.lookup_append, Doc.lookup_member_of_ne,
      Doc.lookup_memberIf_of_ne, Option.or_none]

/-! ### Answers -/

namespace Http.Response

/-- The response is a document with the given tree. -/
structure Shows (response : Response) (tree : Json) : Prop where
  status : response.status.code = 200
  read : Json.read? response.body = some tree

/-- The response is what a lookup should give for an entry of a listing.  It is a document if there is
an entry, and "not found" if there is none; and the record in the document has the same as the entry
under each of the given names. -/
structure Matches (response : Response) (listed? : Option Json) (record : String)
    (names : List String) : Prop where
  ok_iff : response.status.code = 200 ↔ listed?.isSome
  notFound_iff : response.status.code = 404 ↔ listed? = none
  agrees : ∀ entry, listed? = some entry → ∃ answer shown, Json.read? response.body = some answer ∧
    answer.member? record = some shown ∧ ∀ name ∈ names, shown.member? name = entry.member? name

end Http.Response

theorem Store.keeps_true (s : Store) : s.Keeps fun _ => True where
  maps :=
    { resources := fun _ _ _ _ _ => trivial
      scopes := fun _ _ _ _ _ => trivial
      traces := fun _ _ _ _ _ _ _ _ => trivial
      logs := fun _ _ _ _ => trivial
      metadata := fun _ _ _ _ _ => trivial
      streams := fun _ _ _ _ _ _ _ _ => trivial }
  headers := fun _ _ _ _ _ => trivial

theorem Query.code_notFound (query : Query) : query.notFound.toResponse.status.code = 404 := by
  cases query <;> rfl

namespace Http.Request.Asks

variable {r : Request} {query : Query} {s : Store}

/-- What is answered is read back from the response. -/
theorem shows_of_answer (h : r.Asks query) {doc : Doc} (hanswer : s.answer? query = some doc)
    (site : Site) : (Query.respond site s r).1.Shows doc.tree := by
  obtain ⟨route, decoded, -, -, hquery⟩ := h.route
  have hplain : doc.HasPlainTags := (s.keeps_true.shows_answer hquery hanswer).plain
  rw [h.respond_of_answer hanswer site]
  exact ⟨rfl, Doc.read?_render hplain⟩

/-- **A lookup matches what a listing makes of the same record.** -/
theorem matches_entry {α : Type} {found : Option α} {toDoc entryDoc : α → Doc} {record : String}
    {names : List String} (h : r.Asks query) (hanswer : s.answer? query = found.map toDoc)
    (hagrees : ∀ a, ∃ shown, (toDoc a).tree.member? record = some shown ∧
      ∀ name ∈ names, shown.member? name = (entryDoc a).tree.member? name) (site : Site) :
    (Query.respond site s r).1.Matches (found.map fun a => (entryDoc a).tree) record names := by
  cases found with
  | none =>
    have hstatus : (Query.respond site s r).1.status.code = 404 := by
      rw [h.respond_of_unanswered hanswer]
      exact query.code_notFound
    rw [Option.map_none]
    refine ⟨?_, iff_of_true hstatus rfl, fun entry hentry => nomatch hentry⟩
    rw [hstatus]
    exact iff_of_false (by decide) (by decide)
  | some a =>
    obtain ⟨hstatus, hread⟩ := h.shows_of_answer hanswer site
    obtain ⟨shown, hshown, hnames⟩ := hagrees a
    rw [Option.map_some]
    refine ⟨iff_of_true hstatus rfl, ?_, fun entry hentry => ?_⟩
    · rw [hstatus]
      exact iff_of_false (by decide) (fun h => nomatch h)
    · obtain rfl := Option.some.inj hentry
      exact ⟨_, shown, hread, hshown, hnames⟩

end Http.Request.Asks

/-! ### What listings have -/

namespace Store

variable (s : Store)

theorem traces_entry (ref : SpanRef) :
    ((tableDoc Trace.toDoc s.traces).tree.member? ref.trace.hex).bind (·.member? ref.span.hex) =
      (s.span? ref).map fun span => span.summary.toDoc.tree := by
  rw [Doc.member?_tableDoc, span?]
  cases s.traces.get? ref.trace with
  | none => rfl
  | some trace => exact Doc.member?_tableDoc (fun span : Span => span.summary.toDoc) trace ref.span

theorem metrics_entry (id : MetricId) :
    (s.metricsDoc.tree.member? "metrics").bind (·.member? id.hex) =
      (s.metrics.get? id).map fun metric => metric.listingDoc.tree := by
  exact Doc.member?_tableDoc Metric.listingDoc s.metrics id

end Store

namespace Query

open Http (Request)

/-- **Listings and lookups agree.**  In every store the three listings are answered, and they match
what is answered to a GET of a record.  A span is found by the 32 and the 16 digits of its ids, in
either case, exactly if the listing of traces has these ids in lower case, one under the other, and
it says the same as its summary there.  A metric is found by the 16 digits of its id, in either
case, exactly if the metrics in their listing have this id in lower case, and its identity is the
same in both.  A log is found by its position in decimal exactly if the listing of logs is longer
than that.  What is not listed is "not found". -/
theorem lookups_match_listings (site : Site) (s : Store) {traces logs metrics : Request}
    (htraces : traces.IsGet "/api/traces") (hlogs : logs.IsGet "/api/logs")
    (hmetrics : metrics.IsGet "/api/metrics") :
    ∃ (traceTree metricTree : Json) (logTrees : List Json),
      (respond site s traces).1.Shows traceTree ∧
      (respond site s metrics).1.Shows metricTree ∧
      (respond site s logs).1.Shows (.array logTrees) ∧
      (∀ (trace span : String) (r : Request), trace.length = 32 → span.length = 16 →
        Hex.IsTextOfEitherCase trace → Hex.IsTextOfEitherCase span →
        r.IsGet ("/api/span/" ++ trace ++ "/" ++ span) →
        (respond site s r).1.Matches
          ((traceTree.member? (Text.asciiLower trace)).bind (·.member? (Text.asciiLower span)))
          "span" SpanSummary.names) ∧
      (∀ (id : String) (r : Request), id.length = 16 →
        Hex.IsTextOfEitherCase id → r.IsGet ("/api/metric/" ++ id) →
        (respond site s r).1.Matches
          ((metricTree.member? "metrics").bind (·.member? (Text.asciiLower id)))
          "metric" MetricIdentity.names) ∧
      ∀ (n : Nat) (r : Request), n < UInt64.size → r.IsGet ("/api/log/" ++ n.repr) →
        ((respond site s r).1.status.code = 200 ↔ n < logTrees.length) ∧
        ((respond site s r).1.status.code = 404 ↔ logTrees.length ≤ n) := by
  have htraces : traces.Asks .traces := htraces.asks rfl rfl rfl
  have hlogs : logs.Asks .logs := hlogs.asks rfl rfl rfl
  have hmetrics : metrics.Asks .metrics := hmetrics.asks rfl rfl rfl
  refine ⟨_, _, _, htraces.shows_of_answer rfl site, hmetrics.shows_of_answer rfl site,
    hlogs.shows_of_answer rfl site, ?_, ?_, ?_⟩
  · intro trace span r htrace hspan htraceDigits hspanDigits hr
    obtain ⟨ref, htraceHex, hspanHex, hasks⟩ :=
      Request.asks_span hr htrace htraceDigits hspan hspanDigits
    rw [← htraceHex, ← hspanHex, s.traces_entry ref]
    refine hasks.matches_entry rfl (fun span => ⟨_, rfl, ?_⟩) site
    exact fun name hname => span.member?_toDoc hname
  · intro id r hid hdigits hr
    obtain ⟨metric, hhex, hasks⟩ := Request.asks_metric hr hid hdigits
    rw [← hhex, s.metrics_entry metric]
    refine hasks.matches_entry rfl (fun metric => ⟨_, rfl, ?_⟩) site
    exact fun name hname => metric.member?_toDoc hname
  · intro n r hn hr
    have hmatches : (respond site s r).1.Matches
        ((s.logs[n]?).map fun log => log.summary.toDoc.tree) "log" [] :=
      (Request.asks_log hr hn).matches_entry rfl
        (fun log => ⟨log.toDoc.tree, rfl, List.forall_mem_nil _⟩) site
    have hlength : (Doc.itemTrees (s.logs.toList.map fun log => log.summary.toDoc)).length =
        s.logs.size := by
      rw [Doc.itemTrees_eq_map, List.length_map, List.length_map, Array.length_toList]
    rw [hlength]
    constructor
    · rw [hmatches.ok_iff, Option.isSome_map, Option.isSome_iff_ne_none, ne_eq,
        Array.getElem?_eq_none_iff, not_le]
    · rw [hmatches.notFound_iff, Option.map_eq_none_iff, Array.getElem?_eq_none_iff]

/-- A store with a single span, the trace of which has letters among the digits of its id. -/
def oneSpanStore : Store :=
  Store.empty.commitSpan ⟨⟨0xABCDEF, by decide⟩, ⟨0xF1, by decide⟩⟩
    ⟨default, ⟨.zero, "work", "", 1, 2⟩, "Internal", "", [], 0, "", 0, [], 0, [], 0⟩

/-- A span is found by ids in mixed case, with a query behind the path, and listed in lower case. -/
theorem lookups_match_listings_oneSpanStore :
    let site : Site := ⟨[], 0⟩
    let get (target : String) : Request := ⟨.get, target, [], [], ""⟩
    let found := (respond site oneSpanStore
      (get "/api/span/00000000000000000000000000aBCdEF/00000000000000F1?pretty")).1
    let missing := (respond site oneSpanStore (get "/api/metric/00000000000000F1")).1
    ∃ traceTree metricTree : Json,
      (respond site oneSpanStore (get "/api/traces")).1.Shows traceTree ∧
      (respond site oneSpanStore (get "/api/metrics")).1.Shows metricTree ∧
      (∃ entry, (traceTree.member? "00000000000000000000000000abcdef").bind
          (·.member? "00000000000000f1") = some entry ∧
        ∃ answer shown, Json.read? found.body = some answer ∧ answer.member? "span" = some shown ∧
          shown.member? "name" = entry.member? "name") ∧
      missing.status.code = 404 ∧
      (metricTree.member? "metrics").bind (·.member? "00000000000000f1") = none := by
  intro site get found missing
  obtain ⟨traceTree, metricTree, -, htraces, hmetrics, -, hspan, hmetric, -⟩ :=
    @lookups_match_listings site oneSpanStore (get "/api/traces") (get "/api/logs")
      (get "/api/metrics") ⟨rfl, by decide⟩ ⟨rfl, by decide⟩ ⟨rfl, by decide⟩
  refine ⟨traceTree, metricTree, htraces, hmetrics, ?_, ?_⟩
  · obtain ⟨hok, -, hagrees⟩ := hspan "00000000000000000000000000aBCdEF" "00000000000000F1"
      (get "/api/span/00000000000000000000000000aBCdEF/00000000000000F1?pretty")
      (by decide) (by decide) (by decide) (by decide) ⟨rfl, by decide⟩
    have hfound : found.status.code = 200 := by decide
    obtain ⟨entry, hentry⟩ := Option.isSome_iff_exists.mp (hok.mp hfound)
    obtain ⟨answer, shown, hread, hshown, hnames⟩ := hagrees entry hentry
    exact ⟨entry, hentry, answer, shown, hread, hshown, hnames "name" (by decide)⟩
  · obtain ⟨-, hnotFound, -⟩ := hmetric "00000000000000F1" (get "/api/metric/00000000000000F1")
      (by decide) (by decide) ⟨rfl, by decide⟩
    have hmissing : missing.status.code = 404 := by decide
    exact ⟨hmissing, hnotFound.mp hmissing⟩

end Query

end Telemetry
