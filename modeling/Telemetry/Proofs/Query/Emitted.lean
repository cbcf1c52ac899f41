import Telemetry.Proofs.Query.Documents
import Telemetry.Proofs.Query.Paths
import Telemetry.Proofs.Store.Independence

/-!
# What is sent and printed

In every state of a run the documents that the read interface sends, and those that a verbose store
prints, show the layouts of their routes and records (`Run.emits_documents`).  What any text of such
a document is like follows from its layout: it is JSON on one line in which no object repeats a name
and all tables and maps ascend (`Run.emits_wellFormed`), and only envelopes have tags, whatever the
names are that come from outside (`Run.emits_unforged`).
-/

namespace Telemetry

/-! ### Answers -/

namespace Route

theorem eq_reset_of_query {route : Route} (h : route.query = .ok none) : route = .reset := by
  cases route with
  | reset => rfl
  | span traceId spanId =>
    obtain ⟨trace, -, h⟩ := exists_of_bind_eq_ok h
    obtain ⟨span, -, h⟩ := exists_of_bind_pure_eq_ok h
    cases h
  | log index =>
    obtain ⟨index, -, h⟩ := exists_of_bind_pure_eq_ok h
    cases h
  | metric id =>
    obtain ⟨id, -, h⟩ := exists_of_bind_pure_eq_ok h
    cases h
  | _ => cases h

end Route

namespace Query

theorem status_toResponse (failure : Http.Failure) : failure.toResponse.status ≠ .ok := by
  cases failure <;> exact Http.Status.noConfusion

/-- A route but that of resets is answered with a document, or the status tells why it is not. -/
theorem exists_of_routeResponse {s : Store} {route : Route} (hreset : route ≠ .reset)
    (hok : (routeResponse s route).1.status = .ok) :
    ∃ decoded query doc, route.decode? = some decoded ∧ decoded.query = .ok (some query) ∧
      s.answer? query = some doc ∧ (routeResponse s route).1.body = Text.utf8 doc.render := by
  unfold routeResponse at hok ⊢
  cases hdecoded : route.decode? with
  | none =>
    rw [hdecoded] at hok
    cases hok
  | some decoded =>
    simp only [hdecoded] at hok ⊢
    cases hquery : decoded.query with
    | error failure =>
      rw [hquery] at hok
      exact absurd hok (status_toResponse failure)
    | ok query =>
      cases query with
      | none =>
        -- only a reset is no query
        rw [Route.eq_reset_of_query hquery] at hdecoded
        exact absurd (Route.eq_reset_of_decode? hdecoded) hreset
      | some query =>
        simp only [hquery] at hok ⊢
        cases hanswer : s.answer? query with
        | none =>
          rw [answer, hanswer] at hok
          exact absurd hok (status_toResponse _)
        | some doc =>
          refine ⟨decoded, query, doc, rfl, hquery, hanswer, ?_⟩
          rw [answer, hanswer]
          rfl

/-- What a GET of a route is answered with, if all is well. -/
theorem exists_of_respond {site : Site} {s : Store} {r : Http.Request} {route : Route}
    (hget : r.method = .get) (hroute : Route.ofPath? r.path = some route)
    (hok : (respond site s r).1.status = .ok) :
    ∃ decoded query doc, route.decode? = some decoded ∧ decoded.query = .ok (some query) ∧
      s.answer? query = some doc ∧ (respond site s r).1.body = Text.utf8 doc.render := by
  by_cases hreset : route = .reset
  · -- a reset has to be posted
    subst hreset
    unfold respond at hok
    rw [hroute, hget] at hok
    cases hok
  · rw [Http.Request.respond_of_get hget hroute hreset] at hok ⊢
    exact exists_of_routeResponse hreset hok

end Query

/-! ### Names from outside -/

namespace Call

/-- The name is a key of an attribute map, at any depth, that comes with the call, or the name of a
header of its request. -/
def Receives (call : Call) (name : String) : Prop :=
  (∃ a ∈ call.steps, ∃ m ∈ a.maps, name ∈ m.keys) ∨
    ∃ headers, call.sender.headers = some headers ∧ name ∈ headers.keys

theorem eq_sender_of_mem_steps {call : Call} {r : RequestMeta}
    (h : .internRequest r ∈ call.steps) : r = call.sender := by
  unfold steps at h
  split at h
  · rename_i steps hsteps
    rw [Payload.steps_eq] at hsteps
    obtain ⟨batch, -, rfl⟩ := exists_of_map_eq_ok hsteps
    exact Delivery.offers_of_mem_steps h
  · cases h

end Call

variable {ι : Type}

/-- The names ascend, and they come with some of the calls. -/
structure AreReceived (calls : ι → Call) (names : List String) : Prop where
  ascending : names.Pairwise fun a b => Text.compareBytes a b = .lt
  received : ∀ name ∈ names, ∃ i, (calls i).Receives name

/-- The names are shown under names that ascend. -/
def AscendShown (names : List String) : Prop :=
  (names.map Doc.shownName).Pairwise fun a b => Text.compareBytes a b = .lt

theorem AreReceived.ascendShown {calls : ι → Call} {names : List String}
    (h : AreReceived calls names) : AscendShown names := by
  rw [AscendShown, List.pairwise_map]
  simpa only [Doc.compareBytes_shownName] using h.ascending

theorem Call.brings_of_mem_steps {calls : ι → Call} {i : ι} {a : Step}
    (ha : a ∈ (calls i).steps) : a.Brings (AreReceived calls) where
  maps m hm :=
    ⟨(built_of_mem_steps ha m hm).ascending, fun _ hname => ⟨i, .inl ⟨a, ha, m, hm, hname⟩⟩⟩
  headers r hr headers hheaders := by
    subst hr
    rw [eq_sender_of_mem_steps ha] at hheaders
    exact ⟨headers.ascending, fun name hname => ⟨i, .inr ⟨headers, hheaders, hname⟩⟩⟩

/-! ### Lines of runs -/

/-- Every line of a run of steps shows the layout of its record. -/
theorem Store.Keeps.exists_of_mem_allLines {U : List String → Prop} {s : Store} (h : s.Keeps U)
    {steps : List Step} (hsteps : ∀ a ∈ steps, a.Brings U) {line : String}
    (hline : line ∈ Step.allLines s steps) :
    ∃ printed ∈ Layout.printed, ∃ doc : Doc,
      line = printed.1 ++ doc.render ∧ doc.Shows U printed.2 := by
  induction steps generalizing s with
  | nil => cases hline
  | cons a steps ih =>
    rw [List.forall_mem_cons] at hsteps
    rcases List.mem_append.mp hline with hline | hline
    · exact h.exists_of_mem_lines hsteps.1 hline
    · exact ih (h.apply hsteps.1) hsteps.2 hline

variable [DecidableEq ι] {calls : ι → Call}

namespace Run

/-- The lines that a verbose store prints during the run. -/
def lines (run : Run calls) : List String :=
  Step.allLines .empty (run.turns.map Turn.toStep)

/-- Every text that the program gives out has `P` of its layout: what it sends, at the end of the
run, for a GET of a route that is answered with success, and what a verbose store prints during the
run behind the kind of each record. -/
structure Emits (run : Run calls) (P : Layout → String → Prop) : Prop where
  sent : ∀ (site : Site) (r : Http.Request) (route : Route), r.method = .get →
    Route.ofPath? r.path = some route → (Query.respond site run.store r).1.status = .ok →
    ∃ text, (Query.respond site run.store r).1.body = Text.utf8 text ∧ P route.layout text
  printed : ∀ line ∈ run.lines, ∃ printed ∈ Layout.printed, ∃ text,
    line = printed.1 ++ text ∧ P printed.2 text

theorem Emits.mono {run : Run calls} {P Q : Layout → String → Prop} (h : run.Emits P)
    (hPQ : ∀ layout text, P layout text → Q layout text) : run.Emits Q where
  sent site r route hget hroute hok := by
    obtain ⟨text, hbody, htext⟩ := h.sent site r route hget hroute hok
    exact ⟨text, hbody, hPQ _ _ htext⟩
  printed line hline := by
    obtain ⟨printed, hprinted, text, hline, htext⟩ := h.printed line hline
    exact ⟨printed, hprinted, text, hline, hPQ _ _ htext⟩

variable (run : Run calls)

theorem brings_of_mem {a : Step} (ha : a ∈ run.turns.map Turn.toStep) :
    a.Brings (AreReceived calls) := by
  obtain ⟨turn, hturn, rfl⟩ := List.mem_map.mp ha
  cases turn with
  | step i a => exact Call.brings_of_mem_steps (run.mem_steps_of_mem_turns hturn)
  | reset => exact ⟨List.forall_mem_nil _, fun _ h => by cases h⟩

theorem keeps_store : run.store.Keeps (AreReceived calls) :=
  Store.Keeps.empty.applyAll fun _ => run.brings_of_mem

/-- **Whatever a run gives out is the text of a document of a proper layout.** -/
theorem emits_documents : run.Emits fun layout text =>
    ∃ doc : Doc, text = doc.render ∧ layout.isProper ∧ doc.Shows (AreReceived calls) layout where
  sent site r route hget hroute hok := by
    obtain ⟨decoded, query, doc, hdecoded, hquery, hanswer, hbody⟩ :=
      Query.exists_of_respond hget hroute hok
    have hshows := run.keeps_store.shows_answer hquery hanswer
    rw [Route.layout_decode? hdecoded] at hshows
    exact ⟨doc.render, hbody, doc, rfl, route.isProper_layout, hshows⟩
  printed line hline := by
    obtain ⟨printed, hprinted, doc, hline, hshows⟩ :=
      Store.Keeps.empty.exists_of_mem_allLines (fun _ => run.brings_of_mem) hline
    exact ⟨printed, hprinted, doc.render, hline, doc, rfl, Layout.isProper_of_mem_printed hprinted,
      hshows⟩

end Run

/-! ### What texts are like -/

/-- The text is JSON on one line.  No object in it repeats a name, at any depth, and it is laid out
in the given way: the ids of each table ascend, and so do the names of each map. -/
structure Layout.IsTextOf (layout : Layout) (text : String) (tree : Json) : Prop where
  read : Json.read? (Text.utf8 text) = some tree
  oneLine : Doc.OnOneLine text.toList
  nodup : tree.EveryObject fun members => (members.map Prod.fst).Nodup
  conforms : tree.Conforms AscendShown layout

/-- Names look like tags only in envelopes.  Any other object names its members like fields, with
ids, or with names that have `K`, as these are shown. -/
structure Json.IsUnforged (K : String → Prop) (members : List (Option String × Json)) : Prop where
  tags : ∀ name, some name ∈ members.map Prod.fst → Doc.IsTag name → ∃ kind, IsEnvelope kind members
  names : (∃ kind, IsEnvelope kind members) ∨
    ∀ member ∈ members, ∃ name, member.1 = some name ∧ IsName K name

namespace Run

variable (run : Run calls)

/-- **Whatever a run gives out is well-formed.**  In every state that any calls and resets lead to,
each body of a successful GET, and each record that a verbose store has printed by then, is a single
JSON text without control characters.  No object in it repeats a name, ids ascend in every table,
and names ascend in every map as they are shown. -/
theorem emits_wellFormed : run.Emits fun layout text => ∃ tree, layout.IsTextOf text tree := by
  refine run.emits_documents.mono ?_
  rintro layout _ ⟨doc, rfl, hproper, hplain, hconforms⟩
  refine ⟨doc.tree, Doc.read?_render hplain, ?_, ?_, hconforms.mono fun _ h => h.ascendShown⟩
  · rw [Doc.render, String.toList_ofList]
    exact Doc.onOneLine_text hplain
  · refine (hconforms.everyObject hproper).mono fun _ hform => hform.nodup fun _ hnames => ?_
    exact Table.nodup_of_ascending hnames.ascending

/-- **No name from outside makes an envelope.**  In every JSON tree that a run gives out only
envelopes have members whose names begin with exactly one underscore.  All other members are named
like fields or ids, which never begin with an underscore, or with names that some call received.
These are shown with one underscore more if they begin with one, which keeps them apart and in
order. -/
theorem emits_unforged :
    (run.Emits fun _ text => ∃ tree, Json.read? (Text.utf8 text) = some tree ∧
      tree.EveryObject (Json.IsUnforged fun name => ∃ i, (calls i).Receives name)) ∧
    (∀ name ∈ Layout.recordKeys, name.toList.head? ≠ some '_') ∧
    (∀ (kind : IdKind) (id : Id kind), id.hex.toList.head? ≠ some '_') ∧
    (∀ name, Doc.shownName name =
      if name.toList.head? = some '_' then String.ofList ('_' :: name.toList) else name) ∧
    Function.Injective Doc.shownName ∧
    ∀ a b, Text.compareBytes (Doc.shownName a) (Doc.shownName b) = Text.compareBytes a b := by
  refine ⟨run.emits_documents.mono ?_, fun _ => Json.not_head?_of_mem_recordKeys,
    fun _ => Id.not_head?_hex, fun name => ?_, Doc.shownName_injective, Doc.compareBytes_shownName⟩
  · rintro layout _ ⟨doc, rfl, hproper, hplain, hconforms⟩
    refine ⟨doc.tree, Doc.read?_render hplain, (hconforms.everyObject hproper).mono fun _ h => ?_⟩
    exact ⟨fun _ => h.isEnvelope_of_isTag, h.isName fun _ hkeys => hkeys.received⟩
  · split
    · rename_i hhead
      exact Doc.shownName_of_head? hhead
    · rename_i hhead
      exact Doc.shownName_eq_self hhead

/-- An attribute that is named like a tag makes no envelope. -/
example : (Attributes.toDoc [("_int", .string "5")]).render = "\x7b\"__int\":\"5\"\x7d" := by
  decide

end Run

end Telemetry
