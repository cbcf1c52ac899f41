import Telemetry.Proofs.Id
import Telemetry.Proofs.Numeral
import Telemetry.Proofs.Text
import Telemetry.Query.Respond

/-!
# Paths of queries

A listing has one path, and a record the path of its kind with its id or its number behind.  Ids in
either case and numbers in decimal are letters and digits of ASCII, so they stand in a path as they
are (`Route.decodeParameter?_eq_some`).  A request asks a query (`Http.Request.Asks`) if it is a
GET of a path that stands for it, and `asks_span`, `asks_metric` and `asks_log` say which paths do.
It is answered with the document that the store has for the query, or as not found
(`Http.Request.Asks.respond_of_answer`, `Http.Request.Asks.respond_of_unanswered`).
-/

namespace Telemetry

/-! ### Letters and digits -/

namespace Text

/-- The text has no characters but letters and digits of ASCII. -/
def IsAlphanumeric (text : String) : Prop :=
  ∀ c ∈ text.toList, c.isAlphanum = true

instance (text : String) : Decidable (IsAlphanumeric text) :=
  List.decidableBAll (fun c : Char => c.isAlphanum = true) text.toList

/-- A letter or a digit has one byte, and is neither a slash nor a percent sign. -/
theorem of_isAlphanum {c : Char} (h : c.isAlphanum = true) :
    c.toNat < 128 ∧ c ≠ '/' ∧ c ≠ '%' := by
  refine ⟨?_, ?_, ?_⟩
  · have hlast (last : Char) (hle : c.val ≤ last.val) (hlt : last.toNat < 128) : c.toNat < 128 :=
      Nat.lt_of_le_of_lt (UInt32.le_iff_toNat_le.mp hle) hlt
    have hcases : c.isUpper = true ∨ c.isLower = true ∨ c.isDigit = true := by
      have hor : (c.isUpper || c.isLower || c.isDigit) = true := h
      rwa [Bool.or_eq_true, Bool.or_eq_true, or_assoc] at hor
    rcases hcases with hupper | hlower | hdigit
    · exact hlast 'Z' (of_decide_eq_true hupper).2 (by decide)
    · exact hlast 'z' (of_decide_eq_true (Bool.and_eq_true_iff.mp hlower).2) (by decide)
    · exact hlast '9' (of_decide_eq_true (Bool.and_eq_true_iff.mp hdigit).2) (by decide)
  · rintro rfl
    exact absurd h (by decide)
  · rintro rfl
    exact absurd h (by decide)

theorem IsAlphanumeric.slash_not_mem {text : String} (h : IsAlphanumeric text) :
    '/' ∉ text.toList :=
  fun hmem => (of_isAlphanum (h '/' hmem)).2.1 rfl

/-- Letters and digits have no byte of a percent sign. -/
theorem percent_not_mem_utf8 {text : List Char} (h : ∀ c ∈ text, c.isAlphanum = true) :
    Http.percent ∉ utf8 (String.ofList text) := by
  induction text with
  | nil => exact List.not_mem_nil
  | cons c text ih =>
    rw [List.forall_mem_cons] at h
    obtain ⟨hlt, -, hpercent⟩ := of_isAlphanum h.1
    have hencode := utf8EncodeChar_ofNat hlt
    rw [Char.ofNat_toNat] at hencode
    rw [utf8_ofList_cons, hencode, List.singleton_append, List.mem_cons, not_or]
    refine ⟨fun hbyte => hpercent ?_, ih h.2⟩
    have hnumber : (UInt8.ofNat c.toNat).toNat = 37 := by
      rw [← hbyte]
      rfl
    rw [UInt8.toNat_ofNat'] at hnumber
    rw [← Char.ofNat_toNat c, show c.toNat = 37 by omega]

end Text

namespace Http

/-- Bytes without a percent sign stand for themselves. -/
theorem percentDecode_eq_self {bytes : Bytes} (h : percent ∉ bytes) : percentDecode bytes = bytes := by
  induction bytes with
  | nil => rfl
  | cons b rest ih =>
    obtain ⟨hb, hrest⟩ := not_or.mp (mt List.mem_cons.mpr h)
    -- an escape needs two more bytes behind the sign
    match rest with
    | [] => rfl
    | [_] => rfl
    | high :: low :: rest =>
      rw [percentDecode, if_neg (Ne.symm hb), ih hrest]

/-- A GET of a path, whatever stands around the path in the target. -/
structure Request.IsGet (r : Request) (path : String) : Prop where
  method : r.method = .get
  path : r.path = path.toList

/-- A GET of a path that stands for a query. -/
structure Request.Asks (r : Request) (query : Query) : Prop where
  method : r.method = .get
  route : ∃ route decoded, Route.ofPath? r.path = some route ∧ route.decode? = some decoded ∧
    decoded.query = .ok (some query)

end Http

/-! ### Routes -/

namespace Route

/-- **A parameter of letters and digits stands for itself.** -/
theorem decodeParameter?_eq_some {text : String} (h : Text.IsAlphanumeric text) :
    decodeParameter? text = some text := by
  unfold decodeParameter? Http.decodedText?
  rw [Http.percentDecode_eq_self (Text.percent_not_mem_utf8 h), Bytes.text?_utf8, String.ofList_toList]

theorem after?_append (beginning : String) (rest : List Char) :
    after? beginning (beginning.toList ++ rest) = some rest := by
  rw [after?, if_pos (by simp), ← String.length_toList, List.drop_left]

theorem isLastParameter_toList {text : String} (h : '/' ∉ text.toList) (hne : text ≠ "") :
    isLastParameter text.toList = true := by
  have hempty : text.toList ≠ [] := fun hnil => hne (String.toList_eq_nil_iff.mp hnil)
  simp [isLastParameter, hempty, h]

theorem parameter?_append {beginning text : String} (h : '/' ∉ text.toList) (hne : text ≠ "") :
    parameter? beginning (beginning.toList ++ text.toList) = some text := by
  rw [parameter?, after?_append, Option.filter_some, if_pos (isLastParameter_toList h hne),
    Option.map_some, String.ofList_toList]

theorem parameters?_append {beginning first second : String} (hfirst : '/' ∉ first.toList)
    (hsecond : '/' ∉ second.toList) (hne : second ≠ "") :
    parameters? beginning (beginning.toList ++ (first.toList ++ '/' :: second.toList)) =
      some (first, second) := by
  have hslash : ∀ c ∈ first.toList, decide (c ≠ '/') = true := fun c hc =>
    decide_eq_true fun heq => hfirst (heq ▸ hc)
  unfold parameters?
  rw [after?_append]
  simp only [Option.bind_eq_bind, Option.bind_some]
  rw [List.dropWhile_append_of_pos hslash, List.takeWhile_append_of_pos hslash]
  simp [isLastParameter_toList hsecond hne]

/-! ### Paths with parameters -/

theorem ofPath?_spanPath {trace span : String} (htrace : '/' ∉ trace.toList)
    (hspan : '/' ∉ span.toList) (hne : span ≠ "") :
    ofPath? ("/api/span/" ++ trace ++ "/" ++ span).toList = some (.span trace span) := by
  have hpath : ("/api/span/" ++ trace ++ "/" ++ span).toList =
      "/api/span/".toList ++ (trace.toList ++ '/' :: span.toList) := by
    simp
  rw [hpath]
  unfold ofPath?
  simp only [parameters?_append htrace hspan hne]
  simp

theorem ofPath?_logPath {index : String} (h : '/' ∉ index.toList) (hne : index ≠ "") :
    ofPath? ("/api/log/" ++ index).toList = some (.log index) := by
  have hspan : parameters? "/api/span/" ("/api/log/".toList ++ index.toList) = none := rfl
  rw [String.toList_append]
  unfold ofPath?
  simp only [hspan, parameter?_append h hne]
  simp

theorem ofPath?_metricPath {id : String} (h : '/' ∉ id.toList) (hne : id ≠ "") :
    ofPath? ("/api/metric/" ++ id).toList = some (.metric id) := by
  have hspan : parameters? "/api/span/" ("/api/metric/".toList ++ id.toList) = none := rfl
  have hlog : parameter? "/api/log/" ("/api/metric/".toList ++ id.toList) = none := rfl
  rw [String.toList_append]
  unfold ofPath?
  simp only [hspan, hlog, parameter?_append h hne]
  simp

/-- A number in decimal is read as the index of a log. -/
theorem logIndex_repr {n : Nat} (h : n < UInt64.size) : logIndex n.repr = .ok n := by
  have hdigits : Numeral.unsigned? n.repr.toList = some n := by
    rw [Nat.toList_repr]
    unfold Numeral.unsigned?
    split
    · rename_i digits hplus
      have hmem : '+' ∈ Nat.toDigits 10 n := by
        rw [hplus]
        exact List.mem_cons_self
      exact absurd (Nat.isDigit_of_mem_toDigits (by decide) (by decide) hmem) (by decide)
    · exact Numeral.number?_toDigits n
  unfold logIndex
  rw [hdigits, Option.filter_some, if_pos (decide_eq_true h)]

end Route

/-! ### Requests -/

theorem Hex.IsTextOfEitherCase.isAlphanumeric {text : String} (h : IsTextOfEitherCase text) :
    Text.IsAlphanumeric text := by
  have hall : Text.IsAlphanumeric "0123456789abcdefABCDEF" := by decide
  intro c hc
  exact hall c (h c hc)

namespace Http.Request

variable {r : Request}

/-- A GET of a path asks what the route of the path stands for, if there is nothing to decode. -/
theorem IsGet.asks {path : String} {route : Route} {query : Query} (h : r.IsGet path)
    (hroute : Route.ofPath? path.toList = some route) (hdecoded : route.decode? = some route)
    (hquery : route.query = .ok (some query)) : r.Asks query where
  method := h.method
  route := ⟨route, route, by rw [h.path, hroute], hdecoded, hquery⟩

/-- **A span is asked for by its ids in either case.** -/
theorem asks_span {trace span : String} (h : r.IsGet ("/api/span/" ++ trace ++ "/" ++ span))
    (htrace : trace.length = 32) (htraceDigits : Hex.IsTextOfEitherCase trace)
    (hspan : span.length = 16) (hspanDigits : Hex.IsTextOfEitherCase span) :
    ∃ ref : SpanRef, ref.trace.hex = Text.asciiLower trace ∧
      ref.span.hex = Text.asciiLower span ∧ r.Asks (.span ref) := by
  obtain ⟨traceId, htraceId, htraceHex⟩ := @Id.exists_parse .trace _ htrace htraceDigits
  obtain ⟨spanId, hspanId, hspanHex⟩ := @Id.exists_parse .span _ hspan hspanDigits
  have htraceText := htraceDigits.isAlphanumeric
  have hspanText := hspanDigits.isAlphanumeric
  have hne : span ≠ "" := by
    rintro rfl
    cases hspan
  refine ⟨⟨traceId, spanId⟩, htraceHex, hspanHex,
    h.asks (Route.ofPath?_spanPath htraceText.slash_not_mem hspanText.slash_not_mem hne) ?_ ?_⟩
  · rw [Route.decode?, Route.decodeParameter?_eq_some htraceText,
      Route.decodeParameter?_eq_some hspanText]
    rfl
  · rw [Route.query, Route.idOf, Route.idOf, htraceId, hspanId]
    rfl

/-- **A metric is asked for by its id in either case.** -/
theorem asks_metric {id : String} (h : r.IsGet ("/api/metric/" ++ id)) (hid : id.length = 16)
    (hdigits : Hex.IsTextOfEitherCase id) :
    ∃ metric : MetricId, metric.hex = Text.asciiLower id ∧ r.Asks (.metric metric) := by
  obtain ⟨metric, hmetric, hhex⟩ := @Id.exists_parse .metric _ hid hdigits
  have htext := hdigits.isAlphanumeric
  have hne : id ≠ "" := by
    rintro rfl
    cases hid
  refine ⟨metric, hhex, h.asks (Route.ofPath?_metricPath htext.slash_not_mem hne) ?_ ?_⟩
  · rw [Route.decode?, Route.decodeParameter?_eq_some htext]
    rfl
  · rw [Route.query, Route.idOf, hmetric]
    rfl

/-- **A log is asked for by its position in decimal.** -/
theorem asks_log {n : Nat} (h : r.IsGet ("/api/log/" ++ n.repr)) (hn : n < UInt64.size) :
    r.Asks (.log n) := by
  have htext : Text.IsAlphanumeric n.repr := by
    intro c hc
    rw [Nat.toList_repr] at hc
    rw [Char.isAlphanum, Nat.isDigit_of_mem_toDigits (by decide) (by decide) hc, Bool.or_true]
  refine h.asks (Route.ofPath?_logPath htext.slash_not_mem Nat.repr_ne_empty) ?_ ?_
  · rw [Route.decode?, Route.decodeParameter?_eq_some htext]
    rfl
  · rw [Route.query, Route.logIndex_repr hn]
    rfl

/-! ### Responses -/

/-- A GET of any route but that of resets is answered as the route is. -/
theorem respond_of_get {route : Route} (hget : r.method = .get)
    (hroute : Route.ofPath? r.path = some route) (hreset : route ≠ .reset) (site : Site)
    (s : Store) : (Query.respond site s r).1 = (Query.routeResponse s route).1 := by
  have hmethod : Method.get ∈ Query.methods route := by
    cases route with
    | reset => exact absurd rfl hreset
    | _ => exact List.mem_cons_self
  unfold Query.respond
  simp only [hroute, hget, if_pos hmethod]
  rfl

variable {query : Query}

/-- What is asked is answered from the store. -/
theorem Asks.exists_respond_eq (h : r.Asks query) (site : Site) (s : Store) :
    ∃ route decoded, route.decode? = some decoded ∧ decoded.query = .ok (some query) ∧
      (Query.respond site s r).1 = (Query.routeResponse s route).1 := by
  obtain ⟨route, decoded, hroute, hdecoded, hquery⟩ := h.route
  have hreset : route ≠ .reset := by
    -- a reset asks nothing
    rintro rfl
    cases hdecoded
    cases hquery
  exact ⟨route, decoded, hdecoded, hquery, respond_of_get h.method hroute hreset site s⟩

theorem Asks.respond_of_answer (h : r.Asks query) {s : Store} {doc : Doc}
    (hanswer : s.answer? query = some doc) (site : Site) :
    (Query.respond site s r).1 = Query.documentResponse doc.render := by
  obtain ⟨route, decoded, hdecoded, hquery, hrespond⟩ := h.exists_respond_eq site s
  rw [hrespond]
  unfold Query.routeResponse Query.answer
  simp only [hdecoded, hquery, hanswer]

theorem Asks.respond_of_unanswered (h : r.Asks query) {s : Store}
    (hanswer : s.answer? query = none) (site : Site) :
    (Query.respond site s r).1 = query.notFound.toResponse := by
  obtain ⟨route, decoded, hdecoded, hquery, hrespond⟩ := h.exists_respond_eq site s
  rw [hrespond]
  unfold Query.routeResponse Query.answer
  simp only [hdecoded, hquery, hanswer]

end Http.Request

end Telemetry
