import Telemetry.Proofs.Id.Grammar
import Telemetry.Proofs.Query.Lookups

/-!
# Parameters of paths

The parameters of a lookup are percent-decoded and then read: ids as hexadecimal digits, the position
of a log as a decimal number, in front of which a plus sign may stand
(`Numeral.unsigned?_eq_some_iff`).  Every text has an escaped form that is decoded to it
(`Http.decodeParameter?_escaped`), so a route is that of some path unless its last parameter is empty
(`Route.exists_gets_iff`).

A lookup judges its parameters (`Http.Response.Judges`): what cannot be read is a bad request, and
what is read is either stored or not found.  `Query.judges_parameters` says so of every store and
every GET of a span, a metric or a log.
-/

namespace Telemetry

/-! ### Numbers -/

namespace Numeral

/-- The text is one or more decimal digits and nothing else. -/
def IsDecimal (text : String) : Prop :=
  text ≠ "" ∧ ∀ c ∈ text.toList, c.isDigit = true

instance (text : String) : Decidable (IsDecimal text) :=
  @instDecidableAnd _ _ _ (List.decidableBAll (fun c : Char => c.isDigit = true) text.toList)

/-- The text is decimal digits that denote the number, or such digits behind a plus sign. -/
def Denotes (text : String) (n : Nat) : Prop :=
  ∃ digits, IsDecimal digits ∧ (text = digits ∨ text = "+" ++ digits) ∧ number digits.toList = n

theorem number?_toList_eq_some_iff {digits : String} {n : Nat} :
    number? digits.toList = some n ↔ IsDecimal digits ∧ number digits.toList = n := by
  rw [number?_eq_some_iff, ← and_assoc, IsDecimal, ne_eq, String.toList_eq_nil_iff]

/-- **A text is read as the number that it denotes**, and no other text is. -/
theorem unsigned?_eq_some_iff {text : String} {n : Nat} :
    unsigned? text.toList = some n ↔ Denotes text n := by
  have hplus {digits : String} : ("+" ++ digits).toList = '+' :: digits.toList := by
    simp
  constructor
  · intro h
    unfold unsigned? at h
    split at h
    · rename_i digits hsign
      have htext : text = "+" ++ String.ofList digits := by
        rw [← String.toList_inj, hplus, hsign, String.toList_ofList]
      rw [← String.toList_ofList (l := digits), number?_toList_eq_some_iff] at h
      exact ⟨_, h.1, .inr htext, h.2⟩
    · rw [number?_toList_eq_some_iff] at h
      exact ⟨text, h.1, .inl rfl, h.2⟩
  · rintro ⟨digits, hdecimal, rfl | rfl, hn⟩
    · unfold unsigned?
      split
      · rename_i rest hsign
        -- a plus sign is no digit
        exact absurd (hdecimal.2 '+' (hsign ▸ List.mem_cons_self)) (by decide)
      · exact number?_toList_eq_some_iff.mpr ⟨hdecimal, hn⟩
    · rw [hplus]
      exact number?_toList_eq_some_iff.mpr ⟨hdecimal, hn⟩

/-- A text denotes one number at most. -/
theorem Denotes.unique {text : String} {n m : Nat} (hn : Denotes text n) (hm : Denotes text m) :
    n = m :=
  Option.some.inj ((unsigned?_eq_some_iff.mpr hn).symm.trans (unsigned?_eq_some_iff.mpr hm))

end Numeral

/-! ### Escapes -/

namespace Http

/-- An escape for every byte. -/
def percentEncode (bytes : Bytes) : List Char :=
  bytes.flatMap fun b => '%' :: Hex.word 2 b.toNat

theorem percentEncode_cons (b : UInt8) (bytes : Bytes) :
    percentEncode (b :: bytes) =
      '%' :: Hex.digit (b.toNat / 16 % 16) :: Hex.digit (b.toNat / 1 % 16) :: percentEncode bytes :=
  rfl

/-- **Bytes are read back from their escapes.** -/
theorem percentDecode_percentEncode (bytes : Bytes) :
    percentDecode (Text.utf8 (String.ofList (percentEncode bytes))) = bytes := by
  have hlt (n : Nat) : n % 16 < 16 := Nat.mod_lt n (by decide)
  have hvalue {k : Nat} (hk : k < 16) :
      Hex.value? (Char.ofNat (UInt8.ofNat (Hex.digit k).toNat).toNat) = some k := by
    have hall : ∀ k < 16,
        Hex.value? (Char.ofNat (UInt8.ofNat (Hex.digit k).toNat).toNat) = some k := by decide
    exact hall k hk
  have hsign : String.utf8EncodeChar '%' = [percent] := by decide
  induction bytes with
  | nil => rfl
  | cons b bytes ih =>
    have hbyte : 16 * (b.toNat / 16 % 16) + b.toNat / 1 % 16 = b.toNat := by
      have := b.toNat_lt
      omega
    have hescaped : escapedByte? (UInt8.ofNat (Hex.digit (b.toNat / 16 % 16)).toNat)
        (UInt8.ofNat (Hex.digit (b.toNat / 1 % 16)).toNat) = some b := by
      rw [escapedByte?, hvalue (hlt _), hvalue (hlt _)]
      simp only [hbyte, UInt8.ofNat_toNat]
    rw [percentEncode_cons, Text.utf8_ofList_cons, Text.utf8_ofList_cons, Text.utf8_ofList_cons,
      hsign, Hex.utf8EncodeChar_digit (hlt _), Hex.utf8EncodeChar_digit (hlt _)]
    simp only [List.singleton_append, percentDecode, if_true, hescaped, ih]

/-- There is nothing but percent signs and digits in escapes. -/
theorem of_mem_percentEncode {bytes : Bytes} {c : Char} (h : c ∈ percentEncode bytes) :
    c = '%' ∨ Hex.IsDigit c := by
  rw [percentEncode, List.mem_flatMap] at h
  obtain ⟨b, -, hc⟩ := h
  refine (List.mem_cons.mp hc).imp_right fun hc => ?_
  obtain ⟨k, hk, rfl⟩ := Hex.exists_digit_of_mem_word hc
  exact Hex.isDigit_digit hk

/-- A text in escapes. -/
def escaped (text : String) : String :=
  String.ofList (percentEncode (Text.utf8 text))

theorem decodeParameter?_escaped (text : String) :
    Route.decodeParameter? (escaped text) = some text := by
  rw [Route.decodeParameter?, decodedText?, String.ofList_toList, escaped,
    percentDecode_percentEncode, Bytes.text?_utf8]

theorem not_mem_escaped {text : String} {c : Char} (hsign : c ≠ '%') (hdigit : ¬Hex.IsDigit c) :
    c ∉ (escaped text).toList := by
  rw [escaped, String.toList_ofList]
  exact fun hc => (of_mem_percentEncode hc).elim hsign hdigit

theorem not_isEnd_escaped (text : String) :
    ∀ c ∈ (escaped text).toList, Request.isEnd c = false := by
  intro c hc
  rw [Request.isEnd, Bool.or_eq_false_iff, beq_eq_false_iff_ne, beq_eq_false_iff_ne]
  constructor
  · rintro rfl
    exact not_mem_escaped (by decide) (by decide) hc
  · rintro rfl
    exact not_mem_escaped (by decide) (by decide) hc

theorem escaped_ne {text : String} (h : text ≠ "") : escaped text ≠ "" := by
  intro hempty
  have hdecoded := decodeParameter?_escaped text
  have hnone : Route.decodeParameter? "" = some "" := by decide
  rw [hempty, hnone] at hdecoded
  exact h (Option.some.inj hdecoded).symm

end Http

/-! ### Routes that are sent -/

/-- The last parameter of a route. -/
def Route.last? : Route → Option String
  | .span _ last | .log last | .metric last => some last
  | _ => none

namespace Http

/-- A GET of a path that is that of the route, once its parameters are decoded. -/
structure Request.Gets (r : Request) (route : Route) : Prop where
  method : r.method = .get
  sent : ∃ sent, Route.ofPath? r.path = some sent ∧ sent.decode? = some route

theorem Request.not_isEnd_of_all {text : List Char} (h : text.all (fun c => !isEnd c) = true) :
    ∀ c ∈ text, isEnd c = false := by
  intro c hc
  have hnot := List.all_eq_true.mp h c hc
  rwa [Bool.not_eq_true'] at hnot

/-- A path that begins with a slash and has no end in it is all of the target. -/
theorem Request.path_eq_target {r : Request} (hslash : r.target.toList.head? = some '/')
    (hend : ∀ c ∈ r.target.toList, isEnd c = false) : r.path = r.target.toList := by
  have hauthority : afterAuthority? r.target.toList = none := by
    obtain ⟨rest, hrest⟩ := List.head?_eq_some_iff.mp hslash
    rw [hrest]
    rfl
  have htake : r.target.toList.takeWhile (fun c => !isEnd c) = r.target.toList := by
    rw [List.takeWhile_eq_self_iff]
    intro c hc
    rw [hend c hc]
    rfl
  unfold Request.path
  simp only [hauthority, htake]

theorem percentDecode_eq_nil {bytes : Bytes} (h : percentDecode bytes = []) : bytes = [] := by
  unfold percentDecode at h
  split at h
  · split_ifs at h
    split at h
    · cases h
    · cases h
  · exact h

end Http

/-- A text has the bytes that it was read from. -/
theorem Bytes.utf8_of_text? {bytes : Bytes} {text : String} (h : bytes.text? = some text) :
    Text.utf8 text = bytes := by
  unfold Bytes.text? String.fromUTF8? at h
  split at h
  · obtain rfl := Option.some.inj h
    rfl
  · cases h

namespace Route

theorem ne_of_isLastParameter {text : List Char} (h : isLastParameter text = true) :
    String.ofList text ≠ "" := by
  rintro hempty
  rw [String.ofList_eq_empty_iff.mp hempty] at h
  cases h

theorem ne_of_parameter? {beginning last : String} {path : List Char}
    (h : parameter? beginning path = some last) : last ≠ "" := by
  rw [parameter?, Option.map_eq_some_iff] at h
  obtain ⟨text, htext, rfl⟩ := h
  exact ne_of_isLastParameter (Option.filter_eq_some_iff.mp htext).2

theorem ne_of_parameters? {beginning first last : String} {path : List Char}
    (h : parameters? beginning path = some (first, last)) : last ≠ "" := by
  unfold parameters? at h
  rw [Option.bind_eq_bind, Option.bind_eq_some_iff] at h
  obtain ⟨rest, -, hrest⟩ := h
  split at hrest
  · split_ifs at hrest with hlast
    obtain ⟨-, rfl⟩ := Prod.mk.inj (Option.some.inj hrest)
    exact ne_of_isLastParameter hlast
  · cases hrest

/-- No path has an empty last parameter. -/
theorem ne_of_ofPath? {path : List Char} {route : Route} {last : String}
    (h : ofPath? path = some route) (hlast : route.last? = some last) : last ≠ "" := by
  unfold ofPath? at h
  split_ifs at h
  case neg =>
    split at h
    · rename_i hspan
      obtain rfl := Option.some.inj h
      exact ne_of_parameters? (hspan.trans (by rw [Option.some.inj hlast]))
    split at h
    · rename_i hlog
      obtain rfl := Option.some.inj h
      exact ne_of_parameter? (hlog.trans hlast)
    split at h
    · rename_i hmetric
      obtain rfl := Option.some.inj h
      exact ne_of_parameter? (hmetric.trans hlast)
    · cases h
  -- listings and resets have no parameters
  all_goals
    obtain rfl := Option.some.inj h
    cases hlast

theorem ne_of_decodeParameter? {sent text : String} (h : decodeParameter? sent = some text)
    (hsent : sent ≠ "") : text ≠ "" := by
  rintro rfl
  rw [decodeParameter?, Http.decodedText?, String.ofList_toList] at h
  have hnil : Text.utf8 sent = [] := Http.percentDecode_eq_nil (Bytes.utf8_of_text? h).symm
  exact hsent (Text.utf8_injective hnil)

/-- Decoding keeps a last parameter, but not what stands for it. -/
theorem exists_last?_of_decode? {sent route : Route} {last : String} (h : sent.decode? = some route)
    (hlast : route.last? = some last) :
    ∃ text, sent.last? = some text ∧ decodeParameter? text = some last := by
  cases sent with
  | span traceId spanId =>
    rw [decode?, Option.bind_eq_bind, Option.bind_eq_some_iff] at h
    obtain ⟨_, -, h⟩ := h
    rw [Option.bind_eq_some_iff] at h
    obtain ⟨_, hspan, h⟩ := h
    obtain rfl := Option.some.inj h
    exact ⟨spanId, rfl, hspan.trans hlast⟩
  | log index =>
    rw [decode?, Option.bind_eq_bind, Option.bind_eq_some_iff] at h
    obtain ⟨_, hindex, h⟩ := h
    obtain rfl := Option.some.inj h
    exact ⟨index, rfl, hindex.trans hlast⟩
  | metric id =>
    rw [decode?, Option.bind_eq_bind, Option.bind_eq_some_iff] at h
    obtain ⟨_, hid, h⟩ := h
    obtain rfl := Option.some.inj h
    exact ⟨id, rfl, hid.trans hlast⟩
  | _ =>
    obtain rfl := Option.some.inj h
    cases hlast

/-- A path that is all of a target is that of a request. -/
theorem gets_of_path {path : String} {sent route : Route} (hslash : path.toList.head? = some '/')
    (hend : ∀ c ∈ path.toList, Http.Request.isEnd c = false)
    (hpath : ofPath? path.toList = some sent) (hdecode : sent.decode? = some route) :
    (⟨.get, path, [], [], ""⟩ : Http.Request).Gets route := by
  have htarget : (⟨.get, path, [], [], ""⟩ : Http.Request).path = path.toList :=
    Http.Request.path_eq_target hslash hend
  exact ⟨rfl, sent, htarget ▸ hpath, hdecode⟩

/-- **Whatever the parameters are, there is a path for a route**, if the last one is not empty. -/
theorem exists_gets {route : Route} (h : route.last? ≠ some "") :
    ∃ r : Http.Request, r.Gets route := by
  have hslash (text : String) : '/' ∉ (Http.escaped text).toList :=
    Http.not_mem_escaped (by decide) (by decide)
  have hne {text : String} (htext : some text ≠ some "") : Http.escaped text ≠ "" :=
    Http.escaped_ne fun heq => htext (congrArg some heq)
  cases route with
  | traces => exact ⟨⟨.get, "/api/traces", [], [], ""⟩, rfl, .traces, by decide, rfl⟩
  | logs => exact ⟨⟨.get, "/api/logs", [], [], ""⟩, rfl, .logs, by decide, rfl⟩
  | metrics => exact ⟨⟨.get, "/api/metrics", [], [], ""⟩, rfl, .metrics, by decide, rfl⟩
  | reset => exact ⟨⟨.get, "/api/reset", [], [], ""⟩, rfl, .reset, by decide, rfl⟩
  | span trace span =>
    refine ⟨_, gets_of_path ?_ ?_ (ofPath?_spanPath (hslash trace) (hslash span) (hne h)) ?_⟩
    · simp
    · rw [String.toList_append, String.toList_append, String.toList_append, List.forall_mem_append,
        List.forall_mem_append, List.forall_mem_append]
      exact ⟨⟨⟨Http.Request.not_isEnd_of_all (by decide), Http.not_isEnd_escaped trace⟩,
        Http.Request.not_isEnd_of_all (by decide)⟩, Http.not_isEnd_escaped span⟩
    · rw [decode?, Http.decodeParameter?_escaped, Http.decodeParameter?_escaped]
      rfl
  | log index =>
    refine ⟨_, gets_of_path ?_ ?_ (ofPath?_logPath (hslash index) (hne h)) ?_⟩
    · simp
    · rw [String.toList_append, List.forall_mem_append]
      exact ⟨Http.Request.not_isEnd_of_all (by decide), Http.not_isEnd_escaped index⟩
    · rw [decode?, Http.decodeParameter?_escaped]
      rfl
  | metric id =>
    refine ⟨_, gets_of_path ?_ ?_ (ofPath?_metricPath (hslash id) (hne h)) ?_⟩
    · simp
    · rw [String.toList_append, List.forall_mem_append]
      exact ⟨Http.Request.not_isEnd_of_all (by decide), Http.not_isEnd_escaped id⟩
    · rw [decode?, Http.decodeParameter?_escaped]
      rfl

/-- **The routes that are sent are those without an empty last parameter.** -/
theorem exists_gets_iff (route : Route) :
    (∃ r : Http.Request, r.Gets route) ↔ route.last? ≠ some "" := by
  constructor
  · rintro ⟨r, -, sent, hpath, hdecode⟩ hempty
    obtain ⟨text, htext, hdecoded⟩ := exists_last?_of_decode? hdecode hempty
    exact ne_of_decodeParameter? hdecoded (ne_of_ofPath? hpath htext) rfl
  · exact exists_gets

end Route

/-! ### Judgements -/

namespace Http

/-- The response judges the parameters of a lookup: it is "bad request" exactly if they are not
well-formed, "not found" exactly if they are, but nothing is stored under them, and a document
otherwise. -/
structure Response.Judges (response : Response) (wellFormed found : Prop) : Prop where
  badRequest_iff : response.status.code = 400 ↔ ¬wellFormed
  notFound_iff : response.status.code = 404 ↔ wellFormed ∧ ¬found
  ok_iff : response.status.code = 200 ↔ wellFormed ∧ found

namespace Request.Gets

variable {r : Request} {route : Route} (site : Site) (s : Store)

theorem respond_of_error {failure : Failure} (h : r.Gets route)
    (hquery : route.query = .error failure) :
    (Query.respond site s r).1 = failure.toResponse := by
  obtain ⟨sent, hpath, hdecode⟩ := h.sent
  have hreset : sent ≠ .reset := by
    -- a reset is no query, but no error either
    rintro rfl
    obtain rfl := Option.some.inj hdecode
    cases hquery
  rw [respond_of_get h.method hpath hreset]
  unfold Query.routeResponse
  simp only [hdecode, hquery]

theorem asks {query : Query} (h : r.Gets route) (hquery : route.query = .ok (some query)) :
    r.Asks query := by
  obtain ⟨sent, hpath, hdecode⟩ := h.sent
  exact ⟨h.method, sent, route, hpath, hdecode, hquery⟩

/-- **A lookup judges its parameters**, if they are read as a query exactly if they are
well-formed. -/
theorem judges {wellFormed found : Prop} (h : r.Gets route)
    (hbad : ¬wellFormed → ∃ message, route.query = .error (.badRequest message))
    (hgood : wellFormed → ∃ query, route.query = .ok (some query) ∧
      ((s.answer? query).isSome = true ↔ found)) :
    (Query.respond site s r).1.Judges wellFormed found := by
  by_cases hformed : wellFormed
  · obtain ⟨query, hquery, hfound⟩ := hgood hformed
    have hasks := h.asks hquery
    cases hanswer : s.answer? query with
    | none =>
      have hmissing : ¬found := by
        rw [← hfound, hanswer]
        decide
      have hcode : (Query.respond site s r).1.status.code = 404 := by
        rw [hasks.respond_of_unanswered hanswer]
        exact query.code_notFound
      constructor <;> simp [hcode, hformed, hmissing]
    | some doc =>
      have hstored : found := by
        rw [← hfound, hanswer]
        rfl
      have hcode : (Query.respond site s r).1.status.code = 200 :=
        (hasks.shows_of_answer hanswer site).status
      constructor <;> simp [hcode, hformed, hstored]
  · obtain ⟨message, hquery⟩ := hbad hformed
    have hcode : (Query.respond site s r).1.status.code = 400 := by
      rw [h.respond_of_error site s hquery]
      rfl
    constructor <;> simp [hcode, hformed]

end Request.Gets

end Http

namespace Route

theorem idOf_of_not_isText {kind : IdKind} {text : String} (h : ¬Id.IsText kind text) :
    ∃ message, (idOf kind text : Except Http.Failure (Id kind)) = .error (.badRequest message) := by
  rw [idOf, Id.parse_eq_error_iff.mpr h]
  exact ⟨_, rfl⟩

theorem idOf_of_isText {kind : IdKind} {text : String} (h : Id.IsText kind text) :
    ∃ id : Id kind, idOf kind text = .ok id ∧ id.hex = Text.asciiLower text := by
  obtain ⟨id, hid, hhex⟩ := h.exists_parse
  refine ⟨id, ?_, hhex⟩
  rw [idOf, hid]
  rfl

/-- A text is read as the index of a log if it denotes a number of 64 bits. -/
theorem logIndex_of_denotes {text : String} {n : Nat} (h : Numeral.Denotes text n)
    (hn : n < UInt64.size) : logIndex text = .ok n := by
  unfold logIndex
  rw [Numeral.unsigned?_eq_some_iff.mpr h, Option.filter_some, if_pos (decide_eq_true hn)]

theorem logIndex_of_not_denotes {text : String}
    (h : ¬∃ n < UInt64.size, Numeral.Denotes text n) :
    ∃ message, logIndex text = .error (.badRequest message) := by
  have hnone : (Numeral.unsigned? text.toList).filter (· < UInt64.size) = none := by
    rw [Option.filter_eq_none_iff]
    intro n hn hlt
    exact h ⟨n, of_decide_eq_true hlt, Numeral.unsigned?_eq_some_iff.mp hn⟩
  unfold logIndex
  rw [hnone]
  exact ⟨_, rfl⟩

end Route

namespace Store

variable (s : Store)

/-- A span is stored under ids that are shown as the texts in lower case. -/
def HasSpan (trace span : String) : Prop :=
  ∃ ref : SpanRef, ref.trace.hex = Text.asciiLower trace ∧ ref.span.hex = Text.asciiLower span ∧
    (s.span? ref).isSome = true

/-- A metric is stored under the id that is shown as the text in lower case. -/
def HasMetric (text : String) : Prop :=
  ∃ id : MetricId, id.hex = Text.asciiLower text ∧ (s.metrics.get? id).isSome = true

/-- A log is stored at the position that the text denotes. -/
def HasLog (text : String) : Prop :=
  ∃ n < s.logs.size, Numeral.Denotes text n

theorem hasSpan_iff {trace span : String} {ref : SpanRef}
    (htrace : ref.trace.hex = Text.asciiLower trace) (hspan : ref.span.hex = Text.asciiLower span) :
    s.HasSpan trace span ↔ (s.span? ref).isSome = true := by
  constructor
  · rintro ⟨other, hother, hotherSpan, hstored⟩
    obtain rfl : other = ref := by
      cases other
      cases ref
      rw [SpanRef.mk.injEq]
      exact ⟨Id.hex_injective (hother.trans htrace.symm),
        Id.hex_injective (hotherSpan.trans hspan.symm)⟩
    exact hstored
  · exact fun hstored => ⟨ref, htrace, hspan, hstored⟩

theorem hasMetric_iff {text : String} {id : MetricId} (h : id.hex = Text.asciiLower text) :
    s.HasMetric text ↔ (s.metrics.get? id).isSome = true := by
  constructor
  · rintro ⟨other, hother, hstored⟩
    obtain rfl : other = id := Id.hex_injective (hother.trans h.symm)
    exact hstored
  · exact fun hstored => ⟨id, h, hstored⟩

theorem hasLog_iff {text : String} {n : Nat} (h : Numeral.Denotes text n) :
    s.HasLog text ↔ n < s.logs.size := by
  constructor
  · rintro ⟨m, hm, hdenotes⟩
    exact hdenotes.unique h ▸ hm
  · exact fun hn => ⟨n, hn, h⟩

end Store

namespace Http.Request

variable {r : Request} (site : Site) (s : Store)

theorem Gets.judges_span {trace span : String} (h : r.Gets (.span trace span)) :
    (Query.respond site s r).1.Judges (Id.IsText .trace trace ∧ Id.IsText .span span)
      (s.HasSpan trace span) := by
  refine h.judges site s (fun hbad => ?_) ?_
  · -- the trace is read first
    by_cases htrace : Id.IsText .trace trace
    · obtain ⟨traceId, htraceId, -⟩ := Route.idOf_of_isText htrace
      obtain ⟨message, hspan⟩ := Route.idOf_of_not_isText fun hspan => hbad ⟨htrace, hspan⟩
      refine ⟨message, ?_⟩
      rw [Route.query, htraceId, hspan]
      rfl
    · obtain ⟨message, htrace⟩ := Route.idOf_of_not_isText htrace
      refine ⟨message, ?_⟩
      rw [Route.query, htrace]
      rfl
  · rintro ⟨htrace, hspan⟩
    obtain ⟨traceId, htraceId, htraceHex⟩ := Route.idOf_of_isText htrace
    obtain ⟨spanId, hspanId, hspanHex⟩ := Route.idOf_of_isText hspan
    refine ⟨.span ⟨traceId, spanId⟩, ?_, ?_⟩
    · rw [Route.query, htraceId, hspanId]
      rfl
    · have hiff : s.HasSpan trace span ↔ (s.span? ⟨traceId, spanId⟩).isSome = true :=
        s.hasSpan_iff htraceHex hspanHex
      rw [Store.answer?, Option.isSome_map, hiff]

theorem Gets.judges_metric {text : String} (h : r.Gets (.metric text)) :
    (Query.respond site s r).1.Judges (Id.IsText .metric text) (s.HasMetric text) := by
  refine h.judges site s (fun hbad => ?_) fun hgood => ?_
  · obtain ⟨message, hid⟩ := Route.idOf_of_not_isText hbad
    refine ⟨message, ?_⟩
    rw [Route.query, hid]
    rfl
  · obtain ⟨id, hid, hhex⟩ := Route.idOf_of_isText hgood
    refine ⟨.metric id, ?_, ?_⟩
    · rw [Route.query, hid]
      rfl
    · rw [Store.answer?, Option.isSome_map, s.hasMetric_iff hhex]

theorem Gets.judges_log {index : String} (h : r.Gets (.log index)) :
    (Query.respond site s r).1.Judges (∃ n < UInt64.size, Numeral.Denotes index n)
      (s.HasLog index) := by
  refine h.judges site s (fun hbad => ?_) ?_
  · obtain ⟨message, hindex⟩ := Route.logIndex_of_not_denotes hbad
    refine ⟨message, ?_⟩
    rw [Route.query, hindex]
    rfl
  · rintro ⟨n, hn, hdenotes⟩
    refine ⟨.log n, ?_, ?_⟩
    · rw [Route.query, Route.logIndex_of_denotes hdenotes hn]
      rfl
    · rw [Store.answer?, Option.isSome_map, s.hasLog_iff hdenotes, Option.isSome_iff_ne_none, ne_eq,
        Array.getElem?_eq_none_iff, not_le]

/-- Parameters that are no text make a bad request. -/
theorem code_of_not_decoded {sent : Route} (hget : r.method = .get)
    (hpath : Route.ofPath? r.path = some sent) (hdecode : sent.decode? = none) :
    (Query.respond site s r).1.status.code = 400 := by
  have hreset : sent ≠ .reset := by
    rintro rfl
    cases hdecode
  rw [respond_of_get hget hpath hreset]
  unfold Query.routeResponse
  simp only [hdecode]
  rfl

end Http.Request

namespace Query

open Http (Request)

/-- **Lookups judge their parameters.**  In every store a GET of a span, a metric or a log is a bad
request exactly if a parameter is not well-formed, not found exactly if all are well-formed but
nothing is stored under them, and answered with a document otherwise.  The id of a trace is
well-formed if it is 32 hexadecimal digits of either case, that of a span or a metric if it is 16.
The position of a log is well-formed if it is one or more decimal digits, in front of which a plus
sign may stand, that denote a number of 64 bits.  Parameters are percent-decoded, and what does not
decode to text is a bad request too.  Any texts are the parameters of some path, but that the last
one is never empty. -/
theorem judges_parameters (site : Site) (s : Store) :
    (∀ trace span, ∀ r : Request, r.Gets (.span trace span) →
      (respond site s r).1.Judges
        ((trace.length = 32 ∧ Hex.IsTextOfEitherCase trace) ∧
          span.length = 16 ∧ Hex.IsTextOfEitherCase span)
        (s.HasSpan trace span)) ∧
    (∀ id, ∀ r : Request, r.Gets (.metric id) →
      (respond site s r).1.Judges (id.length = 16 ∧ Hex.IsTextOfEitherCase id) (s.HasMetric id)) ∧
    (∀ index, ∀ r : Request, r.Gets (.log index) →
      (respond site s r).1.Judges (∃ n < UInt64.size, Numeral.Denotes index n) (s.HasLog index)) ∧
    (∀ r : Request, ∀ sent, r.method = .get → Route.ofPath? r.path = some sent →
      sent.decode? = none → (respond site s r).1.status.code = 400) ∧
    ∀ route, (∃ r : Request, r.Gets route) ↔ route.last? ≠ some "" :=
  ⟨fun _ _ _ h => h.judges_span site s, fun _ _ h => h.judges_metric site s,
    fun _ _ h => h.judges_log site s,
    fun _ _ hget hpath hdecode => Request.code_of_not_decoded site s hget hpath hdecode,
    Route.exists_gets_iff⟩

/-- The position of a log is not just decimal digits: a plus sign in front is accepted, and digits
that denote a number of more than 64 bits are a bad request. -/
theorem log_parameters_beyond_digits :
    let site : Site := ⟨[], 0⟩
    let get (target : String) : Request := ⟨.get, target, [], [], ""⟩
    let signed := get "/api/log/+0"
    let large := get "/api/log/18446744073709551616"
    (signed.Gets (.log "+0") ∧ ¬Numeral.IsDecimal "+0" ∧
      (respond site .empty signed).1.status.code = 404) ∧
    large.Gets (.log "18446744073709551616") ∧ Numeral.IsDecimal "18446744073709551616" ∧
      (respond site .empty large).1.status.code = 400 := by
  refine ⟨⟨⟨rfl, .log "+0", by decide, by decide⟩, by decide, by decide⟩,
    ⟨rfl, .log "18446744073709551616", by decide, by decide⟩, by decide, by decide⟩

end Query

end Telemetry
