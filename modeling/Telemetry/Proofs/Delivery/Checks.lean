import Telemetry.Delivery.OverHttp
import Telemetry.Proofs.Otlp.MalformedIds
import Telemetry.Proofs.Text

/-!
# The checks of an export request

An export request over HTTP has to name a content type (`Delivery.Names`), to be unpacked as its
content encoding says (`Delivery.Unpacks`), to be read as its content type says, and to carry no
malformed id.  A request without a content type is `IsUntyped`, and one that fails a later check
`IsMalformed`.  For each check there is a lemma for its success (`contentType_of_names`,
`body_of_unpacks`) and one for its failure, and one of the two applies (`names_or_isUntyped`,
`unpacks_or_isMisencoded`).

`post_cases` puts the checks one behind the other, and `status_of_posted` says which status
every request is answered with, and that one that is refused leaves the store as it was.
-/

namespace Telemetry

namespace Http

/-- The value of a header is no text iff it has a byte that is not visible. -/
theorem visible?_eq_none_iff {value : Bytes} :
    visible? value = none ↔ ∃ b ∈ value, isVisible b = false := by
  have hlow {b : UInt8} (h : isVisible b = true) : b.toNat < 128 := by
    simp only [isVisible, Bool.or_eq_true, beq_iff_eq, Bool.and_eq_true, decide_eq_true_eq,
      UInt8.le_iff_toNat_le] at h
    rcases h with rfl | ⟨_, h⟩
    · decide
    · exact Nat.lt_of_le_of_lt h (by decide)
  unfold visible?
  by_cases hall : value.all isVisible = true
  · have hbytes : ∀ b ∈ value, b.toNat < 128 := fun b hb => hlow (List.all_eq_true.mp hall b hb)
    rw [if_pos hall, ← Text.utf8_ofNat hbytes, Bytes.text?_utf8, Text.utf8_ofNat hbytes]
    refine iff_of_false (fun h => nomatch h) ?_
    rintro ⟨b, hb, hnot⟩
    rw [List.all_eq_true.mp hall b hb] at hnot
    cases hnot
  · rw [if_neg hall]
    simpa using hall

namespace Failure

/-- The client is at fault, and there is no status that says more than that. -/
def IsBadRequest (e : Error) : Prop :=
  (ofError e).status = .badRequest

end Failure

end Http

namespace Delivery

open Http

/-! ### What a request says of itself -/

/-- The first content type of the request is visible text that names the type: before the first
semicolon, without the blanks around it, and in letters of either case. -/
def Names (r : Request) (type : ContentType) : Prop :=
  ∃ value text, r.header? "content-type" = some value ∧ visible? value = some text ∧
    Text.sameIgnoringCase (ContentType.essence text) type.name = true

/-- The first content type of the request is missing or not visible, or it names no type that export
requests have. -/
inductive IsUntyped (r : Request) : Prop where
  | missing : r.header? "content-type" = none → IsUntyped r
  | notVisible {value : Bytes} : r.header? "content-type" = some value →
      (∃ b ∈ value, isVisible b = false) → IsUntyped r
  | unknown {value : Bytes} {text : String} : r.header? "content-type" = some value →
      visible? value = some text →
      (∀ type : ContentType,
        Text.sameIgnoringCase (ContentType.essence text) type.name = false) → IsUntyped r

/-- The first content encoding of the request is visible text and is this text but for the blanks
around it. -/
def HasEncoding (r : Request) (encoding : String) : Prop :=
  ∃ value text, r.header? "content-encoding" = some value ∧ visible? value = some text ∧
    Text.trim text = encoding

/-- The request says that its body is compressed with gzip, in letters of either case. -/
def IsCompressed (r : Request) : Prop :=
  ∃ encoding, HasEncoding r encoding ∧ Text.sameIgnoringCase encoding "gzip" = true

/-- The body of a request before it was encoded: the body itself if there is no content encoding or
a blank one, and what it is decompressed to if it is compressed. -/
inductive Unpacks (r : Request) : Bytes → Prop where
  | absent : r.header? "content-encoding" = none → Unpacks r r.body
  | blank : HasEncoding r "" → Unpacks r r.body
  | compressed {body : Bytes} : IsCompressed r → Gzip.decode? r.body = some body → Unpacks r body

/-- The first content encoding of the request is not visible or not gzip, or the body is not
compressed as it says. -/
inductive IsMisencoded (r : Request) : Prop where
  | notVisible {value : Bytes} : r.header? "content-encoding" = some value →
      (∃ b ∈ value, isVisible b = false) → IsMisencoded r
  | unknown {encoding : String} : HasEncoding r encoding → encoding ≠ "" →
      Text.sameIgnoringCase encoding "gzip" = false → IsMisencoded r
  | corrupt : IsCompressed r → Gzip.decode? r.body = none → IsMisencoded r

/-- A request of a content type fails one of the checks that come after that of its type: it cannot
be unpacked, what it is unpacked to cannot be read, or what is read has an id of a wrong length. -/
inductive IsMalformed (signal : Signal) (type : ContentType) (r : Request) : Prop where
  | misencoded : IsMisencoded r → IsMalformed signal type r
  | unreadable {body : Bytes} {e : Error} : Unpacks r body → type.decode signal body = .error e →
      IsMalformed signal type r
  | brokenId {body : Bytes} {payload : Payload} {id : CarriedId} : Unpacks r body →
      type.decode signal body = .ok payload → id ∈ payload.ids → id.IsMalformed →
      IsMalformed signal type r

/-! ### The content type -/

/-- A text names the type whose name its essence is. -/
theorem parse?_eq_some_iff {text : String} {type : ContentType} :
    ContentType.parse? text = some type ↔
      Text.sameIgnoringCase (ContentType.essence text) type.name = true := by
  have hnames : Text.asciiLower ContentType.protobuf.name ≠ Text.asciiLower ContentType.json.name := by
    decide
  unfold ContentType.parse?
  simp only [Text.sameIgnoringCase, beq_iff_eq]
  split_ifs with hprotobuf hjson <;> cases type <;> simp_all

theorem contentType_of_names {r : Request} {type : ContentType} (h : Names r type) :
    contentType r = .ok type := by
  obtain ⟨value, text, hvalue, htext, hname⟩ := h
  unfold contentType
  simp only [hvalue, htext, Option.bind_some, Option.getD_some, parse?_eq_some_iff.mpr hname]

theorem contentType_of_isUntyped {r : Request} (h : IsUntyped r) :
    ∃ value, contentType r = .error (.contentType value) := by
  unfold contentType
  have hempty : ContentType.parse? "" = none := by decide
  cases h with
  | missing hvalue =>
    simp only [hvalue, Option.bind_none, Option.getD_none, hempty]
    exact ⟨"", rfl⟩
  | notVisible hvalue hbytes =>
    simp only [hvalue, Option.bind_some, visible?_eq_none_iff.mpr hbytes, Option.getD_none, hempty]
    exact ⟨"", rfl⟩
  | @unknown value text hvalue htext hnames =>
    have hnone : ContentType.parse? text = none := by
      rw [Option.eq_none_iff_forall_ne_some]
      intro type hparse
      rw [parse?_eq_some_iff, hnames type] at hparse
      cases hparse
    simp only [hvalue, htext, Option.bind_some, Option.getD_some, hnone]
    exact ⟨text, rfl⟩

theorem names_or_isUntyped (r : Request) : (∃ type, Names r type) ∨ IsUntyped r := by
  cases hvalue : r.header? "content-type" with
  | none => exact .inr (.missing hvalue)
  | some value =>
    cases htext : visible? value with
    | none => exact .inr (.notVisible hvalue (visible?_eq_none_iff.mp htext))
    | some text =>
      by_cases hname : ∃ type : ContentType,
          Text.sameIgnoringCase (ContentType.essence text) type.name = true
      · obtain ⟨type, hname⟩ := hname
        exact .inl ⟨type, value, text, hvalue, htext, hname⟩
      · exact .inr (.unknown hvalue htext (by simpa using hname))

/-! ### The body -/

theorem encoding_of_hasEncoding {r : Request} {e : String} (h : HasEncoding r e) :
    encoding r = e := by
  obtain ⟨value, text, hvalue, htext, htrim⟩ := h
  rw [← htrim]
  simp only [encoding, hvalue, htext, Option.getD_some]

theorem encoding_of_isCompressed {r : Request} (h : IsCompressed r) :
    encoding r ≠ "" ∧ Text.sameIgnoringCase (encoding r) "gzip" = true := by
  obtain ⟨e, hencoding, hsame⟩ := h
  rw [encoding_of_hasEncoding hencoding]
  refine ⟨?_, hsame⟩
  rintro rfl
  exact absurd hsame (by decide)

theorem body_of_unpacks {r : Request} {b : Bytes} (h : Unpacks r b) : body r = .ok b := by
  unfold body
  cases h with
  | absent hvalue => simp only [encoding, hvalue, if_true]
  | blank hblank => simp only [encoding_of_hasEncoding hblank, if_true]
  | compressed hgzip hdecode =>
    obtain ⟨hne, hsame⟩ := encoding_of_isCompressed hgzip
    simp only [hne, hsame, hdecode, if_true, if_false]

theorem body_of_isMisencoded {r : Request} (h : IsMisencoded r) :
    ∃ e, body r = .error e ∧ Failure.IsBadRequest e := by
  unfold body
  cases h with
  | notVisible hvalue hbytes =>
    refine ⟨.contentEncoding "<binary>", ?_, rfl⟩
    have hencoding : encoding r = "<binary>" := by
      simp only [encoding, hvalue, visible?_eq_none_iff.mpr hbytes, Option.getD_none]
      decide
    simp only [hencoding]
    rfl
  | @unknown e hencoding hne hsame =>
    refine ⟨.contentEncoding e, ?_, rfl⟩
    simp only [encoding_of_hasEncoding hencoding, hne, hsame, if_false, Bool.false_eq_true]
  | corrupt hgzip hdecode =>
    obtain ⟨hne, hsame⟩ := encoding_of_isCompressed hgzip
    refine ⟨.gzip "malformed member", ?_, rfl⟩
    simp only [hne, hsame, hdecode, if_true, if_false]

theorem unpacks_or_isMisencoded (r : Request) : (∃ b, Unpacks r b) ∨ IsMisencoded r := by
  cases hvalue : r.header? "content-encoding" with
  | none => exact .inl ⟨r.body, .absent hvalue⟩
  | some value =>
    cases htext : visible? value with
    | none => exact .inr (.notVisible hvalue (visible?_eq_none_iff.mp htext))
    | some text =>
      have hencoding : HasEncoding r (Text.trim text) := ⟨value, text, hvalue, htext, rfl⟩
      by_cases hblank : Text.trim text = ""
      · exact .inl ⟨r.body, .blank (hblank ▸ hencoding)⟩
      · cases hsame : Text.sameIgnoringCase (Text.trim text) "gzip" with
        | false => exact .inr (.unknown hencoding hblank hsame)
        | true =>
          cases hdecode : Gzip.decode? r.body with
          | none => exact .inr (.corrupt ⟨_, hencoding, hsame⟩ hdecode)
          | some b => exact .inl ⟨b, .compressed ⟨_, hencoding, hsame⟩ hdecode⟩

/-! ### The checks in order -/

theorem isBadRequest_of_decode {type : ContentType} {signal : Signal} {b : Bytes} {e : Error}
    (h : type.decode signal b = .error e) : Failure.IsBadRequest e := by
  unfold ContentType.decode at h
  split at h <;> split at h <;> cases h <;> rfl

theorem isBadRequest_of_ingest {s : Store} {clock : Clock} {payload : Payload}
    {sender : RequestMeta} {e : Error} (h : (s.ingest clock payload sender).1 = .error e) :
    Failure.IsBadRequest e := by
  obtain ⟨_, id, _, _, _, _, rfl⟩ := (reads_ingest s clock payload sender).error_eq h
  rfl

theorem store_of_ingest {s : Store} {clock : Clock} {payload : Payload} {sender : RequestMeta}
    {e : Error} (h : (s.ingest clock payload sender).1 = .error e) :
    (s.ingest clock payload sender).2.store = s := by
  unfold Store.ingest at h ⊢
  split at h
  · cases h
  · rfl

section Outcome

variable {s : Store} {clock : Clock} {signal : Signal} {r : Request} {type : ContentType}

/-- Nothing is taken in of what cannot be unpacked or read. -/
theorem outcome_of_payload {e : Error} (h : payload signal r = .error e) :
    outcome s clock signal r = (.error e, .none s) := by
  unfold outcome
  rw [h]

theorem outcome_of_isUntyped (s : Store) (clock : Clock) (signal : Signal) (h : IsUntyped r) :
    ∃ value, outcome s clock signal r = (.error (.contentType value), .none s) := by
  obtain ⟨value, htype⟩ := contentType_of_isUntyped h
  refine ⟨value, ?_⟩
  have hpayload : payload signal r = .error (.contentType value) := by
    unfold payload
    rw [htype]
    rfl
  exact outcome_of_payload hpayload

/-- What is decoded is taken in. -/
theorem outcome_of_decode {b : Bytes} {content : Payload} (htype : Names r type)
    (hbody : Unpacks r b) (hdecode : type.decode signal b = .ok content) :
    outcome s clock signal r = ((s.ingest clock content (httpSender r)).1.map fun _ => type,
      (s.ingest clock content (httpSender r)).2) := by
  unfold outcome payload
  rw [contentType_of_names htype, body_of_unpacks hbody]
  simp only [bind, Except.bind, hdecode]
  rfl

theorem outcome_of_isMalformed (s : Store) (clock : Clock) (htype : Names r type)
    (h : IsMalformed signal type r) :
    ∃ e effect, outcome s clock signal r = (.error e, effect) ∧ Failure.IsBadRequest e ∧
      effect.store = s := by
  have hnamed := contentType_of_names htype
  cases h with
  | misencoded hbody =>
    obtain ⟨e, hbody, hbad⟩ := body_of_isMisencoded hbody
    have hpayload : payload signal r = .error e := by
      unfold payload
      rw [hnamed, hbody]
      rfl
    exact ⟨e, .none s, outcome_of_payload hpayload, hbad, rfl⟩
  | @unreadable b e hbody hdecode =>
    have hpayload : payload signal r = .error e := by
      unfold payload
      rw [hnamed, body_of_unpacks hbody]
      simp only [bind, Except.bind, hdecode]
    exact ⟨e, .none s, outcome_of_payload hpayload, isBadRequest_of_decode hdecode, rfl⟩
  | @brokenId b content id hbody hdecode hmem hbroken =>
    have hreads := reads_ingest s clock content (httpSender r)
    obtain ⟨e, he⟩ := hreads.fails_iff.mpr ⟨id, hmem, hbroken⟩
    refine ⟨e, (s.ingest clock content (httpSender r)).2, ?_, isBadRequest_of_ingest he,
      store_of_ingest he⟩
    rw [outcome_of_decode htype hbody hdecode, he]
    rfl

theorem outcome_of_wellFormed (s : Store) (clock : Clock) (htype : Names r type)
    (h : ¬IsMalformed signal type r) :
    ∃ effect, outcome s clock signal r = (.ok type, effect) := by
  rcases unpacks_or_isMisencoded r with ⟨b, hbody⟩ | hbody
  · cases hdecode : type.decode signal b with
    | error e => exact absurd (.unreadable hbody hdecode) h
    | ok content =>
      have hreads := reads_ingest s clock content (httpSender r)
      cases hresult : (s.ingest clock content (httpSender r)).1 with
      | ok _ =>
        refine ⟨(s.ingest clock content (httpSender r)).2, ?_⟩
        rw [outcome_of_decode htype hbody hdecode, hresult]
        rfl
      | error e =>
        obtain ⟨id, hmem, hbroken⟩ := hreads.fails_iff.mp ⟨e, hresult⟩
        exact absurd (.brokenId hbody hdecode hmem hbroken) h
  · exact absurd (.misencoded hbody) h

theorem post_of_outcome_eq_ok {effect : Effect}
    (h : outcome s clock signal r = (.ok type, effect)) :
    post s clock signal r = (.ofBody .ok type.name type.accepted, effect) := by
  unfold post
  rw [h]

theorem post_of_outcome_eq_error {e : Error} {effect : Effect}
    (h : outcome s clock signal r = (.error e, effect)) :
    post s clock signal r =
      ((Failure.ofError e).toResponse, effect.warn (.rejected signal r.peer e)) := by
  unfold post
  rw [h]

/-- **Every request has one of three outcomes.**  A request without a content type is answered with
415 and a malformed one with 400, and both leave the store as it was.  Every other request is
answered with 200 and its content type. -/
theorem post_cases (s : Store) (clock : Clock) (signal : Signal) (r : Request) :
    (IsUntyped r ∧ (post s clock signal r).1.status = .unsupportedMediaType ∧
      (post s clock signal r).2.store = s) ∨
    (∃ type, Names r type ∧ IsMalformed signal type r ∧
      (post s clock signal r).1.status = .badRequest ∧ (post s clock signal r).2.store = s) ∨
    ∃ type, Names r type ∧ ¬IsMalformed signal type r ∧ (post s clock signal r).1.status = .ok ∧
      (post s clock signal r).1.contentType = some type.name := by
  rcases names_or_isUntyped r with ⟨type, htype⟩ | huntyped
  · by_cases hmalformed : IsMalformed signal type r
    · obtain ⟨e, effect, hout, hbad, hstore⟩ := outcome_of_isMalformed s clock htype hmalformed
      refine .inr (.inl ⟨type, htype, hmalformed, ?_⟩)
      rw [post_of_outcome_eq_error hout]
      exact ⟨hbad, hstore⟩
    · obtain ⟨effect, hout⟩ := outcome_of_wellFormed s clock htype hmalformed
      refine .inr (.inr ⟨type, htype, hmalformed, ?_⟩)
      rw [post_of_outcome_eq_ok hout]
      exact ⟨rfl, rfl⟩
  · obtain ⟨value, hout⟩ := outcome_of_isUntyped s clock signal huntyped
    refine .inl ⟨huntyped, ?_⟩
    rw [post_of_outcome_eq_error hout]
    exact ⟨rfl, rfl⟩

end Outcome

/-! ### Main statement -/

theorem Names.unique {r : Request} {type other : ContentType} (h : Names r type)
    (h' : Names r other) : type = other :=
  Except.ok.inj ((contentType_of_names h).symm.trans (contentType_of_names h'))

theorem IsUntyped.not_names {r : Request} (h : IsUntyped r) (type : ContentType) :
    ¬Names r type := by
  intro htype
  obtain ⟨value, hvalue⟩ := contentType_of_isUntyped h
  rw [contentType_of_names htype] at hvalue
  cases hvalue

theorem respond_of_path {s : Store} {clock : Clock} {signal : Signal} {r : Request}
    (hmethod : r.method = .post) (hpath : r.path = (path signal).toList) :
    respond s clock r = post s clock signal r := by
  have hsignal : signalAt? (path signal).toList = some signal := by
    cases signal <;> decide
  unfold respond
  rw [hpath, hsignal]
  exact if_pos hmethod

/-- **An export request is answered by a fixed order of checks, and one that is refused leaves no
trace.**  A request that is posted to the path of a signal is answered with 415 iff it has no content
type that export requests have, whatever else is wrong with it.  If it has one, it is answered with
400 iff its content encoding is not visible or not gzip, or its body cannot be decompressed, or what
the content type says cannot be read from it, or it carries an id of a wrong length, and with 200
and the same content type otherwise.  It is answered with nothing else, and unless it is answered
with 200, the store stays as it was. -/
theorem status_of_posted (s : Store) (clock : Clock) (signal : Signal) (r : Request)
    (hmethod : r.method = .post) (hpath : r.path = (path signal).toList) :
    let answer := respond s clock r
    (answer.1.status.code = 415 ↔ IsUntyped r) ∧
    (IsUntyped r ↔ ∀ type, ¬Names r type) ∧
    (∀ type, Names r type →
      (answer.1.status.code = 400 ↔ IsMalformed signal type r) ∧
      (answer.1.status.code = 200 ↔ ¬IsMalformed signal type r) ∧
      (answer.1.status.code = 200 → answer.1.contentType = some type.name)) ∧
    answer.1.status.code ∈ [415, 400, 200] ∧
    (answer.1.status.code ≠ 200 → answer.2.store = s) := by
  rw [respond_of_path hmethod hpath]
  have huntyped : IsUntyped r ↔ ∀ type, ¬Names r type := by
    refine ⟨fun h type => h.not_names type, fun h => ?_⟩
    rcases names_or_isUntyped r with ⟨type, htype⟩ | huntyped
    · exact absurd htype (h type)
    · exact huntyped
  dsimp only
  rcases post_cases s clock signal r with ⟨h, hstatus, hstore⟩ |
    ⟨type, htype, hmalformed, hstatus, hstore⟩ | ⟨type, htype, hwell, hstatus, hcontent⟩
  · rw [hstatus]
    refine ⟨iff_of_true rfl h, huntyped, fun type htype => ?_, by decide, fun _ => hstore⟩
    exact absurd htype (h.not_names type)
  · rw [hstatus]
    have htyped : ¬IsUntyped r := fun h => h.not_names type htype
    refine ⟨iff_of_false (by decide) htyped, huntyped, fun other hother => ?_, by decide,
      fun _ => hstore⟩
    obtain rfl := htype.unique hother
    exact ⟨iff_of_true rfl hmalformed, iff_of_false (by decide) (fun h => h hmalformed),
      fun h => absurd h (by decide)⟩
  · rw [hstatus]
    have htyped : ¬IsUntyped r := fun h => h.not_names type htype
    refine ⟨iff_of_false (by decide) htyped, huntyped, fun other hother => ?_, by decide,
      fun h => absurd rfl h⟩
    obtain rfl := htype.unique hother
    exact ⟨iff_of_false (by decide) hwell, iff_of_true rfl hwell, fun _ => hcontent⟩

/-- An export request that says that it is compressed and is not.  The values of its content type
are given. -/
def corruptRequest (types : List String) : Request where
  method := .post
  target := "/v1/logs?tenant=blue"
  headers := types.map (fun type => ("Content-Type", Text.utf8 type)) ++
    [("content-encoding", Text.utf8 " GZip ")]
  body := Text.utf8 "\x7b\x7d"
  peer := "127.0.0.1:4000"

/-- The first content type counts, and a wrong one counts more than a corrupt body. -/
theorem status_of_posted_corruptRequest :
    let s := Store.empty.internRequest (.bare .grpc "a")
    let untyped := respond s 0 (corruptRequest ["text/plain", "application/json"])
    let typed := respond s 0 (corruptRequest ["Application/JSON ; charset=utf-8", "text/plain"])
    untyped.1.status.code = 415 ∧ untyped.2.store = s ∧
      typed.1.status.code = 400 ∧ typed.2.store = s := by
  intro s untyped typed
  have huntyped : IsUntyped (corruptRequest ["text/plain", "application/json"]) := by
    refine @IsUntyped.unknown _ (Text.utf8 "text/plain") "text/plain" rfl rfl fun type => ?_
    cases type <;> decide
  have hnames : Names (corruptRequest ["Application/JSON ; charset=utf-8", "text/plain"]) .json :=
    ⟨Text.utf8 "Application/JSON ; charset=utf-8", "Application/JSON ; charset=utf-8", rfl, rfl,
      by decide⟩
  have hmalformed : IsMalformed .logs .json
      (corruptRequest ["Application/JSON ; charset=utf-8", "text/plain"]) := by
    have hgzip : IsCompressed
        (corruptRequest ["Application/JSON ; charset=utf-8", "text/plain"]) :=
      ⟨"GZip", ⟨Text.utf8 " GZip ", " GZip ", rfl, rfl, by decide⟩, by decide⟩
    exact .misencoded (.corrupt hgzip (by decide))
  obtain ⟨h415, -, -, -, hstore⟩ :=
    status_of_posted s 0 .logs (corruptRequest ["text/plain", "application/json"]) rfl (by decide)
  obtain ⟨-, -, h400, -, hstore'⟩ := status_of_posted s 0 .logs
    (corruptRequest ["Application/JSON ; charset=utf-8", "text/plain"]) rfl (by decide)
  have hcode : untyped.1.status.code = 415 := h415.mpr huntyped
  have hcode' : typed.1.status.code = 400 := (h400 .json hnames).1.mpr hmalformed
  refine ⟨hcode, hstore ?_, hcode', hstore' ?_⟩
  · show untyped.1.status.code ≠ 200
    rw [hcode]
    decide
  · show typed.1.status.code ≠ 200
    rw [hcode']
    decide

end Delivery

end Telemetry
