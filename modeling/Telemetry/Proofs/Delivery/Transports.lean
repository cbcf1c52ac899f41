import Telemetry.Delivery.OverGrpc
import Telemetry.Proofs.Delivery.Checks
import Telemetry.Proofs.Json.Document
import Telemetry.Proofs.Store.Senders

/-!
# One payload over every transport

A payload reaches the store by a call, which carries it as it is, or by a request that is posted,
which carries it in one of two content types, compressed or not.  A `Way` is one or the other with
all that may differ between two deliveries of one payload, and `Way.Delivers` says that what is
decoded on the way is that payload.

Whatever the way, the payload is taken in with the sender that the way tells
(`Way.of_ingest_eq_ok`, `Way.of_ingest_eq_error`), so `transports_agree` comes down to what two
senders of one payload have in common.
-/

namespace Telemetry.Delivery

open Http

/-- A way in which a payload is delivered. -/
inductive Way where
  /-- A call from a peer, with metadata. -/
  | grpc (peer : String) (metadata : List (String × Bytes))
  /-- A request to the receiver. -/
  | http (r : Request)

namespace Way

/-- The payload is what is decoded on this way: a call carries it as it is, and a request that is
posted to the path of its signal carries it in the body, encoded as the headers say. -/
def Delivers (payload : Payload) : Way → Prop
  | .grpc _ _ => True
  | .http r => r.method = .post ∧ r.path = (path payload.signal).toList ∧
    ∃ type body, Names r type ∧ Unpacks r body ∧ type.decode payload.signal body = .ok payload

/-- What is kept of the request. -/
def sender : Way → RequestMeta
  | .grpc peer metadata => grpcSender peer metadata
  | .http r => httpSender r

/-- What the delivery does to a store. -/
def effect (s : Store) (clock : Clock) (payload : Payload) : Way → Effect
  | .grpc peer metadata => (call s clock peer metadata payload).2
  | .http r => (respond s clock r).2

/-- The delivery is answered with success. -/
def IsAccepted (s : Store) (clock : Clock) (payload : Payload) : Way → Prop
  | .grpc peer metadata => (call s clock peer metadata payload).1 = .ok []
  | .http r => (respond s clock r).1.status.code = 200

/-- The delivery is answered with "invalid argument", or with 400. -/
def IsRejected (s : Store) (clock : Clock) (payload : Payload) : Way → Prop
  | .grpc peer metadata => ∃ text, (call s clock peer metadata payload).1 = .invalidArgument text
  | .http r => (respond s clock r).1.status.code = 400

end Way

section Answers

variable {s : Store} {clock : Clock} {payload : Payload} {e : Error}

theorem call_of_ingest_eq_ok {peer : String} {metadata : List (String × Bytes)}
    (h : (s.ingest clock payload (grpcSender peer metadata)).1 = .ok ()) :
    call s clock peer metadata payload =
      (.ok [], (s.ingest clock payload (grpcSender peer metadata)).2) := by
  unfold call
  generalize s.ingest clock payload (grpcSender peer metadata) = out at h ⊢
  obtain ⟨result, effect⟩ := out
  obtain rfl : result = .ok () := h
  rfl

theorem call_of_ingest_eq_error {peer : String} {metadata : List (String × Bytes)}
    (h : (s.ingest clock payload (grpcSender peer metadata)).1 = .error e) :
    call s clock peer metadata payload = (.invalidArgument e.message,
      (s.ingest clock payload (grpcSender peer metadata)).2.warn
        (.rejected payload.signal peer e)) := by
  unfold call
  generalize s.ingest clock payload (grpcSender peer metadata) = out at h ⊢
  obtain ⟨result, effect⟩ := out
  obtain rfl : result = .error e := h
  rfl

/-- What a request delivers is what is taken in when it is answered. -/
theorem respond_of_delivers (s : Store) (clock : Clock) {r : Request}
    (h : (Way.http r).Delivers payload) :
    respond s clock r = post s clock payload.signal r ∧
    ∃ type, outcome s clock payload.signal r =
      ((s.ingest clock payload (httpSender r)).1.map fun _ => type,
        (s.ingest clock payload (httpSender r)).2) := by
  obtain ⟨hmethod, hpath, type, body, htype, hbody, hdecode⟩ := h
  exact ⟨respond_of_path hmethod hpath, type, outcome_of_decode htype hbody hdecode⟩

theorem respond_of_ingest_eq_ok {r : Request} (hr : (Way.http r).Delivers payload)
    (h : (s.ingest clock payload (httpSender r)).1 = .ok ()) :
    ∃ type : ContentType, respond s clock r =
      (.ofBody .ok type.name type.accepted, (s.ingest clock payload (httpSender r)).2) := by
  obtain ⟨hrespond, type, hout⟩ := respond_of_delivers s clock hr
  rw [h] at hout
  exact ⟨type, hrespond.trans (post_of_outcome_eq_ok hout)⟩

theorem respond_of_ingest_eq_error {r : Request} (hr : (Way.http r).Delivers payload)
    (h : (s.ingest clock payload (httpSender r)).1 = .error e) :
    respond s clock r = ((Failure.ofError e).toResponse,
      (s.ingest clock payload (httpSender r)).2.warn (.rejected payload.signal r.peer e)) := by
  obtain ⟨hrespond, type, hout⟩ := respond_of_delivers s clock hr
  rw [h] at hout
  exact hrespond.trans (post_of_outcome_eq_error hout)

/-- What is taken in is answered with success, and the effect is that of taking it in. -/
theorem Way.of_ingest_eq_ok {way : Way} (hway : way.Delivers payload)
    (h : (s.ingest clock payload way.sender).1 = .ok ()) :
    way.IsAccepted s clock payload ∧
      way.effect s clock payload = (s.ingest clock payload way.sender).2 := by
  cases way with
  | grpc peer metadata =>
    have hcall := call_of_ingest_eq_ok h
    exact ⟨congrArg Prod.fst hcall, congrArg Prod.snd hcall⟩
  | http r =>
    obtain ⟨type, hrespond⟩ := respond_of_ingest_eq_ok hway h
    constructor
    · show (respond s clock r).1.status.code = 200
      rw [hrespond]
      rfl
    · exact congrArg Prod.snd hrespond

/-- What is refused is answered as malformed, and the store stays as it was. -/
theorem Way.of_ingest_eq_error {way : Way} (hway : way.Delivers payload)
    (h : (s.ingest clock payload way.sender).1 = .error e) :
    way.IsRejected s clock payload ∧ (way.effect s clock payload).store = s := by
  have hstore := store_of_ingest h
  cases way with
  | grpc peer metadata =>
    have hcall := call_of_ingest_eq_error h
    refine ⟨⟨e.message, congrArg Prod.fst hcall⟩, ?_⟩
    exact (congrArg (fun answer => answer.2.store) hcall).trans hstore
  | http r =>
    have hrespond := respond_of_ingest_eq_error hway h
    have hbad : (Failure.ofError e).status = .badRequest := isBadRequest_of_ingest h
    constructor
    · show (respond s clock r).1.status.code = 400
      rw [hrespond]
      exact congrArg Status.code hbad
    · exact (congrArg (fun answer => answer.2.store) hrespond).trans hstore

end Answers

/-- **The transports agree.**  One payload is delivered to one store, at one time, in any two ways:
by calls with any peer and metadata, or by requests with any peer and headers in whose bodies it
is found, in any content type, compressed or not.  If the payload has an id of a wrong length, every
delivery is rejected and leaves the store as it was.  If not, every delivery is accepted; the stores
that result differ in nothing but the sender among the requests and the request of the records that
were added, which is the digest of the sender's own metadata; and both warn about the same. -/
theorem transports_agree (s : Store) (clock : Clock) (payload : Payload) :
    ((∃ id ∈ payload.ids, id.IsMalformed) ∧ ∀ way : Way, way.Delivers payload →
      way.IsRejected s clock payload ∧ (way.effect s clock payload).store = s) ∨
    ((∀ id ∈ payload.ids, ¬id.IsMalformed) ∧
      (∀ way : Way, way.Delivers payload → way.IsAccepted s clock payload) ∧
      ∀ way other : Way, way.Delivers payload → other.Delivers payload →
        s.Corresponds way.sender other.sender (way.effect s clock payload).store
            (other.effect s clock payload).store ∧
          (way.effect s clock payload).warnings = (other.effect s clock payload).warnings) := by
  have hreads := reads_ingest s clock payload (.bare .grpc "")
  rcases s.ingest_senders clock payload with ⟨e, herror⟩ | ⟨hok, hsame⟩
  · refine .inl ⟨hreads.fails_iff.mp ⟨e, by rw [herror]⟩, fun way hway => ?_⟩
    exact Way.of_ingest_eq_error hway (e := e) (by rw [herror])
  · refine .inr ⟨fun id hid hbroken => ?_, fun way hway => ?_, fun way other hway hother => ?_⟩
    · obtain ⟨e, he⟩ := hreads.fails_iff.mpr ⟨id, hid, hbroken⟩
      rw [hok] at he
      cases he
    · exact (Way.of_ingest_eq_ok hway (hok way.sender)).1
    · rw [(Way.of_ingest_eq_ok hway (hok way.sender)).2,
        (Way.of_ingest_eq_ok hother (hok other.sender)).2]
      exact hsame way.sender other.sender

/-- Two spans without ids, so that the second one is dropped. -/
def twoSpans : Payload :=
  let span (name : String) : Otlp.Span := { Otlp.Span.blank with name }
  .traces ⟨[⟨none, [⟨none, [span "a", span "b"], ""⟩], ""⟩]⟩

/-- The two spans in protobuf. -/
def twoSpansInProtobuf : Bytes :=
  [0x0A, 12, 0x12, 10, 0x12, 3, 0x2A, 1, 97, 0x12, 3, 0x2A, 1, 98]

/-- The two spans in JSON. -/
def twoSpansInJson : Doc :=
  let span (name : String) : Doc := .map [("name", .string name)]
  .map [("resourceSpans", .array [.map [("scopeSpans", .array
    [.map [("spans", .array [span "a", span "b"])]])]])]

/-- A call, a compressed request in protobuf and one in JSON deliver the two spans, each from another
peer. -/
theorem transports_agree_twoSpans :
    let member : Bytes := [0x1F, 0x8B, 8, 0, 0, 0, 0, 0, 0, 0xFF, 1, 14, 0, 0xF1, 0xFF] ++
      twoSpansInProtobuf ++ [138, 108, 237, 11, 14, 0, 0, 0]
    let posted (type encoding : String) (body : Bytes) : Way :=
      .http ⟨.post, "/v1/traces", [("content-type", Text.utf8 type),
        ("content-encoding", Text.utf8 encoding)], body, "10.0.0.2:80"⟩
    let ways := [.grpc "10.0.0.1:90" [], posted "application/x-protobuf" "gzip" member,
      posted "application/json;charset=utf-8" "" (Text.utf8 twoSpansInJson.render)]
    ∀ way ∈ ways, way.Delivers twoSpans ∧ way.IsAccepted .empty 0 twoSpans ∧
      ∀ other ∈ ways, Store.empty.Corresponds way.sender other.sender
        (way.effect .empty 0 twoSpans).store (other.effect .empty 0 twoSpans).store := by
  intro member posted ways
  have hdelivers : ∀ way ∈ ways, way.Delivers twoSpans := by
    have hprotobuf : (posted "application/x-protobuf" "gzip" member).Delivers twoSpans := by
      refine ⟨rfl, by decide, .protobuf, twoSpansInProtobuf, ⟨_, _, rfl, rfl, by decide⟩, ?_, rfl⟩
      have hgzip : Gzip.decode? member = some twoSpansInProtobuf := by decide +kernel
      exact .compressed ⟨"gzip", ⟨_, _, rfl, rfl, by decide⟩, by decide⟩ hgzip
    have hjson : (posted "application/json;charset=utf-8" ""
        (Text.utf8 twoSpansInJson.render)).Delivers twoSpans := by
      refine ⟨rfl, by decide, .json, _, ⟨_, _, rfl, rfl, by decide⟩,
        .blank ⟨_, _, rfl, rfl, by decide⟩, ?_⟩
      have hplain : twoSpansInJson.HasPlainTags := by
        simp [twoSpansInJson, Doc.HasPlainTags, Doc.ItemsHavePlainTags, Doc.MembersHavePlainTags]
      unfold ContentType.decode ContentType.ofJson?
      rw [Doc.read?_render hplain]
      rfl
    simp only [ways, List.forall_mem_cons]
    exact ⟨trivial, hprotobuf, hjson, List.forall_mem_nil _⟩
  rcases transports_agree .empty 0 twoSpans with ⟨⟨id, hid, hbroken⟩, -⟩ | ⟨-, haccepted, hsame⟩
  · have hids : ∀ id ∈ twoSpans.ids, ¬id.IsMalformed := by decide
    exact absurd hbroken (hids id hid)
  · intro way hway
    have hway := hdelivers way hway
    exact ⟨hway, haccepted way hway, fun other hother =>
      (hsame way other hway (hdelivers other hother)).1⟩

end Telemetry.Delivery
