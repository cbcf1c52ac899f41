import Telemetry.Proofs.Record.Encoding
import Telemetry.Proofs.Store.Logs
import Telemetry.Proofs.Text.Boundary

/-!
# The short form of a text

Listings show a text whole if it has at most `summaryLimit` bytes and no line break, and else its
longest beginning of that sort with a mark behind it (`LogSummary.shorten_eq_self` and
`LogSummary.exists_shorten_eq`).  The beginning ends where no character is cut, so it is told by a
boundary: the greatest one up to which the text fits.

`LogSummary.shortenBytes?` gets there by looking at bytes.  It looks for a line break in the first
bytes, goes back from there or from the limit to a boundary, and cuts; each of these is stated to
give nothing where there are no such bytes, no position to go back to, or no text up to the cut.
That never happens, and the outcome is the same (`LogSummary.shortenBytes?_eq`).

Log records are stored with the short form of their text, so no listing shows a line break or more
than `summaryLimit` bytes and the mark (`summaries_are_longest_beginnings`).
-/

namespace Telemetry

namespace Bytes

/-- The first bytes of a byte string that has as many. -/
def first? (n : Nat) (bytes : Bytes) : Option Bytes :=
  if n ≤ bytes.length then some (bytes.take n) else none

end Bytes

/-- The beginning of a text up to a position at which no character is cut. -/
def Text.beginning? (s : String) (cut : Nat) : Option String :=
  if isBoundary (utf8 s) cut then Bytes.text? ((utf8 s).take cut) else none

namespace LogSummary

/-! ### The longest beginning that fits -/

/-- The bytes need not be cut: they are at most `summaryLimit` and none is that of a line break. -/
def Fits (bytes : Bytes) : Prop :=
  bytes.length ≤ summaryLimit ∧ 0x0a ∉ bytes

theorem fitting_prefix_self (room : Nat) (s : List Char) : fitting room s <+: s := by
  induction s generalizing room with
  | nil => exact List.nil_prefix
  | cons c s ih =>
    unfold fitting
    split
    · exact List.nil_prefix
    · exact List.cons_prefix_cons.mpr ⟨rfl, ih _⟩

theorem length_fitting_le (room : Nat) (s : List Char) :
    ((fitting room s).flatMap String.utf8EncodeChar).length ≤ room := by
  induction s generalizing room with
  | nil => exact Nat.zero_le _
  | cons c s ih =>
    unfold fitting
    split
    · exact Nat.zero_le _
    · rename_i hroom
      have hrest := ih (room - c.utf8Size)
      rw [List.flatMap_cons, List.length_append, String.length_utf8EncodeChar]
      omega

theorem lineBreak_not_mem_fitting (room : Nat) (s : List Char) : '\n' ∉ fitting room s := by
  induction s generalizing room with
  | nil => exact List.not_mem_nil
  | cons c s ih =>
    unfold fitting
    split
    · exact List.not_mem_nil
    · rename_i hroom
      rw [List.mem_cons, not_or]
      exact ⟨fun h => hroom (.inl h.symm), ih _⟩

/-- A beginning that fits goes no further than the one that is kept. -/
theorem prefix_fitting {room : Nat} {s p : List Char} (hp : p <+: s)
    (hlength : (p.flatMap String.utf8EncodeChar).length ≤ room) (hbreak : '\n' ∉ p) :
    p <+: fitting room s := by
  induction s generalizing room p with
  | nil =>
    rw [List.prefix_nil.mp hp]
    exact List.nil_prefix
  | cons c s ih =>
    obtain _ | ⟨d, p⟩ := p
    · exact List.nil_prefix
    · obtain ⟨rfl, hrest⟩ := List.cons_prefix_cons.mp hp
      rw [List.flatMap_cons, List.length_append, String.length_utf8EncodeChar] at hlength
      rw [List.mem_cons, not_or] at hbreak
      unfold fitting
      rw [if_neg (by rintro (rfl | hroom); exacts [hbreak.1 rfl, by omega])]
      exact List.cons_prefix_cons.mpr ⟨rfl, ih hrest (by omega) hbreak.2⟩

/-- The characters of a text that are kept, and the bytes that they take of the text. -/
theorem take_utf8_eq {s : String} {p : List Char} (hp : p <+: s.toList) :
    (Text.utf8 s).take (p.flatMap String.utf8EncodeChar).length =
      p.flatMap String.utf8EncodeChar := by
  obtain ⟨rest, hrest⟩ := hp
  rw [Text.utf8_eq_flatMap, ← hrest, List.flatMap_append, List.take_left]

/-- What is kept ends at the greatest boundary up to which the text fits. -/
theorem isGreatest_fitting (s : String) :
    IsGreatest {i | Text.isBoundary (Text.utf8 s) i = true ∧ Fits ((Text.utf8 s).take i)}
      ((fitting summaryLimit s.toList).flatMap String.utf8EncodeChar).length := by
  have hkept := fitting_prefix_self summaryLimit s.toList
  constructor
  · refine ⟨(Text.isBoundary_iff s _).mpr ⟨_, hkept, rfl⟩, ?_, ?_⟩
    · rw [take_utf8_eq hkept]
      exact length_fitting_le _ _
    · rw [take_utf8_eq hkept, Text.lineBreak_mem_flatMap]
      exact lineBreak_not_mem_fitting _ _
  · rintro i ⟨hboundary, hlength, hbreak⟩
    obtain ⟨p, hp, rfl⟩ := (Text.isBoundary_iff s i).mp hboundary
    rw [take_utf8_eq hp] at hlength hbreak
    rw [Text.lineBreak_mem_flatMap] at hbreak
    obtain ⟨rest, hrest⟩ := prefix_fitting hp hlength hbreak
    rw [← hrest, List.flatMap_append, List.length_append]
    exact Nat.le_add_right _ _

/-- The whole text is kept if it fits, and only then. -/
theorem fitting_eq_self_iff (s : String) :
    fitting summaryLimit s.toList = s.toList ↔ Fits (Text.utf8 s) := by
  rw [Fits, Text.utf8_eq_flatMap, Text.lineBreak_mem_flatMap]
  constructor
  · intro h
    have hlength := length_fitting_le summaryLimit s.toList
    have hbreak := lineBreak_not_mem_fitting summaryLimit s.toList
    rw [h] at hlength hbreak
    exact ⟨hlength, hbreak⟩
  · rintro ⟨hlength, hbreak⟩
    have hwhole := prefix_fitting List.prefix_rfl hlength hbreak
    exact (fitting_prefix_self summaryLimit s.toList).eq_of_length_le hwhole.length_le

/-- **A text that fits is shown whole.** -/
theorem shorten_eq_self {s : String} (h : Fits (Text.utf8 s)) : shorten s = s := by
  unfold shorten
  rw [(fitting_eq_self_iff s).mpr h]
  exact if_pos rfl

/-- **Of any other text the longest beginning that fits is shown, and the mark.** -/
theorem exists_shorten_eq {s : String} (h : ¬ Fits (Text.utf8 s)) :
    ∃ p cut, shorten s = p ++ ellipsis ∧ Text.utf8 p = (Text.utf8 s).take cut ∧
      IsGreatest
        {i | Text.isBoundary (Text.utf8 s) i = true ∧ Fits ((Text.utf8 s).take i)} cut := by
  have hkept := fitting_prefix_self summaryLimit s.toList
  refine ⟨String.ofList (fitting summaryLimit s.toList), _, ?_, ?_, isGreatest_fitting s⟩
  · have hshort : (fitting summaryLimit s.toList).length ≠ s.toList.length := fun hlength =>
      h ((fitting_eq_self_iff s).mp (hkept.eq_of_length hlength))
    exact if_neg hshort
  · rw [take_utf8_eq hkept, Text.utf8_eq_flatMap, String.toList_ofList]

/-! ### Looking at bytes -/

/-- Where the search for the cut begins: at the first line break among the bytes, or else at the
limit. -/
def cutStart (window : Bytes) : Nat :=
  (window.findIdx? (· == 0x0a)).getD summaryLimit

/-- The short form of a text as it is found by looking at its bytes, if all of them are there that
are looked at, and the text can be cut where it is to be cut. -/
def shortenBytes? (s : String) : Option String := do
  let bytes := Text.utf8 s
  let window ← bytes.first? (min bytes.length summaryLimit)
  if bytes.length ≤ summaryLimit ∧ window.findIdx? (· == 0x0a) = none then some s
  else
    let cut ← Text.boundaryBefore? bytes (cutStart window)
    let kept ← Text.beginning? s cut
    some (kept ++ ellipsis)

/-- The bytes that are looked at are there. -/
theorem first?_window (bytes : Bytes) :
    bytes.first? (min bytes.length summaryLimit) = some (bytes.take summaryLimit) := by
  rw [Bytes.first?, if_pos (Nat.min_le_left _ _), Nat.min_comm, ← List.take_eq_take_min]

/-- The whole text is shown at once if it fits, and only then. -/
theorem fits_iff (bytes : Bytes) :
    Fits bytes ↔ bytes.length ≤ summaryLimit ∧
      (bytes.take summaryLimit).findIdx? (· == 0x0a) = none := by
  refine and_congr_right fun hlength => ?_
  rw [List.take_of_length_le hlength, List.findIdx?_eq_none_iff]
  constructor
  · exact fun hbreak b hb => beq_eq_false_iff_ne.mpr fun h => hbreak (h ▸ hb)
  · exact fun hnone hmem => absurd (hnone _ hmem) (by decide)

/-- The bytes up to a position have no line break if it is not behind the first one. -/
theorem lineBreak_not_mem_take_iff {bytes : Bytes} {n : Nat}
    (h : bytes.findIdx? (· == 0x0a) = some n) (i : Nat) : 0x0a ∉ bytes.take i ↔ i ≤ n := by
  obtain ⟨hn, hbreak, hearlier⟩ := List.findIdx?_eq_some_iff_getElem.mp h
  constructor
  · intro hnone
    by_contra hbehind
    exact hnone (List.mem_take_iff_getElem.mpr ⟨n, by omega, beq_iff_eq.mp hbreak⟩)
  · intro hle hmem
    obtain ⟨j, hj, hbyte⟩ := List.mem_take_iff_getElem.mp hmem
    exact hearlier j (by omega) (beq_iff_eq.mpr hbyte)

/-- Where the text does not fit, the search begins within it, and it fits up to a position if the
position is not behind where the search begins. -/
theorem cutStart_spec {bytes : Bytes} (h : ¬ Fits bytes) :
    cutStart (bytes.take summaryLimit) ≤ bytes.length ∧
      ∀ i ≤ bytes.length, i ≤ cutStart (bytes.take summaryLimit) ↔ Fits (bytes.take i) := by
  unfold cutStart
  cases hfind : (bytes.take summaryLimit).findIdx? (· == 0x0a) with
  | none =>
    have hlong : summaryLimit < bytes.length := by
      by_contra hshort
      exact h ((fits_iff bytes).mpr ⟨by omega, hfind⟩)
    have hbreak : 0x0a ∉ bytes.take summaryLimit := fun hmem =>
      absurd (List.findIdx?_eq_none_iff.mp hfind _ hmem) (by decide)
    rw [Option.getD_none]
    refine ⟨hlong.le, fun i hi => ?_⟩
    rw [Fits, List.length_take, Nat.min_eq_left hi]
    exact (and_iff_left_of_imp fun hle hmem => hbreak (List.take_subset_take_left _ hle hmem)).symm
  | some n =>
    have hn : n < (bytes.take summaryLimit).length :=
      (List.findIdx?_eq_some_iff_getElem.mp hfind).1
    have hfirst : bytes.findIdx? (· == 0x0a) = some n := by
      rw [← List.take_append_drop summaryLimit bytes, List.findIdx?_append, hfind, Option.some_or]
    rw [List.length_take] at hn
    rw [Option.getD_some]
    refine ⟨by omega, fun i hi => ?_⟩
    rw [Fits, List.length_take, lineBreak_not_mem_take_iff hfirst]
    omega

/-- Going back from where the search begins one finds the greatest boundary up to which the text
fits, in three steps at most. -/
theorem boundaryBefore?_cutStart {s : String} (h : ¬ Fits (Text.utf8 s)) {cut : Nat}
    (hcut : IsGreatest
      {i | Text.isBoundary (Text.utf8 s) i = true ∧ Fits ((Text.utf8 s).take i)} cut) :
    Text.boundaryBefore? (Text.utf8 s) (cutStart ((Text.utf8 s).take summaryLimit)) = some cut ∧
      cutStart ((Text.utf8 s).take summaryLimit) ≤ cut + 3 := by
  obtain ⟨hstart, hfits⟩ := cutStart_spec h
  obtain ⟨j, hj, hgreatest, hnear⟩ := Text.boundaryBefore?_utf8 s hstart
  have hsame : {k | k ≤ cutStart ((Text.utf8 s).take summaryLimit) ∧
      Text.isBoundary (Text.utf8 s) k = true} =
      {i | Text.isBoundary (Text.utf8 s) i = true ∧ Fits ((Text.utf8 s).take i)} := by
    ext k
    rw [Set.mem_ofPred_eq, Set.mem_ofPred_eq, and_comm]
    exact and_congr_right fun hk => hfits k (Text.le_length_of_isBoundary hk)
  rw [hsame] at hgreatest
  rw [hcut.unique hgreatest]
  exact ⟨hj, hnear⟩

/-- **Looking at bytes never goes wrong**, and gives the short form. -/
theorem shortenBytes?_eq (s : String) : shortenBytes? s = some (shorten s) := by
  unfold shortenBytes?
  simp only [first?_window, Option.bind_eq_bind, Option.bind_some]
  by_cases h : Fits (Text.utf8 s)
  · rw [if_pos ((fits_iff _).mp h), shorten_eq_self h]
  · obtain ⟨p, cut, hshorten, hp, hcut⟩ := exists_shorten_eq h
    rw [if_neg fun hwhole => h ((fits_iff _).mpr hwhole), (boundaryBefore?_cutStart h hcut).1,
      Option.bind_some, Text.beginning?, if_pos hcut.1.1, ← hp, Bytes.text?_utf8,
      Option.bind_some, hshorten]

/-! ### What is shown -/

theorem utf8_ellipsis : Text.utf8 ellipsis = [0x20, 0x5b, 0x2e, 0x2e, 0x2e, 0x5d] := by
  rw [Text.utf8_eq_flatMap]
  decide

/-- The short form has no line break, and at most the bytes of the limit and of the mark. -/
theorem shorten_bounded (s : String) :
    0x0a ∉ Text.utf8 (shorten s) ∧ (Text.utf8 (shorten s)).length ≤ 136 := by
  by_cases h : Fits (Text.utf8 s)
  · rw [shorten_eq_self h]
    exact ⟨h.2, h.1.trans (by decide)⟩
  · obtain ⟨p, cut, hshorten, hp, hcut⟩ := exists_shorten_eq h
    obtain ⟨hlength, hbreak⟩ := hcut.1.2
    rw [hshorten, Text.utf8_append, hp, utf8_ellipsis, List.mem_append, not_or, List.length_append]
    exact ⟨⟨hbreak, by decide⟩, Nat.add_le_add_right hlength 6⟩

end LogSummary

/-! ### Stored records -/

/-- The record shows the short form of its text. -/
def LogRecord.IsSummarized (log : LogRecord) : Prop :=
  log.summary.body = LogSummary.shownBody log.event log.body

theorem Otlp.LogRecord.isSummarized_of_prepare {now : UInt64} {l : Otlp.LogRecord}
    {log : Telemetry.LogRecord} (h : l.prepare now = .ok log) : log.IsSummarized := by
  obtain ⟨trace, -, h⟩ := exists_of_bind_eq_ok h
  obtain ⟨span, -, rfl⟩ := exists_of_bind_pure_eq_ok h
  rfl

/-- Whatever record a call stores shows the short form of its text. -/
theorem Call.isSummarized_of_mem_steps {call : Call} {a : Step} (ha : a ∈ call.steps) :
    ∀ log, a.log? = some log → log.IsSummarized := by
  by_cases hsignal : call.payload.signal = .logs
  · unfold Call.steps at ha
    split at ha
    · rename_i steps hsteps
      cases hpayload : call.payload with
      | logs request =>
        rw [hpayload] at hsteps
        refine Otlp.Export.forall_mem_steps
          (Q := fun a => ∀ log, a.log? = some log → log.IsSummarized) hsteps
          (by simp [Step.log?]) (by simp [Step.log?]) (by simp [Step.log?]) ?_ a ha
        intro x p hp origin a ha log hlog
        obtain rfl := List.mem_singleton.mp ha
        obtain rfl := Option.some.inj hlog
        have hprepared : p.IsSummarized := Otlp.LogRecord.isSummarized_of_prepare hp
        exact hprepared
      | traces request | metrics request =>
        rw [hpayload] at hsignal
        cases hsignal
    · cases ha
  · intro log hlog
    rw [Call.log?_of_mem_steps hsignal ha] at hlog
    cases hlog

/-- At every moment of a run all stored records show the short form of their text. -/
theorem Run.isSummarized_of_logs_eq_some {ι : Type} [DecidableEq ι] {calls : ι → Call}
    (run : Run calls) {index : Nat} {log : LogRecord} (h : run.store.logs[index]? = some log) :
    log.IsSummarized := by
  obtain ⟨i, -, hstep⟩ := run.exists_of_mem_sinceReset (mem_recent_of_logs_eq_some h)
  exact Call.isSummarized_of_mem_steps hstep log rfl

open LogSummary in
/-- **Listings show the longest beginning that is safe to show.**  A text of at most `summaryLimit`
bytes with no line break is shown whole.  Of any other text its longest beginning of that sort is
shown that cuts no character, and the mark behind it; going back byte by byte from the first line
break or from the limit one is at the end of that beginning after three steps at most.  Nothing is
ever looked for where it is not.

Whatever calls are served, in whatever order they take their steps, every log record that is stored
shows the short form of its text, which has no line break and at most 136 bytes. -/
theorem summaries_are_longest_beginnings :
    (∀ s : String,
      (Fits (Text.utf8 s) → shorten s = s) ∧
      (¬ Fits (Text.utf8 s) → ∃ p cut, shorten s = p ++ ellipsis ∧
        Text.utf8 p = (Text.utf8 s).take cut ∧
        IsGreatest {i | Text.isBoundary (Text.utf8 s) i = true ∧
          Fits ((Text.utf8 s).take i)} cut ∧
        Text.boundaryBefore? (Text.utf8 s) (cutStart ((Text.utf8 s).take summaryLimit)) =
          some cut ∧
        cutStart ((Text.utf8 s).take summaryLimit) ≤ cut + 3) ∧
      shortenBytes? s = some (shorten s)) ∧
    ∀ {ι : Type} [DecidableEq ι] {calls : ι → Call} (run : Run calls) (index : Nat)
      (log : LogRecord), run.store.logs[index]? = some log →
        log.summary.body = shorten (bodyText log.event log.body) ∧
        0x0a ∉ Text.utf8 log.summary.body ∧ (Text.utf8 log.summary.body).length ≤ 136 := by
  refine ⟨fun s => ⟨shorten_eq_self, fun h => ?_, shortenBytes?_eq s⟩, ?_⟩
  · obtain ⟨p, cut, hshorten, hp, hcut⟩ := exists_shorten_eq h
    exact ⟨p, cut, hshorten, hp, hcut, boundaryBefore?_cutStart h hcut⟩
  · intro ι _ calls run index log hlog
    have hbody : log.summary.body = shorten (bodyText log.event log.body) :=
      run.isSummarized_of_logs_eq_some hlog
    rw [hbody]
    exact ⟨rfl, shorten_bounded _⟩

end Telemetry
