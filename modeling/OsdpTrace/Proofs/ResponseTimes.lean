import OsdpTrace.Proofs.ReplyMatching
import OsdpTrace.Proofs.FloatOrder

/-! Response times. A matched request gets a response time only when the span to its reply, in
whole microseconds cut toward zero, is not negative and fits a 64-bit signed number; the time
is then that count of microseconds in milliseconds, and so never below zero. Instants span
about 524,000 years and 64-bit microseconds only about 292,000, so a request answered far
enough apart is matched without a response time; so is one answered across a leap second that
ends a day, where the span is negative. Hence there are at most as many response times as
matched replies, at most as many of those as requests, and one request fewer than outbound
entries for every reader. -/
namespace OsdpTrace

def fitsMicros (micros : Int) : Bool := 0 ≤ micros && micros.toNat ≤ maxI64

theorem responseTimeMs_eq_some_iff {request reply : Instant} {t : Float} :
    responseTimeMs request reply = some t ↔
      fitsMicros ((reply.spanFrom request).tdiv 1000) = true ∧
        t = (UInt64.ofNat ((reply.spanFrom request).tdiv 1000).toNat).toFloat / 1000.0 := by
  unfold responseTimeMs fitsMicros
  by_cases negative : (reply.spanFrom request).tdiv 1000 < 0
  · simp [negative]
  · by_cases fits : ((reply.spanFrom request).tdiv 1000).toNat ≤ maxI64
    · simp [negative, fits, Int.not_lt.mp negative, eq_comm]
    · simp [negative, fits]

theorem responseTimeMs_isSome (request reply : Instant) :
    (responseTimeMs request reply).isSome = fitsMicros ((reply.spanFrom request).tdiv 1000) := by
  cases found : responseTimeMs request reply with
  | none =>
    by_contra fits
    obtain ⟨t, later⟩ : ∃ t, responseTimeMs request reply = some t :=
      ⟨_, responseTimeMs_eq_some_iff.mpr ⟨by simpa using Ne.symm fits, rfl⟩⟩
    simp [found] at later
  | some t => exact ((responseTimeMs_eq_some_iff.mp found).1).symm

namespace Replies

/-- The span from the entry at `i` to the entry at `j`, in whole microseconds cut toward zero. -/
def micros? (o : List Entry) (i j : Nat) : Option Int := do
  some (((← o[j]?).timestamp.spanFrom (← o[i]?).timestamp).tdiv 1000)

def matched (o : List Entry) : List Nat :=
  ((List.range o.length).filter (isRequest o)).filter fun i => (replyTo? o i).isSome

theorem sample?_isSome (o : List Entry) (i j : Nat) : (sample? o i j).isSome = (micros? o i j).any fitsMicros := by
  cases first : o[i]? <;> cases second : o[j]? <;> simp [sample?, micros?, first, second, responseTimeMs_isSome]

theorem sample?_eq_some_iff {o : List Entry} {i j : Nat} {t : Float} :
    sample? o i j = some t ↔ ∃ request reply, o[i]? = some request ∧ o[j]? = some reply ∧
      responseTimeMs request.timestamp reply.timestamp = some t := by
  cases first : o[i]? <;> cases second : o[j]? <;> simp [sample?, first, second]

theorem sample_of_mem_stats {o : List Entry} {t : Float} (member : t ∈ (stats o).responseTimesMs) :
    ∃ micros : Nat, micros ≤ maxI64 ∧ t = (UInt64.ofNat micros).toFloat / 1000.0 := by
  simp only [stats, List.mem_filterMap, Option.bind_eq_some_iff] at member
  obtain ⟨i, -, j, -, sampled⟩ := member
  obtain ⟨request, reply, -, -, timed⟩ := sample?_eq_some_iff.mp sampled
  obtain ⟨fits, rfl⟩ := responseTimeMs_eq_some_iff.mp timed
  simp only [fitsMicros, Bool.and_eq_true, decide_eq_true_eq] at fits
  exact ⟨_, fits.2, rfl⟩

/-- The matched requests whose span to their reply fits are exactly those with a response
time. -/
theorem stats_responseTimesMs_length (o : List Entry) :
    (stats o).responseTimesMs.length = ((matched o).filter fun i => (micros? o i (i + 1)).any fitsMicros).length := by
  simp only [stats, matched, List.length_filterMap_eq_countP, List.countP_eq_length_filter, List.filter_filter]
  refine congrArg List.length (List.filter_congr fun i _ => ?_)
  rw [replyTo?_eq]
  by_cases inbound : inboundAt o (i + 1) = true
  · simp [inbound, sample?_isSome]
  · simp [inbound]

theorem stats_matchedReplies (o : List Entry) : (stats o).matchedReplies = (matched o).length := rfl

end Replies

section Bounds

variable (entries : List Entry)

theorem responseTimes_le_matchedReplies :
    (analyzeReader entries).responseTimesMs.length ≤ (analyzeReader entries).matchedReplies := by
  rw [Replies.analyzeReader_eq_stats, Replies.stats_responseTimesMs_length, Replies.stats_matchedReplies]
  exact List.length_filter_le _ _

theorem matchedReplies_le_requests : (analyzeReader entries).matchedReplies ≤ (analyzeReader entries).requests := by
  rw [Replies.analyzeReader_eq_stats, Replies.stats_matchedReplies]
  exact List.length_filter_le _ _

end Bounds

section Aggregate

variable (readers : List (ReaderId × List Entry))

theorem computeStats_samples_le_matched :
    (computeStats readers).responseTimeSamples ≤ (computeStats readers).matchedReplies := by
  rw [computeStats_responseTimeSamples, computeStats_matchedReplies, List.length_flatMap]
  exact List.sum_le_sum fun r _ => responseTimes_le_matchedReplies r.2

theorem computeStats_matched_le_total :
    (computeStats readers).matchedReplies ≤ (computeStats readers).totalRequests := by
  rw [computeStats_matchedReplies, computeStats_totalRequests]
  exact List.sum_le_sum fun r _ => matchedReplies_le_requests r.2

theorem computeStats_totalRequests_eq_outbound :
    (computeStats readers).totalRequests = (readers.map fun r => r.2.countP (·.direction.isOutbound) - 1).sum := by
  rw [computeStats_totalRequests]
  exact congrArg List.sum (List.map_congr_left fun r _ => analyzeReader_requests r.2)

end Aggregate

theorem positiveSign_of_mem_responseTimesMs {entries : List Entry} {t : Float}
    (member : t ∈ (analyzeReader entries).responseTimesMs) : PositiveSign t.toModel.unpack := by
  rw [Replies.analyzeReader_eq_stats] at member
  obtain ⟨micros, _, rfl⟩ := Replies.sample_of_mem_stats member
  exact positiveSign_micros_div_thousand micros

/-- Response times, one for every matched reply whose span fits. For every list of entries, put
in time order: there is one response time for each request with a reply whose span to it, in
whole microseconds cut toward zero, is not negative and fits a 64-bit signed number, so there
are as many response times as matched replies exactly when every such span fits; each response
time is such a count of microseconds in milliseconds, and not below zero. There are at most as
many response times as matched replies, at most as many of those as requests, and one request
fewer than outbound entries; over any readers the totals are bounded alike, and the requests add
up to one fewer than the outbound entries of each reader. -/
theorem response_times_of_fitting_spans (entries : List Entry) (readers : List (ReaderId × List Entry)) :
    (analyzeReader entries).responseTimesMs.length =
      ((Replies.matched (timeOrder entries)).filter
        fun i => (Replies.micros? (timeOrder entries) i (i + 1)).any fitsMicros).length ∧
    ((analyzeReader entries).responseTimesMs.length = (analyzeReader entries).matchedReplies ↔
      ∀ i ∈ Replies.matched (timeOrder entries), (Replies.micros? (timeOrder entries) i (i + 1)).any fitsMicros = true) ∧
    (∀ t ∈ (analyzeReader entries).responseTimesMs,
      ∃ micros : Nat, micros ≤ maxI64 ∧ t = (UInt64.ofNat micros).toFloat / 1000.0 ∧ 0 ≤ t) ∧
    (analyzeReader entries).responseTimesMs.length ≤ (analyzeReader entries).matchedReplies ∧
    (analyzeReader entries).matchedReplies ≤ (analyzeReader entries).requests ∧
    (analyzeReader entries).requests = entries.countP (·.direction.isOutbound) - 1 ∧
    (computeStats readers).responseTimeSamples ≤ (computeStats readers).matchedReplies ∧
    (computeStats readers).matchedReplies ≤ (computeStats readers).totalRequests ∧
    (computeStats readers).totalRequests = (readers.map fun r => r.2.countP (·.direction.isOutbound) - 1).sum := by
  have samples := Replies.stats_responseTimesMs_length (timeOrder entries)
  rw [← Replies.analyzeReader_eq_stats] at samples
  refine ⟨samples, ?_, fun t member => ?_, responseTimes_le_matchedReplies entries, matchedReplies_le_requests entries,
    analyzeReader_requests entries, computeStats_samples_le_matched readers, computeStats_matched_le_total readers,
    computeStats_totalRequests_eq_outbound readers⟩
  · rw [samples, Replies.analyzeReader_eq_stats, Replies.stats_matchedReplies, List.length_filter_eq_length_iff]
  · rw [Replies.analyzeReader_eq_stats] at member
    obtain ⟨micros, fits, rfl⟩ := Replies.sample_of_mem_stats member
    exact ⟨micros, fits, rfl, zero_le_micros_div_thousand micros⟩

/-- A request answered more than 292,000 years later is matched, but has no response time. -/
theorem far_reply_without_response_time :
    let request : Entry := { (default : Entry) with direction := .outbound, timestamp := ⟨-8334601228800, 0⟩ }
    let reply : Entry := { (default : Entry) with direction := .inbound, timestamp := ⟨8210266876799, 999000000⟩ }
    let pending : Entry := { (default : Entry) with direction := .outbound, timestamp := ⟨8210266876799, 999000000⟩ }
    (computeStats [(⟨1⟩, [request, reply, pending])]).matchedReplies = 1 ∧
      (computeStats [(⟨1⟩, [request, reply, pending])]).responseTimeSamples = 0 := by
  intro request reply pending
  have sorted : timeOrder [request, reply, pending] = [request, reply, pending] :=
    List.mergeSort_of_pairwise (by decide)
  rw [computeStats_responseTimeSamples, computeStats_matchedReplies]
  simp only [List.flatMap_cons, List.flatMap_nil, List.map_cons, List.map_nil, List.sum_cons, List.sum_nil,
    List.append_nil, Nat.add_zero, Replies.analyzeReader_eq_stats, sorted]
  decide

end OsdpTrace
