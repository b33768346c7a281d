import OsdpTrace.Proofs.ResponseTimes

/-! How far the reply statistics depend on the order of their input. Reply matching reads of a
trace in time order only the time and the direction of each entry. The number of requests is
one fewer than the outbound entries, whatever their order. The sort is by time alone and keeps
the given order of entries of one time, so the matching depends on the order of the input
exactly through instants that carry both an outbound and an inbound entry: where no instant
does, every order gives the same matches and the same response times, and where one does, the
order of its entries decides which is answered. Over readers, the totals are sums and the
response times are joined, so any order of the readers gives the same totals and the same
response times, in another order; and as response times are floats of positive sign, on which
the comparison is a linear order, the same least and greatest of them. -/
namespace OsdpTrace

def NoMixedTies (l : List Entry) : Prop :=
  ∀ a ∈ l, ∀ b ∈ l, a.timestamp = b.timestamp → a.direction = b.direction

namespace Replies

/-- The time and the direction of each entry of a trace, in order: all that reply matching
reads of it. -/
def profile (o : List Entry) : List (Instant × Direction) := o.map fun e => (e.timestamp, e.direction)

section Profile

variable {o o' : List Entry} (same : profile o = profile o')
include same

theorem length_eq_of_profile : o.length = o'.length := by
  simpa [profile] using congrArg List.length same

theorem getElem?_profile (i : Nat) : (o[i]?).map (fun e => (e.timestamp, e.direction)) = (o'[i]?).map fun e => (e.timestamp, e.direction) := by
  simpa [profile] using congrArg (·[i]?) same

theorem outboundAt_eq_of_profile (i : Nat) : outboundAt o i = outboundAt o' i := by
  simpa [outboundAt, Option.any_map] using congrArg (·.any (·.2.isOutbound)) (getElem?_profile same i)

theorem inboundAt_eq_of_profile (i : Nat) : inboundAt o i = inboundAt o' i := by
  simpa [inboundAt, Option.any_map] using congrArg (·.any (·.2.isInbound)) (getElem?_profile same i)

theorem isRequest_eq_of_profile : isRequest o = isRequest o' := by
  funext i
  simp only [isRequest, outboundAt_eq_of_profile same, length_eq_of_profile same]

theorem replyTo?_eq_of_profile : replyTo? o = replyTo? o' := by
  funext i
  rw [replyTo?_eq, replyTo?_eq, inboundAt_eq_of_profile same]

theorem sample?_eq_of_profile (i j : Nat) : sample? o i j = sample? o' i j := by
  have first := getElem?_profile same i
  have second := getElem?_profile same j
  cases a : o[i]? <;> cases a' : o'[i]? <;> cases b : o[j]? <;> cases b' : o'[j]? <;>
    simp_all [sample?]

theorem stats_eq_of_profile :
    (stats o).requests = (stats o').requests ∧ (stats o).matchedReplies = (stats o').matchedReplies ∧
      (stats o).responseTimesMs = (stats o').responseTimesMs := by
  have samples : sample? o = sample? o' := funext fun i => funext fun j => sample?_eq_of_profile same i j
  simp only [stats, length_eq_of_profile same, isRequest_eq_of_profile same, replyTo?_eq_of_profile same, samples,
    and_self]

end Profile

/-- Without instants of both directions, any order of the same entries sorts to the same times
and directions. -/
theorem profile_timeOrder_of_perm {l l' : List Entry} (perm : l'.Perm l) (ties : NoMixedTies l) :
    profile (timeOrder l') = profile (timeOrder l) := by
  have sorted : ∀ k : List Entry, (profile (timeOrder k)).Pairwise fun x y => x.1 ≤ y.1 := fun k =>
    List.pairwise_map.mpr (timeOrder_sorted k)
  have members : (profile (timeOrder l')).Perm (profile (timeOrder l)) :=
    (((timeOrder_perm l').trans perm).trans (timeOrder_perm l).symm).map _
  refine members.eq_of_pairwise (fun x y first second earlier later => ?_) (sorted l') (sorted l)
  obtain ⟨a, present, rfl⟩ := List.mem_map.mp first
  obtain ⟨b, present', rfl⟩ := List.mem_map.mp second
  have time : a.timestamp = b.timestamp := Instant.le_antisymm earlier later
  have a_in : a ∈ l := perm.subset ((timeOrder_perm l').subset present)
  have b_in : b ∈ l := (timeOrder_perm l).subset present'
  rw [time, ties a a_in b b_in time]

end Replies

/-- Reply statistics and the order of their input. For every reordering of a reader's entries,
the number of requests stays the same; where no instant carries entries of both directions, so
do the matched replies and the response times. For every reordering of the readers, the total
requests, the matched replies, the number of response times and the least and the greatest of
them stay the same, and the response times are the same up to their order. -/
theorem statistics_under_reordering (entries permuted : List Entry) (readers shuffled : List (ReaderId × List Entry))
    (perm : permuted.Perm entries) (reordered : shuffled.Perm readers) :
    (analyzeReader permuted).requests = (analyzeReader entries).requests ∧
    (NoMixedTies entries → (analyzeReader permuted).matchedReplies = (analyzeReader entries).matchedReplies ∧
      (analyzeReader permuted).responseTimesMs = (analyzeReader entries).responseTimesMs) ∧
    (computeStats shuffled).totalRequests = (computeStats readers).totalRequests ∧
    (computeStats shuffled).matchedReplies = (computeStats readers).matchedReplies ∧
    (computeStats shuffled).responseTimeSamples = (computeStats readers).responseTimeSamples ∧
    (computeStats shuffled).minResponseTimeMs = (computeStats readers).minResponseTimeMs ∧
    (computeStats shuffled).maxResponseTimeMs = (computeStats readers).maxResponseTimeMs ∧
    (shuffled.flatMap fun r => (analyzeReader r.2).responseTimesMs).Perm
      (readers.flatMap fun r => (analyzeReader r.2).responseTimesMs) := by
  have samples := reordered.flatMap_right fun r => (analyzeReader r.2).responseTimesMs
  -- every response time is a count of microseconds in milliseconds, so of positive sign
  have signs : ∀ t ∈ readers.flatMap fun r => (analyzeReader r.2).responseTimesMs, PositiveSign t.toModel.unpack := by
    intro t member
    obtain ⟨r, _, present⟩ := List.mem_flatMap.mp member
    exact positiveSign_of_mem_responseTimesMs present
  refine ⟨?_, fun ties => ?_, ?_, ?_, ?_, ?_, ?_, samples⟩
  · rw [analyzeReader_requests, analyzeReader_requests, perm.countP_eq]
  · have same := (Replies.stats_eq_of_profile (Replies.profile_timeOrder_of_perm perm ties)).2
    rw [Replies.analyzeReader_eq_stats, Replies.analyzeReader_eq_stats]
    exact same
  · rw [computeStats_totalRequests, computeStats_totalRequests]
    exact (reordered.map _).sum_eq
  · rw [computeStats_matchedReplies, computeStats_matchedReplies]
    exact (reordered.map _).sum_eq
  · rw [computeStats_responseTimeSamples, computeStats_responseTimeSamples]
    exact samples.length_eq
  · rw [computeStats_minResponseTimeMs, computeStats_minResponseTimeMs]
    exact min?_perm samples signs
  · rw [computeStats_maxResponseTimeMs, computeStats_maxResponseTimeMs]
    exact max?_perm samples signs

/-- Swapping a request and its later reply changes neither the requests nor the matching. -/
theorem statistics_under_reordering_of_swap :
    let request : Entry := { (default : Entry) with direction := .outbound, timestamp := ⟨1761575400, 0⟩ }
    let reply : Entry := { (default : Entry) with direction := .inbound, timestamp := ⟨1761575400, 30000000⟩ }
    [reply, request].Perm [request, reply] ∧ NoMixedTies [request, reply] ∧
      (analyzeReader [reply, request]).requests = (analyzeReader [request, reply]).requests ∧
      (analyzeReader [reply, request]).matchedReplies = (analyzeReader [request, reply]).matchedReplies := by
  intro request reply
  have perm : [reply, request].Perm [request, reply] := List.Perm.swap request reply []
  have ties : NoMixedTies [request, reply] := by
    intro x first y second same
    simp only [List.mem_cons, List.not_mem_nil, or_false] at first second
    rcases first with rfl | rfl <;> rcases second with rfl | rfl <;> simp_all [request, reply]
  have reordering := statistics_under_reordering [request, reply] [reply, request] [] [] perm (List.Perm.refl _)
  exact ⟨perm, ties, reordering.1, (reordering.2.1 ties).1⟩

/-- A request and an inbound entry of the same instant: listed after the request the inbound
entry answers it, listed before it does not. -/
theorem matching_depends_on_order_of_ties :
    let request : Entry := { (default : Entry) with direction := .outbound, timestamp := ⟨1761575400, 0⟩ }
    let reply : Entry := { (default : Entry) with direction := .inbound, timestamp := ⟨1761575400, 0⟩ }
    let next : Entry := { (default : Entry) with direction := .outbound, timestamp := ⟨1761575400, 50000000⟩ }
    (analyzeReader [request, reply, next]).matchedReplies = 1 ∧
      (analyzeReader [reply, request, next]).matchedReplies = 0 := by
  intro request reply next
  have answered : timeOrder [request, reply, next] = [request, reply, next] := List.mergeSort_of_pairwise (by decide)
  have unanswered : timeOrder [reply, request, next] = [reply, request, next] := List.mergeSort_of_pairwise (by decide)
  rw [Replies.analyzeReader_eq_stats, Replies.analyzeReader_eq_stats, answered, unanswered]
  decide

end OsdpTrace
