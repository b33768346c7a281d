import OsdpTrace.Proofs.Export

/-! Reply matching, as specified on the positions of a reader's entries in time order. The
entries are sorted by time, those of one time kept in the order given. A request is an outbound
entry with another outbound entry after it, so the last outbound entry stays pending even when
it has been answered. The reply to a request is the first later inbound entry with no outbound
entry between them, and the response time runs from the request to that reply.

The reader statistics compute exactly this, although they only look at the entry right after a
request: an entry that is not outbound is inbound, so the first reply is the next entry or there
is none. Over several readers the statistics add up the counts, put the response times of one
reader after those of the one before, and take the least and the greatest of them; the
statistics of a service are those of every entry of every buffer, hidden from views or not. -/
namespace OsdpTrace

theorem Direction.isInbound_eq_not_isOutbound (d : Direction) : d.isInbound = !d.isOutbound := by
  cases d <;> rfl

/-- `o` holds the entries of `l` in order of time, and the entries of one time in their order
in `l`: the stable sort of `l` by time. -/
def IsStableTimeSort (l o : List Entry) : Prop :=
  o.Pairwise (fun x y => x.timestamp ≤ y.timestamp) ∧
    ∀ time, o.filter (·.timestamp = time) = l.filter (·.timestamp = time)

theorem timeOrder_sorted (l : List Entry) : (timeOrder l).Pairwise fun x y => x.timestamp ≤ y.timestamp :=
  (List.pairwise_mergeSort Entry.earlier_trans Entry.earlier_total l).imp fun ordered => by simpa using ordered

theorem timeOrder_perm (l : List Entry) : (timeOrder l).Perm l := List.mergeSort_perm l _

theorem isStableTimeSort_timeOrder (l : List Entry) : IsStableTimeSort l (timeOrder l) :=
  ⟨timeOrder_sorted l, fun time => filter_mergeSort_of_tied Entry.earlier_trans Entry.earlier_total (Entry.tied_at time) l⟩

/-- The stable sort by time is unique, and `timeOrder` is it. -/
theorem isStableTimeSort_iff {l o : List Entry} : IsStableTimeSort l o ↔ o = timeOrder l := by
  constructor
  · intro sorted
    exact eq_of_groups sorted.1 (timeOrder_sorted l) fun time =>
      (sorted.2 time).trans ((isStableTimeSort_timeOrder l).2 time).symm
  · rintro rfl
    exact isStableTimeSort_timeOrder l

theorem timeOrder_timeOrder (l : List Entry) : timeOrder (timeOrder l) = timeOrder l :=
  List.mergeSort_of_pairwise ((timeOrder_sorted l).imp fun ordered => by simpa using ordered)

namespace Replies

def outboundAt (o : List Entry) (i : Nat) : Bool := o[i]?.any (·.direction.isOutbound)

def inboundAt (o : List Entry) (i : Nat) : Bool := o[i]?.any (·.direction.isInbound)

/-- A request: an outbound entry with another outbound entry after it. -/
def isRequest (o : List Entry) (i : Nat) : Bool :=
  outboundAt o i && (List.range o.length).any fun j => i < j && outboundAt o j

/-- Whether the entry at `j` answers the one at `i`: it is a later inbound entry with no
outbound entry between the two. -/
def isReplyTo (o : List Entry) (i j : Nat) : Bool :=
  i < j && inboundAt o j && (List.range j).all fun k => !(i < k && outboundAt o k)

def replyTo? (o : List Entry) (i : Nat) : Option Nat := (List.range o.length).find? (isReplyTo o i)

def sample? (o : List Entry) (i j : Nat) : Option Float := do
  responseTimeMs (← o[i]?).timestamp (← o[j]?).timestamp

/-- The reply statistics of a trace in time order, as specified: the requests, those with a
reply, and the response times of those that have one, request by request. -/
def stats (o : List Entry) : ReaderStats :=
  let requests := (List.range o.length).filter (isRequest o)
  { readerId := o.head?.map (·.readerId)
    requests := requests.length
    matchedReplies := (requests.filter fun i => (replyTo? o i).isSome).length
    responseTimesMs := requests.filterMap fun i => (replyTo? o i).bind (sample? o i) }

theorem outboundAt_of_getElem? {o : List Entry} {i : Nat} {e : Entry} (found : o[i]? = some e) :
    outboundAt o i = e.direction.isOutbound := by
  simp [outboundAt, found]

theorem inboundAt_of_getElem? {o : List Entry} {i : Nat} {e : Entry} (found : o[i]? = some e) :
    inboundAt o i = e.direction.isInbound := by
  simp [inboundAt, found]

theorem lt_length_of_any {o : List Entry} {i : Nat} {q : Entry → Bool} (passes : o[i]?.any q = true) : i < o.length := by
  by_contra beyond
  simp [List.getElem?_eq_none (Nat.le_of_not_lt beyond)] at passes

theorem inboundAt_eq_not_outboundAt {o : List Entry} {i : Nat} (present : i < o.length) :
    inboundAt o i = !outboundAt o i := by
  rw [inboundAt_of_getElem? (List.getElem?_eq_getElem present), outboundAt_of_getElem? (List.getElem?_eq_getElem present),
    Direction.isInbound_eq_not_isOutbound]

theorem isReplyTo_eq_true {o : List Entry} {i j : Nat} :
    isReplyTo o i j = true ↔ i < j ∧ inboundAt o j = true ∧ ∀ k, i < k → k < j → outboundAt o k = false := by
  simp only [isReplyTo, Bool.and_eq_true, decide_eq_true_eq, List.all_eq_true, List.mem_range, Bool.not_and,
    Bool.or_eq_true, Bool.not_eq_true', decide_eq_false_iff_not]
  constructor
  · rintro ⟨⟨after, inbound⟩, clear⟩
    exact ⟨after, inbound, fun k later before => (clear k before).resolve_left (by omega)⟩
  · rintro ⟨after, inbound, clear⟩
    refine ⟨⟨after, inbound⟩, fun k before => ?_⟩
    by_cases later : i < k
    · exact Or.inr (clear k later before)
    · exact Or.inl later

/-- Every entry is outbound or inbound, so the first reply is the next entry or there is none. -/
theorem replyTo?_eq (o : List Entry) (i : Nat) :
    replyTo? o i = if inboundAt o (i + 1) then some (i + 1) else none := by
  split
  · rename_i inbound
    simp only [replyTo?, List.find?_range_eq_some, List.mem_range]
    refine ⟨isReplyTo_eq_true.mpr ⟨by omega, inbound, fun k later before => by omega⟩,
      lt_length_of_any inbound, fun j before => ?_⟩
    simp only [Bool.not_eq_true']
    by_contra answers
    have := (isReplyTo_eq_true.mp (Bool.not_eq_false _ ▸ answers)).1
    omega
  · rename_i notInbound
    simp only [replyTo?, List.find?_range_eq_none, Bool.not_eq_true']
    intro j _
    by_contra answers
    obtain ⟨after, inbound, clear⟩ := isReplyTo_eq_true.mp (Bool.not_eq_false _ ▸ answers)
    rcases Nat.lt_or_ge (i + 1) j with later | next
    · -- the entry right after the request lies between the two, and is not outbound
      have present : i + 1 < o.length := Nat.lt_trans later (lt_length_of_any inbound)
      have between := clear (i + 1) (Nat.lt_succ_self i) later
      rw [inboundAt_eq_not_outboundAt present, between] at notInbound
      exact notInbound rfl
    · have next : j = i + 1 := by omega
      subst next
      exact notInbound inbound

theorem getLast?_eq_some_iff_of_increasing {R : List Nat} (increasing : R.Pairwise (· < ·)) {p : Nat} :
    R.getLast? = some p ↔ p ∈ R ∧ ∀ j ∈ R, j ≤ p := by
  constructor
  · intro last
    obtain ⟨before, rfl⟩ := List.getLast?_eq_some_iff.mp last
    have below := (List.pairwise_append.mp increasing).2.2
    refine ⟨by simp, fun j member => ?_⟩
    rcases List.mem_append.mp member with earlier | same
    · exact Nat.le_of_lt (below j earlier p (by simp))
    · simp_all
  · rintro ⟨member, greatest⟩
    obtain ⟨q, last⟩ := Option.ne_none_iff_exists'.mp (List.getLast?_eq_none_iff.not.mpr (List.ne_nil_of_mem member))
    obtain ⟨before, rfl⟩ := List.getLast?_eq_some_iff.mp last
    have below := (List.pairwise_append.mp increasing).2.2
    rcases List.mem_append.mp member with earlier | same
    · have := below p earlier q (by simp)
      have := greatest q (by simp)
      omega
    · simp_all

theorem outbound_positions (o : List Entry) :
    ((o.zipIdx.filter (·.1.direction.isOutbound)).map (·.2)).Pairwise (· < ·) ∧
      ∀ j, j ∈ (o.zipIdx.filter (·.1.direction.isOutbound)).map (·.2) ↔ outboundAt o j = true := by
  refine ⟨?_, fun j => ?_⟩
  · have increasing : (o.zipIdx.map (·.2)).Pairwise (· < ·) := by
      rw [List.zipIdx_map_snd]
      exact List.pairwise_lt_range'
    exact increasing.sublist (List.filter_sublist.map _)
  · simp only [List.mem_map, List.mem_filter, List.mem_zipIdx_iff_getElem?, outboundAt, Option.any_eq_true]
    constructor
    · rintro ⟨q, ⟨found, outbound⟩, rfl⟩
      exact ⟨q.1, found, outbound⟩
    · rintro ⟨e, found, outbound⟩
      exact ⟨(e, j), ⟨found, outbound⟩, rfl⟩

theorem lastOutbound_eq_some_iff {o : List Entry} {p : Nat} :
    lastOutbound o = some p ↔ outboundAt o p = true ∧ ∀ j, p < j → outboundAt o j = false := by
  obtain ⟨increasing, positions⟩ := outbound_positions o
  rw [lastOutbound, ← List.getLast?_map, getLast?_eq_some_iff_of_increasing increasing, positions]
  refine and_congr_right fun _ => ⟨fun greatest j later => ?_, fun last j outbound => ?_⟩
  · by_contra outbound
    have := greatest j ((positions j).mpr (by simpa using outbound))
    omega
  · by_contra later
    have := last j (by omega)
    simp_all

theorem isRequest_eq (o : List Entry) (i : Nat) : isRequest o i = (outboundAt o i && lastOutbound o != some i) := by
  cases outbound : outboundAt o i with
  | false => simp [isRequest, outbound]
  | true =>
    have later : ((List.range o.length).any fun j => i < j && outboundAt o j) = true ↔ ∃ j, i < j ∧ outboundAt o j = true := by
      simp only [List.any_eq_true, List.mem_range, Bool.and_eq_true, decide_eq_true_eq]
      exact ⟨fun ⟨j, _, after, out⟩ => ⟨j, after, out⟩, fun ⟨j, after, out⟩ => ⟨j, lt_length_of_any out, after, out⟩⟩
    have pending := (lastOutbound_eq_some_iff (o := o) (p := i)).not
    simp only [outbound, true_and, not_forall, Bool.not_eq_false, exists_prop] at pending
    simp only [isRequest, outbound, Bool.true_and]
    rw [Bool.eq_iff_iff, later, bne_iff_ne, ne_eq, pending]

theorem getElem?_withNext (o : List Entry) (i : Nat) : (withNext o)[i]? = o[i]?.map fun e => (e, o[i + 1]?) := by
  fun_induction withNext o generalizing i with
  | case1 => rfl
  | case2 e => cases i <;> simp
  | case3 e f rest ih => cases i <;> simp [ih]

theorem length_withNext (o : List Entry) : (withNext o).length = o.length := by
  fun_induction withNext o <;> simp_all

theorem mem_withNext_zipIdx {o : List Entry} {p : (Entry × Option Entry) × Nat} :
    p ∈ (withNext o).zipIdx ↔ o[p.2]? = some p.1.1 ∧ p.1.2 = o[p.2 + 1]? := by
  obtain ⟨⟨e, next⟩, i⟩ := p
  rw [List.mem_zipIdx_iff_getElem?, getElem?_withNext]
  simp only [Option.map_eq_some_iff, Prod.mk.injEq]
  constructor
  · rintro ⟨e', found, rfl, rfl⟩
    exact ⟨found, rfl⟩
  · rintro ⟨found, rfl⟩
    exact ⟨e, found, rfl, rfl⟩

/-! The loop of the reader statistics, one entry with the one after it and its position at a
time. -/

def counted (pending : Option Nat) (p : (Entry × Option Entry) × Nat) : Bool :=
  p.1.1.direction.isOutbound && pending != some p.2

def nextInbound (p : (Entry × Option Entry) × Nat) : Bool := p.1.2.any (·.direction.isInbound)

def nextSample? (p : (Entry × Option Entry) × Nat) : Option Float :=
  p.1.2.bind fun reply => if reply.direction.isInbound then responseTimeMs p.1.1.timestamp reply.timestamp else none

theorem countRequest_eq (pending : Option Nat) (s : ReaderStats) (p : (Entry × Option Entry) × Nat) :
    countRequest pending s p.1.1 p.1.2 p.2 =
      if counted pending p then
        { s with
          requests := s.requests + 1
          matchedReplies := s.matchedReplies + if nextInbound p then 1 else 0
          responseTimesMs := s.responseTimesMs ++ (nextSample? p).toList }
      else s := by
  obtain ⟨⟨e, next⟩, i⟩ := p
  unfold countRequest counted
  by_cases skipped : (!e.direction.isOutbound) = true ∨ pending = some i
  · have : (e.direction.isOutbound && pending != some i) = false := by
      rcases skipped with inbound | pending
      · simp_all
      · simp [pending]
    simp only [skipped, if_true, this, Bool.false_eq_true, if_false]
  · have : (e.direction.isOutbound && pending != some i) = true := by
      simp only [not_or, Bool.not_eq_true', Bool.not_eq_false] at skipped
      simp [skipped.1, skipped.2]
    simp only [skipped, if_false, this, if_true]
    cases next with
    | none => simp [nextInbound, nextSample?]
    | some reply =>
      by_cases inbound : reply.direction.isInbound = true
      · cases sample : responseTimeMs e.timestamp reply.timestamp <;>
          simp [nextInbound, nextSample?, inbound, sample]
      · simp [nextInbound, nextSample?, inbound]

/-- What the loop adds up over a list of entries, each with the one after it and its position. -/
theorem foldl_countRequest (pending : Option Nat) (L : List ((Entry × Option Entry) × Nat)) (s : ReaderStats) :
    L.foldl (fun s p => countRequest pending s p.1.1 p.1.2 p.2) s =
      { s with
        requests := s.requests + (L.filter (counted pending)).length
        matchedReplies := s.matchedReplies + ((L.filter (counted pending)).filter nextInbound).length
        responseTimesMs := s.responseTimesMs ++ (L.filter (counted pending)).filterMap nextSample? } := by
  induction L generalizing s with
  | nil => simp
  | cons p L ih =>
    rw [List.foldl_cons, ih, countRequest_eq]
    by_cases counts : counted pending p = true
    · have silent : nextInbound p = false → nextSample? p = none := by
        obtain ⟨⟨e, next⟩, i⟩ := p
        cases next <;> simp_all [nextInbound, nextSample?]
      by_cases inbound : nextInbound p = true
      · cases sample : nextSample? p <;> simp [counts, inbound, sample] <;> omega
      · simp [counts, inbound, silent (by simpa using inbound)]
        omega
    · simp [counts]

section Loop

variable {o : List Entry} {p : (Entry × Option Entry) × Nat}

theorem counted_eq (member : p ∈ (withNext o).zipIdx) : counted (lastOutbound o) p = isRequest o p.2 := by
  rw [isRequest_eq, outboundAt_of_getElem? (mem_withNext_zipIdx.mp member).1, counted]

theorem nextInbound_eq (member : p ∈ (withNext o).zipIdx) : nextInbound p = (replyTo? o p.2).isSome := by
  rw [replyTo?_eq, nextInbound, (mem_withNext_zipIdx.mp member).2]
  cases inbound : inboundAt o (p.2 + 1) <;> simp_all [inboundAt]

theorem nextSample?_eq (member : p ∈ (withNext o).zipIdx) : nextSample? p = (replyTo? o p.2).bind (sample? o p.2) := by
  obtain ⟨found, after⟩ := mem_withNext_zipIdx.mp member
  rw [replyTo?_eq, nextSample?, after]
  cases next : o[p.2 + 1]? with
  | none => simp [inboundAt, next]
  | some reply =>
    rw [inboundAt_of_getElem? next]
    by_cases inbound : reply.direction.isInbound = true <;> simp [inbound, sample?, found, next]

end Loop

/-- The reader statistics compute reply matching as specified, on the entries put in time
order. -/
theorem analyzeReader_eq_stats (entries : List Entry) : analyzeReader entries = stats (timeOrder entries) := by
  -- the loop runs over every position of the entries in time order
  have positions : ((withNext (timeOrder entries)).zipIdx).map (·.2) = List.range (timeOrder entries).length := by
    rw [List.zipIdx_map_snd, length_withNext, List.range_eq_range']
  have requests : (List.range (timeOrder entries).length).filter (isRequest (timeOrder entries)) =
      (((withNext (timeOrder entries)).zipIdx).filter (counted (lastOutbound (timeOrder entries)))).map (·.2) := by
    rw [← positions, List.filter_map]
    exact congrArg _ (List.filter_congr fun p member => (counted_eq member).symm)
  simp only [analyzeReader, foldl_countRequest, stats, requests, List.length_map, Nat.zero_add, List.nil_append,
    List.filter_map, List.filterMap_map, ReaderStats.mk.injEq, true_and]
  constructor
  · exact congrArg List.length (List.filter_congr fun p member =>
      nextInbound_eq (List.mem_of_mem_filter member))
  · exact List.filterMap_congr fun p member => nextSample?_eq (List.mem_of_mem_filter member)

theorem filter_any_lt_eq_dropLast {R : List Nat} (increasing : R.Pairwise (· < ·)) :
    R.filter (fun i => R.any (i < ·)) = R.dropLast := by
  induction R with
  | nil => rfl
  | cons a rest ih =>
    obtain ⟨above, increasing⟩ := List.pairwise_cons.mp increasing
    cases rest with
    | nil => simp
    | cons b others =>
      -- `a` is below `b`, and no later member is below `a`
      have first : ((b :: others).any fun j => decide (a < j)) = true := by simp [above b (by simp)]
      have later : ∀ i ∈ b :: others, (decide (i < a) || (b :: others).any fun j => decide (i < j)) =
          (b :: others).any fun j => decide (i < j) := by
        intro i member
        have := above i member
        simp only [Bool.or_eq_right_iff_imp, decide_eq_true_eq]
        omega
      rw [List.filter_cons, List.any_cons, decide_eq_false (Nat.lt_irrefl a), Bool.false_or, first, if_pos rfl,
        List.dropLast_cons_of_ne_nil (List.cons_ne_nil b others), ← ih increasing]
      simp only [List.any_cons]
      exact congrArg _ (List.filter_congr later)

theorem length_filter_range (o : List Entry) (q : Entry → Bool) :
    ((List.range o.length).filter fun i => o[i]?.any q).length = o.countP q := by
  induction o with
  | nil => rfl
  | cons e rest ih =>
    rw [List.length_cons, List.range_succ_eq_map, List.filter_cons, List.filter_map, List.countP_cons]
    simp only [List.getElem?_cons_zero, Option.any_some, Function.comp_def, Nat.succ_eq_add_one,
      List.getElem?_cons_succ]
    cases q e <;> simp [ih]

theorem stats_requests (o : List Entry) : (stats o).requests = o.countP (·.direction.isOutbound) - 1 := by
  let outbound := (List.range o.length).filter (outboundAt o)
  have increasing : outbound.Pairwise (· < ·) := List.pairwise_lt_range.sublist List.filter_sublist
  have requests : (List.range o.length).filter (isRequest o) = outbound.filter fun i => outbound.any (i < ·) := by
    simp only [outbound, List.filter_filter, List.any_filter, Bool.and_comm]
    rfl
  simp only [stats, requests, filter_any_lt_eq_dropLast increasing, List.length_dropLast]
  exact congrArg (· - 1) (length_filter_range o _)

end Replies

theorem Buffer.oldestFirst_eq (b : Buffer) : b.oldestFirst = timeOrder b.entries := rfl

theorem analyzeReader_timeOrder (l : List Entry) : analyzeReader (timeOrder l) = analyzeReader l := by
  rw [Replies.analyzeReader_eq_stats, Replies.analyzeReader_eq_stats, timeOrder_timeOrder]

theorem analyzeReader_requests (entries : List Entry) :
    (analyzeReader entries).requests = entries.countP (·.direction.isOutbound) - 1 := by
  rw [Replies.analyzeReader_eq_stats, Replies.stats_requests, (timeOrder_perm entries).countP_eq]

theorem head?_map_foldl_min {α : Type} [Min α] (l : List α) : (l.head?.map fun h => l.tail.foldl min h) = l.min? := by
  cases l <;> rfl

theorem head?_map_foldl_max {α : Type} [Max α] (l : List α) : (l.head?.map fun h => l.tail.foldl max h) = l.max? := by
  cases l <;> rfl

section Aggregate

variable (readers : List (ReaderId × List Entry))

theorem computeStats_perReader :
    (computeStats readers).perReader = readers.map fun r => { analyzeReader r.2 with readerId := some r.1 } := rfl

theorem computeStats_totalRequests :
    (computeStats readers).totalRequests = (readers.map fun r => (analyzeReader r.2).requests).sum := by
  simp only [computeStats, List.map_map]
  rfl

theorem computeStats_matchedReplies :
    (computeStats readers).matchedReplies = (readers.map fun r => (analyzeReader r.2).matchedReplies).sum := by
  simp only [computeStats, List.map_map]
  rfl

theorem computeStats_responseTimeSamples :
    (computeStats readers).responseTimeSamples = (readers.flatMap fun r => (analyzeReader r.2).responseTimesMs).length := by
  simp only [computeStats, List.flatMap_map]

theorem computeStats_minResponseTimeMs :
    (computeStats readers).minResponseTimeMs = (readers.flatMap fun r => (analyzeReader r.2).responseTimesMs).min? := by
  simp only [computeStats, List.flatMap_map, head?_map_foldl_min]

theorem computeStats_maxResponseTimeMs :
    (computeStats readers).maxResponseTimeMs = (readers.flatMap fun r => (analyzeReader r.2).responseTimesMs).max? := by
  simp only [computeStats, List.flatMap_map, head?_map_foldl_max]

end Aggregate

/-- The statistics of a service are those of every entry of every buffer, reader by reader as
the visit of the map takes them, whatever the settings hide from views and whatever order the
entries were added in. -/
theorem Service.statistics_eq (s : Service) (place : ReaderId → Nat) :
    s.statistics place = computeStats ((s.visit place).map fun p => (p.1, p.2.buffer.entries)) := by
  simp only [Service.statistics, computeStats, List.map_map, Function.comp_def, Buffer.oldestFirst_eq,
    analyzeReader_timeOrder]

/-- Reply statistics as specified. For every list of entries: the stable sort by time is unique;
the reader statistics are the specified ones on it, with one request fewer than there are
outbound entries; and the reply to an entry is the entry after it when that one is inbound, and
none otherwise. For any readers, in any number: the statistics add up the readers' counts, take
the least and the greatest of all their response times (none exactly when there are none), and
keep one record a reader, in order. The statistics of a service are those of every entry of
every buffer, whatever the settings hide from views, the readers taken in the order the visit of
the reader map takes them, which is some arrangement of all of them. -/
theorem statistics_eq_reply_spec (entries : List Entry) (readers : List (ReaderId × List Entry)) (s : Service)
    (place : ReaderId → Nat) :
    (∀ o, IsStableTimeSort entries o ↔ o = timeOrder entries) ∧
    analyzeReader entries = Replies.stats (timeOrder entries) ∧
    (analyzeReader entries).requests = entries.countP (·.direction.isOutbound) - 1 ∧
    (∀ i, Replies.replyTo? (timeOrder entries) i =
      if Replies.inboundAt (timeOrder entries) (i + 1) then some (i + 1) else none) ∧
    (computeStats readers).totalRequests = (readers.map fun r => (Replies.stats (timeOrder r.2)).requests).sum ∧
    (computeStats readers).matchedReplies =
      (readers.map fun r => (Replies.stats (timeOrder r.2)).matchedReplies).sum ∧
    (computeStats readers).responseTimeSamples =
      (readers.flatMap fun r => (Replies.stats (timeOrder r.2)).responseTimesMs).length ∧
    (computeStats readers).minResponseTimeMs =
      (readers.flatMap fun r => (Replies.stats (timeOrder r.2)).responseTimesMs).min? ∧
    (computeStats readers).maxResponseTimeMs =
      (readers.flatMap fun r => (Replies.stats (timeOrder r.2)).responseTimesMs).max? ∧
    ((computeStats readers).minResponseTimeMs = none ↔ (computeStats readers).responseTimeSamples = 0) ∧
    ((computeStats readers).maxResponseTimeMs = none ↔ (computeStats readers).responseTimeSamples = 0) ∧
    (computeStats readers).perReader = readers.map (fun r => { Replies.stats (timeOrder r.2) with readerId := some r.1 }) ∧
    s.statistics place = computeStats ((s.visit place).map fun p => (p.1, p.2.buffer.entries)) ∧
    (s.visit place).Perm s.readers := by
  have spec : ∀ l, analyzeReader l = Replies.stats (timeOrder l) := Replies.analyzeReader_eq_stats
  simp only [← spec]
  refine ⟨fun o => isStableTimeSort_iff, trivial, analyzeReader_requests entries, Replies.replyTo?_eq _, computeStats_totalRequests readers,
    computeStats_matchedReplies readers, computeStats_responseTimeSamples readers,
    computeStats_minResponseTimeMs readers, computeStats_maxResponseTimeMs readers, ?_, ?_,
    computeStats_perReader readers, Service.statistics_eq s place, s.visit_perm place⟩
  · rw [computeStats_minResponseTimeMs, computeStats_responseTimeSamples, List.min?_eq_none_iff, List.length_eq_zero_iff]
  · rw [computeStats_maxResponseTimeMs, computeStats_responseTimeSamples, List.max?_eq_none_iff, List.length_eq_zero_iff]

end OsdpTrace
