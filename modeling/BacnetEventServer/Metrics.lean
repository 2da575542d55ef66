import BacnetEventServer.JsonText

namespace BacnetEventServer

/-- A bound of a latency bucket: a number of milliseconds, or `INFINITY`. -/
inductive LatencyBound
  | finite (ms : CDouble)
  | infinity
  deriving DecidableEq, Repr

namespace LatencyBound

/-- `value <= buckets[i]`. The model's doubles are finite, so `INFINITY` admits every value. -/
def admits : LatencyBound → CDouble → Bool
  | finite ms, value => value.le ms
  | infinity, _ => true

/-- The order of the bounds, `INFINITY` last. -/
def le : LatencyBound → LatencyBound → Bool
  | finite a, finite b => a.le b
  | _, infinity => true
  | infinity, finite _ => false

theorem admits_of_le {b b' : LatencyBound} (h : b.le b' = true) {value : CDouble}
    (hv : b.admits value = true) : b'.admits value = true := by
  cases b <;> cases b' <;> simp only [le, admits] at h hv ⊢
  · rw [CDouble.le_iff] at h hv ⊢
    exact hv.trans h
  · cases h

end LatencyBound

/-- `PROCESSING_LATENCY_BUCKETS` and `NUM_PROCESSING_BUCKETS`. -/
def processingLatencyBuckets : List LatencyBound :=
  [1, 5, 10, 25, 50, 100, 250, 500, 1000].map (.finite ∘ CDouble.ofInt) ++ [.infinity]

def numProcessingBuckets : Nat := 10

/-- `READ_LATENCY_BUCKETS` and `NUM_READ_BUCKETS`. -/
def readLatencyBuckets : List LatencyBound :=
  [1, 5, 10, 25, 50, 100].map (.finite ∘ CDouble.ofInt) ++ [.infinity]

def numReadBuckets : Nat := 7

/-- The loop of `find_histogram_bucket` from index `i`: the first index whose bound admits the
value, or `fallback` past the last bound. -/
def findBucketFrom (value : CDouble) (fallback : Nat) : Nat → List LatencyBound → Nat
  | _, [] => fallback
  | i, b :: bs => if b.admits value then i else findBucketFrom value fallback (i + 1) bs

/-- `find_histogram_bucket(buckets, count, value)`: the loop over the first `count` bounds,
and `count - 1` when none admits the value. -/
def findHistogramBucket (buckets : List LatencyBound) (count : Nat) (value : CDouble) : Nat :=
  findBucketFrom value (count - 1) 0 (buckets.take count)

/-- `++` on a `uint64_t`. -/
def uint64Succ (n : Nat) : Nat := (n + 1) % 2 ^ 64

/-- `x + y` on the values; the rounding of the sum is not modelled. -/
def CDouble.add (x y : CDouble) : CDouble :=
  ⟨x.num * y.den + y.num * x.den, x.den * y.den, Nat.mul_pos x.den_pos y.den_pos⟩

/-- `x / d` for a positive constant `d`, as the code's `/ 1000.0`. -/
def CDouble.divNat (x : CDouble) (d : Nat) (hd : 0 < d) : CDouble :=
  ⟨x.num, x.den * d, Nat.mul_pos x.den_pos hd⟩

/-- A latency histogram of `system_metrics_t`: a `uint64_t` counter per bucket, the
`uint64_t` count and the `double` sum of the observations. -/
structure LatencyHistogram where
  bucket : List Nat
  count : Nat
  sum : CDouble

/-- A histogram of `n` buckets as the static `api_state` starts it, all zero. -/
def LatencyHistogram.zero (n : Nat) : LatencyHistogram := ⟨List.replicate n 0, 0, CDouble.ofInt 0⟩

/-- One observation: `bucket[find_histogram_bucket(...)]++`, `count++` and
`sum += latency_ms`. -/
def observeLatency (buckets : List LatencyBound) (numBuckets : Nat) (h : LatencyHistogram)
    (latencyMs : CDouble) : LatencyHistogram where
  bucket := h.bucket.modify uint64Succ (findHistogramBucket buckets numBuckets latencyMs)
  count := uint64Succ h.count
  sum := h.sum.add latencyMs

def observeRun (buckets : List LatencyBound) (numBuckets : Nat) (h : LatencyHistogram)
    (latencies : List CDouble) : LatencyHistogram :=
  latencies.foldl (observeLatency buckets numBuckets) h

/-- The histogram fields of `system_metrics_t`. -/
structure SystemMetrics where
  processingLatency : LatencyHistogram
  readLatency : LatencyHistogram

def SystemMetrics.zero : SystemMetrics :=
  ⟨.zero numProcessingBuckets, .zero numReadBuckets⟩

/-- `health_api_observe_processing_latency`. -/
def healthApiObserveProcessingLatency (m : SystemMetrics) (latencyMs : CDouble) : SystemMetrics :=
  { m with processingLatency :=
      observeLatency processingLatencyBuckets numProcessingBuckets m.processingLatency latencyMs }

/-- `health_api_observe_read_latency`. -/
def healthApiObserveReadLatency (m : SystemMetrics) (latencyMs : CDouble) : SystemMetrics :=
  { m with readLatency := observeLatency readLatencyBuckets numReadBuckets m.readLatency latencyMs }

/-- A call that writes a histogram. -/
inductive MetricsOp
  | processing (latencyMs : CDouble)
  | read (latencyMs : CDouble)

def metricsStep (m : SystemMetrics) : MetricsOp → SystemMetrics
  | .processing latencyMs => healthApiObserveProcessingLatency m latencyMs
  | .read latencyMs => healthApiObserveReadLatency m latencyMs

def metricsRun (m : SystemMetrics) (ops : List MetricsOp) : SystemMetrics := ops.foldl metricsStep m

/-- The latencies of a run's processing observations, in order. -/
def processingLatencies (ops : List MetricsOp) : List CDouble :=
  ops.filterMap fun
    | .processing latencyMs => some latencyMs
    | .read _ => none

/-- The latencies of a run's read observations, in order. -/
def readLatencies (ops : List MetricsOp) : List CDouble :=
  ops.filterMap fun
    | .processing _ => none
    | .read latencyMs => some latencyMs

/-- The loop of `handle_metrics` over a histogram: each bound with `cumulative`, the
`uint64_t` running sum of the counters up to it. -/
def cumulativeLines (cumulative : Nat) : List LatencyBound → List Nat → List (LatencyBound × Nat)
  | b :: bs, n :: ns =>
    (b, (cumulative + n) % 2 ^ 64) :: cumulativeLines ((cumulative + n) % 2 ^ 64) bs ns
  | _, _ => []

/-- A bucket line: `le="+Inf"` for `INFINITY`, else the bound in seconds by `%.3f`, then the
cumulative count by `%lu`. -/
def bucketLine (name : CStr) : LatencyBound × Nat → CStr
  | (.infinity, c) => name ++ lit "_bucket\x7ble=\"+Inf\"\x7d " ++ decimalText c ++ lit "\n"
  | (.finite ms, c) =>
    name ++ lit "_bucket\x7ble=\"" ++ printfFixedText 3 (ms.divNat 1000 (by decide)) ++
      lit "\"\x7d " ++ decimalText c ++ lit "\n"

/-- What `handle_metrics` writes of a histogram, by `snprintf` call: the `HELP` and `TYPE`
lines, a line per bucket, and the sum in seconds with the count. -/
def histogramPieces (name help : CStr) (buckets : List LatencyBound) (h : LatencyHistogram) :
    List CStr :=
  (lit "# HELP " ++ name ++ lit " " ++ help ++ lit "\n# TYPE " ++ name ++ lit " histogram\n") ::
    (cumulativeLines 0 buckets h.bucket).map (bucketLine name) ++
    [name ++ lit "_sum " ++ printfFixedText 6 (h.sum.divNat 1000 (by decide)) ++ lit "\n" ++
      name ++ lit "_count " ++ decimalText h.count ++ lit "\n\n"]

def processingLatencyPieces (m : SystemMetrics) : List CStr :=
  histogramPieces (lit "bacnet_message_processing_seconds") (lit "Time spent processing messages.")
    processingLatencyBuckets m.processingLatency

def readLatencyPieces (m : SystemMetrics) : List CStr :=
  histogramPieces (lit "bacnet_read_latency_seconds") (lit "Time spent handling read requests.")
    readLatencyBuckets m.readLatency

/-- The counters after an observation, bound by bound: the first bound that admits it counts
it. -/
def bumpFirst (value : CDouble) : List LatencyBound → List Nat → List Nat
  | b :: bs, n :: ns => if b.admits value then uint64Succ n :: ns else n :: bumpFirst value bs ns
  | _, ns => ns

section Observe

variable {value : CDouble} {fallback : Nat}

theorem exists_admits_of_cons {b : LatencyBound} {bs : List LatencyBound}
    (hv : ∃ b' ∈ b :: bs, b'.admits value = true) (hb : ¬ b.admits value = true) :
    ∃ b' ∈ bs, b'.admits value = true := by
  obtain ⟨b', hb', hadm⟩ := hv
  rcases List.mem_cons.mp hb' with rfl | hb'
  exacts [absurd hadm hb, ⟨b', hb', hadm⟩]

theorem findBucketFrom_succ {bs : List LatencyBound} (hv : ∃ b ∈ bs, b.admits value = true)
    (i : Nat) : findBucketFrom value fallback (i + 1) bs = findBucketFrom value fallback i bs + 1 := by
  induction bs generalizing i with
  | nil => obtain ⟨_, h, -⟩ := hv; cases h
  | cons b bs ih =>
    by_cases hb : b.admits value = true
    · simp only [findBucketFrom, hb, if_true]
    · simp only [findBucketFrom, hb, Bool.false_eq_true, if_false, ih (exists_admits_of_cons hv hb)]

theorem modify_findBucketFrom {bs : List LatencyBound} (hv : ∃ b ∈ bs, b.admits value = true)
    (ns : List Nat) : ns.modify uint64Succ (findBucketFrom value fallback 0 bs) = bumpFirst value bs ns := by
  induction bs generalizing ns with
  | nil => obtain ⟨_, h, -⟩ := hv; cases h
  | cons b bs ih =>
    by_cases hb : b.admits value = true
    · cases ns <;> simp only [findBucketFrom, bumpFirst, hb, if_true, List.modify_nil,
        List.modify_zero_cons]
    · have hrest := exists_admits_of_cons hv hb
      cases ns with
      | nil => exact List.modify_nil _ _
      | cons n ns =>
        simp only [findBucketFrom, bumpFirst, hb, Bool.false_eq_true, if_false,
          findBucketFrom_succ hrest, List.modify_succ_cons, ih hrest]

theorem mem_cumulativeLines {c : Nat} {bs : List LatencyBound} {ns : List Nat}
    {l : LatencyBound × Nat} (h : l ∈ cumulativeLines c bs ns) : l.1 ∈ bs := by
  induction bs generalizing c ns with
  | nil => exact absurd h (List.not_mem_nil _)
  | cons b bs ih =>
    cases ns with
    | nil => exact absurd h (List.not_mem_nil _)
    | cons n ns =>
      simp only [cumulativeLines, List.mem_cons] at h
      rcases h with rfl | h
      · exact List.mem_cons_self _ _
      · exact List.mem_cons_of_mem _ (ih h)

theorem cumulativeLines_uint64Succ (c : Nat) (bs : List LatencyBound) (ns : List Nat) :
    cumulativeLines (uint64Succ c) bs ns =
      (cumulativeLines c bs ns).map fun l => (l.1, uint64Succ l.2) := by
  induction bs generalizing c ns with
  | nil => rfl
  | cons b bs ih =>
    cases ns with
    | nil => rfl
    | cons n ns =>
      have hc : (uint64Succ c + n) % 2 ^ 64 = uint64Succ ((c + n) % 2 ^ 64) := by
        simp only [uint64Succ]; omega
      simp only [cumulativeLines, List.map_cons, hc, ih]

theorem cumulativeLines_zero (bs : List LatencyBound) :
    cumulativeLines 0 bs (List.replicate bs.length 0) = bs.map fun b => (b, 0) := by
  induction bs with
  | nil => rfl
  | cons b bs ih =>
    simp only [List.length_cons, List.replicate_succ, cumulativeLines.eq_1, Nat.add_zero,
      Nat.zero_mod, ih, List.map_cons]

variable {buckets : List LatencyBound} (hsorted : buckets.Pairwise fun b b' => b.le b' = true)
include hsorted

/-- An observation adds one to the lines of the bounds that admit it, and to no other. -/
theorem cumulativeLines_bumpFirst (c : Nat) (ns : List Nat) :
    cumulativeLines c buckets (bumpFirst value buckets ns) =
      (cumulativeLines c buckets ns).map fun l =>
        (l.1, if l.1.admits value then uint64Succ l.2 else l.2) := by
  induction buckets generalizing c ns with
  | nil => rfl
  | cons b bs ih =>
    obtain ⟨hb_le, hrest⟩ := List.pairwise_cons.mp hsorted
    cases ns with
    | nil => rfl
    | cons n ns =>
      by_cases hb : b.admits value = true
      · have hc : (c + uint64Succ n) % 2 ^ 64 = uint64Succ ((c + n) % 2 ^ 64) := by
          simp only [uint64Succ]; omega
        have hlater : ∀ l ∈ cumulativeLines ((c + n) % 2 ^ 64) bs ns,
            (l.1, uint64Succ l.2) = (l.1, if l.1.admits value then uint64Succ l.2 else l.2) :=
          fun l hl => by
            rw [LatencyBound.admits_of_le (hb_le l.1 (mem_cumulativeLines hl)) hb, if_pos rfl]
        simp only [cumulativeLines, bumpFirst, hb, if_true, hc, cumulativeLines_uint64Succ,
          List.map_cons]
        exact congrArg _ (List.map_congr_left hlater)
      · rw [Bool.not_eq_true] at hb
        simp only [cumulativeLines.eq_1, bumpFirst.eq_1, hb, Bool.false_eq_true, if_false,
          ih hrest, List.map_cons]

variable (hinf : LatencyBound.infinity ∈ buckets)
include hinf

theorem observeLatency_lines (h : LatencyHistogram) (x : CDouble) :
    cumulativeLines 0 buckets (observeLatency buckets buckets.length h x).bucket =
      (cumulativeLines 0 buckets h.bucket).map fun l =>
        (l.1, if l.1.admits x then uint64Succ l.2 else l.2) := by
  have hv : ∃ b ∈ buckets, b.admits x = true := ⟨_, hinf, rfl⟩
  simp only [observeLatency, findHistogramBucket, List.take_length, modify_findBucketFrom hv]
  exact cumulativeLines_bumpFirst hsorted 0 h.bucket

/-- Over every run, each bound is printed with the observations it admits. -/
theorem observeRun_lines (latencies : List CDouble) :
    cumulativeLines 0 buckets
        (observeRun buckets buckets.length (.zero buckets.length) latencies).bucket =
      buckets.map (fun b => (b, latencies.countP b.admits % 2 ^ 64)) ∧
      (observeRun buckets buckets.length (.zero buckets.length) latencies).count =
        latencies.length % 2 ^ 64 := by
  suffices ∀ (earlier : List CDouble) (h : LatencyHistogram),
      cumulativeLines 0 buckets h.bucket =
          buckets.map (fun b => (b, earlier.countP b.admits % 2 ^ 64)) →
        h.count = earlier.length % 2 ^ 64 →
      cumulativeLines 0 buckets (observeRun buckets buckets.length h latencies).bucket =
          buckets.map (fun b => (b, (earlier ++ latencies).countP b.admits % 2 ^ 64)) ∧
        (observeRun buckets buckets.length h latencies).count =
          (earlier ++ latencies).length % 2 ^ 64 by
    simpa using this [] (.zero buckets.length) (by simpa using cumulativeLines_zero buckets) rfl
  induction latencies with
  | nil =>
    intro earlier h hlines hcount
    rw [List.append_nil]
    exact ⟨hlines, hcount⟩
  | cons x xs ih =>
    intro earlier h hlines hcount
    have hstep := ih (earlier ++ [x]) (observeLatency buckets buckets.length h x) (by
      rw [observeLatency_lines hsorted hinf, hlines]
      simp only [List.map_map, List.countP_append, List.countP_singleton]
      congr 1; funext b
      by_cases hb : b.admits x = true <;> simp [hb, uint64Succ, Nat.add_mod]) (by
      simp [observeLatency, hcount, uint64Succ, Nat.add_mod])
    simpa [observeRun] using hstep

end Observe

theorem metricsRun_processingLatency (m : SystemMetrics) (ops : List MetricsOp) :
    (metricsRun m ops).processingLatency =
      observeRun processingLatencyBuckets numProcessingBuckets m.processingLatency
        (processingLatencies ops) := by
  induction ops generalizing m with
  | nil => rfl
  | cons op ops ih => cases op <;> exact ih _

theorem metricsRun_readLatency (m : SystemMetrics) (ops : List MetricsOp) :
    (metricsRun m ops).readLatency =
      observeRun readLatencyBuckets numReadBuckets m.readLatency (readLatencies ops) := by
  induction ops generalizing m with
  | nil => rfl
  | cons op ops ih => cases op <;> exact ih _

/-- Over every run of observations, each bound line carries the observations it admits, modulo
`2 ^ 64`, and the count line their number, for both histograms. -/
theorem metrics_histogram_lines (ops : List MetricsOp) :
    (cumulativeLines 0 processingLatencyBuckets (metricsRun .zero ops).processingLatency.bucket =
        processingLatencyBuckets.map
          (fun b => (b, (processingLatencies ops).countP b.admits % 2 ^ 64)) ∧
      (metricsRun .zero ops).processingLatency.count =
        (processingLatencies ops).length % 2 ^ 64) ∧
    (cumulativeLines 0 readLatencyBuckets (metricsRun .zero ops).readLatency.bucket =
        readLatencyBuckets.map (fun b => (b, (readLatencies ops).countP b.admits % 2 ^ 64)) ∧
      (metricsRun .zero ops).readLatency.count = (readLatencies ops).length % 2 ^ 64) := by
  rw [metricsRun_processingLatency, metricsRun_readLatency]
  exact ⟨observeRun_lines (by decide) (by decide) _, observeRun_lines (by decide) (by decide) _⟩

theorem countP_admits_infinity (latencies : List CDouble) :
    latencies.countP LatencyBound.infinity.admits = latencies.length :=
  congrFun List.countP_true latencies

/-- In every state the observations reach, the last bucket line of each histogram,
`le="+Inf"`, carries the count its `_count` line prints. -/
theorem metrics_inf_line_is_count (ops : List MetricsOp) :
    (cumulativeLines 0 processingLatencyBuckets
        (metricsRun .zero ops).processingLatency.bucket).getLast? =
      some (.infinity, (metricsRun .zero ops).processingLatency.count) ∧
    (cumulativeLines 0 readLatencyBuckets (metricsRun .zero ops).readLatency.bucket).getLast? =
      some (.infinity, (metricsRun .zero ops).readLatency.count) := by
  obtain ⟨hp, hpc⟩ :=
    @observeRun_lines processingLatencyBuckets (by decide) (by decide) (processingLatencies ops)
  obtain ⟨hr, hrc⟩ := @observeRun_lines readLatencyBuckets (by decide) (by decide) (readLatencies ops)
  rw [metricsRun_processingLatency, metricsRun_readLatency]
  erw [hp, hpc, hr, hrc, List.getLast?_map, List.getLast?_map]
  simp [processingLatencyBuckets, readLatencyBuckets, countP_admits_infinity]

end BacnetEventServer
