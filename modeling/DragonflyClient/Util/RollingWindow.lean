import Mathlib.Data.UInt

/-!
The rolling window of the rate limiter (`ratelimiter/bbr.rs`).

`add` opens a new bucket when the current one is over; `get_stats` reads the last full buckets,
however long ago they were filled.
-/

namespace DragonflyClient.Util

open List

/-- A call of `add`: when, and with which response time. -/
structure Request where
  time : Nat
  rt : UInt64
  deriving DecidableEq

structure Sample where
  pass : Nat
  minRt : UInt64
  deriving DecidableEq

def u64Max : UInt64 := UInt64.ofNat (2 ^ 64 - 1)

structure RollingWindow where
  ring : List Sample
  bucketCount : Nat
  bucketInterval : Nat
  startedAt : Nat
  current : Sample
  deriving DecidableEq

namespace RollingWindow

def new (bucketCount bucketInterval now : Nat) : RollingWindow :=
  { ring := [], bucketCount, bucketInterval, startedAt := now, current := ⟨0, u64Max⟩ }

/-- `push_overwrite` of the `ringbuf` crate, as it is documented: a full ring loses its oldest
sample. -/
def pushOverwrite (capacity : Nat) (ring : List Sample) (sample : Sample) : List Sample :=
  if ring.length < capacity then ring ++ [sample] else ring.tail ++ [sample]

def add (window : RollingWindow) (request : Request) : RollingWindow :=
  let window :=
    if window.bucketInterval ≤ request.time - window.startedAt then
      { window with
        ring :=
          if 0 < window.current.pass then
            pushOverwrite window.bucketCount window.ring window.current
          else window.ring
        startedAt := request.time
        current := ⟨0, u64Max⟩ }
    else window
  { window with current := ⟨window.current.pass + 1, min window.current.minRt request.rt⟩ }

/-- The first two statistics; the requests in flight are counted elsewhere. -/
def getStats (window : RollingWindow) : Nat × UInt64 :=
  let (maxPass, minRt) := window.ring.foldl
    (fun stats sample => (max stats.1 sample.pass, min stats.2 sample.minRt)) (0, u64Max)
  (maxPass, if minRt = u64Max then 1 else minRt)

def run (window : RollingWindow) (requests : List Request) : RollingWindow :=
  requests.foldl add window

end RollingWindow

/-- What a window is for: the requests bucket by bucket, the last one being filled. -/
structure Buckets where
  full : List (List Request)
  bucket : List Request
  start : Nat

namespace Buckets

variable {interval : Nat} {buckets : Buckets}

def add (interval : Nat) (buckets : Buckets) (request : Request) : Buckets :=
  if interval ≤ request.time - buckets.start then
    { full := if buckets.bucket = [] then buckets.full else buckets.full ++ [buckets.bucket]
      bucket := [request]
      start := request.time }
  else { buckets with bucket := buckets.bucket ++ [request] }

def run (interval : Nat) (buckets : Buckets) (requests : List Request) : Buckets :=
  requests.foldl (add interval) buckets

structure Tight (interval : Nat) (buckets : Buckets) : Prop where
  full : ∀ bucket ∈ buckets.full, ∀ first ∈ bucket, ∀ second ∈ bucket,
    second.time ≤ first.time + interval
  filling : ∀ request ∈ buckets.bucket,
    buckets.start ≤ request.time ∧ request.time ≤ buckets.start + interval

theorem Tight.apart (tight : buckets.Tight interval) :
    ∀ bucket ∈ buckets.full ++ [buckets.bucket], ∀ first ∈ bucket, ∀ second ∈ bucket,
      second.time ≤ first.time + interval := by
  intro bucket listed first one second two
  rcases mem_append.mp listed with done | filling
  · exact tight.full bucket done first one second two
  · obtain rfl := mem_singleton.mp filling
    have early := (tight.filling first one).1
    have late := (tight.filling second two).2
    omega

theorem Tight.add (tight : buckets.Tight interval) {request}
    (later : buckets.start ≤ request.time) : (buckets.add interval request).Tight interval := by
  unfold Buckets.add
  split
  next =>
    refine ⟨fun bucket listed => ?_, by simp⟩
    split at listed
    · exact tight.full bucket listed
    · exact tight.apart bucket listed
  next open' =>
    refine ⟨tight.full, fun other listed => ?_⟩
    rcases mem_append.mp listed with before | here
    · exact tight.filling other before
    · obtain rfl := mem_singleton.mp here
      dsimp only
      omega

theorem Tight.run (tight : buckets.Tight interval) {requests}
    (later : ∀ request ∈ requests, buckets.start ≤ request.time)
    (timed : requests.Pairwise fun first second => first.time ≤ second.time) :
    (buckets.run interval requests).Tight interval := by
  induction requests generalizing buckets with
  | nil => exact tight
  | cons request requests ih =>
    obtain ⟨first, rest⟩ := pairwise_cons.mp timed
    have now := later request mem_cons_self
    refine ih (tight.add now) (fun other listed => ?_) rest
    unfold Buckets.add
    split
    · exact first other listed
    · exact now.trans (first other listed)

theorem flatten_run (buckets : Buckets) (requests : List Request) :
    (buckets.run interval requests).full.flatten ++ (buckets.run interval requests).bucket =
      buckets.full.flatten ++ buckets.bucket ++ requests := by
  induction requests generalizing buckets with
  | nil => exact (append_nil _).symm
  | cons request requests ih =>
    refine (ih (buckets.add interval request)).trans ?_
    unfold add
    split
    · split <;> simp [*]
    · simp

theorem run_append (earlier full : List (List Request)) (bucket : List Request) (start : Nat)
    (requests : List Request) :
    (run interval ⟨earlier ++ full, bucket, start⟩ requests).full =
      earlier ++ (run interval ⟨full, bucket, start⟩ requests).full := by
  induction requests generalizing full bucket start with
  | nil => rfl
  | cons request requests ih =>
    simp only [run, foldl_cons, add] at ih ⊢
    split
    · split
      · exact ih full [request] request.time
      · rw [append_assoc]
        exact ih _ [request] request.time
    · exact ih full _ start

theorem run_of_opens {first} (opens : interval ≤ first.time - buckets.start) (rest : List Request) :
    ∃ earlier, (buckets.run interval (first :: rest)).full =
      earlier ++ (run interval ⟨[], [], first.time⟩ (first :: rest)).full := by
  have fresh : add interval ⟨[], [], first.time⟩ first = ⟨[], [first], first.time⟩ := by
    simp [add]
  have opened : ∃ earlier, buckets.add interval first = ⟨earlier ++ [], [first], first.time⟩ :=
    ⟨_, (if_pos opens).trans (by rw [append_nil])⟩
  obtain ⟨earlier, opened⟩ := opened
  refine ⟨earlier, ?_⟩
  rw [run, foldl_cons, opened, run, foldl_cons, fresh]
  exact run_append earlier [] [first] first.time rest

end Buckets

namespace RollingWindow

def sampleOf (bucket : List Request) : Sample :=
  ⟨bucket.length, bucket.foldl (fun least request => min least request.rt) u64Max⟩

def lastOf (count : Nat) (samples : List Sample) : List Sample :=
  samples.drop (samples.length - count)

theorem pushOverwrite_lastOf {count} (positive : 1 ≤ count) (samples : List Sample)
    (sample : Sample) :
    pushOverwrite count (lastOf count samples) sample = lastOf count (samples ++ [sample]) := by
  unfold pushOverwrite lastOf
  rw [length_drop, length_append, length_singleton]
  split
  next room =>
    rw [drop_append_of_le_length (by omega)]
    congr 2
    omega
  next full =>
    rw [tail_drop, drop_append_of_le_length (by omega)]
    congr 2
    omega

/-- The window holds the summaries of the last full buckets and of the one being filled. -/
structure Sees (window : RollingWindow) (buckets : Buckets) : Prop where
  ring : window.ring = lastOf window.bucketCount (buckets.full.map sampleOf)
  current : window.current = sampleOf buckets.bucket
  start : window.startedAt = buckets.start

variable {window : RollingWindow} {buckets : Buckets}

theorem Sees.add (sees : window.Sees buckets) (positive : 1 ≤ window.bucketCount)
    (request : Request) :
    (window.add request).Sees (buckets.add window.bucketInterval request) := by
  obtain ⟨ring, current, start⟩ := sees
  simp only [RollingWindow.add, Buckets.add, start]
  split
  next =>
    refine ⟨?_, by simp [sampleOf], rfl⟩
    by_cases empty : buckets.bucket = []
    · simp [ring, current, empty, sampleOf]
    · have some : 0 < window.current.pass := by
        rw [current]
        exact length_pos_of_ne_nil empty
      simp only [some, if_true, if_neg empty, map_append, map_cons, map_nil]
      rw [ring, current]
      exact pushOverwrite_lastOf positive _ _
  next => exact ⟨ring, by simp [current, sampleOf], start⟩

theorem add_parameters (window : RollingWindow) (request : Request) :
    (window.add request).bucketCount = window.bucketCount ∧
      (window.add request).bucketInterval = window.bucketInterval := by
  unfold RollingWindow.add
  split <;> exact ⟨rfl, rfl⟩

theorem Sees.run (sees : window.Sees buckets) (positive : 1 ≤ window.bucketCount)
    (requests : List Request) :
    (window.run requests).Sees (buckets.run window.bucketInterval requests) ∧
      (window.run requests).bucketCount = window.bucketCount := by
  induction requests generalizing window buckets with
  | nil => exact ⟨sees, rfl⟩
  | cons request requests ih =>
    obtain ⟨count, interval⟩ := window.add_parameters request
    obtain ⟨sees, same⟩ := ih (sees.add positive request) (count ▸ positive)
    rw [interval] at sees
    exact ⟨sees, same.trans count⟩

theorem sees_new (bucketCount bucketInterval now : Nat) :
    (new bucketCount bucketInterval now).Sees ⟨[], [], now⟩ :=
  ⟨by simp [new, lastOf], rfl, rfl⟩

/-- The requests of the last `bucket_count + 1` intervals before a time begin with one that opens a
bucket, and fill the ring by themselves. -/
structure Renewed (bucketCount bucketInterval created now : Nat) (old recent : List Request) :
    Prop where
  gone : ∀ request ∈ old, request.time + (bucketCount + 1) * bucketInterval < now
  within : ∀ request ∈ recent, now ≤ request.time + (bucketCount + 1) * bucketInterval
  opens : ∃ first rest, recent = first :: rest ∧
    bucketInterval ≤ first.time - ((new bucketCount bucketInterval created).run old).startedAt ∧
    bucketCount ≤ ((new bucketCount bucketInterval first.time).run recent).ring.length

theorem ring_of_renewed {bucketCount bucketInterval created now old recent}
    (positive : 1 ≤ bucketCount)
    (renewed : Renewed bucketCount bucketInterval created now old recent) :
    ((new bucketCount bucketInterval created).run (old ++ recent)).ring =
      ((new bucketCount bucketInterval (recent.head?.elim 0 Request.time)).run recent).ring := by
  obtain ⟨first, rest, rfl, opens, fills⟩ := renewed.opens
  have before := ((sees_new bucketCount bucketInterval created).run positive old).1
  obtain ⟨all, count⟩ := (sees_new bucketCount bucketInterval created).run positive
    (old ++ first :: rest)
  obtain ⟨alone, also⟩ := (sees_new bucketCount bucketInterval first.time).run positive
    (first :: rest)
  rw [before.start] at opens
  obtain ⟨earlier, split⟩ := Buckets.run_of_opens opens rest
  rw [alone.ring, also, lastOf, length_drop] at fills
  have whole : (Buckets.run bucketInterval ⟨[], [], created⟩ (old ++ first :: rest)).full = _ :=
    (congrArg Buckets.full foldl_append).trans split
  have enough : bucketCount ≤
      (Buckets.run bucketInterval ⟨[], [], first.time⟩ (first :: rest)).full.length := by
    simp only [length_map, new] at fills
    omega
  refine all.ring.trans (Eq.trans ?_ alone.ring.symm)
  rw [count, also]
  simp only [new, lastOf] at whole ⊢
  rw [whole, map_append, length_append, drop_append, drop_eq_nil_of_le (by simp; omega), nil_append]
  congr 1
  simp
  omega

/-- The requests of one bucket are at most an interval apart.  Histories that are renewed within the
last `bucket_count + 1` intervals by the same requests have the same statistics. -/
theorem rolling_window_forgets (bucketCount bucketInterval : Nat) (positive : 1 ≤ bucketCount) :
    (∀ created requests, (∀ request ∈ requests, created ≤ request.time) →
      requests.Pairwise (fun first second => first.time ≤ second.time) →
      ∃ buckets, ((new bucketCount bucketInterval created).run requests).Sees buckets ∧
        buckets.full.flatten ++ buckets.bucket = requests ∧
        ∀ bucket ∈ buckets.full ++ [buckets.bucket], ∀ first ∈ bucket, ∀ second ∈ bucket,
          second.time ≤ first.time + bucketInterval) ∧
    ∀ now created other old history recent,
      Renewed bucketCount bucketInterval created now old recent →
      Renewed bucketCount bucketInterval other now history recent →
      getStats ((new bucketCount bucketInterval created).run (old ++ recent)) =
        getStats ((new bucketCount bucketInterval other).run (history ++ recent)) := by
  refine ⟨fun created requests later timed => ?_, fun now created other old history recent => ?_⟩
  · have tight : Buckets.Tight bucketInterval ⟨[], [], created⟩ := ⟨by simp, by simp⟩
    exact ⟨_, ((sees_new bucketCount bucketInterval created).run positive requests).1,
      Buckets.flatten_run ⟨[], [], created⟩ requests, (tight.run later timed).apart⟩
  · intro renewed also
    simp only [getStats, ring_of_renewed positive renewed, ring_of_renewed positive also]

/-- One bucket of 100: what came before the last two requests is forgotten. -/
theorem rolling_window_forgets_one_bucket :
    getStats ((new 1 100 0).run ([⟨0, 5⟩] ++ [⟨900, 7⟩, ⟨1000, 8⟩])) =
        getStats ((new 1 100 0).run ([] ++ [⟨900, 7⟩, ⟨1000, 8⟩])) ∧
      getStats ((new 1 100 0).run [⟨900, 7⟩, ⟨1000, 8⟩]) = (1, 7) := by
  refine ⟨(rolling_window_forgets 1 100 (by decide)).2 1000 0 0 [⟨0, 5⟩] [] [⟨900, 7⟩, ⟨1000, 8⟩]
    ⟨by decide, by decide, _, _, rfl, by decide, by decide⟩
    ⟨by decide, by decide, _, _, rfl, by decide, by decide⟩, by decide⟩

/-- Two requests of long ago are still in the statistics; without them there would be none. -/
theorem idle_window_remembers :
    (∀ request ∈ [⟨0, 5⟩, ⟨100, 7⟩], Request.time request + (1 + 1) * 100 < 1000000) ∧
      getStats ((new 1 100 0).run [⟨0, 5⟩, ⟨100, 7⟩]) = (1, 5) ∧
      getStats ((new 1 100 0).run []) = (0, 1) := by
  decide

end RollingWindow

end DragonflyClient.Util
