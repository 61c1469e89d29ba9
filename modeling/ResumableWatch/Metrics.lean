import ResumableWatch.Number.Shortest
/-!
# Metrics

Counters and one histogram, each series under its labels.  A series is there from the moment it is
first touched.  `Metrics.samples` lists what an exporter would show, ordered by name and labels.

This module and `Backoffs` stand for the library `prometheus_client`, as far as its counters and
histograms are used.  They follow what it documents: `labels` makes a series when it is first asked
for it, `inc` counts one more, and the bounds of a histogram are completed with one that is infinite.
`observe` adds to the sum and counts one more in the first bucket whose bound is not below the value,
so that a value that is no number is in none.  The samples show each bucket together with all before
it, the count, which is that of the last bucket, and the sum.  When a series was made is left out.
-/

namespace ResumableWatch

/-- Labels of a series, by name. -/
abbrev Labels := List (String × String)

/-- The waits before a resync: how many fell into each bucket, and their sum.  This is a histogram as
`prometheus_client` keeps one, where the buckets do not overlap and are added up when they are shown. -/
structure Backoffs where
  /-- One count for each bound, and a last one for the waits above all of them. -/
  buckets : List Nat
  sum : Double
  deriving DecidableEq

/-- One number that an exporter shows. -/
structure Sample where
  name : String
  labels : Labels
  value : Double
  deriving DecidableEq

namespace Backoffs

/-- The upper bounds of the buckets below the last one, in seconds. -/
def bounds : List Double := [.ofInt 1, .ofInt 5, .ofInt 10, .ofInt 30, .ofInt 60]

/-- Counts one more in the first bucket that has room for the value; the last has room for all but a
NaN. -/
def drop (value : Double) : List Double → List Nat → List Nat
  | [], n :: rest => (if value.isNan then n else n + 1) :: rest
  | bound :: bounds, n :: rest =>
    if value.le bound then (n + 1) :: rest else n :: drop value bounds rest
  | _, [] => []

/-- A histogram without waits. -/
def empty : Backoffs := ⟨List.replicate (bounds.length + 1) 0, .zero⟩

/-- One more wait. -/
def observe (value : Double) (b : Backoffs) : Backoffs where
  buckets := drop value bounds b.buckets
  sum := b.sum + value

/-- How many waits there were. -/
def count (b : Backoffs) : Nat := b.buckets.foldl (· + ·) 0

/-- The counts of this bucket and all before it. -/
def cumulative (sum : Nat) : List Nat → List Nat
  | [] => []
  | n :: rest => (sum + n) :: cumulative (sum + n) rest

/-- The samples of one histogram. -/
def samples (kind : String) (b : Backoffs) : List Sample :=
  let name := "kubeinformer_resync_backoff_seconds"
  let bucket (text : String) (n : Nat) : Sample :=
    ⟨name ++ "_bucket", [("kind", kind), ("le", text)], .ofInt n⟩
  List.zipWith bucket (bounds.map Double.text ++ ["+Inf"]) (cumulative 0 b.buckets)
    ++ [⟨name ++ "_count", [("kind", kind)], .ofInt b.count⟩,
      ⟨name ++ "_sum", [("kind", kind)], b.sum⟩]

end Backoffs

/-- All series. -/
structure Metrics where
  counters : List ((String × Labels) × Nat) := []
  backoffs : List (String × Backoffs) := []
  deriving DecidableEq

namespace Metrics

/-- Counts one more in the series of that key. -/
def bump (key : String × Labels) : List ((String × Labels) × Nat) → List ((String × Labels) × Nat)
  | [] => [(key, 1)]
  | (other, n) :: rest =>
    if other = key then (other, n + 1) :: rest else (other, n) :: bump key rest

/-- Counts one more. -/
def count (name : String) (labels : Labels) (m : Metrics) : Metrics :=
  { m with counters := bump (name, labels) m.counters }

/-- A watch request was issued. -/
def countPoll (kind : String) : Metrics → Metrics :=
  count "kubeinformer_polls_total" [("kind", kind)]

/-- An event was received. -/
def countEvent (kind type : String) : Metrics → Metrics :=
  count "kubeinformer_events_total" [("event_type", type), ("kind", kind)]

/-- An error was received. -/
def countError (kind reason : String) : Metrics → Metrics :=
  count "kubeinformer_errors_total" [("kind", kind), ("reason", reason)]

/-- A cursor went back to the origin. -/
def countResync (kind : String) : Metrics → Metrics :=
  count "kubeinformer_resyncs_total" [("kind", kind)]

/-- Applies `f` to the histogram of a kind. -/
def observeIn (kind : String) (f : Backoffs → Backoffs) :
    List (String × Backoffs) → List (String × Backoffs)
  | [] => [(kind, f .empty)]
  | (other, b) :: rest =>
    if other = kind then (other, f b) :: rest else (other, b) :: observeIn kind f rest

/-- A wait before a resync began. -/
def observeBackoff (kind : String) (value : Double) (m : Metrics) : Metrics :=
  { m with backoffs := observeIn kind (Backoffs.observe value) m.backoffs }

/-! ### Samples -/

/-- Order by the first labels that differ; fewer labels come first. -/
def Labels.before : Labels → Labels → Bool
  | [], _ => true
  | _ :: _, [] => false
  | (k, v) :: a, (l, w) :: b =>
    k < l || (k == l && (v < w || (v == w && Labels.before a b)))

/-- Order by name, then by labels. -/
def Sample.before (a b : Sample) : Bool :=
  a.name < b.name || (a.name == b.name && Labels.before a.labels b.labels)

/-- All samples in order. -/
def samples (m : Metrics) : List Sample :=
  ((m.counters.map fun ((name, labels), (n : Nat)) => (⟨name, labels, .ofInt (n : Int)⟩ : Sample))
    ++ m.backoffs.flatMap fun (kind, b) => Backoffs.samples kind b).mergeSort Sample.before

end Metrics

end ResumableWatch
