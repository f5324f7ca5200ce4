namespace ChatNotify

/-- How a metric is counted. -/
inductive Metric.Kind where
  | counter
  | gauge
  | histogram
  deriving Repr, DecidableEq

/-- What a metric is counted in. -/
inductive Metric.Measure where
  | count
  | milliseconds
  deriving Repr, DecidableEq

/-- The metrics. -/
inductive Metric where
  | cacheHit
  | cacheMiss
  | cacheEvict
  | cacheInvalidate
  | eventQueueLength
  | cacheConsume
  | storeCall
  | busyBroadcastFailed
  deriving Repr, DecidableEq

namespace Metric

/-- The name of the kind. -/
def Kind.text : Kind → String
  | .counter => "counter"
  | .gauge => "gauge"
  | .histogram => "histogram"

/-- The name of the measure. -/
def Measure.text : Measure → String
  | .count => "count"
  | .milliseconds => "milliseconds"

/-- All metrics, in the order in which they are described. -/
def all : List Metric :=
  [.cacheHit, .cacheMiss, .cacheEvict, .cacheInvalidate, .eventQueueLength, .cacheConsume, .storeCall,
    .busyBroadcastFailed]

/-- The name of a metric. -/
def name : Metric → String
  | .cacheHit => "herald_cache_hit_total"
  | .cacheMiss => "herald_cache_miss_total"
  | .cacheEvict => "herald_cache_evict_total"
  | .cacheInvalidate => "herald_cache_invalidate_total"
  | .eventQueueLength => "herald_cache_event_queue_len"
  | .cacheConsume => "herald_cache_consume_ms"
  | .storeCall => "herald_store_call_ms"
  | .busyBroadcastFailed => "herald_busy_broadcast_failed_total"

/-- How a metric is counted. -/
def kind : Metric → Kind
  | .eventQueueLength => .gauge
  | .cacheConsume | .storeCall => .histogram
  | _ => .counter

/-- What a metric is counted in. -/
def measure : Metric → Measure
  | .cacheConsume | .storeCall => .milliseconds
  | _ => .count

/-- What a metric says. -/
def description : Metric → String
  | .cacheHit => "Local cache hits, labelled by namespace."
  | .cacheMiss => "Local cache misses, labelled by namespace."
  | .cacheEvict => "Local cache evictions due to capacity, labelled by namespace."
  | .cacheInvalidate =>
    "Explicit key invalidations and namespace clears, labelled by namespace."
  | .eventQueueLength => "Current number of pending cache events in the queue."
  | .cacheConsume => "Cache consumption latency in milliseconds."
  | .storeCall => "Backing store call latency in milliseconds, labelled by store and method."
  | .busyBroadcastFailed => "Busy state broadcasts the cluster transport rejected."

/-- The name of a metric with labels behind it. -/
def labelled (metric : Metric) (labels : List (String × String)) : String :=
  metric.name ++ String.join (labels.map fun (label, value) => "," ++ label ++ "=" ++ value)

end Metric

end ChatNotify
