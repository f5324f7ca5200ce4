import ChatNotify.Cache.Layer
import ChatNotify.Cluster.Bus
import ChatNotify.Telemetry.Metric

namespace ChatNotify

/-- Values of metrics, by their names with labels. -/
abbrev Report := List (String × Nat)

namespace Report

/-- A count, which is left out if it is zero. -/
def count (name : String) (value : Nat) : Report :=
  if value = 0 then [] else [(name, value)]

/-- What a shelf reports for its namespace. -/
def ofTally (space : String) (tally : Cache.Tally) : Report :=
  let labels := [("namespace", space)]
  count (Metric.cacheHit.labelled labels) tally.hits
    ++ count (Metric.cacheMiss.labelled labels) tally.misses
    ++ count (Metric.cacheEvict.labelled labels) tally.evictions
    ++ count (Metric.cacheInvalidate.labelled labels) tally.invalidations

/-- What the shelves report. -/
def ofShelves (shelves : Cache.Shelves) : Report :=
  Cache.Namespace.all.flatMap fun space => ofTally space.text (shelves.shelf space).tally

/-- What a queue of events reports. -/
def ofQueue (queue : Cache.EventQueue) : Report :=
  (queue.reportedSize?.map fun size => [(Metric.eventQueueLength.name, size)]).getD []

/-- What a cache reports. -/
def ofCache (cache : Cache) : Report :=
  ofShelves cache.shelves ++ ofQueue cache.queue ++ count Metric.cacheConsume.name cache.batches

/-- The store and the method that a question goes to. -/
def callLabels : Question → List (String × String)
  | .savePost => [("store", "posts"), ("method", "save")]
  | .lastPostTime => [("store", "posts"), ("method", "last_post_time")]
  | .postsSince => [("store", "posts"), ("method", "get_posts_since")]
  | .posts => [("store", "posts"), ("method", "get_posts")]
  | .saveFile => [("store", "files"), ("method", "save")]
  | .files => [("store", "files"), ("method", "get_for_post")]
  | .deleteFiles => [("store", "files"), ("method", "delete_for_post")]
  | .memberCount => [("store", "channels"), ("method", "member_count")]
  | .members => [("store", "channels"), ("method", "members")]
  | .membersOfUser => [("store", "channels"), ("method", "members_for_user")]
  | .updateMember => [("store", "channels"), ("method", "update_member")]
  | _ => []

/-- What stores whose calls are timed report. -/
def ofCalls (asked : List (Question × Bool)) : Report :=
  (asked.map Prod.fst).eraseDups.map fun question =>
    (Metric.storeCall.labelled (callLabels question), asked.countP (·.1 = question))

/-- The warnings that stores whose calls are timed give. -/
def warningsOfCalls (asked : List (Question × Bool)) : List Warning :=
  (asked.filter (·.2)).map fun _ => .storeCallFailed

/-- What a cluster reports. -/
def ofCluster (cluster : Cluster) : Report :=
  count Metric.busyBroadcastFailed.name cluster.failures

end Report

end ChatNotify
