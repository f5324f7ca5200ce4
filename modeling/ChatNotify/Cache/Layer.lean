import ChatNotify.Cache.Backing
import ChatNotify.Cache.Basic

namespace ChatNotify.Cache

/-- The cache, the state of the stores behind it, and the questions put to them, each with the truth
value whether it failed. A request asks the stores at most once; so it is begun, perhaps has to
wait, and is finished when the stores have been asked. -/
structure Layer (σ : Type) where
  cache : Cache
  store : σ
  asked : List (Question × Bool) := []

/-- How a request goes on after the stores have answered. -/
inductive Pending where
  /-- The value is put on its shelf, and the gate left by those who came through it. -/
  | fetches (lookup : Lookup) (epoch : Nat) (gated : Bool)
  /-- The time of the latest change is noted. -/
  | listsSince (epoch : Nat)
  /-- What the request has changed is announced. -/
  | passes

/-- What a step of a request comes to. -/
inductive Step where
  | answers (reply : Reply)
  /-- Another request is fetching the value looked up. -/
  | waits (lookup : Lookup)
  /-- The stores have to be asked. -/
  | asks (pending : Pending)

namespace Layer

variable {σ : Type}

/-- The layer with another shelf. -/
def replace (layer : Layer σ) (space : Namespace) (shelf : Shelf space.Key space.Value) : Layer σ :=
  { layer with
    cache := { layer.cache with shelves := layer.cache.shelves.replace space shelf } }

/-- The step that a reading of a shelf is for a request. -/
def stepOf (request : Request) (lookup : Lookup) : Reading lookup.space.Value → Step
  | .found value => .answers (request.reply lookup.space value)
  | .waits => .waits lookup
  | .fetches epoch gated => .asks (.fetches lookup epoch gated)

/-- Begins a request for changes since an instant, which there are none of if the channel is known not
to have changed. -/
def beginSince (layer : Layer σ) (channel : Id) (since : Instant) (fromCache : Bool) (now : Instant) :
    Layer σ × Step :=
  if !fromCache then
    (layer, .asks (.listsSince layer.cache.shelves.lastPostTime.epoch))
  else
    let (shelf, last) := layer.cache.shelves.lastPostTime.get channel now
    let layer := layer.replace .lastPostTime shelf
    if last.any (· ≤ since) then (layer, .answers (.posts {}))
    else (layer, .asks (.listsSince shelf.epoch))

/-- Begins a request. -/
def begin (layer : Layer σ) (ticket : Ticket) (request : Request) (now : Instant) : Layer σ × Step :=
  if !layer.cache.settings.enabled then (layer, .asks .passes)
  else
    match request, request.lookup? with
    | .postsSince channel since fromCache, _ => layer.beginSince channel since fromCache now
    | request, some (lookup, fromCache) =>
      let shelf := layer.cache.shelves.shelf lookup.space
      let (shelf, reading) := shelf.beginRead ticket lookup.key fromCache now
      (layer.replace lookup.space shelf, stepOf request lookup reading)
    | _, none => (layer, .asks .passes)

/-- Goes on with a request that waits, if it is its turn. -/
def resume (layer : Layer σ) (ticket : Ticket) (request : Request) (lookup : Lookup) (now : Instant) :
    Layer σ × Step :=
  let shelf := layer.cache.shelves.shelf lookup.space
  let (shelf, reading) := shelf.resumeRead ticket lookup.key now
  (layer.replace lookup.space shelf, stepOf request lookup reading)

/-- Notes a question to the stores. -/
def note {α : Type} (layer : Layer σ) (request : Request) (answer : Except StoreError α) : Layer σ :=
  { layer with asked := layer.asked ++ [(request.question, !answer.isOk)] }

/-- The latest change that a list of changes since an instant tells of. -/
def latestOf (list : PostList) (since : Instant) : Instant :=
  (list.latestUpdate?.map fun latest => latest.latest since).getD since

/-- Finishes a request for changes since an instant. -/
def finishSince (layer : Layer σ) (request : Request) (epoch : Nat) (reply : Reply) (now : Instant) :
    Layer σ :=
  match request, reply with
  | .postsSince channel since _, .posts list =>
    layer.replace .lastPostTime
      (layer.cache.shelves.lastPostTime.putIfCurrent channel (latestOf list since) epoch now).1
  | _, _ => layer

/-- Asks the stores and finishes the request. -/
def finish (layer : Layer σ) (backing : Backing σ) (ticket : Ticket) (request : Request)
    (pending : Pending) (now : Instant) : Layer σ × Except StoreError Reply :=
  match pending with
  | .fetches lookup epoch gated =>
    let outcome := backing.fetch layer.store lookup.space lookup.key
    let layer := layer.note request outcome
    let shelf := layer.cache.shelves.shelf lookup.space
    let shelf := shelf.finishRead ticket lookup.key epoch gated outcome now
    (layer.replace lookup.space shelf, outcome.map (request.reply lookup.space))
  | .listsSince epoch =>
    let outcome := backing.serve layer.store request
    let layer := layer.note request outcome
    match outcome with
    | .error error => (layer, .error error)
    | .ok (reply, store) => ({ layer with store := store }.finishSince request epoch reply now, .ok reply)
  | .passes =>
    let outcome := backing.serve layer.store request
    let layer := layer.note request outcome
    match outcome with
    | .error error => (layer, .error error)
    | .ok (reply, store) =>
      ({ layer with
          store := store
          cache := (reply.event?.map layer.cache.announce).getD layer.cache }, .ok reply)

/-- Answers a request that runs alone; the stores, if they are asked, answer at the later instant.
There is no answer if another request has not left the gate. -/
def request (layer : Layer σ) (backing : Backing σ) (request : Request) (now : Instant)
    (later : Instant := now) : Layer σ × Option (Except StoreError Reply) :=
  match layer.begin 0 request now with
  | (layer, .answers reply) => (layer, some (.ok reply))
  | (layer, .waits _) => (layer, none)
  | (layer, .asks pending) =>
    let (layer, answer) := layer.finish backing 0 request pending later
    (layer, some answer)

end Layer

end ChatNotify.Cache
