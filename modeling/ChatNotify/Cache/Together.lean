import ChatNotify.Cache.Layer
import ChatNotify.Time.Timeline

namespace ChatNotify.Cache

namespace Shelf

variable {κ α ε : Type} [DecidableEq κ]

/-- Something done to a shelf. -/
inductive Command (κ α ε : Type) where
  | put (key : κ) (value : α)
  | get (key : κ)
  | putIfCurrent (key : κ) (value : α) (epoch : Nat)
  | invalidate (key : κ)
  | clear
  /-- Reads through the shelf; a fetch takes so long and comes to that outcome. -/
  | read (key : κ) (useCache : Bool) (delay : Nat) (outcome : Except ε α)

/-- What comes of a command. -/
inductive Result (α ε : Type) where
  | done
  | value (value : Option α)
  | stored (stored : Bool)
  | outcome (outcome : Except ε α)

/-- How far a command has come. -/
inductive Task (κ α ε : Type) where
  | command (command : Command κ α ε)
  | waiting (key : κ) (delay : Nat) (outcome : Except ε α)
  | fetching (key : κ) (epoch : Nat) (gated : Bool) (outcome : Except ε α)

/-- A shelf and the number of fetches made for it. -/
structure Fetched (κ α : Type) where
  shelf : Shelf κ α
  fetches : Nat := 0

/-- Goes on after a step of a read. A fetch that takes no time is finished at once. -/
def afterReading (fetched : Fetched κ α) (moment : Nat) (ticket : Ticket) (key : κ) (delay : Nat)
    (outcome : Except ε α) (now : Instant) :
    Reading α → Fetched κ α × Timeline.Stage (Ticket × Task κ α ε) (Result α ε)
  | .found value => (fetched, .done (.outcome (.ok value)))
  | .waits => (fetched, .stuck (ticket, .waiting key delay outcome))
  | .fetches epoch gated =>
    let fetched := { fetched with fetches := fetched.fetches + 1 }
    if delay = 0 then
      ({ fetched with shelf := fetched.shelf.finishRead ticket key epoch gated outcome now },
        .done (.outcome outcome))
    else (fetched, .asleep (moment + delay) (ticket, .fetching key epoch gated outcome))

/-- Carries out a command that does not wait for anything. -/
def perform (shelf : Shelf κ α) (now : Instant) : Command κ α ε → Shelf κ α × Result α ε
  | .put key value => (shelf.put key value now, .done)
  | .get key =>
    let (shelf, value) := shelf.get key now
    (shelf, .value value)
  | .putIfCurrent key value epoch =>
    let (shelf, stored) := shelf.putIfCurrent key value epoch now
    (shelf, .stored stored)
  | .invalidate key => (shelf.invalidate key, .done)
  | .clear => (shelf.clear, .done)
  | .read .. => (shelf, .done)

/-- Carries out a command that runs alone. If it fetches a value, others are carried out during the
fetch. -/
def runAlone (shelf : Shelf κ α) (now : Instant) (command : Command κ α ε)
    (during : List (Command κ α ε)) : Fetched κ α × Option (Result α ε) :=
  match command with
  | .read key useCache _ outcome =>
    let fetch (shelf : Shelf κ α) : Shelf κ α × Except ε α :=
      (during.foldl (fun shelf command => (shelf.perform now command).1) shelf, outcome)
    let fetches :=
      match (shelf.beginRead 0 key useCache now).2 with
      | .fetches .. => 1
      | .found _ | .waits => 0
    let (shelf, outcome) := shelf.read 0 key useCache now fetch
    ({ shelf, fetches }, outcome.map Result.outcome)
  | command =>
    let (shelf, result) := shelf.perform now command
    ({ shelf }, some result)

/-- How commands go on. -/
def advanceTask (now : Instant) :
    Timeline.Advance (Fetched κ α) (Ticket × Task κ α ε) (Result α ε)
  | fetched, moment, (ticket, .command (.read key useCache delay outcome)) =>
    let (shelf, reading) := fetched.shelf.beginRead ticket key useCache now
    some (afterReading { fetched with shelf := shelf } moment ticket key delay outcome now reading)
  | fetched, _, (_, .command command) =>
    let (shelf, result) := fetched.shelf.perform now command
    some ({ fetched with shelf := shelf }, .done result)
  | fetched, moment, (ticket, .waiting key delay outcome) =>
    match fetched.shelf.resumeRead ticket key now with
    | (_, .waits) => none
    | (shelf, reading) =>
      some (afterReading { fetched with shelf := shelf } moment ticket key delay outcome now reading)
  | fetched, _, (ticket, .fetching key epoch gated outcome) =>
    some ({ fetched with shelf := fetched.shelf.finishRead ticket key epoch gated outcome now },
      .done (.outcome outcome))

/-- Carries out commands together, each of which begins at its moment. -/
def runTogether (shelf : Shelf κ α) (now : Instant) (commands : List (Nat × Command κ α ε)) :
    Fetched κ α × List (Option (Result α ε)) :=
  let stages := commands.zipIdx.map fun ((moment, command), ticket) =>
    Timeline.Stage.asleep moment (ticket, Task.command command)
  let (fetched, stages) :=
    Timeline.run (advanceTask now) (8 * commands.length + 8) 0 { shelf := shelf } stages
  (fetched, stages.map Timeline.Stage.answer?)

end Shelf

namespace Layer

variable {σ : Type}

/-- Something done to a layer, or to the stores behind its back. -/
inductive Command (σ : Type) where
  | request (request : Request)
  | publish (event : Event)
  | invalidate (target : Target)
  | clearAll
  | register (kind : EventKind) (targets : Event → List Target)
  /-- Looks a cached value up. -/
  | look (lookup : Lookup)
  | changeStore (change : σ → σ)

/-- What comes of a command. -/
inductive Result where
  | done
  | looked (space : Namespace) (value : Option space.Value)
  | answer (answer : Except StoreError Reply)

/-- How far a command has come. -/
inductive Task (σ : Type) where
  | command (command : Command σ)
  | waiting (request : Request) (lookup : Lookup)
  | asking (request : Request) (pending : Pending)

/-- Goes on after a step of a request. A question that takes no time is answered at once. -/
def afterStep (backing : Backing σ) (delay : σ → Nat) (now : Instant) (layer : Layer σ) (moment : Nat)
    (ticket : Ticket) (request : Request) :
    Step → Layer σ × Timeline.Stage (Ticket × Task σ) Result
  | .answers reply => (layer, .done (.answer (.ok reply)))
  | .waits lookup => (layer, .stuck (ticket, .waiting request lookup))
  | .asks pending =>
    if delay layer.store = 0 then
      let (layer, answer) := layer.finish backing ticket request pending now
      (layer, .done (.answer answer))
    else (layer, .asleep (moment + delay layer.store) (ticket, .asking request pending))

/-- Carries out a command that does not wait for anything. -/
def perform (layer : Layer σ) (now : Instant) : Command σ → Layer σ × Result
  | .request _ => (layer, .done)
  | .publish event => ({ layer with cache := layer.cache.announce event }, .done)
  | .invalidate target => ({ layer with cache := layer.cache.invalidate target }, .done)
  | .clearAll => ({ layer with cache := layer.cache.announce .clearAll }, .done)
  | .register kind targets => ({ layer with cache := layer.cache.register kind targets }, .done)
  | .look lookup =>
    let (cache, value) := layer.cache.look lookup.space lookup.key now
    ({ layer with cache := cache }, .looked lookup.space value)
  | .changeStore change => ({ layer with store := change layer.store }, .done)

/-- How commands go on when a question takes as long as the state of the stores says. -/
def advanceTask (backing : Backing σ) (delay : σ → Nat) (now : Instant) :
    Timeline.Advance (Layer σ) (Ticket × Task σ) Result
  | layer, moment, (ticket, .command (.request request)) =>
    let (layer, step) := layer.begin ticket request now
    some (afterStep backing delay now layer moment ticket request step)
  | layer, _, (_, .command command) =>
    let (layer, result) := layer.perform now command
    some (layer, .done result)
  | layer, moment, (ticket, .waiting request lookup) =>
    match layer.resume ticket request lookup now with
    | (_, .waits _) => none
    | (layer, step) => some (afterStep backing delay now layer moment ticket request step)
  | layer, _, (ticket, .asking request pending) =>
    let (layer, answer) := layer.finish backing ticket request pending now
    some (layer, .done (.answer answer))

/-- Carries out commands together, each of which begins at its moment. -/
def runTogether (layer : Layer σ) (backing : Backing σ) (delay : σ → Nat) (now : Instant)
    (commands : List (Nat × Command σ)) : Layer σ × List (Option Result) :=
  let stages := commands.zipIdx.map fun ((moment, command), ticket) =>
    Timeline.Stage.asleep moment (ticket, Task.command command)
  let (layer, stages) :=
    Timeline.run (advanceTask backing delay now) (8 * commands.length + 8) 0 layer stages
  (layer, stages.map Timeline.Stage.answer?)

/-- Carries out a command that runs alone; the stores, if they are asked, answer at the later
instant. -/
def run (layer : Layer σ) (backing : Backing σ) (now : Instant) (command : Command σ)
    (later : Instant := now) : Layer σ × Option Result :=
  match command with
  | .request request =>
    let (layer, answer) := layer.request backing request now later
    (layer, answer.map Result.answer)
  | command =>
    let (layer, result) := layer.perform now command
    (layer, some result)

end Layer

end ChatNotify.Cache
