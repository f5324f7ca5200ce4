import ChatNotify.Cache.Together
import ChatNotify.Proofs.Cache.Coherence
import ChatNotify.Proofs.Cache.Line
import Mathlib.Data.List.Nodup

namespace ChatNotify

namespace Gate

/-- Those who have the gate or wait for it. -/
def tickets (gate : Gate) : List Ticket :=
  gate.owner.toList ++ gate.waiting

variable {gate : Gate} {ticket : Ticket}

theorem tickets_ask : (gate.ask ticket).tickets.Perm (ticket :: gate.tickets) := by
  unfold ask tickets
  cases howner : gate.owner with
  | none => exact .refl _
  | some owner => simpa [howner] using (List.perm_append_singleton ticket (owner :: gate.waiting))

theorem tickets_enter : (gate.enter ticket).tickets = gate.tickets := by
  unfold enter
  split <;> rfl

theorem tickets_leave : (gate.leave ticket).tickets = gate.tickets.erase ticket := by
  unfold leave tickets
  cases howner : gate.owner with
  | none => simp
  | some owner =>
    by_cases hsame : owner = ticket
    · subst hsame
      cases hwaiting : gate.waiting <;> simp [passOn, hwaiting]
    · simp [hsame, List.erase_cons_tail]

theorem isDeserted_iff : gate.isDeserted = true ↔ gate.tickets = [] := by
  simp [isDeserted, tickets]

end Gate

namespace Cache

namespace Gates

variable {κ : Type} [DecidableEq κ] {gates : Gates κ} {P Q : κ → Ticket → Prop} {key : κ} {ticket : Ticket}

/-- Everybody at a gate has the property, and stands there once. -/
def Admit (P : κ → Ticket → Prop) (gates : Gates κ) : Prop :=
  ∀ key, (gates.gate key).tickets.Nodup ∧ ∀ ticket ∈ (gates.gate key).tickets, P key ticket

theorem Admit.imp (hadmits : gates.Admit P) (himp : ∀ key ticket, P key ticket → Q key ticket) : gates.Admit Q :=
  fun key => ⟨(hadmits key).1, fun ticket hmem => himp key ticket ((hadmits key).2 ticket hmem)⟩

theorem admit_create : (default : Gates κ).Admit P :=
  fun _ => ⟨.nil, nofun⟩

theorem gate_of_get?_eq {other : Gates κ} (hget : other.table.get? key = gates.table.get? key) :
    other.gate key = gates.gate key := by
  rw [gate, gate, hget]

/-- Who asks joins those at the gate. -/
theorem admit_ask (hadmits : gates.Admit P) (hnew : ¬ P key ticket) :
    (gates.ask key ticket).Admit fun other asked => P other asked ∨ other = key ∧ asked = ticket := by
  intro other
  by_cases hother : other = key
  · subst hother
    rw [gate_ask, Gate.tickets_ask.nodup_iff, List.nodup_cons]
    refine ⟨⟨fun hmem => hnew ((hadmits other).2 ticket hmem), (hadmits other).1⟩, fun asked hasked => ?_⟩
    rcases List.mem_cons.1 (Gate.tickets_ask.mem_iff.1 hasked) with rfl | hmem
    · exact .inr ⟨rfl, rfl⟩
    · exact .inl ((hadmits other).2 asked hmem)
  · rw [gate_of_get?_eq (gates.get?_ask_of_ne (Ne.symm hother) ticket)]
    exact ⟨(hadmits other).1, fun asked hmem => .inl ((hadmits other).2 asked hmem)⟩

theorem admit_enter (hadmits : gates.Admit P) (key : κ) (ticket : Ticket) :
    (gates.enter key ticket).Admit P := by
  intro other
  by_cases hother : other = key
  · subst hother
    rw [gate_enter, Gate.tickets_enter]
    exact hadmits other
  · rw [gate_of_get?_eq (gates.get?_enter_of_ne (Ne.symm hother) ticket)]
    exact hadmits other

theorem tickets_leave (gates : Gates κ) (key : κ) (ticket : Ticket) :
    ((gates.leave key ticket).gate key).tickets = (gates.gate key).tickets.erase ticket := by
  cases hget : gates.table.get? key with
  | none =>
    have hfree : gates.gate key = {} := by rw [gate, hget, Option.getD_none]
    have hsame : gates.leave key ticket = gates := by rw [leave, hget]
    rw [hsame, hfree]
    rfl
  | some found =>
    have hgate : gates.gate key = found := by rw [gate, hget, Option.getD_some]
    rw [hgate, ← Gate.tickets_leave, leave, hget]
    dsimp only
    split
    · next hgone =>
      -- The gate that is taken away is one at which nobody is left.
      rw [Gate.isDeserted_iff.1 (Bool.and_eq_true_iff.1 hgone).2, gate, Table.get?_erase, if_pos rfl]
      rfl
    · rw [gate, Table.get?_insert, if_pos rfl, Option.getD_some]

/-- Who leaves stands at the gate no longer. -/
theorem admit_leave (hadmits : gates.Admit P) (key : κ) (ticket : Ticket) :
    (gates.leave key ticket).Admit fun other left => P other left ∧ ¬ (other = key ∧ left = ticket) := by
  intro other
  by_cases hother : other = key
  · subst hother
    rw [tickets_leave]
    refine ⟨(hadmits other).1.erase ticket, fun left hleft => ?_⟩
    obtain ⟨hne, hmem⟩ := (hadmits other).1.mem_erase_iff.1 hleft
    exact ⟨(hadmits other).2 left hmem, fun hsame => hne hsame.2⟩
  · rw [gate_of_get?_eq (gates.get?_leave_of_ne (Ne.symm hother) ticket)]
    exact ⟨(hadmits other).1, fun left hmem => ⟨(hadmits other).2 left hmem, fun hsame => hother hsame.1⟩⟩

/-- Nobody has a gate or waits for one. -/
def IsDeserted (gates : Gates κ) : Prop :=
  ∀ key, (gates.gate key).isDeserted = true

theorem isDeserted_iff : gates.IsDeserted ↔ gates.Admit fun _ _ => False := by
  refine forall_congr' fun key => ?_
  rw [Gate.isDeserted_iff]
  constructor
  · intro hnone
    rw [hnone]
    exact ⟨.nil, nofun⟩
  · exact fun hadmits => List.eq_nil_iff_forall_not_mem.2 hadmits.2

end Gates

/-- Holds if a reader who has come to the reading stands at the gate. -/
def Reading.stands {α : Type} : Reading α → Bool
  | .found _ => false
  | .waits => true
  | .fetches _ gated => gated

namespace Shelf

variable {κ α ε : Type} [DecidableEq κ] {shelf : Shelf κ α} {P : κ → Ticket → Prop}

theorem admit_passGate (hadmits : shelf.gates.Admit P) (ticket : Ticket) (key : κ) (now : Instant) :
    (shelf.passGate ticket key now).1.gates.Admit fun other asked =>
      P other asked ∧ (other = key → asked = ticket → (shelf.passGate ticket key now).2.stands = true) := by
  rcases shelf.passGate_cases ticket key now with ⟨value, -, hpass⟩ | hpass | ⟨-, hpass⟩
  · rw [hpass, gates_touch]
    exact (Gates.admit_leave hadmits key ticket).imp fun other asked hleft =>
      ⟨hleft.1, fun hkey hself => absurd ⟨hkey, hself⟩ hleft.2⟩
  · rw [hpass, gates_touch]
    exact hadmits.imp fun other asked hasked => ⟨hasked, fun _ _ => rfl⟩
  · rw [hpass]
    exact hadmits.imp fun other asked hasked => ⟨hasked, fun _ _ => rfl⟩

/-- A new reader comes to the gate at most, and is the only one to do so. -/
theorem admit_beginRead (hadmits : shelf.gates.Admit P) {ticket : Ticket} (hnew : ∀ key, ¬ P key ticket) (key : κ)
    (useCache : Bool) (now : Instant) :
    (shelf.beginRead ticket key useCache now).1.gates.Admit fun other asked =>
      (P other asked ∨ other = key ∧ asked = ticket) ∧
        (other = key → asked = ticket → (shelf.beginRead ticket key useCache now).2.stands = true) := by
  have hothers {reading : Reading α} : shelf.gates.Admit fun other asked =>
      (P other asked ∨ other = key ∧ asked = ticket) ∧ (other = key → asked = ticket → reading.stands = true) :=
    hadmits.imp fun other asked hasked => ⟨.inl hasked, fun _ hself => absurd (hself ▸ hasked) (hnew other)⟩
  rcases shelf.beginRead_cases ticket key useCache now with hread | ⟨value, -, hread⟩ | hread
  · rw [hread]
    exact hothers
  · rw [hread, gates_get]
    exact hothers
  · rw [hread]
    refine admit_passGate ?_ ticket key now
    rw [gates_get]
    exact Gates.admit_ask hadmits (hnew key)

theorem admit_resumeRead (hadmits : shelf.gates.Admit P) (ticket : Ticket) (key : κ) (now : Instant) :
    (shelf.resumeRead ticket key now).1.gates.Admit fun other asked =>
      P other asked ∧ (other = key → asked = ticket → (shelf.resumeRead ticket key now).2.stands = true) :=
  admit_passGate (Gates.admit_enter hadmits key ticket) ticket key now

/-- What does not read leaves the gates as they are. -/
theorem gates_perform (shelf : Shelf κ α) (now : Instant) (command : Command κ α ε) :
    (shelf.perform now command).1.gates = shelf.gates := by
  cases command with
  | put key value => exact shelf.gates_put key value now
  | get key => exact shelf.gates_get key now
  | putIfCurrent key value epoch => exact shelf.gates_putIfCurrent key value epoch now
  | invalidate key => rfl
  | clear => rfl
  | read key useCache delay outcome => rfl

end Shelf

namespace Shelves

theorem gates_clear (shelves : Shelves) (cleared space : Namespace) :
    ((shelves.clear cleared).shelf space).gates = (shelves.shelf space).gates := by
  by_cases hspace : space = cleared
  · subst hspace
    exact (congrArg Shelf.gates (shelves.shelf_modify_self space Shelf.clear)).trans rfl
  · exact congrArg Shelf.gates (shelves.shelf_modify_of_ne hspace Shelf.clear)

/-- What is dropped does not disturb those at the gates. -/
theorem gates_invalidate (shelves : Shelves) (target : Target) (space : Namespace) :
    ((shelves.invalidate target).shelf space).gates = (shelves.shelf space).gates := by
  cases target with
  | lastPostTime channel => cases space <;> rfl
  | posts channel => cases space <;> rfl
  | fileInfos post withDeleted => cases space <;> rfl
  | memberCount channel => cases space <;> rfl
  | all cleared => exact shelves.gates_clear cleared space

theorem gates_apply (shelves : Shelves) (plan : InvalidationPlan) (space : Namespace) :
    ((shelves.apply plan).shelf space).gates = (shelves.shelf space).gates := by
  have hcleared : ((plan.cleared.foldl clear shelves).shelf space).gates = (shelves.shelf space).gates :=
    List.foldlRecOn (motive := fun between : Shelves => (between.shelf space).gates = (shelves.shelf space).gates)
      plan.cleared clear rfl fun between hsame cleared _ => (between.gates_clear cleared space).trans hsame
  exact List.foldlRecOn (motive := fun between : Shelves => (between.shelf space).gates = (shelves.shelf space).gates)
    plan.targets invalidate hcleared fun between hsame target _ => (between.gates_invalidate target space).trans hsame

end Shelves

theorem gates_consume (cache : Cache) (space : Namespace) :
    (cache.consume.1.shelves.shelf space).gates = (cache.shelves.shelf space).gates := by
  have hbatch (cache : Cache) :
      (cache.consumeBatch.1.shelves.shelf space).gates = (cache.shelves.shelf space).gates := by
    unfold Cache.consumeBatch
    dsimp only
    split
    · rfl
    · exact Shelves.gates_apply ..
  induction cache using Cache.consume.induct with
  | case1 cache hnone =>
    rw [Cache.consume, dif_pos hnone]
    exact hbatch cache
  | case2 cache hsome ih =>
    rw [Cache.consume, dif_neg hsome]
    exact ih.trans (hbatch cache)

theorem gates_announce (cache : Cache) (event : Event) (space : Namespace) :
    ((cache.announce event).shelves.shelf space).gates = (cache.shelves.shelf space).gates := by
  unfold Cache.announce Cache.publish
  split
  · rfl
  · exact gates_consume ..

/-- The gate at which those stand whose question to the stores is still to be answered. -/
def Pending.gate? : Pending → Option Lookup
  | .fetches lookup _ true => some lookup
  | _ => none

/-- The gate at which a request stands that has come to the step. -/
def Step.gate? : Step → Option Lookup
  | .answers _ => none
  | .waits lookup => some lookup
  | .asks pending => pending.gate?

namespace Layer

variable {σ : Type}

/-- The gate at which a command stands that has come so far. -/
def Task.gate? : Task σ → Option Lookup
  | .command _ => none
  | .waiting _ lookup => some lookup
  | .asking _ pending => pending.gate?

/-- Takes a request back that stands at a gate. -/
def leaveGate (layer : Layer σ) (lookup : Lookup) (ticket : Ticket) : Layer σ :=
  let shelf := layer.cache.shelves.shelf lookup.space
  layer.replace lookup.space { shelf with gates := shelf.gates.leave lookup.key ticket }

/-- A layer, and the commands at work that have begun and not ended. -/
structure Workload (σ : Type) where
  layer : Layer σ
  tasks : Table Ticket (Task σ) := ∅

namespace Workload

/-- Notes the stage to which a command has come. -/
def settle (work : Workload σ) (ticket : Ticket) (layer : Layer σ) :
    Timeline.Stage (Ticket × Task σ) Result → Workload σ
  | .done _ => { layer := layer, tasks := work.tasks.erase ticket }
  | .stuck (_, next) | .asleep _ (_, next) => { layer := layer, tasks := work.tasks.insert ticket next }

/-- Lets a command go on, if it can. -/
def proceed (work : Workload σ) (backing : Backing σ) (delay : σ → Nat) (now : Instant) (ticket : Ticket)
    (task : Task σ) : Workload σ :=
  match advanceTask backing delay now work.layer 0 (ticket, task) with
  | none => work
  | some (layer, stage) => work.settle ticket layer stage

/-- Begins to read a shelf, whatever the request itself would look up. -/
def read (work : Workload σ) (backing : Backing σ) (delay : σ → Nat) (now : Instant) (ticket : Ticket)
    (request : Request) (lookup : Lookup) (useCache : Bool) : Workload σ :=
  let (shelf, reading) := (work.layer.cache.shelves.shelf lookup.space).beginRead ticket lookup.key useCache now
  let (layer, stage) := afterStep backing delay now (work.layer.replace lookup.space shelf) 0 ticket request
    (stepOf request lookup reading)
  work.settle ticket layer stage

/-- Gives a command up where it has come. -/
def abandon (work : Workload σ) (ticket : Ticket) (task : Task σ) : Workload σ where
  layer := (task.gate?.map fun lookup => work.layer.leaveGate lookup ticket).getD work.layer
  tasks := work.tasks.erase ticket

/-- What a layer may come to, whatever is done with it at the same time and however the stores answer. -/
inductive Reached : Workload σ → Prop
  | start (settings : Settings) (hooks : Hooks) (store : σ) :
      Reached { layer := { cache := .create settings hooks, store := store } }
  | begin {work : Workload σ} (hreached : Reached work) {ticket : Ticket} (hnew : work.tasks.get? ticket = none)
      (command : Command σ) (backing : Backing σ) (delay : σ → Nat) (now : Instant) :
      Reached (work.proceed backing delay now ticket (.command command))
  | resume {work : Workload σ} (hreached : Reached work) {ticket : Ticket} {task : Task σ}
      (htask : work.tasks.get? ticket = some task) (backing : Backing σ) (delay : σ → Nat) (now : Instant) :
      Reached (work.proceed backing delay now ticket task)
  | read {work : Workload σ} (hreached : Reached work) {ticket : Ticket} (hnew : work.tasks.get? ticket = none)
      (request : Request) (lookup : Lookup) (useCache : Bool) (backing : Backing σ) (delay : σ → Nat) (now : Instant) :
      Reached (work.read backing delay now ticket request lookup useCache)
  | abandon {work : Workload σ} (hreached : Reached work) {ticket : Ticket} {task : Task σ}
      (htask : work.tasks.get? ticket = some task) : Reached (work.abandon ticket task)
  /-- Something is done to a shelf directly. -/
  | perform {work : Workload σ} (hreached : Reached work) (space : Namespace)
      (command : Shelf.Command space.Key space.Value StoreError) (now : Instant) :
      Reached { work with
        layer := work.layer.replace space ((work.layer.cache.shelves.shelf space).perform now command).1 }

end Workload

/-- Everybody at a gate of the layer has the property, and stands there once. -/
def Admit (P : Lookup → Ticket → Prop) (layer : Layer σ) : Prop :=
  ∀ space, (layer.cache.shelves.shelf space).gates.Admit fun key ticket => P ⟨space, key⟩ ticket

/-- Nobody has a gate of the layer or waits for one. -/
def IsQuiet (layer : Layer σ) : Prop :=
  ∀ space, (layer.cache.shelves.shelf space).gates.IsDeserted

section

variable {layer after : Layer σ} {P Q : Lookup → Ticket → Prop} {ticket : Ticket}

theorem isQuiet_iff : layer.IsQuiet ↔ layer.Admit fun _ _ => False :=
  forall_congr' fun _ => Gates.isDeserted_iff

theorem Admit.imp (hadmits : layer.Admit P) (himp : ∀ lookup ticket, P lookup ticket → Q lookup ticket) :
    layer.Admit Q :=
  fun space => (hadmits space).imp fun key ticket => himp ⟨space, key⟩ ticket

theorem Admit.of_gates_eq (hadmits : layer.Admit P)
    (hgates : ∀ space, (after.cache.shelves.shelf space).gates = (layer.cache.shelves.shelf space).gates) :
    after.Admit P := by
  intro space
  rw [hgates space]
  exact hadmits space

theorem gates_replace {space : Namespace} {shelf : Shelf space.Key space.Value}
    (hgates : shelf.gates = (layer.cache.shelves.shelf space).gates) :
    ∀ other, ((layer.replace space shelf).cache.shelves.shelf other).gates = (layer.cache.shelves.shelf other).gates :=
  layer.cache.shelves.forall_shelf_replace
    (P := fun space shelf => shelf.gates = (layer.cache.shelves.shelf space).gates) hgates fun _ _ => rfl

/-- Of a shelf that is replaced only the gates count, and of the others nothing changes. -/
theorem admit_replace (hadmits : layer.Admit P) {space : Namespace}
    {shelf : Shelf space.Key space.Value}
    (hshelf : shelf.gates.Admit fun key ticket => Q ⟨space, key⟩ ticket)
    (hothers : ∀ lookup ticket, lookup.space ≠ space → P lookup ticket → Q lookup ticket) :
    (layer.replace space shelf).Admit Q :=
  layer.cache.shelves.forall_shelf_replace
    (P := fun space shelf => shelf.gates.Admit fun key ticket => Q ⟨space, key⟩ ticket) hshelf fun other hother =>
      (hadmits other).imp fun key ticket => hothers ⟨other, key⟩ ticket hother

theorem gate?_stepOf (request : Request) (lookup : Lookup) (reading : Reading lookup.space.Value) :
    (stepOf request lookup reading).gate? = if reading.stands then some lookup else none := by
  cases reading with
  | found value => rfl
  | waits => rfl
  | fetches epoch gated => cases gated <;> rfl

/-- Where those stand at the end of a step that one of them has taken. -/
def Moved (P : Lookup → Ticket → Prop) (ticket : Ticket) (gate : Option Lookup) (lookup : Lookup) (asked : Ticket) :
    Prop :=
  if asked = ticket then gate = some lookup else P lookup asked

theorem moved_of_ne {gate : Option Lookup} {lookup : Lookup} {asked : Ticket} (hne : asked ≠ ticket)
    (hasked : P lookup asked) : Moved P ticket gate lookup asked := by
  rwa [Moved, if_neg hne]

/-- Who stands nowhere may be thought of as having come to any gate. -/
theorem admit_moved (hadmits : layer.Admit P) (hnew : ∀ lookup, ¬ P lookup ticket)
    (gate : Option Lookup) :
    layer.Admit (Moved P ticket gate) :=
  hadmits.imp fun lookup _ hasked => moved_of_ne (fun hself => hnew lookup (hself ▸ hasked)) hasked

theorem moved_stepOf {request : Request} {lookup : Lookup} {reading : Reading lookup.space.Value}
    {key : lookup.space.Key} {asked : Ticket} (hself : asked = ticket → key = lookup.key ∧ reading.stands = true)
    (hother : asked ≠ ticket → P ⟨lookup.space, key⟩ asked) :
    Moved P ticket (stepOf request lookup reading).gate? ⟨lookup.space, key⟩ asked := by
  by_cases hasked : asked = ticket
  · obtain ⟨rfl, hstands⟩ := hself hasked
    rw [Moved, if_pos hasked, gate?_stepOf, if_pos hstands]
  · exact moved_of_ne hasked (hother hasked)

/-- A read that begins comes to a gate at most, and the others stay where they are. -/
theorem admit_beginRead (hadmits : layer.Admit P) (hnew : ∀ lookup, ¬ P lookup ticket) (request : Request)
    (lookup : Lookup) (useCache : Bool) (now : Instant) :
    (layer.replace lookup.space
        ((layer.cache.shelves.shelf lookup.space).beginRead ticket lookup.key useCache now).1).Admit
      (Moved P ticket (stepOf request lookup
        ((layer.cache.shelves.shelf lookup.space).beginRead ticket lookup.key useCache now).2).gate?) := by
  refine admit_replace hadmits ?_ fun other asked _ hasked =>
    moved_of_ne (fun hself => hnew other (hself ▸ hasked)) hasked
  refine (Shelf.admit_beginRead (hadmits lookup.space) (fun key => hnew ⟨lookup.space, key⟩) lookup.key useCache
    now).imp fun key asked hasked => moved_stepOf (fun hself => ?_) fun hne => ?_
  · have hkey : key = lookup.key := (hasked.1.resolve_left fun hold => hnew _ (hself ▸ hold)).1
    exact ⟨hkey, hasked.2 hkey hself⟩
  · exact hasked.1.resolve_right fun hnewcomer => hne hnewcomer.2

/-- A request that begins comes to a gate at most, and the others stay where they are. -/
theorem admit_begin (hadmits : layer.Admit P) (hnew : ∀ lookup, ¬ P lookup ticket) (request : Request) (now : Instant) :
    (layer.begin ticket request now).1.Admit (Moved P ticket (layer.begin ticket request now).2.gate?) := by
  rcases layer.begin_cases ticket request now with
    ⟨lookup, fromCache, -, hbegin⟩ | ⟨shelf, channel, step, -, hshelf, hstep, hbegin⟩ | hbegin
  · rw [hbegin]
    exact admit_beginRead hadmits hnew request lookup fromCache now
  · have hgates : shelf.gates = layer.cache.shelves.lastPostTime.gates := by
      rcases hshelf with rfl | rfl
      · rfl
      · exact Shelf.gates_get ..
    have hnowhere : step.gate? = none := by rcases hstep with rfl | rfl <;> rfl
    rw [hbegin, hnowhere]
    exact Admit.of_gates_eq (admit_moved hadmits hnew none) (gates_replace hgates)
  · rw [hbegin]
    exact admit_moved hadmits hnew none

theorem admit_resume {lookup : Lookup} (hadmits : layer.Admit P) (hself : ∀ other, P other ticket → other = lookup)
    (request : Request) (now : Instant) :
    (layer.resume ticket request lookup now).1.Admit
      (Moved P ticket (layer.resume ticket request lookup now).2.gate?) := by
  refine admit_replace hadmits ?_ fun other asked hother hasked =>
    moved_of_ne (fun hsame => hother (congrArg Lookup.space (hself other (hsame ▸ hasked)))) hasked
  refine (Shelf.admit_resumeRead (hadmits lookup.space) ticket lookup.key now).imp fun key asked hasked =>
    moved_stepOf (fun hsame => ?_) fun _ => hasked.1
  have hkey : key = lookup.key := by
    have hlookup := hself ⟨lookup.space, key⟩ (hsame ▸ hasked.1)
    cases lookup
    cases hlookup
    rfl
  exact ⟨hkey, hasked.2 hkey hsame⟩

/-- Who leaves the only gate it stands at stands at none. -/
theorem admit_replace_leave (hadmits : layer.Admit P) {lookup : Lookup}
    (hself : ∀ other, P other ticket → other = lookup) {shelf : Shelf lookup.space.Key lookup.space.Value}
    (hgates : shelf.gates = (layer.cache.shelves.shelf lookup.space).gates.leave lookup.key ticket) :
    (layer.replace lookup.space shelf).Admit (Moved P ticket none) := by
  refine admit_replace hadmits ?_ fun other asked hother hasked =>
    moved_of_ne (fun hsame => hother (congrArg Lookup.space (hself other (hsame ▸ hasked)))) hasked
  rw [hgates]
  refine (Gates.admit_leave (hadmits lookup.space) lookup.key ticket).imp fun key asked hleft =>
    moved_of_ne ?_ hleft.1
  rintro rfl
  have hlookup := hself _ hleft.1
  cases lookup
  cases hlookup
  exact hleft.2 ⟨rfl, rfl⟩

/-- A request that ends stands at no gate. -/
theorem admit_finish {pending : Pending} (hadmits : layer.Admit P)
    (hself : ∀ lookup, P lookup ticket → pending.gate? = some lookup) (backing : Backing σ) (request : Request)
    (now : Instant) : (layer.finish backing ticket request pending now).1.Admit (Moved P ticket none) := by
  cases pending with
  | fetches lookup epoch gated =>
    have hnoted : (layer.note request (backing.fetch layer.store lookup.space lookup.key)).Admit P := hadmits
    have hgates := (layer.cache.shelves.shelf lookup.space).gates_finishRead ticket lookup.key epoch gated
      (backing.fetch layer.store lookup.space lookup.key) now
    cases gated with
    | true =>
      have hplace (other : Lookup) (hstood : P other ticket) := (Option.some.inj (hself other hstood)).symm
      exact admit_replace_leave hnoted hplace hgates
    | false =>
      have hnone (lookup : Lookup) : ¬ P lookup ticket := fun hstood => nomatch hself lookup hstood
      exact Admit.of_gates_eq (admit_moved hnoted hnone none) (gates_replace hgates)
  | listsSince epoch =>
    have hnone (lookup : Lookup) : ¬ P lookup ticket := fun hstood => nomatch hself lookup hstood
    unfold finish
    dsimp only
    split
    · exact admit_moved hadmits hnone none
    · next reply store hserve =>
      refine Admit.of_gates_eq (admit_moved hadmits hnone none) fun space => ?_
      unfold finishSince
      split
      · exact gates_replace (Shelf.gates_putIfCurrent ..) space
      · rfl
  | passes =>
    have hnone (lookup : Lookup) : ¬ P lookup ticket := fun hstood => nomatch hself lookup hstood
    unfold finish
    dsimp only
    split
    · exact admit_moved hadmits hnone none
    · next reply store hserve =>
      refine Admit.of_gates_eq (admit_moved hadmits hnone none) fun space => ?_
      cases reply.event? with
      | none => rfl
      | some event => exact gates_announce ..

theorem gates_perform (layer : Layer σ) (now : Instant) (command : Command σ) (space : Namespace) :
    ((layer.perform now command).1.cache.shelves.shelf space).gates = (layer.cache.shelves.shelf space).gates := by
  cases command with
  | request request => rfl
  | publish event => exact gates_announce ..
  | invalidate target => exact Shelves.gates_invalidate ..
  | clearAll => exact gates_announce ..
  | register kind targets => rfl
  | look lookup => exact gates_replace (Shelf.gates_get ..) space
  | changeStore change => rfl

/-- The gate at which a command stands that has come to the stage. -/
def gateAt? : Timeline.Stage (Ticket × Task σ) Result → Option Lookup
  | .asleep _ (_, task) | .stuck (_, task) => task.gate?
  | .done _ => none

theorem moved_self_iff {gate : Option Lookup} {lookup : Lookup} :
    Moved P ticket gate lookup ticket ↔ gate = some lookup := by
  rw [Moved, if_pos rfl]

theorem moved_moved {before gate : Option Lookup} {lookup : Lookup} {asked : Ticket} :
    Moved (Moved P ticket before) ticket gate lookup asked ↔ Moved P ticket gate lookup asked := by
  unfold Moved
  split <;> rfl

theorem admit_afterStep {step : Step} (hadmits : layer.Admit (Moved P ticket step.gate?)) (backing : Backing σ)
    (delay : σ → Nat) (now : Instant) (moment : Nat) (request : Request) :
    (afterStep backing delay now layer moment ticket request step).1.Admit
      (Moved P ticket (gateAt? (afterStep backing delay now layer moment ticket request step).2)) := by
  cases step with
  | answers reply => exact hadmits
  | waits lookup => exact hadmits
  | asks pending =>
    unfold afterStep
    dsimp only
    split
    · exact (admit_finish hadmits (fun _ => moved_self_iff.1) backing request now).imp fun _ _ => moved_moved.1
    · exact hadmits

theorem advanceTask_perform {command : Command σ} (hnot : ∀ request, command ≠ .request request)
    (backing : Backing σ) (delay : σ → Nat) (now : Instant) (layer : Layer σ) (moment : Nat) (ticket : Ticket) :
    advanceTask backing delay now layer moment (ticket, .command command) =
      some ((layer.perform now command).1, .done (layer.perform now command).2) := by
  cases command with
  | request request => exact absurd rfl (hnot request)
  | publish | invalidate | clearAll | register | look | changeStore => rfl

/-- A command that goes on stands at the gate to which it has come, and the others where they stood. -/
theorem admit_advanceTask {task : Task σ} (hadmits : layer.Admit P)
    (hself : ∀ lookup, P lookup ticket → task.gate? = some lookup) {backing : Backing σ} {delay : σ → Nat}
    {now : Instant} {moment : Nat} {result : Layer σ × Timeline.Stage (Ticket × Task σ) Result}
    (hadvance : advanceTask backing delay now layer moment (ticket, task) = some result) :
    result.1.Admit (Moved P ticket (gateAt? result.2)) := by
  cases task with
  | command command =>
    have hnew (lookup : Lookup) : ¬ P lookup ticket := fun hstood => nomatch hself lookup hstood
    by_cases hrequest : ∃ request, command = .request request
    · obtain ⟨request, rfl⟩ := hrequest
      obtain rfl := Option.some.inj hadvance
      exact admit_afterStep (admit_begin hadmits hnew request now) backing delay now moment request
    · rw [advanceTask_perform fun request hcommand => hrequest ⟨request, hcommand⟩] at hadvance
      obtain rfl := Option.some.inj hadvance
      exact Admit.of_gates_eq (admit_moved hadmits hnew none) (layer.gates_perform now command)
  | waiting request lookup =>
    have hresumed := admit_resume hadmits (fun other hstood => (Option.some.inj (hself other hstood)).symm) request now
    simp only [advanceTask] at hadvance
    split at hadvance
    · cases hadvance
    · next after step _ hresume =>
      obtain rfl := Option.some.inj hadvance
      rw [hresume] at hresumed
      exact admit_afterStep hresumed backing delay now moment request
  | asking request pending =>
    obtain rfl := Option.some.inj hadvance
    exact admit_finish hadmits hself backing request now

end

namespace Workload

variable {work : Workload σ}

/-- The command is at work and has come to the gate. -/
def StandsAt (work : Workload σ) (lookup : Lookup) (ticket : Ticket) : Prop :=
  ∃ task, work.tasks.get? ticket = some task ∧ task.gate? = some lookup

theorem standsAt_of_moved {ticket : Ticket} (stage : Option (Task σ)) {tasks : Table Ticket (Task σ)}
    (hself : tasks.get? ticket = stage) (hothers : ∀ other, other ≠ ticket → tasks.get? other = work.tasks.get? other)
    (layer : Layer σ) {lookup : Lookup} {asked : Ticket}
    (hmoved : Moved work.StandsAt ticket (stage.bind Task.gate?) lookup asked) :
    ({ layer := layer, tasks := tasks } : Workload σ).StandsAt lookup asked := by
  unfold Moved at hmoved
  split at hmoved
  · next hsame =>
    obtain ⟨task, hstage, hgate⟩ := Option.bind_eq_some_iff.1 hmoved
    exact ⟨task, by rw [hsame, ← hstage, ← hself], hgate⟩
  · next hne =>
    obtain ⟨task, htask, hgate⟩ := hmoved
    exact ⟨task, (hothers asked hne).trans htask, hgate⟩

theorem standsAt_erase {ticket : Ticket} (layer : Layer σ) {lookup : Lookup} {asked : Ticket}
    (hmoved : Moved work.StandsAt ticket none lookup asked) :
    ({ layer := layer, tasks := work.tasks.erase ticket } : Workload σ).StandsAt lookup asked := by
  refine standsAt_of_moved none ?_ (fun other hne => ?_) layer hmoved
  · rw [Table.get?_erase, if_pos rfl]
  · rw [Table.get?_erase, if_neg (hne)]

theorem standsAt_insert {ticket : Ticket} {next : Task σ} (layer : Layer σ) {lookup : Lookup} {asked : Ticket}
    (hmoved : Moved work.StandsAt ticket next.gate? lookup asked) :
    ({ layer := layer, tasks := work.tasks.insert ticket next } : Workload σ).StandsAt lookup asked := by
  refine standsAt_of_moved (some next) ?_ (fun other hne => ?_) layer hmoved
  · rw [Table.get?_insert, if_pos rfl]
  · rw [Table.get?_insert, if_neg (Ne.symm hne)]

theorem stands_settle {ticket : Ticket} {layer : Layer σ} {stage : Timeline.Stage (Ticket × Task σ) Result}
    (hadmits : layer.Admit (Moved work.StandsAt ticket (gateAt? stage))) :
    (work.settle ticket layer stage).layer.Admit (work.settle ticket layer stage).StandsAt := by
  cases stage with
  | done result => exact hadmits.imp fun _ _ => standsAt_erase layer
  | stuck next => exact hadmits.imp fun _ _ => standsAt_insert layer
  | asleep moment next => exact hadmits.imp fun _ _ => standsAt_insert layer

theorem stands_proceed (hstands : work.layer.Admit work.StandsAt) {ticket : Ticket} {task : Task σ}
    (hself : ∀ found, work.tasks.get? ticket = some found → found = task) (backing : Backing σ) (delay : σ → Nat)
    (now : Instant) :
    (work.proceed backing delay now ticket task).layer.Admit (work.proceed backing delay now ticket task).StandsAt := by
  unfold proceed
  split
  · exact hstands
  · next layer stage hadvance =>
    refine stands_settle (admit_advanceTask hstands (fun lookup hstood => ?_) hadvance)
    obtain ⟨found, hfound, hgate⟩ := hstood
    rw [← hself found hfound, hgate]

theorem stands_read (hstands : work.layer.Admit work.StandsAt) {ticket : Ticket}
    (hnew : work.tasks.get? ticket = none) (request : Request) (lookup : Lookup) (useCache : Bool)
    (backing : Backing σ) (delay : σ → Nat) (now : Instant) :
    (work.read backing delay now ticket request lookup useCache).layer.Admit
      (work.read backing delay now ticket request lookup useCache).StandsAt := by
  have hnowhere (other : Lookup) : ¬ work.StandsAt other ticket := fun hstood =>
    nomatch hnew.symm.trans hstood.choose_spec.1
  exact stands_settle
    (admit_afterStep (admit_beginRead hstands hnowhere request lookup useCache now) backing delay now 0 request)

theorem stands_abandon (hstands : work.layer.Admit work.StandsAt) {ticket : Ticket} {task : Task σ}
    (htask : work.tasks.get? ticket = some task) :
    (work.abandon ticket task).layer.Admit (work.abandon ticket task).StandsAt := by
  have hself (lookup : Lookup) (hstood : work.StandsAt lookup ticket) : task.gate? = some lookup := by
    obtain ⟨found, hfound, hgate⟩ := hstood
    rwa [← Option.some.inj (hfound.symm.trans htask)]
  suffices hmoved : (work.abandon ticket task).layer.Admit (Moved work.StandsAt ticket none) from
    hmoved.imp fun _ _ => standsAt_erase _
  cases hgate : task.gate? with
  | none =>
    have hnowhere (lookup : Lookup) : ¬ work.StandsAt lookup ticket := fun hstood =>
      nomatch hgate.symm.trans (hself lookup hstood)
    have hsame : (work.abandon ticket task).layer = work.layer := by rw [abandon, hgate]; rfl
    rw [hsame]
    exact admit_moved hstands hnowhere none
  | some lookup =>
    have hleft : (work.abandon ticket task).layer = work.layer.leaveGate lookup ticket := by rw [abandon, hgate]; rfl
    rw [hleft]
    exact admit_replace_leave hstands
      (fun other hstood => (Option.some.inj (hgate.symm.trans (hself other hstood))).symm) rfl

/-- Whoever stands at a gate is at work and has come to it. -/
theorem Reached.stands (hreached : Reached work) : work.layer.Admit work.StandsAt := by
  -- Each step moves one command, and `Moved` tells where it stands afterwards; the others stay.
  induction hreached with
  | start settings hooks store =>
    intro space
    cases space <;> exact Gates.admit_create
  | begin hreached hnew command backing delay now ih =>
    exact stands_proceed ih (fun found hfound => nomatch hnew.symm.trans hfound) backing delay now
  | resume hreached htask backing delay now ih =>
    exact stands_proceed ih (fun found hfound => Option.some.inj (hfound.symm.trans htask)) backing delay now
  | read hreached hnew request lookup useCache backing delay now ih =>
    exact stands_read ih hnew request lookup useCache backing delay now
  | abandon hreached htask ih => exact stands_abandon ih htask
  | perform hreached space command now ih => exact ih.of_gates_eq (gates_replace (Shelf.gates_perform ..))

/-- While nothing is at work nobody stands at a gate. -/
theorem Reached.isQuiet (hreached : Reached work) (hidle : ∀ ticket, work.tasks.get? ticket = none) :
    work.layer.IsQuiet := by
  refine isQuiet_iff.2 (hreached.stands.imp fun lookup ticket hstands => ?_)
  obtain ⟨task, htask, -⟩ := hstands
  exact nomatch (hidle ticket).symm.trans htask

end Workload

end Layer

end Cache

end ChatNotify
