import ChatNotify.Proofs.Cache.Shelf
import ChatNotify.Proofs.Log

namespace ChatNotify.Cache

/-- How far a read has come that has not returned. -/
inductive Phase (κ : Type) where
  | waits (key : κ)
  | fetches (key : κ) (epoch : Nat) (gated : Bool)

/-- The key that is read. -/
def Phase.key {κ : Type} : Phase κ → κ
  | .waits key => key
  | .fetches key _ _ => key

/-- A value with the read whose fetch has brought it. -/
structure Traced (α : Type) where
  value : α
  read : Nat

/-- A shelf and the reads that have not returned, each named by the moment at which it started. The values on the
shelf tell where they come from, which the shelf takes no notice of. -/
structure Traffic (κ α : Type) where
  shelf : Shelf κ (Traced α)
  reads : Table Nat (Phase κ) := ∅

/-- What may happen at one moment. -/
inductive Move (κ α ε : Type) where
  | get (key : κ)
  | invalidate (key : κ)
  | clear
  | start (key : κ) (useCache : Bool)
  /-- A read that waits looks whether it is its turn. -/
  | resume (read : Nat)
  /-- The fetch of a read comes to an outcome. -/
  | finish (read : Nat) (outcome : Except ε α)

/-- What is seen of it. -/
inductive Happening (κ α ε : Type) where
  | got (key : κ) (found : Option (Traced α))
  | invalidated (key : κ)
  | cleared
  | started (key : κ) (reading : Reading (Traced α))
  | resumed (read : Nat) (key : κ) (reading : Reading (Traced α))
  | finished (read : Nat) (key : κ) (outcome : Except ε α)
  /-- The read was not there, or not so far. -/
  | nothing

variable {κ α ε : Type}

namespace Happening

/-- Holds if one value or all of them are dropped. -/
def isDrop : Happening κ α ε → Bool
  | .invalidated _ | .cleared => true
  | _ => false

/-- Holds if the value of the key is dropped. -/
def Drops (key : κ) : Happening κ α ε → Prop
  | .invalidated other => other = key
  | .cleared => True
  | _ => False

theorem isDrop_of_drops {key : κ} {happening : Happening κ α ε} (hdrops : happening.Drops key) :
    happening.isDrop = true := by
  cases happening <;> first | rfl | exact hdrops.elim

end Happening

section

variable (log : List (Happening κ α ε))

/-- The value of the key is dropped at the moment. -/
def DroppedAt (moment : Nat) (key : κ) : Prop :=
  ∃ happening, log[moment]? = some happening ∧ happening.Drops key

/-- A lookup, by itself or as a step of a read, finds the value at the moment. -/
def FoundAt (moment : Nat) (key : κ) (value : Traced α) : Prop :=
  log[moment]? = some (.got key (some value)) ∨ log[moment]? = some (.started key (.found value)) ∨
    ∃ read, log[moment]? = some (.resumed read key (.found value))

/-- The read starts, at the moment that it is named by. -/
def Started (read : Nat) (key : κ) : Prop :=
  ∃ reading, log[read]? = some (.started key reading)

/-- The fetch of the read begins at the moment. -/
def FetchBeginsAt (moment : Nat) (read : Nat) (key : κ) : Prop :=
  ∃ epoch gated, moment = read ∧ log[moment]? = some (.started key (.fetches epoch gated)) ∨
    log[moment]? = some (.resumed read key (.fetches epoch gated))

/-- The fetch of the read comes to the outcome at the moment. -/
def FetchEndsAt (moment : Nat) (read : Nat) (key : κ) (outcome : Except ε α) : Prop :=
  log[moment]? = some (.finished read key outcome)

/-- The read returns the outcome at the moment: a value that it finds when it starts or when it is its
turn, or the outcome of its fetch. -/
def ReturnsAt (moment : Nat) (read : Nat) (key : κ) (outcome : Except ε (Traced α)) : Prop :=
  (∃ value, outcome = .ok value ∧ (moment = read ∧ log[moment]? = some (.started key (.found value)) ∨
    log[moment]? = some (.resumed read key (.found value)))) ∨
  ∃ own, outcome = own.map (Traced.mk · read) ∧ FetchEndsAt log moment read key own

/-- The fetch that has brought the value came to its end before the moment, and the key was not dropped
since it began. -/
def IsFreshAt (moment : Nat) (key : κ) (value : Traced α) : Prop :=
  ∃ first last, first < last ∧ last < moment ∧ FetchBeginsAt log first value.read key ∧
    FetchEndsAt log last value.read key (.ok value.value) ∧
    ∀ between, first < between → between < moment → ¬ DroppedAt log between key

end

variable [DecidableEq κ]

namespace Traffic

/-- The traffic after a read has come to a reading. -/
def settle (traffic : Traffic κ α) (read : Nat) (key : κ) :
    Shelf κ (Traced α) × Reading (Traced α) → Traffic κ α
  | (shelf, .found _) => { shelf := shelf, reads := traffic.reads.erase read }
  | (shelf, .waits) => { shelf := shelf, reads := traffic.reads.insert read (.waits key) }
  | (shelf, .fetches epoch gated) =>
    { shelf := shelf, reads := traffic.reads.insert read (.fetches key epoch gated) }

/-- Lets one thing happen: a read takes its next step, a value is looked up, one value or all of them are dropped. -/
def move (traffic : Traffic κ α) (moment : Nat) (now : Instant) :
    Move κ α ε → Traffic κ α × Happening κ α ε
  | .get key =>
    let (shelf, found) := traffic.shelf.get key now
    ({ traffic with shelf := shelf }, .got key found)
  | .invalidate key => ({ traffic with shelf := traffic.shelf.invalidate key }, .invalidated key)
  | .clear => ({ traffic with shelf := traffic.shelf.clear }, .cleared)
  | .start key useCache =>
    let step := traffic.shelf.beginRead moment key useCache now
    (traffic.settle moment key step, .started key step.2)
  | .resume read =>
    match traffic.reads.get? read with
    | some (.waits key) =>
      let step := traffic.shelf.resumeRead read key now
      (traffic.settle read key step, .resumed read key step.2)
    | _ => (traffic, .nothing)
  | .finish read outcome =>
    match traffic.reads.get? read with
    | some (.fetches key epoch gated) =>
      ({ shelf := traffic.shelf.finishRead read key epoch gated (outcome.map (Traced.mk · read)) now
         reads := traffic.reads.erase read }, .finished read key outcome)
    | _ => (traffic, .nothing)

end Traffic

/-- The logs of all that may happen to a shelf that is empty at first, with what it comes to. -/
inductive Runs (capacity : Nat) (ttl : Option Span) (hpos : 0 < capacity) :
    List (Happening κ α ε) → Traffic κ α → Prop
  | start : Runs capacity ttl hpos [] { shelf := .create capacity ttl hpos }
  | step {log : List (Happening κ α ε)} {traffic : Traffic κ α} (hruns : Runs capacity ttl hpos log traffic)
      (now : Instant) (move : Move κ α ε) :
      Runs capacity ttl hpos (log ++ [(traffic.move log.length now move).2])
        (traffic.move log.length now move).1

section

variable {log : List (Happening κ α ε)} {happening : Happening κ α ε}

omit [DecidableEq κ]

theorem Started.extend {read : Nat} {key : κ} (hstarted : Started log read key)
    (happening : Happening κ α ε) : Started (log ++ [happening]) read key := by
  obtain ⟨reading, hreading⟩ := hstarted
  exact ⟨reading, getElem?_extend hreading happening⟩

theorem FetchBeginsAt.extend {moment : Nat} {read : Nat} {key : κ} (hbegins : FetchBeginsAt log moment read key)
    (happening : Happening κ α ε) : FetchBeginsAt (log ++ [happening]) moment read key := by
  obtain ⟨epoch, gated, ⟨hread, hstart⟩ | hresume⟩ := hbegins
  · exact ⟨epoch, gated, .inl ⟨hread, getElem?_extend hstart happening⟩⟩
  · exact ⟨epoch, gated, .inr (getElem?_extend hresume happening)⟩

theorem FetchBeginsAt.not_droppedAt {moment : Nat} {read : Nat} {key other : κ}
    (hbegins : FetchBeginsAt log moment read key) : ¬ DroppedAt log moment other := by
  rintro ⟨happening, hseen, hdrops⟩
  obtain ⟨epoch, gated, ⟨-, hstart⟩ | hresume⟩ := hbegins
  · cases hseen.symm.trans hstart
    exact hdrops
  · cases hseen.symm.trans hresume
    exact hdrops

theorem DroppedAt.of_extend {moment : Nat} {key : κ} (hdropped : DroppedAt (log ++ [happening]) moment key) :
    moment < log.length ∧ DroppedAt log moment key ∨ moment = log.length ∧ happening.Drops key := by
  obtain ⟨seen, hseen, hdrops⟩ := hdropped
  rcases getElem?_extend_cases hseen with ⟨hlt, hbefore⟩ | ⟨hmoment, rfl⟩
  · exact .inl ⟨hlt, seen, hbefore, hdrops⟩
  · exact .inr ⟨hmoment, hdrops⟩

/-- What happens later does not make a value less fresh before. -/
theorem IsFreshAt.extend {moment : Nat} {key : κ} {value : Traced α} (hfresh : IsFreshAt log moment key value)
    (hle : moment ≤ log.length) (happening : Happening κ α ε) :
    IsFreshAt (log ++ [happening]) moment key value := by
  obtain ⟨first, last, hfirst, hlast, hbegins, hends, hkept⟩ := hfresh
  refine ⟨first, last, hfirst, hlast, hbegins.extend happening, getElem?_extend hends happening, ?_⟩
  intro between hafter hbefore hdropped
  rcases hdropped.of_extend with ⟨-, hdropped⟩ | ⟨hlength, -⟩
  · exact hkept between hafter hbefore hdropped
  · omega

/-- A value stays fresh while its key is not dropped. -/
theorem IsFreshAt.next {key : κ} {value : Traced α} (hfresh : IsFreshAt log log.length key value)
    (hkeeps : ¬ happening.Drops key) :
    IsFreshAt (log ++ [happening]) (log ++ [happening]).length key value := by
  obtain ⟨first, last, hfirst, hlast, hbegins, hends, hkept⟩ := hfresh
  refine ⟨first, last, hfirst, by simp; omega, hbegins.extend happening, getElem?_extend hends happening, ?_⟩
  intro between hafter hbefore hdropped
  rcases hdropped.of_extend with ⟨hlt, hdropped⟩ | ⟨-, hdrops⟩
  · exact hkept between hafter hlt hdropped
  · exact hkeeps hdrops

end

/-- What must have happened before the moment for this to be seen at it. -/
def Explained (log : List (Happening κ α ε)) (moment : Nat) : Happening κ α ε → Prop
  | .got key (some value) | .started key (.found value) => IsFreshAt log moment key value
  | .resumed read key reading =>
    Started log read key ∧ read < moment ∧ ∀ value, reading = .found value → IsFreshAt log moment key value
  | .finished read key _ =>
    Started log read key ∧ ∃ first, read ≤ first ∧ first < moment ∧ FetchBeginsAt log first read key
  | _ => True

omit [DecidableEq κ] in
theorem Explained.extend {log : List (Happening κ α ε)} {moment : Nat} {seen : Happening κ α ε}
    (hexplained : Explained log moment seen) (hle : moment ≤ log.length) (happening : Happening κ α ε) :
    Explained (log ++ [happening]) moment seen := by
  cases seen with
  | got key found =>
    cases found with
    | none => trivial
    | some value => exact IsFreshAt.extend hexplained hle happening
  | started key reading =>
    cases reading with
    | found value => exact IsFreshAt.extend hexplained hle happening
    | waits => trivial
    | fetches epoch gated => trivial
  | resumed read key reading =>
    obtain ⟨hstarted, hread, hfresh⟩ := hexplained
    exact ⟨hstarted.extend happening, hread, fun value hfound => (hfresh value hfound).extend hle happening⟩
  | finished read key outcome =>
    obtain ⟨hstarted, first, hread, hfirst, hbegins⟩ := hexplained
    exact ⟨hstarted.extend happening, first, hread, hfirst, hbegins.extend happening⟩
  | invalidated key => trivial
  | cleared => trivial
  | nothing => trivial

/-- What the log tells of a read that has not returned. A fetch bears the epoch in which it began. -/
def Known (log : List (Happening κ α ε)) (read : Nat) : Phase κ → Prop
  | .waits key => read < log.length ∧ Started log read key
  | .fetches key epoch _ =>
    Started log read key ∧ ∃ first, read ≤ first ∧ first < log.length ∧ FetchBeginsAt log first read key ∧
      epoch = (log.take first).countP Happening.isDrop % wordCount

omit [DecidableEq κ] in
theorem Known.extend {log : List (Happening κ α ε)} {read : Nat} {phase : Phase κ} (hknown : Known log read phase)
    (happening : Happening κ α ε) : Known (log ++ [happening]) read phase := by
  cases phase with
  | waits key =>
    obtain ⟨hread, hstarted⟩ := hknown
    exact ⟨by simp; omega, hstarted.extend happening⟩
  | fetches key epoch gated =>
    obtain ⟨hstarted, first, hread, hfirst, hbegins, hepoch⟩ := hknown
    refine ⟨hstarted.extend happening, first, hread, by simp; omega, hbegins.extend happening, ?_⟩
    rwa [List.take_append_of_le_length (by omega)]

/-- The invariant that carries the main statement: the shelf holds fresh values only, its epoch counts
the drops, the log tells of all reads that have not returned, and everything in it is explained by what
stands before. -/
structure Sound (log : List (Happening κ α ε)) (traffic : Traffic κ α) : Prop where
  holds : traffic.shelf.Holds fun key value => IsFreshAt log log.length key value
  epoch : traffic.shelf.epoch = log.countP Happening.isDrop % wordCount
  reads : ∀ read phase, traffic.reads.get? read = some phase → Known log read phase
  explained : ∀ moment happening, log[moment]? = some happening → Explained log moment happening

namespace Sound

variable {log : List (Happening κ α ε)} {traffic : Traffic κ α}

omit [DecidableEq κ] in
theorem explained_extend (hsound : Sound log traffic) {happening : Happening κ α ε}
    (hnew : Explained log log.length happening) (moment : Nat) (seen : Happening κ α ε)
    (hseen : (log ++ [happening])[moment]? = some seen) : Explained (log ++ [happening]) moment seen := by
  rcases getElem?_extend_cases hseen with ⟨hlt, hbefore⟩ | ⟨rfl, rfl⟩
  · exact (hsound.explained moment seen hbefore).extend (Nat.le_of_lt hlt) happening
  · exact hnew.extend (Nat.le_refl _) _

omit [DecidableEq κ] in
/-- What is no drop keeps the invariant, if it changes the shelf and the reads only in ways that the log
explains. -/
theorem of_keeps (hsound : Sound log traffic) {happening : Happening κ α ε} {after : Traffic κ α}
    (hkeeps : happening.isDrop = false)
    (hholds : after.shelf.Holds fun key value => IsFreshAt (log ++ [happening]) (log ++ [happening]).length key value)
    (hepoch : after.shelf.epoch = traffic.shelf.epoch)
    (hreads : ∀ read phase, after.reads.get? read = some phase → Known (log ++ [happening]) read phase)
    (hnew : Explained log log.length happening) : Sound (log ++ [happening]) after where
  holds := hholds
  epoch := by rw [hepoch, hsound.epoch, List.countP_append]; simp [hkeeps]
  reads := hreads
  explained := hsound.explained_extend hnew

omit [DecidableEq κ] in
private theorem holds_next {happening : Happening κ α ε} (hkeeps : happening.isDrop = false)
    {shelf : Shelf κ (Traced α)} (hholds : shelf.Holds fun key value => IsFreshAt log log.length key value) :
    shelf.Holds fun key value => IsFreshAt (log ++ [happening]) (log ++ [happening]).length key value := by
  refine hholds.imp fun key value hfresh => hfresh.next fun hdrops => ?_
  rw [Happening.isDrop_of_drops hdrops] at hkeeps
  cases hkeeps

omit [DecidableEq κ] in
/-- A move that does not come about keeps the invariant. -/
theorem nothing_preserves_sound (hsound : Sound log traffic) : Sound (log ++ [.nothing]) traffic :=
  hsound.of_keeps rfl (holds_next rfl hsound.holds) rfl
    (fun read phase hphase => (hsound.reads read phase hphase).extend _) trivial

omit [DecidableEq κ] in
/-- A read that comes to a reading keeps the invariant. -/
theorem settle_preserves_sound (hsound : Sound log traffic) {happening : Happening κ α ε}
    (hkeeps : happening.isDrop = false) {step : Shelf κ (Traced α) × Reading (Traced α)} {read : Nat} {key : κ}
    (hread : read ≤ log.length) (hstarted : Started (log ++ [happening]) read key)
    (hholds : step.1.Holds fun key value => IsFreshAt log log.length key value)
    (hepoch : step.1.epoch = traffic.shelf.epoch)
    (hfetches : ∀ epoch gated, step.2 = .fetches epoch gated →
      epoch = traffic.shelf.epoch ∧ FetchBeginsAt (log ++ [happening]) log.length read key)
    (hnew : Explained log log.length happening) :
    Sound (log ++ [happening]) (traffic.settle read key step) := by
  obtain ⟨shelf, reading⟩ := step
  have hnext := holds_next hkeeps hholds
  have hothers (other : Nat) (phase : Phase κ) (h : traffic.reads.get? other = some phase) :
      Known (log ++ [happening]) other phase := (hsound.reads other phase h).extend happening
  cases reading with
  | found value =>
    refine hsound.of_keeps hkeeps hnext hepoch ?_ hnew
    intro other phase hphase
    simp only [Traffic.settle, Table.get?_erase] at hphase
    split at hphase
    · cases hphase
    · exact hothers other phase hphase
  | waits =>
    refine hsound.of_keeps hkeeps hnext hepoch ?_ hnew
    intro other phase hphase
    simp only [Traffic.settle, Table.get?_insert] at hphase
    split at hphase
    · next hsame =>
      cases hphase
      exact ⟨by simp; omega, hsame ▸ hstarted⟩
    · exact hothers other phase hphase
  | fetches epoch gated =>
    obtain ⟨hcurrent, hbegins⟩ := hfetches epoch gated rfl
    refine hsound.of_keeps hkeeps hnext hepoch ?_ hnew
    intro other phase hphase
    simp only [Traffic.settle, Table.get?_insert] at hphase
    split at hphase
    · next hsame =>
      cases hphase
      subst hsame
      refine ⟨hstarted, log.length, hread, by simp, hbegins, ?_⟩
      rw [List.take_left, hcurrent, hsound.epoch]
    · exact hothers other phase hphase

omit [DecidableEq κ] in
/-- A drop keeps the invariant, if it takes the dropped keys off the shelf and begins the next epoch. -/
theorem drop_preserves_sound (hsound : Sound log traffic) {happening : Happening κ α ε}
    (hdrop : happening.isDrop = true) {shelf : Shelf κ (Traced α)}
    (hholds : shelf.Holds fun key value => IsFreshAt log log.length key value ∧ ¬ happening.Drops key)
    (hepoch : shelf.epoch = (traffic.shelf.epoch + 1) % wordCount)
    (hnew : Explained log log.length happening) :
    Sound (log ++ [happening]) { traffic with shelf := shelf } where
  holds := hholds.imp fun _ _ hkept => hkept.1.next hkept.2
  epoch := by rw [hepoch, hsound.epoch, List.countP_append]; simp [hdrop]
  reads := fun read phase hphase => (hsound.reads read phase hphase).extend happening
  explained := hsound.explained_extend hnew

omit [DecidableEq κ] in
/-- If the epoch of a fetch is still the current one, nothing was dropped since the fetch began: as long
as the epochs have not come round, they count the drops. -/
theorem not_droppedAt_of_current (hsound : Sound log traffic)
    (hfew : log.countP Happening.isDrop < wordCount) {first : Nat}
    (hcurrent : traffic.shelf.epoch = (log.take first).countP Happening.isDrop % wordCount) {between : Nat}
    (hafter : first < between) (key : κ) : ¬ DroppedAt log between key := by
  rintro ⟨happening, hseen, hdrops⟩
  -- Both epochs are numbers of drops that have not come round, so the numbers themselves are the same.
  have hsplit : log.countP Happening.isDrop =
      (log.take first).countP Happening.isDrop + (log.drop first).countP Happening.isDrop := by
    rw [← List.countP_append, List.take_append_drop]
  have hnone : (log.drop first).countP Happening.isDrop = 0 := by
    rw [hsound.epoch, Nat.mod_eq_of_lt hfew, Nat.mod_eq_of_lt (by omega)] at hcurrent
    omega
  have hmem : happening ∈ log.drop first := by
    refine @List.mem_of_getElem? _ _ (between - first) _ ?_
    rwa [List.getElem?_drop, Nat.add_sub_cancel' (Nat.le_of_lt hafter)]
  exact List.countP_eq_zero.1 hnone happening hmem (Happening.isDrop_of_drops hdrops)

omit [DecidableEq κ] in
/-- What a fetch brings is fresh if the epoch of the fetch is still the current one. -/
theorem isFreshAt_of_current (hsound : Sound log traffic) (hfew : log.countP Happening.isDrop < wordCount)
    {read : Nat} {key : κ} {epoch : Nat} {gated : Bool}
    (hphase : traffic.reads.get? read = some (.fetches key epoch gated))
    (hcurrent : traffic.shelf.epoch = epoch) (value : α) :
    IsFreshAt (log ++ [(.finished read key (.ok value) : Happening κ α ε)])
      (log ++ [(.finished read key (.ok value) : Happening κ α ε)]).length key ⟨value, read⟩ := by
  obtain ⟨-, first, -, hfirst, hbegins, hepoch⟩ := hsound.reads read _ hphase
  refine ⟨first, log.length, hfirst, by simp, hbegins.extend _, List.getElem?_concat_length .., ?_⟩
  intro between hafter hbefore hdropped
  rcases hdropped.of_extend with ⟨-, hdropped⟩ | ⟨-, hdrops⟩
  · exact hsound.not_droppedAt_of_current hfew (hcurrent.trans hepoch) hafter key hdropped
  · exact hdrops

/-- A fetch that comes to an outcome keeps the invariant. -/
theorem finish_preserves_sound (hsound : Sound log traffic) (hfew : log.countP Happening.isDrop < wordCount)
    {read : Nat} {key : κ} {epoch : Nat} {gated : Bool}
    (hphase : traffic.reads.get? read = some (.fetches key epoch gated)) (outcome : Except ε α)
    (now : Instant) :
    Sound (log ++ [.finished read key outcome])
      { shelf := traffic.shelf.finishRead read key epoch gated (outcome.map (Traced.mk · read)) now
        reads := traffic.reads.erase read } := by
  refine hsound.of_keeps rfl ?_ (Shelf.epoch_finishRead ..) ?_ ?_
  · refine (holds_next rfl hsound.holds).finishRead_preserves_holds read gated ?_ now
    intro value hvalue hcurrent
    cases outcome with
    | error _ => cases hvalue
    | ok brought =>
      cases hvalue
      exact hsound.isFreshAt_of_current hfew hphase hcurrent brought
  · intro other phase hother
    simp only [Table.get?_erase] at hother
    split at hother
    · cases hother
    · exact (hsound.reads other phase hother).extend _
  · obtain ⟨hstarted, first, hread, hfirst, hbegins, -⟩ := hsound.reads read _ hphase
    exact ⟨hstarted, first, hread, hfirst, hbegins⟩

theorem get_preserves_sound (hsound : Sound log traffic) (key : κ) (now : Instant) :
    Sound (log ++ [(.got key (traffic.shelf.get key now).2 : Happening κ α ε)])
      { traffic with shelf := (traffic.shelf.get key now).1 } := by
  refine hsound.of_keeps rfl (holds_next rfl (hsound.holds.get_preserves_holds key now)) (Shelf.epoch_get ..) ?_ ?_
  · exact fun read phase hphase => (hsound.reads read phase hphase).extend _
  · cases hfound : (traffic.shelf.get key now).2 with
    | none => trivial
    | some value => exact hsound.holds.of_get hfound

theorem start_preserves_sound (hsound : Sound log traffic) (key : κ) (useCache : Bool) (now : Instant) :
    Sound (log ++ [(.started key (traffic.shelf.beginRead log.length key useCache now).2 : Happening κ α ε)])
      (traffic.settle log.length key (traffic.shelf.beginRead log.length key useCache now)) := by
  refine hsound.settle_preserves_sound rfl (Nat.le_refl _) ⟨_, List.getElem?_concat_length ..⟩
    (hsound.holds.beginRead_preserves_holds _ key useCache now) (Shelf.epoch_beginRead ..) ?_ ?_
  · intro epoch gated hfetches
    refine ⟨Shelf.epoch_of_beginRead hfetches, epoch, gated, .inl ⟨rfl, ?_⟩⟩
    rw [List.getElem?_concat_length, hfetches]
  · cases hreading : (traffic.shelf.beginRead log.length key useCache now).2 with
    | found value => exact hsound.holds.of_beginRead hreading
    | waits => trivial
    | fetches epoch gated => trivial

theorem resume_preserves_sound (hsound : Sound log traffic) {read : Nat} {key : κ}
    (hphase : traffic.reads.get? read = some (.waits key)) (now : Instant) :
    Sound (log ++ [(.resumed read key (traffic.shelf.resumeRead read key now).2 : Happening κ α ε)])
      (traffic.settle read key (traffic.shelf.resumeRead read key now)) := by
  obtain ⟨hread, hstarted⟩ := hsound.reads read _ hphase
  refine hsound.settle_preserves_sound rfl (Nat.le_of_lt hread) (hstarted.extend _)
    (hsound.holds.resumeRead_preserves_holds read key now) (Shelf.epoch_resumeRead ..) ?_ ?_
  · intro epoch gated hfetches
    refine ⟨Shelf.epoch_of_resumeRead hfetches, epoch, gated, .inr ?_⟩
    rw [List.getElem?_concat_length, hfetches]
  · exact ⟨hstarted, hread, fun value hfound => hsound.holds.of_resumeRead hfound⟩

/-- Whatever happens keeps the invariant, as long as the epochs have not come round. -/
theorem move_preserves_sound (hsound : Sound log traffic) (hfew : log.countP Happening.isDrop < wordCount)
    (now : Instant) (move : Move κ α ε) :
    Sound (log ++ [(traffic.move log.length now move).2]) (traffic.move log.length now move).1 := by
  cases move with
  | get key => exact hsound.get_preserves_sound key now
  | invalidate key =>
    refine hsound.drop_preserves_sound rfl ((hsound.holds.invalidate_preserves_holds key).imp ?_)
      (Shelf.epoch_invalidate ..) trivial
    exact fun other value hkept => ⟨hkept.1, fun hdrops => hkept.2 hdrops.symm⟩
  | clear => exact hsound.drop_preserves_sound rfl traffic.shelf.holds_clear (Shelf.epoch_clear _) trivial
  | start key useCache => exact hsound.start_preserves_sound key useCache now
  | resume read =>
    unfold Traffic.move
    dsimp only
    split
    · next key hphase => exact hsound.resume_preserves_sound hphase now
    · exact hsound.nothing_preserves_sound
  | finish read outcome =>
    unfold Traffic.move
    dsimp only
    split
    · next key epoch gated hphase => exact hsound.finish_preserves_sound hfew hphase outcome now
    · exact hsound.nothing_preserves_sound

omit [DecidableEq κ] in
theorem isFreshAt_of_foundAt (hsound : Sound log traffic) {moment : Nat} {key : κ} {value : Traced α}
    (hfound : FoundAt log moment key value) : IsFreshAt log moment key value := by
  rcases hfound with hgot | hstarted | ⟨read, hresumed⟩
  · exact hsound.explained moment _ hgot
  · exact hsound.explained moment _ hstarted
  · exact (hsound.explained moment _ hresumed).2.2 value rfl

omit [DecidableEq κ] in
/-- A read that finds a value has started. -/
theorem le_of_found (hsound : Sound log traffic) {moment read : Nat} {key : κ} {value : Traced α}
    (hfound : moment = read ∧ log[moment]? = some (.started key (.found value)) ∨
      log[moment]? = some (.resumed read key (.found value))) : read ≤ moment := by
  rcases hfound with ⟨rfl, -⟩ | hresumed
  · exact Nat.le_refl _
  · exact Nat.le_of_lt (hsound.explained moment _ hresumed).2.1

end Sound

/-- All that may happen keeps the invariant. -/
theorem Runs.sound {capacity : Nat} {ttl : Option Span} {hpos : 0 < capacity} {log : List (Happening κ α ε)}
    {traffic : Traffic κ α} (hruns : Runs capacity ttl hpos log traffic)
    (hfew : log.countP Happening.isDrop < wordCount) : Sound log traffic := by
  induction hruns with
  | start =>
    exact {
      holds := Shelf.holds_create capacity ttl hpos
      epoch := rfl
      reads := fun _ _ hphase => nomatch hphase
      explained := fun _ _ hseen => nomatch hseen }
  | step _ now move ih =>
    -- There are no more drops in the log before, so its epochs have not come round either.
    rw [List.countP_append] at hfew
    exact (ih (by omega)).move_preserves_sound (by omega) now move

/-- No value outlives its drop, whatever happens to a shelf in whatever order, while fewer drops happen
than there are epochs. A value that a lookup finds was fetched after the last drop of its key. A read
that starts after a drop ends with an error of its own fetch or with a value that was fetched after the
drop, also if it has waited behind a fetch that had begun before. -/
theorem no_value_outlives_its_drop {capacity : Nat} {ttl : Option Span} {hpos : 0 < capacity}
    {log : List (Happening κ α ε)} {traffic : Traffic κ α} (hruns : Runs capacity ttl hpos log traffic)
    (hfew : log.countP Happening.isDrop < wordCount) :
    (∀ moment key value, FoundAt log moment key value → IsFreshAt log moment key value) ∧
    ∀ drop read moment key outcome, DroppedAt log drop key → drop < read → Started log read key →
      ReturnsAt log moment read key outcome →
      (∃ error, outcome = .error error ∧ FetchEndsAt log moment read key (.error error)) ∨
      ∃ value first last, outcome = .ok value ∧ drop < first ∧ first < last ∧ last ≤ moment ∧
        FetchBeginsAt log first value.read key ∧ FetchEndsAt log last value.read key (.ok value.value) := by
  have hsound := hruns.sound hfew
  refine ⟨fun moment key value hfound => hsound.isFreshAt_of_foundAt hfound, ?_⟩
  intro drop read moment key outcome hdropped hlater hstarted hreturns
  rcases hreturns with ⟨value, rfl, hfound⟩ | ⟨own, rfl, hends⟩
  · have hread : read ≤ moment := hsound.le_of_found hfound
    have hfresh : IsFreshAt log moment key value := by
      refine hsound.isFreshAt_of_foundAt ?_
      rcases hfound with ⟨-, hstart⟩ | hresume
      · exact .inr (.inl hstart)
      · exact .inr (.inr ⟨read, hresume⟩)
    obtain ⟨first, last, hfirst, hlast, hbegins, hends, hkept⟩ := hfresh
    -- The drop comes before the lookup, and a fresh value was not dropped since its fetch began.
    have hdrop : drop < first := by
      rcases Nat.lt_trichotomy drop first with hbefore | rfl | hafter
      · exact hbefore
      · exact absurd hdropped hbegins.not_droppedAt
      · exact absurd hdropped (hkept drop hafter (Nat.lt_of_lt_of_le hlater hread))
    exact .inr ⟨value, first, last, rfl, hdrop, hfirst, Nat.le_of_lt hlast, hbegins, hends⟩
  · -- A fetch of its own begins when the read has started, so after the drop.
    obtain ⟨-, first, hread, hfirst, hbegins⟩ := hsound.explained moment _ hends
    cases own with
    | error error => exact .inl ⟨error, rfl, hends⟩
    | ok value =>
      exact .inr ⟨⟨value, read⟩, first, moment, rfl, Nat.lt_of_lt_of_le hlater hread, hfirst,
        Nat.le_refl _, hbegins, hends⟩

/-- The fetch that a drop overtakes is not found afterwards: the read that has waited behind it fetches
anew. -/
theorem overtaken_fetch_is_not_found :
    ∃ (log : List (Happening Nat String Unit)) (traffic : Traffic Nat String),
      Runs 1 none Nat.one_pos log traffic ∧ log.countP Happening.isDrop < wordCount ∧
      DroppedAt log 1 7 ∧ 1 < 2 ∧ Started log 2 7 ∧ FetchEndsAt log 3 0 7 (.ok "old") ∧
      ReturnsAt log 5 2 7 (.ok ⟨"new", 2⟩) ∧ FoundAt log 6 7 ⟨"new", 2⟩ ∧ IsFreshAt log 6 7 ⟨"new", 2⟩ ∧
      ∃ value first last, (.ok ⟨"new", 2⟩ : Except Unit (Traced String)) = .ok value ∧ 1 < first ∧
        first < last ∧ last ≤ 5 ∧ FetchBeginsAt log first value.read 7 ∧
        FetchEndsAt log last value.read 7 (.ok value.value) := by
  have hruns : ∃ traffic : Traffic Nat String, Runs 1 none Nat.one_pos
      ([.started 7 (.fetches 0 true), .invalidated 7, .started 7 .waits, .finished 0 7 (.ok "old"),
        .resumed 2 7 (.fetches 1 true), .finished 2 7 (.ok "new"), .got 7 (some ⟨"new", 2⟩)] :
        List (Happening Nat String Unit)) traffic :=
    ⟨_, ((((((Runs.start.step .epoch (.start 7 true)).step .epoch (.invalidate 7)).step .epoch
      (.start 7 true)).step .epoch (.finish 0 (.ok "old"))).step .epoch (.resume 2)).step .epoch
      (.finish 2 (.ok "new"))).step .epoch (.get 7)⟩
  obtain ⟨traffic, hruns⟩ := hruns
  obtain ⟨hfound, hreads⟩ := no_value_outlives_its_drop hruns (by decide)
  have hreturns := hreads 1 2 5 7 (.ok ⟨"new", 2⟩) ⟨_, rfl, rfl⟩ (by decide) ⟨_, rfl⟩ (.inr ⟨.ok "new", rfl, rfl⟩)
  refine ⟨_, traffic, hruns, by decide, ⟨_, rfl, rfl⟩, by decide, ⟨_, rfl⟩, rfl, .inr ⟨.ok "new", rfl, rfl⟩,
    .inl rfl, hfound 6 7 ⟨"new", 2⟩ (.inl rfl), ?_⟩
  rcases hreturns with ⟨_, herror, _⟩ | hvalue
  · cases herror
  · exact hvalue

end ChatNotify.Cache
