import ChatNotify.Proofs.Digest.Rounds
import ChatNotify.Proofs.Log

namespace ChatNotify.Digest

namespace Happening

/-- The entry that arrives for the user. -/
def addedTo (user : Id) : Happening → List Entry
  | .added other entry => if other = user then [entry] else []
  | _ => []

/-- The entries that go out of the user's queue. -/
def takenFrom (user : Id) : Happening → List Entry
  | .settled _ other taken _ => if other = user then taken else []
  | _ => []

end Happening

/-- All entries that were added for the user, in the order of their arrival. -/
def addedTo (user : Id) (log : List Happening) : List Entry :=
  log.flatMap (·.addedTo user)

/-- All entries that flushes took out of the user's queue, in the order in which they did. -/
def takenFrom (user : Id) (log : List Happening) : List Entry :=
  log.flatMap (·.takenFrom user)

/-- The flush looks at the queues at the moment. -/
def LooksAt (log : List Happening) (moment : Nat) (ticket : Ticket) : Prop :=
  log[moment]? = some (.looked ticket)

/-- No flush looks at the queues after the moment. -/
def IsLastLook (log : List Happening) (moment : Nat) : Prop :=
  ∀ later ticket, moment < later → ¬ LooksAt log later ticket

section

variable {log : List Happening} {happening : Happening} {moment : Nat} {ticket : Ticket} {user : Id}

@[simp]
theorem addedTo_append (user : Id) (log more : List Happening) :
    addedTo user (log ++ more) = addedTo user log ++ addedTo user more :=
  List.flatMap_append

@[simp]
theorem takenFrom_append (user : Id) (log more : List Happening) :
    takenFrom user (log ++ more) = takenFrom user log ++ takenFrom user more :=
  List.flatMap_append

@[simp]
theorem addedTo_singleton (user : Id) (happening : Happening) :
    addedTo user [happening] = happening.addedTo user :=
  List.flatMap_singleton ..

@[simp]
theorem takenFrom_singleton (user : Id) (happening : Happening) :
    takenFrom user [happening] = happening.takenFrom user :=
  List.flatMap_singleton ..

theorem LooksAt.lt (hlooks : LooksAt log moment ticket) : moment < log.length :=
  (List.getElem?_eq_some_iff.1 hlooks).1

theorem LooksAt.extend (hlooks : LooksAt log moment ticket) (happening : Happening) :
    LooksAt (log ++ [happening]) moment ticket :=
  getElem?_extend hlooks happening

theorem LooksAt.of_extend (hlooks : LooksAt (log ++ [happening]) moment ticket)
    (hnot : happening ≠ .looked ticket) : LooksAt log moment ticket := by
  rcases getElem?_extend_cases hlooks with ⟨-, hbefore⟩ | ⟨-, hnew⟩
  · exact hbefore
  · exact absurd hnew.symm hnot

theorem addedTo_drop_extend (hle : moment ≤ log.length) (user : Id) (happening : Happening) :
    addedTo user ((log ++ [happening]).drop moment) = addedTo user (log.drop moment) ++ happening.addedTo user := by
  rw [List.drop_append_of_le_length hle, addedTo_append, addedTo_singleton]

end

/-- What a flush that looked at the moment has left to decide on: every user once, and what is pending
for the user is what the flush has seen, followed by what was added since. -/
structure IsLeft (log : List Happening) (queues : Queues) (looked : Nat) (left : List (Id × List Entry)) :
    Prop where
  nodup : (left.map Prod.fst).Nodup
  ne_nil : ∀ user batch, (user, batch) ∈ left → batch ≠ []
  pending : ∀ user batch, (user, batch) ∈ left →
    queues.pending user = batch ++ addedTo user (log.drop looked)

/-- What the log tells of a flush that has not ended. -/
def Known (log : List Happening) (job : Job) (ticket : Ticket) : Progress → Prop
  | .outside | .waiting => ∀ moment, ¬ LooksAt log moment ticket
  | .deciding left _ => job.gate.isHeldBy ticket = true ∧
    ∃ looked, LooksAt log looked ticket ∧ IsLastLook log looked ∧ IsLeft log job.queues looked left

/-- How a log accounts for a user on whom a flush has decided at the moment. What is handed over is what
was taken, and what was taken completes what had been added when the flush looked. -/
def Settles (log : List Happening) (moment : Nat) (ticket : Ticket) (user : Id) (taken : List Entry)
    (handed : List Delivery) : Prop :=
  (handed = [] ∨ taken ≠ [] ∧ handed = [{ user := user, batch := taken }]) ∧
    ∃ looked, looked < moment ∧ LooksAt log looked ticket ∧
      (taken ≠ [] → takenFrom user (log.take moment) ++ taken = addedTo user (log.take looked))

/-- The invariant that carries the main statement. A flush that has looked at the queues holds the gate, so no other
flush takes anything, and what is pending for the users left to it is what it has seen followed by what was added
since. -/
structure Sound (log : List Happening) (rounds : Rounds) : Prop where
  account : ∀ user, addedTo user log = takenFrom user log ++ rounds.job.queues.pending user
  started : ∀ ticket flush, rounds.flushes.get? ticket = some flush → ticket < log.length
  looks_later : ∀ moment ticket, LooksAt log moment ticket → ticket < moment
  looks_once : ∀ first second ticket, LooksAt log first ticket → LooksAt log second ticket → first = second
  known : ∀ ticket now progress, rounds.flushes.get? ticket = some (now, progress) →
    Known log rounds.job ticket progress
  waits : ∀ looked ticket, LooksAt log looked ticket → IsLastLook log looked →
    ∀ user, addedTo user (log.drop looked) <:+ rounds.job.queues.pending user
  settles : ∀ moment ticket user taken handed, log[moment]? = some (.settled ticket user taken handed) →
    Settles log moment ticket user taken handed

section

variable {log : List Happening} {happening : Happening} {ticket : Ticket}

theorem IsLastLook.extend {looked : Nat} (hlast : IsLastLook log looked)
    (hnot : ∀ other, happening ≠ .looked other) : IsLastLook (log ++ [happening]) looked :=
  fun later other hlater hlooks => hlast later other hlater (hlooks.of_extend (hnot other))

theorem IsLastLook.of_extend {looked : Nat} (hlast : IsLastLook (log ++ [happening]) looked) :
    IsLastLook log looked :=
  fun later other hlater hlooks => hlast later other hlater (hlooks.extend happening)

theorem isLastLook_length (log : List Happening) (happening : Happening) :
    IsLastLook (log ++ [happening]) log.length := by
  intro later ticket hlater hlooks
  have hlt := hlooks.lt
  rw [List.length_append, List.length_singleton] at hlt
  omega

/-- Two last looks are one. -/
theorem IsLastLook.unique {first second : Nat} {other : Ticket} (hfirst : IsLastLook log first)
    (hfirstLooks : LooksAt log first ticket) (hsecond : IsLastLook log second)
    (hsecondLooks : LooksAt log second other) : first = second := by
  rcases Nat.lt_trichotomy first second with hlt | heq | hgt
  · exact absurd hsecondLooks (hfirst second other hlt)
  · exact heq
  · exact absurd hfirstLooks (hsecond first ticket hgt)

/-- What stands in a log accounts for its users also when the log has grown. -/
theorem Settles.extend {moment : Nat} {user : Id} {taken : List Entry} {handed : List Delivery}
    (hsettles : Settles log moment ticket user taken handed) (hle : moment ≤ log.length)
    (happening : Happening) : Settles (log ++ [happening]) moment ticket user taken handed := by
  obtain ⟨hhanded, looked, hlooked, hlooks, htaken⟩ := hsettles
  refine ⟨hhanded, looked, hlooked, hlooks.extend happening, ?_⟩
  rwa [List.take_append_of_le_length hle, List.take_append_of_le_length (by omega)]

/-- What the log tells of a flush goes on to hold while others have their turn, if the queues change by
what arrives only. -/
theorem Known.extend {job after : Job} {progress : Progress} (hknown : Known log job ticket progress)
    (hnot : ∀ other, happening ≠ .looked other)
    (hgate : job.gate.isHeldBy ticket = true → after.gate.isHeldBy ticket = true)
    (hpending : ∀ user, after.queues.pending user = job.queues.pending user ++ happening.addedTo user) :
    Known (log ++ [happening]) after ticket progress := by
  cases progress with
  | outside => exact fun moment hlooks => hknown moment (hlooks.of_extend (hnot ticket))
  | waiting => exact fun moment hlooks => hknown moment (hlooks.of_extend (hnot ticket))
  | deciding left delivered =>
    obtain ⟨hheld, looked, hlooks, hlast, hleft⟩ := hknown
    refine ⟨hgate hheld, looked, hlooks.extend happening, hlast.extend hnot, hleft.nodup, hleft.ne_nil, ?_⟩
    intro user batch hmem
    rw [hpending, hleft.pending user batch hmem, addedTo_drop_extend (Nat.le_of_lt hlooks.lt),
      List.append_assoc]

/-- Of the others the log tells the same while a flush holds the gate, whatever it does. -/
theorem Known.of_isHeldBy {job after : Job} {gate : Gate} {other : Ticket} {progress : Progress}
    (hknown : Known log job other progress) (hheld : gate.isHeldBy ticket = true)
    (hgate : job.gate.isHeldBy other = true → gate.isHeldBy other = true) (hne : other ≠ ticket)
    (hnot : happening ≠ .looked other) : Known (log ++ [happening]) after other progress := by
  cases progress with
  | outside => exact fun moment hlooks => hknown moment (hlooks.of_extend hnot)
  | waiting => exact fun moment hlooks => hknown moment (hlooks.of_extend hnot)
  | deciding left delivered => exact absurd (Gate.eq_of_isHeldBy (hgate hknown.1) hheld) hne

/-- A flush that looks has everything left that is pending. -/
theorem isLeft_entries (log : List Happening) (ticket : Ticket) (queues : Queues) :
    IsLeft (log ++ [.looked ticket]) queues log.length queues.table.entries where
  nodup := queues.table.nodup_keys
  ne_nil user batch hmem := queues.ne_nil user batch (Table.get?_eq_some_iff.2 hmem)
  pending user batch hmem := by
    have hbatch : queues.pending user = batch := by
      rw [Queues.pending, Table.get?_eq_some_iff.2 hmem]
      rfl
    rw [hbatch, List.drop_left, addedTo_singleton]
    exact (List.append_nil batch).symm

/-- After a decision the other users are left. -/
theorem IsLeft.settle_preserves_isLeft {queues : Queues} {looked : Nat} {user : Id} {batch : List Entry}
    {left : List (Id × List Entry)} (hleft : IsLeft log queues looked ((user, batch) :: left))
    (hle : looked ≤ log.length) (hadds : ∀ other, happening.addedTo other = []) (verdict : Verdict) :
    IsLeft (log ++ [happening]) (settle queues user batch verdict).1 looked left := by
  obtain ⟨hnot, hnodup⟩ := List.nodup_cons.1 hleft.nodup
  refine ⟨hnodup, fun other rest hmem => hleft.ne_nil other rest (List.mem_cons_of_mem _ hmem), ?_⟩
  intro other rest hmem
  have hne : user ≠ other := by
    intro heq
    exact hnot (List.mem_map.2 ⟨_, hmem, heq.symm⟩)
  rw [pending_settle_of_ne hne, hleft.pending other rest (List.mem_cons_of_mem _ hmem),
    addedTo_drop_extend hle, hadds, List.append_nil]

end

namespace Sound

variable {log : List Happening} {rounds after : Rounds} {happening : Happening} {ticket : Ticket}

theorem settles_extend (hsound : Sound log rounds)
    (hnew : ∀ ticket user taken handed, happening = .settled ticket user taken handed →
      Settles log log.length ticket user taken handed) (moment : Nat) (ticket : Ticket) (user : Id)
    (taken : List Entry) (handed : List Delivery)
    (hseen : (log ++ [happening])[moment]? = some (.settled ticket user taken handed)) :
    Settles (log ++ [happening]) moment ticket user taken handed := by
  rcases getElem?_extend_cases hseen with ⟨hlt, hbefore⟩ | ⟨rfl, hlast⟩
  · exact (hsound.settles moment ticket user taken handed hbefore).extend (Nat.le_of_lt hlt) happening
  · exact (hnew ticket user taken handed hlast.symm).extend (Nat.le_refl _) happening

/-- What is neither a look nor a decision keeps the invariant, if the queues change by what arrives only
and the log tells of all flushes that have not ended. -/
theorem of_grows (hsound : Sound log rounds) (hnot : ∀ other, happening ≠ .looked other)
    (hkeeps : ∀ ticket user taken handed, happening ≠ .settled ticket user taken handed)
    (hpending : ∀ user,
      after.job.queues.pending user = rounds.job.queues.pending user ++ happening.addedTo user)
    (hstarted : ∀ ticket flush, after.flushes.get? ticket = some flush → ticket < log.length + 1)
    (hknown : ∀ ticket now progress, after.flushes.get? ticket = some (now, progress) →
      Known (log ++ [happening]) after.job ticket progress) : Sound (log ++ [happening]) after where
  account user := by
    have htaken : happening.takenFrom user = [] := by
      cases happening with
      | settled ticket other taken handed => exact absurd rfl (hkeeps ticket other taken handed)
      | _ => rfl
    rw [addedTo_append, takenFrom_append, addedTo_singleton, takenFrom_singleton, htaken, hsound.account,
      hpending, List.append_nil, List.append_assoc]
  started ticket flush hflush := by
    have hlt := hstarted ticket flush hflush
    simpa using hlt
  looks_later moment ticket hlooks := hsound.looks_later moment ticket (hlooks.of_extend (hnot ticket))
  looks_once first second ticket hfirst hsecond :=
    hsound.looks_once first second ticket (hfirst.of_extend (hnot ticket)) (hsecond.of_extend (hnot ticket))
  known := hknown
  waits looked ticket hlooks hlast user := by
    have hbefore := hlooks.of_extend (hnot ticket)
    obtain ⟨front, hfront⟩ := hsound.waits looked ticket hbefore hlast.of_extend user
    refine ⟨front, ?_⟩
    rw [addedTo_drop_extend (Nat.le_of_lt hbefore.lt), ← List.append_assoc, hfront, hpending]
  settles := hsound.settles_extend fun ticket user taken handed heq =>
    absurd heq (hkeeps ticket user taken handed)

theorem lt_length_of_get?_working (hsound : Sound log rounds) {now : Instant} {flush : Instant × Progress}
    (hflush : rounds.flushes.get? ticket = some flush) {job : Job} {left : List (Id × List Entry)}
    {delivered : List Delivery} (happening : Happening) (other : Ticket) (found : Instant × Progress)
    (hfound : (rounds.working job ticket now left delivered).flushes.get? other = some found) :
    other < (log ++ [happening]).length := by
  rw [List.length_append, List.length_singleton]
  rcases rounds.of_get?_working hfound with ⟨-, hbefore⟩ | ⟨rfl, -⟩
  · exact Nat.lt_succ_of_lt (hsound.started other found hbefore)
  · exact Nat.lt_succ_of_lt (hsound.started other flush hflush)

/-- A flush that the gate lets in keeps the invariant. -/
theorem look_preserves_sound (hsound : Sound log rounds) {now : Instant} {progress : Progress} {gate : Gate}
    (hflush : rounds.flushes.get? ticket = some (now, progress))
    (hnever : ∀ moment, ¬ LooksAt log moment ticket) (hheld : gate.isHeldBy ticket = true)
    (hgate : ∀ other, rounds.job.gate.isHeldBy other = true → gate.isHeldBy other = true) :
    Sound (log ++ [.looked ticket])
      (rounds.working { rounds.job with gate := gate } ticket now rounds.job.queues.table.entries []) where
  account user := by
    rw [addedTo_append, takenFrom_append, addedTo_singleton, takenFrom_singleton, hsound.account,
      Rounds.queues_working]
    exact (List.append_nil _).trans (congrArg (· ++ _) (List.append_nil _).symm)
  started := hsound.lt_length_of_get?_working hflush _
  looks_later moment other hlooks := by
    rcases getElem?_extend_cases hlooks with ⟨-, hbefore⟩ | ⟨rfl, hnew⟩
    · exact hsound.looks_later moment other hbefore
    · cases hnew
      exact hsound.started _ _ hflush
  looks_once first second other hfirst hsecond := by
    rcases getElem?_extend_cases hfirst with ⟨-, hbefore⟩ | ⟨rfl, hnew⟩
    · rcases getElem?_extend_cases hsecond with ⟨-, hsecondBefore⟩ | ⟨-, hnew⟩
      · exact hsound.looks_once first second other hbefore hsecondBefore
      · cases hnew
        exact absurd hbefore (hnever first)
    · cases hnew
      rcases getElem?_extend_cases hsecond with ⟨-, hbefore⟩ | ⟨rfl, -⟩
      · exact absurd hbefore (hnever second)
      · rfl
  known other now progress hother := by
    rcases rounds.of_get?_working hother with ⟨hne, hbefore⟩ | ⟨rfl, hnow, hjob⟩
    · refine (hsound.known other now progress hbefore).of_isHeldBy hheld (hgate other) hne fun heq => ?_
      cases heq
      exact hne rfl
    · cases hnow
      rw [hjob]
      exact ⟨hheld, log.length, List.getElem?_concat_length .., isLastLook_length log _,
        isLeft_entries log _ rounds.job.queues⟩
  waits looked other hlooks hlast user := by
    rcases getElem?_extend_cases hlooks with ⟨hlt, -⟩ | ⟨rfl, -⟩
    · exact absurd (List.getElem?_concat_length ..) (hlast log.length ticket hlt)
    · rw [List.drop_left]
      exact List.nil_suffix
  settles := hsound.settles_extend nofun

section

variable {now : Instant} {user : Id} {batch : List Entry} {left : List (Id × List Entry)}
  {delivered : List Delivery}

/-- What a decision takes and hands over is accounted for. -/
theorem settles_settle (hsound : Sound log rounds)
    (hflush : rounds.flushes.get? ticket = some (now, .deciding ((user, batch) :: left) delivered))
    (verdict : Verdict) :
    let settled := Digest.settle rounds.job.queues user batch verdict
    Settles log log.length ticket user (takenBetween rounds.job.queues settled.1 user) settled.2 := by
  intro settled
  obtain ⟨-, looked, hlooks, -, hleft⟩ := hsound.known ticket now _ hflush
  have hpending := hleft.pending user batch (List.mem_cons_self ..)
  have hbatch := hleft.ne_nil user batch (List.mem_cons_self ..)
  rcases settle_cases hpending verdict with ⟨htaken, hhanded, -⟩ | ⟨htaken, hhanded, -⟩
  · exact ⟨.inl hhanded, looked, hlooks.lt, hlooks, fun hne => absurd htaken hne⟩
  · rw [htaken]
    refine ⟨hhanded.imp_right fun heq => ⟨hbatch, heq⟩, looked, hlooks.lt, hlooks, fun _ => ?_⟩
    -- All that was added is what was taken, the batch, and what was added since the look.
    have haccount := hsound.account user
    rw [hpending, ← List.append_assoc] at haccount
    have hsplit : addedTo user log = addedTo user (log.take looked) ++ addedTo user (log.drop looked) := by
      rw [← addedTo_append, List.take_append_drop]
    rw [List.take_length]
    exact (List.append_cancel_right (hsplit.symm.trans haccount)).symm

/-- A decision keeps the invariant. -/
theorem settle_preserves_sound (hsound : Sound log rounds)
    (hflush : rounds.flushes.get? ticket = some (now, .deciding ((user, batch) :: left) delivered))
    (verdict : Verdict) :
    let settled := Digest.settle rounds.job.queues user batch verdict
    Sound (log ++ [.settled ticket user (takenBetween rounds.job.queues settled.1 user) settled.2])
      (rounds.working { rounds.job with queues := settled.1 } ticket now left (delivered ++ settled.2)) := by
  intro settled
  obtain ⟨hheld, looked, hlooks, hlast, hleft⟩ := hsound.known ticket now _ hflush
  have hpending := hleft.pending user batch (List.mem_cons_self ..)
  have hothers (other : Id) (hne : user ≠ other) :
      settled.1.pending other = rounds.job.queues.pending other := pending_settle_of_ne hne ..
  constructor
  case account =>
    intro other
    have hsplit : rounds.job.queues.pending other =
        (if user = other then takenBetween rounds.job.queues settled.1 user else []) ++
          settled.1.pending other := by
      split
      · next heq => exact heq ▸ pending_eq_append_settle hpending verdict
      · next hne => rw [hothers other hne, List.nil_append]
    rw [addedTo_append, takenFrom_append, addedTo_singleton, takenFrom_singleton, hsound.account, hsplit,
      Rounds.queues_working, ← List.append_assoc]
    exact List.append_nil _
  case started => exact hsound.lt_length_of_get?_working hflush _
  case looks_later => exact fun moment other hlater => hsound.looks_later moment other (hlater.of_extend nofun)
  case looks_once =>
    exact fun first second other hfirst hsecond =>
      hsound.looks_once first second other (hfirst.of_extend nofun) (hsecond.of_extend nofun)
  case known =>
    intro other now progress hother
    rcases rounds.of_get?_working hother with ⟨hne, hbefore⟩ | ⟨rfl, hnow, hjob⟩
    · exact (hsound.known other now progress hbefore).of_isHeldBy hheld id hne nofun
    · cases hnow
      rw [hjob]
      exact ⟨hheld, looked, hlooks.extend _, hlast.extend nofun,
        hleft.settle_preserves_isLeft (Nat.le_of_lt hlooks.lt) (fun _ => rfl) verdict⟩
  case waits =>
    intro moment other hlater hlatest named
    have hbefore : LooksAt log moment other := hlater.of_extend nofun
    -- The last look is that of the flush itself. Whether or not the batch goes, what was added since stays.
    obtain rfl := hlatest.of_extend.unique hbefore hlast hlooks
    rw [addedTo_drop_extend (Nat.le_of_lt hbefore.lt), Rounds.queues_working]
    refine (List.append_nil _).symm ▸ ?_
    by_cases heq : user = named
    · subst heq
      rcases settle_cases hpending verdict with ⟨-, -, hafter⟩ | ⟨-, -, hafter⟩
      · exact ⟨batch, hafter.symm⟩
      · exact ⟨[], hafter.symm⟩
    · exact hothers named heq ▸ hsound.waits moment _ hbefore hlatest.of_extend named
  case settles =>
    refine hsound.settles_extend fun other named taken handed heq => ?_
    cases heq
    exact hsound.settles_settle hflush verdict

end

/-- What arrives keeps the invariant, while no flush has its turn. -/
theorem arrive_preserves_sound (hsound : Sound log rounds) {queues : Queues} (hnot : ∀ other, happening ≠ .looked other)
    (hkeeps : ∀ ticket user taken handed, happening ≠ .settled ticket user taken handed)
    (hpending : ∀ user, queues.pending user = rounds.job.queues.pending user ++ happening.addedTo user) :
    Sound (log ++ [happening]) { rounds with job := { rounds.job with queues := queues } } :=
  hsound.of_grows hnot hkeeps hpending
    (fun ticket flush hflush => Nat.lt_succ_of_lt (hsound.started ticket flush hflush))
    fun ticket now progress hflush => (hsound.known ticket now progress hflush).extend hnot id hpending

/-- A move that does not come about keeps the invariant. -/
theorem nothing_preserves_sound (hsound : Sound log rounds) : Sound (log ++ [.nothing]) rounds :=
  hsound.arrive_preserves_sound nofun nofun fun _ => (List.append_nil _).symm

/-- A flush that goes on keeps the invariant. -/
theorem goOn_preserves_sound (hsound : Sound log rounds) {now : Instant} {progress : Progress}
    (hflush : rounds.flushes.get? ticket = some (now, progress)) (sources : Sources) :
    Sound (log ++ [(rounds.goOn ticket now progress sources).2])
      (rounds.goOn ticket now progress sources).1 := by
  have hknown := hsound.known ticket now progress hflush
  match progress with
  | .outside =>
    rw [Rounds.goOn_outside]
    dsimp only
    split
    · next hheld =>
      exact hsound.look_preserves_sound hflush hknown hheld fun other hother => Gate.isHeldBy_ask hother ticket
    · refine hsound.of_grows nofun nofun (fun _ => (List.append_nil _).symm) ?_ ?_
      · intro other flush hother
        rw [Table.get?_insert] at hother
        split at hother
        · next heq => exact heq ▸ Nat.lt_succ_of_lt (hsound.started ticket _ hflush)
        · exact Nat.lt_succ_of_lt (hsound.started other flush hother)
      · intro other now progress hother
        rw [Table.get?_insert] at hother
        split at hother
        · next heq =>
          cases hother
          exact heq ▸ fun moment hlooks => hknown moment (hlooks.of_extend nofun)
        · exact (hsound.known other now progress hother).extend nofun
            (fun hheld => Gate.isHeldBy_ask hheld ticket) fun _ => (List.append_nil _).symm
  | .waiting =>
    rw [Rounds.goOn_waiting]
    dsimp only
    split
    · next hheld =>
      exact hsound.look_preserves_sound hflush hknown hheld fun other hother => Gate.isHeldBy_enter hother ticket
    · exact hsound.nothing_preserves_sound
  | .deciding [] delivered =>
    rw [Rounds.goOn_through]
    exact hsound.nothing_preserves_sound
  | .deciding ((user, batch) :: left) delivered =>
    rw [Rounds.goOn_deciding]
    exact hsound.settle_preserves_sound hflush _

theorem add_preserves_sound (hsound : Sound log rounds) (user : Id) (entry : Entry) :
    Sound (log ++ [.added user entry])
      { rounds with job := { rounds.job with queues := rounds.job.queues.add user entry } } := by
  have hpending (other : Id) : (rounds.job.queues.add user entry).pending other =
      rounds.job.queues.pending other ++ (Happening.added user entry).addedTo other := by
    rw [Queues.pending_add, Happening.addedTo]
    split
    · rfl
    · exact (List.append_nil _).symm
  exact hsound.arrive_preserves_sound nofun nofun hpending

theorem start_preserves_sound (hsound : Sound log rounds) (now : Instant) :
    Sound (log ++ [.started now]) { rounds with flushes := rounds.flushes.insert log.length (now, .outside) } := by
  refine hsound.of_grows nofun nofun (fun _ => (List.append_nil _).symm) ?_ ?_
  · intro ticket flush hflush
    rw [Table.get?_insert] at hflush
    split at hflush
    · next heq => exact heq ▸ Nat.lt_succ_self log.length
    · exact Nat.lt_succ_of_lt (hsound.started ticket flush hflush)
  · intro ticket now progress hflush
    rw [Table.get?_insert] at hflush
    split at hflush
    · next heq =>
      cases hflush
      intro moment hlooks
      -- A flush that looks has started before, and nothing stands in the log after this start.
      have hbefore : LooksAt log moment ticket := hlooks.of_extend nofun
      have hlater := hsound.looks_later moment ticket hbefore
      rw [← heq] at hlater
      exact Nat.lt_asymm hlater hbefore.lt
    · exact (hsound.known ticket now progress hflush).extend nofun id fun _ => (List.append_nil _).symm

theorem abandon_preserves_sound (hsound : Sound log rounds) (ticket : Ticket) :
    Sound (log ++ [.abandoned ticket])
      { job := { rounds.job with gate := rounds.job.gate.leave ticket }
        flushes := rounds.flushes.erase ticket } := by
  refine hsound.of_grows nofun nofun (fun _ => (List.append_nil _).symm) ?_ ?_
  · intro other flush hflush
    rw [Table.get?_erase] at hflush
    split at hflush
    · cases hflush
    · exact Nat.lt_succ_of_lt (hsound.started other flush hflush)
  · intro other now progress hflush
    rw [Table.get?_erase] at hflush
    split at hflush
    · cases hflush
    · next hne =>
      exact (hsound.known other now progress hflush).extend nofun
        (fun hheld => Gate.isHeldBy_leave hheld fun heq => hne heq.symm) fun _ => (List.append_nil _).symm

/-- Whatever happens keeps the invariant. -/
theorem move_preserves_sound (hsound : Sound log rounds) (move : Move) :
    Sound (log ++ [(rounds.move log.length move).2]) (rounds.move log.length move).1 := by
  cases move with
  | add user entry => exact hsound.add_preserves_sound user entry
  | start now => exact hsound.start_preserves_sound now
  | resume ticket sources =>
    unfold Rounds.move
    dsimp only
    split
    · next now progress hflush => exact hsound.goOn_preserves_sound hflush sources
    · exact hsound.nothing_preserves_sound
  | abandon ticket =>
    unfold Rounds.move
    dsimp only
    split
    · exact hsound.abandon_preserves_sound ticket
    · exact hsound.nothing_preserves_sound

/-- The order in which the queues are kept does not matter. -/
theorem shuffle_preserves_sound (hsound : Sound log rounds) (queues : Queues)
    (hpending : ∀ user, queues.pending user = rounds.job.queues.pending user) :
    Sound log { rounds with job := { rounds.job with queues := queues } } where
  account user := (hsound.account user).trans (congrArg _ (hpending user).symm)
  started := hsound.started
  looks_later := hsound.looks_later
  looks_once := hsound.looks_once
  known ticket now progress hflush := by
    have hknown := hsound.known ticket now progress hflush
    cases progress with
    | outside => exact hknown
    | waiting => exact hknown
    | deciding left delivered =>
      obtain ⟨hheld, looked, hlooks, hlast, hleft⟩ := hknown
      refine ⟨hheld, looked, hlooks, hlast, hleft.nodup, hleft.ne_nil, ?_⟩
      exact fun user batch hmem => (hpending user).trans (hleft.pending user batch hmem)
  waits looked ticket hlooks hlast user := by
    have hsuffix := hsound.waits looked ticket hlooks hlast user
    rwa [← hpending user] at hsuffix
  settles := hsound.settles

end Sound

/-- All that may happen keeps the invariant. -/
theorem Runs.sound {log : List Happening} {rounds : Rounds} (hruns : Runs log rounds) : Sound log rounds := by
  induction hruns with
  | start =>
    exact {
      account := fun _ => rfl
      started := fun _ _ hflush => nomatch hflush
      looks_later := fun _ _ hlooks => nomatch hlooks
      looks_once := fun _ _ _ hlooks => nomatch hlooks
      known := fun _ _ _ hflush => nomatch hflush
      waits := fun _ _ hlooks => nomatch hlooks
      settles := fun _ _ _ _ _ hseen => nomatch hseen }
  | step _ move ih => exact ih.move_preserves_sound move
  | shuffle _ queues hpending ih => exact ih.shuffle_preserves_sound queues hpending

/-- The users who have a queue are those for whom something is pending. -/
theorem Queues.mem_keys_iff {queues : Queues} {user : Id} :
    user ∈ queues.table.keys ↔ queues.pending user ≠ [] := by
  constructor
  · intro hmem
    obtain ⟨⟨named, queue⟩, hentry, rfl⟩ := List.mem_map.1 hmem
    have hqueue := Table.get?_eq_some_iff.2 hentry
    rw [pending, hqueue]
    exact queues.ne_nil named queue hqueue
  · intro hpending
    cases hqueue : queues.table.get? user with
    | none => exact absurd (by rw [pending, hqueue]; rfl) hpending
    | some queue => exact Table.mem_keys_of_mem (Table.get?_eq_some_iff.1 hqueue)

/-- No entry of a digest is lost, comes twice or out of order, whatever is added, however flushes overlap
and wherever one of them is given up. For every user, what was added is what flushes have taken, in this
order, followed by what is pending; what a flush takes for a user is handed over once and as a whole, or
dropped. A flush looks at the queues at one moment: what it takes for a user completes what had been
added for the user until then, and what was added since stays pending while the flush is at work, and
after it until another one looks. The users counted are those for whom something is pending. -/
theorem Runs.accounts_for_all_entries {log : List Happening} {rounds : Rounds} (hruns : Runs log rounds) :
    (∀ user, addedTo user log = takenFrom user log ++ rounds.job.queues.pending user) ∧
    (∀ moment ticket user taken handed, log[moment]? = some (.settled ticket user taken handed) →
      (handed = [] ∨ taken ≠ [] ∧ handed = [{ user := user, batch := taken }]) ∧
      ∃ looked, looked < moment ∧ LooksAt log looked ticket ∧
        (∀ other, LooksAt log other ticket → other = looked) ∧
        (taken ≠ [] → takenFrom user (log.take moment) ++ taken = addedTo user (log.take looked))) ∧
    (∀ looked ticket, LooksAt log looked ticket →
      rounds.flushes.contains ticket = true ∨ IsLastLook log looked →
      ∀ user, addedTo user (log.drop looked) <:+ rounds.job.queues.pending user) ∧
    ∃ users : List Id, users.Nodup ∧ (∀ user, user ∈ users ↔ rounds.job.queues.pending user ≠ []) ∧
      rounds.job.queues.userCount = users.length := by
  have hsound := hruns.sound
  refine ⟨hsound.account, ?_, ?_, ?_⟩
  · intro moment ticket user taken handed hseen
    obtain ⟨hhanded, looked, hlooked, hlooks, htaken⟩ := hsound.settles moment ticket user taken handed hseen
    exact ⟨hhanded, looked, hlooked, hlooks,
      fun other hother => hsound.looks_once other looked ticket hother hlooks, htaken⟩
  · intro looked ticket hlooks hlatest
    refine hsound.waits looked ticket hlooks ?_
    rcases hlatest with hcontains | hlast
    · obtain ⟨⟨now, progress⟩, hflush⟩ := Option.isSome_iff_exists.1 hcontains
      have hknown := hsound.known ticket now progress hflush
      cases progress with
      | outside => exact absurd hlooks (hknown looked)
      | waiting => exact absurd hlooks (hknown looked)
      | deciding left delivered =>
        obtain ⟨-, moment, hmoment, hlast, -⟩ := hknown
        exact hsound.looks_once moment looked ticket hmoment hlooks ▸ hlast
    · exact hlast
  · refine ⟨rounds.job.queues.table.keys, rounds.job.queues.table.nodup_keys,
      fun user => Queues.mem_keys_iff, ?_⟩
    exact (List.length_map ..).symm

/-- An entry that arrives while a flush is at work stays pending, and the flush hands over what it has
seen. -/
theorem entry_added_during_flush_stays :
    ∃ (user : Id) (first second : Entry) (log : List Happening) (rounds : Rounds), Runs log rounds ∧
      LooksAt log 2 1 ∧ log[3]? = some (.added user second) ∧
      log[4]? = some (.settled 1 user [first] [{ user := user, batch := [first] }]) ∧
      rounds.job.queues.pending user = [second] ∧
      addedTo user log = takenFrom user log ++ rounds.job.queues.pending user ∧
      takenFrom user (log.take 4) ++ [first] = addedTo user (log.take 2) ∧
      addedTo user (log.drop 2) <:+ rounds.job.queues.pending user ∧
      ∃ users : List Id, user ∈ users ∧ rounds.job.queues.userCount = users.length := by
  let user : Id := ⟨7⟩
  let first : Entry := { post := { id := ⟨1⟩, channel := ⟨2⟩, user := ⟨3⟩ }, team := "red" }
  let second : Entry := { post := { id := ⟨4⟩, channel := ⟨2⟩, user := ⟨3⟩ }, team := "red" }
  let sources : Sources :=
    { memberships := fun _ _ => .ok [], interval := fun _ => .ok none, defaultInterval := .ofSeconds 900 }
  let now := Instant.epoch.after (.ofSeconds 1000)
  have hverdict : (verdict sources now user [first]).value = .deliver := by decide +kernel
  let queues := (Queues.add {} user first).add user second
  let working : Rounds :=
    { job := { queues := queues, gate := { owner := some 1, entered := true } }
      flushes := (Table.insert ∅ 1 (now, .outside)).insert 1 (now, .deciding [(user, [first])] []) }
  have hworking : Runs [.added user first, .started now, .looked 1, .added user second] working :=
    (((Runs.start.step (.add user first)).step (.start now)).step (.resume 1 sources)).step (.add user second)
  have hmove : working.move 4 (.resume 1 sources) =
      ({ job := { queues := queues.removeFirst user 1, gate := {} }, flushes := working.flushes.erase 1 },
        .settled 1 user [first] [{ user := user, batch := [first] }]) := by
    change working.goOn 1 now (.deciding [(user, [first])] []) sources = _
    rw [Rounds.goOn_deciding, hverdict]
    rfl
  have hruns := hworking.step (.resume 1 sources)
  change Runs ([_, _, _, _] ++ [(working.move 4 (.resume 1 sources)).2]) (working.move 4 _).1 at hruns
  rw [hmove] at hruns
  obtain ⟨haccount, hsettles, hwaits, users, -, husers, hcount⟩ := hruns.accounts_for_all_entries
  obtain ⟨-, looked, -, hlooks, honce, htaken⟩ := hsettles 4 1 user [first] _ rfl
  obtain rfl := honce 2 rfl
  have hthird : IsLastLook ([.added user first, .started now] ++ [.looked 1] ++ [.added user second]) 2 :=
    (isLastLook_length _ _).extend nofun
  have hlast : IsLastLook ([.added user first, .started now] ++ [.looked 1] ++ [.added user second] ++
      [.settled 1 user [first] [{ user := user, batch := [first] }]]) 2 := hthird.extend nofun
  exact ⟨user, first, second, _, _, hruns, rfl, rfl, rfl, rfl, haccount user, htaken nofun,
    hwaits 2 1 rfl (.inr hlast) user, users, (husers user).2 nofun, hcount⟩

end ChatNotify.Digest
