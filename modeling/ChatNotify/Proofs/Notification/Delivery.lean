import ChatNotify.Notification.Service
import ChatNotify.Proofs.Journal
import ChatNotify.Proofs.Notification.Recipients

namespace ChatNotify

/-- The error that an answer is, if it is one. -/
def failure? {α : Type} : Except StoreError α → Option StoreError
  | .ok _ => none
  | .error error => some error

namespace Notifier

/-- The failures of the collaborators without whose answers there is no plan, in the order in which they are
asked. -/
def essentialFailures (notifier : Notifier) (post : Post) (channel : Channel) : List StoreError :=
  [failure? (notifier.memberCount channel.id), failure? (notifier.profiles channel.id),
    failure? (notifier.members channel.id), failure? (notifier.mayMentionChannel post.user channel.id)].reduceOption

/-- The presence that counts for a user: offline if the question fails. -/
def knownPresence (notifier : Notifier) (user : Id) : Presence :=
  (notifier.presence user).toOption.getD .offline

/-- The state of a channel, as it follows from the answers. -/
def snapshotOf (notifier : Notifier) (channel : Channel) (memberCount : Nat) (profiles : Table Id User)
    (members : List Member) : Snapshot where
  channel := channel
  profiles := profiles
  preferences := Table.ofList (members.map fun member => (member.user, member.preferences))
  presence := Table.ofList (profiles.keys.map fun user => (user, notifier.knownPresence user))
  memberCount := memberCount

/-- The plan for a post, as it follows from the state of the channel. -/
def planFor (notifier : Notifier) (post : Post) (thread : Option Thread) (snapshot : Snapshot)
    (permitted : Bool) : Plan :=
  let allowed := notifier.policy.allowsChannelMentions post.kind snapshot.memberCount permitted
  let keywords := KeywordIndex.build snapshot.profiles allowed snapshot.preferences snapshot.presence
  (Plan.make notifier.directory snapshot post thread keywords allowed (Mention.inPost keywords post)).value

section

variable (notifier : Notifier) (post : Post) (channel : Channel) (thread : Option Thread)

theorem value_run_demand {α : Type} (question : Question) (answer : Except StoreError α) :
    (demand question answer).run.value = answer.mapError .store := by
  cases answer with
  | ok value => rfl
  | error error => rfl

theorem value_presenceOf (user : Id) : (notifier.presenceOf user).value = notifier.knownPresence user := by
  unfold presenceOf knownPresence
  cases notifier.presence user with
  | ok presence => rfl
  | error error => rfl

theorem value_run_snapshot : (notifier.snapshot channel).run.value = do
    let memberCount ← (notifier.memberCount channel.id).mapError .store
    let profiles ← (notifier.profiles channel.id).mapError .store
    let members ← (notifier.members channel.id).mapError .store
    return notifier.snapshotOf channel memberCount profiles members := by
  unfold snapshot
  simp only [Logged.value_run_bind, value_run_demand]
  have hpresence (profiles : Table Id User) :
      (profiles.keys.mapM fun user => do
        return (user, ← (notifier.presenceOf user : Logged _)) : ExceptT ServiceError Logged _).run.value =
        .ok (profiles.keys.map fun user => (user, notifier.knownPresence user)) :=
    Logged.value_run_mapM (fun user => by
      rw [Logged.value_run_bind, ← notifier.value_presenceOf user]
      rfl) _
  simp only [hpresence]
  rfl

/-- A post that is brought to the right channel has a plan if all that is needed for it is answered. -/
theorem value_run_plan (hchannel : post.channel = channel.id) : (notifier.plan post channel thread).run.value = do
    let snapshot ← (notifier.snapshot channel).run.value
    let permitted ← (notifier.mayMentionChannel post.user channel.id).mapError .store
    return notifier.planFor post thread snapshot permitted := by
  unfold plan
  simp only [hchannel, ne_eq, not_true_eq_false, if_false, Logged.value_run_bind, value_run_demand]
  rfl

/-- The plan is made, or the first of the failures is passed on. -/
theorem value_run_plan_cases (hchannel : post.channel = channel.id) :
    (∃ memberCount profiles members permitted, notifier.essentialFailures post channel = [] ∧
      (notifier.plan post channel thread).run.value =
        .ok (notifier.planFor post thread (notifier.snapshotOf channel memberCount profiles members) permitted)) ∨
    ∃ error, (notifier.essentialFailures post channel).head? = some error ∧
      (notifier.plan post channel thread).run.value = .error (.store error) := by
  rw [value_run_plan notifier post channel thread hchannel, value_run_snapshot, essentialFailures]
  cases notifier.memberCount channel.id with
  | error error => exact .inr ⟨error, rfl, rfl⟩
  | ok memberCount =>
    cases notifier.profiles channel.id with
    | error error => exact .inr ⟨error, rfl, rfl⟩
    | ok profiles =>
      cases notifier.members channel.id with
      | error error => exact .inr ⟨error, rfl, rfl⟩
      | ok members =>
        cases notifier.mayMentionChannel post.user channel.id with
        | error error => exact .inr ⟨error, rfl, rfl⟩
        | ok permitted => exact .inl ⟨memberCount, profiles, members, permitted, rfl, rfl⟩

theorem plan_of_misplaced (hchannel : post.channel ≠ channel.id) :
    (notifier.plan post channel thread).run = { value := .error (.validation (misplacedMessage post channel)) } := by
  unfold plan
  dsimp only
  rw [if_pos hchannel]
  rfl

/-- The plan does not depend on why a presence is not known. -/
theorem value_run_plan_congr {presence : Id → Except StoreError Presence}
    (hsame : ({ notifier with presence := presence } : Notifier).knownPresence = notifier.knownPresence) :
    (({ notifier with presence := presence } : Notifier).plan post channel thread).run.value =
      (notifier.plan post channel thread).run.value := by
  by_cases hchannel : post.channel = channel.id
  · have hsnapshot : ({ notifier with presence := presence } : Notifier).snapshotOf = notifier.snapshotOf := by
      funext channel memberCount profiles members
      rw [snapshotOf, snapshotOf, hsame]
    rw [value_run_plan _ post channel thread hchannel, value_run_plan _ post channel thread hchannel,
      value_run_snapshot, value_run_snapshot, hsnapshot]
    rfl
  · rw [plan_of_misplaced _ post channel thread hchannel, plan_of_misplaced _ post channel thread hchannel]

end

/-- Of recipients who are all different each is given one entry, at the end of what waits for them. -/
theorem pending_foldl_add (entry : Digest.Entry) (user : Id) {recipients : List Recipient}
    (hdistinct : recipients.Pairwise fun a b => a.user ≠ b.user) (queues : Digest.Queues) :
    (recipients.foldl (fun queues recipient => queues.add recipient.user entry) queues).pending user =
      queues.pending user ++ if ∃ recipient ∈ recipients, recipient.user = user then [entry] else [] := by
  induction recipients generalizing queues with
  | nil => simp
  | cons first rest ih =>
    obtain ⟨hfirst, hrest⟩ := List.pairwise_cons.1 hdistinct
    rw [List.foldl_cons, ih hrest, Digest.Queues.pending_add]
    by_cases huser : first.user = user
    · have hnone : ¬ ∃ recipient ∈ rest, recipient.user = user := by
        rintro ⟨other, hother, hsame⟩
        exact hfirst other hother (huser.trans hsame.symm)
      simp [huser, hnone]
    · simp [huser]

theorem pending_queueEmails (queues : Digest.Queues) {plan : Plan} (post : Post) (team : String) (user : Id)
    (hdistinct : plan.recipients.Pairwise fun a b => a.user ≠ b.user) :
    (queueEmails queues plan post team).pending user = queues.pending user ++
      if ∃ recipient ∈ plan.recipients, recipient.user = user ∧ recipient.email = true then
        [{ post := post, team := team }] else [] := by
  rw [queueEmails, pending_foldl_add _ _ (hdistinct.filter _)]
  have hemail : (∃ recipient ∈ plan.recipients.filter (·.email), recipient.user = user) ↔
      ∃ recipient ∈ plan.recipients, recipient.user = user ∧ recipient.email = true := by
    simp only [List.mem_filter, and_assoc, and_comm (a := _ = true)]
  simp only [hemail]

theorem pairwise_recipients_planFor (notifier : Notifier) (post : Post) (thread : Option Thread)
    (snapshot : Snapshot) (permitted : Bool) :
    (notifier.planFor post thread snapshot permitted).recipients.Pairwise fun a b => a.user ≠ b.user := by
  refine (pairwise_recipientsOf snapshot post _).imp ?_
  rintro a b hlt hsame
  rw [hsame] at hlt
  exact Nat.lt_irrefl _ hlt

theorem author_not_mem_planFor (notifier : Notifier) (post : Post) (thread : Option Thread)
    (snapshot : Snapshot) (permitted : Bool) :
    ∀ recipient ∈ (notifier.planFor post thread snapshot permitted).recipients, recipient.user ≠ post.user :=
  fun _ hrecipient => (mem_recipientsOf_iff.1 hrecipient).1

section

variable (notifier : Notifier) (queues : Digest.Queues) (post : Post) (channel : Channel) (team : String)
  (thread : Option Thread)

theorem notify_of_misplaced (hchannel : post.channel ≠ channel.id) :
    notifier.notify queues post channel team thread =
      { value := (.error (.validation (misplacedMessage post channel)), queues) } := by
  unfold notify
  rw [plan_of_misplaced notifier post channel thread hchannel]
  rfl

theorem value_notify : (notifier.notify queues post channel team thread).value =
    match (notifier.plan post channel thread).run.value with
    | .ok plan => (.ok plan, queueEmails queues plan post team)
    | .error error => (.error error, queues) := by
  have hvalue : (notifier.notify queues post channel team thread).value =
      (match (notifier.plan post channel thread).run.value with
        | .ok plan => pure (.ok plan, queueEmails queues plan post team)
        | .error error => pure (.error error, queues) : Logged (Except ServiceError Plan × Digest.Queues)).value := rfl
  rw [hvalue]
  cases (notifier.plan post channel thread).run.value with
  | ok plan => rfl
  | error error => rfl

theorem value_notify_of_failure (hchannel : post.channel = channel.id) {error : StoreError}
    (herror : (notifier.essentialFailures post channel).head? = some error) :
    (notifier.notify queues post channel team thread).value = (.error (.store error), queues) := by
  rcases notifier.value_run_plan_cases post channel thread hchannel with
    ⟨memberCount, profiles, members, permitted, hnone, -⟩ | ⟨first, hfirst, hplan⟩
  · rw [hnone] at herror
    cases herror
  · rw [hfirst] at herror
    cases herror
    rw [value_notify, hplan]

theorem value_notify_of_answered (hchannel : post.channel = channel.id)
    (hanswered : notifier.essentialFailures post channel = []) :
    ∃ snapshot permitted, (notifier.notify queues post channel team thread).value =
      (.ok (notifier.planFor post thread snapshot permitted),
        queueEmails queues (notifier.planFor post thread snapshot permitted) post team) := by
  rcases notifier.value_run_plan_cases post channel thread hchannel with
    ⟨memberCount, profiles, members, permitted, -, hplan⟩ | ⟨error, herror, -⟩
  · exact ⟨_, _, by rw [value_notify, hplan]⟩
  · rw [hanswered] at herror
    cases herror

/-- A question after a presence that fails counts like the answer that the user is offline. -/
theorem value_notify_congr {presence : Id → Except StoreError Presence}
    (hpresence : ∀ user, presence user = notifier.presence user ∨
      (∃ error, notifier.presence user = .error error) ∧ presence user = .ok .offline) :
    (({ notifier with presence := presence } : Notifier).notify queues post channel team thread).value =
      (notifier.notify queues post channel team thread).value := by
  have hknown : ({ notifier with presence := presence } : Notifier).knownPresence = notifier.knownPresence := by
    funext user
    change (presence user).toOption.getD .offline = (notifier.presence user).toOption.getD .offline
    rcases hpresence user with hsame | ⟨⟨error, herror⟩, hoffline⟩
    · rw [hsame]
    · rw [herror, hoffline]
      rfl
  rw [value_notify, value_notify, value_run_plan_congr notifier post channel thread hknown]

end

/-- Notification happens as a whole or not at all. It fails exactly if the post is brought to the wrong
channel, and then nobody is asked, or if one of the four answers is missing without which there is no plan,
and then with the first of these failures; nothing is queued. Otherwise it comes to a plan, whatever the
other collaborators answer, and a question after a presence that fails counts like the answer that the user
is offline. Everyone whom the plan sends an email gets one entry at the end of the queue, and nothing else
is queued; the author gets none. -/
theorem notify_all_or_nothing (notifier : Notifier) (queues : Digest.Queues) (post : Post) (channel : Channel)
    (team : String) (thread : Option Thread) :
    let outcome := notifier.notify queues post channel team thread
    ((∃ error, outcome.value.1 = .error error) ↔
      post.channel ≠ channel.id ∨ notifier.essentialFailures post channel ≠ []) ∧
    (post.channel ≠ channel.id →
      outcome.value = (.error (.validation (misplacedMessage post channel)), queues) ∧ outcome.questions = []) ∧
    (post.channel = channel.id → ∀ error, (notifier.essentialFailures post channel).head? = some error →
      outcome.value = (.error (.store error), queues)) ∧
    (∀ plan, outcome.value.1 = .ok plan →
      (∀ user, outcome.value.2.pending user = queues.pending user ++
        if ∃ recipient ∈ plan.recipients, recipient.user = user ∧ recipient.email = true then
          [{ post := post, team := team }] else []) ∧
      outcome.value.2.pending post.user = queues.pending post.user) ∧
    ∀ presence : Id → Except StoreError Presence,
      (∀ user, presence user = notifier.presence user ∨
        (∃ error, notifier.presence user = .error error) ∧ presence user = .ok .offline) →
      (({ notifier with presence := presence } : Notifier).notify queues post channel team thread).value =
        outcome.value := by
  intro outcome
  have hmisplaced (hchannel : post.channel ≠ channel.id) : outcome = _ :=
    notify_of_misplaced notifier queues post channel team thread hchannel
  have hfailure (hchannel : post.channel = channel.id) (error : StoreError)
      (herror : (notifier.essentialFailures post channel).head? = some error) : outcome.value = _ :=
    value_notify_of_failure notifier queues post channel team thread hchannel herror
  have hanswered (hchannel : post.channel = channel.id) (hnone : notifier.essentialFailures post channel = []) :=
    value_notify_of_answered notifier queues post channel team thread hchannel hnone
  have hfails : (∃ error, outcome.value.1 = .error error) ↔
      post.channel ≠ channel.id ∨ notifier.essentialFailures post channel ≠ [] := by
    by_cases hchannel : post.channel = channel.id
    · cases hfailures : notifier.essentialFailures post channel with
      | nil =>
        obtain ⟨snapshot, permitted, hvalue⟩ := hanswered hchannel hfailures
        have hok : outcome.value.1 = .ok _ := congrArg Prod.fst hvalue
        simp [hok, hchannel]
      | cons first rest =>
        have herror := hfailure hchannel first (congrArg List.head? hfailures)
        simp [herror]
    · simp [hmisplaced hchannel, hchannel]
  refine ⟨hfails, fun hchannel => ?_, hfailure, ?_, ?_⟩
  · rw [hmisplaced hchannel]
    exact ⟨rfl, rfl⟩
  · intro plan hok
    have hnot : ¬ ∃ error, outcome.value.1 = .error error := by
      rintro ⟨error, herror⟩
      rw [hok] at herror
      cases herror
    obtain ⟨hchannel, hnone⟩ := not_or.1 (mt hfails.2 hnot)
    obtain ⟨snapshot, permitted, hvalue⟩ := hanswered (Classical.not_not.1 hchannel) (Classical.not_not.1 hnone)
    have hvalue : outcome.value = _ := hvalue
    rw [hvalue] at hok
    cases hok
    have hpending (user : Id) := pending_queueEmails queues post team user
      (pairwise_recipients_planFor notifier post thread snapshot permitted)
    rw [hvalue]
    refine ⟨hpending, (hpending post.user).trans ?_⟩
    have hauthor := author_not_mem_planFor notifier post thread snapshot permitted
    rw [if_neg, List.append_nil]
    rintro ⟨recipient, hrecipient, hsame, -⟩
    exact hauthor recipient hrecipient hsame
  · exact fun presence => value_notify_congr notifier queues post channel team thread

end Notifier

end ChatNotify
