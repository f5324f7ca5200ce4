import ChatNotify.Proofs.Mention.Kinds
import ChatNotify.Proofs.Log
import Mathlib.Data.List.Induction

namespace ChatNotify

/-- A change of mentions. -/
inductive Mentions.Change where
  | add (user : Id) (kind : MentionKind)
  | strip
  deriving Repr, DecidableEq

namespace MentionKind

/-- The kind is the last one of the highest tier. -/
def IsLastOfTop (kinds : List MentionKind) (kind : MentionKind) : Prop :=
  ∃ before after, kinds = before ++ kind :: after ∧ (∀ other ∈ before, other.tier ≤ kind.tier) ∧
    ∀ other ∈ after, other.tier < kind.tier

/-- The kind that is left of kinds added one after the other. -/
def leftOf (kinds : List MentionKind) : Option MentionKind :=
  kinds.foldl (fun before kind => some (kind.onto before)) none

variable {kinds : List MentionKind} {kind other : MentionKind}

theorem leftOf_concat (kinds : List MentionKind) (kind : MentionKind) :
    leftOf (kinds ++ [kind]) = some (kind.onto (leftOf kinds)) := by
  simp [leftOf]

theorem leftOf_eq_none_iff : leftOf kinds = none ↔ kinds = [] := by
  rcases List.eq_nil_or_concat kinds with rfl | ⟨kinds, kind, rfl⟩
  · exact ⟨fun _ => rfl, fun _ => rfl⟩
  · simp [leftOf_concat]

/-- A newer kind takes the place of the last one of the highest tier unless it is of lower tier. -/
theorem IsLastOfTop.concat (htop : IsLastOfTop kinds kind) (newer : MentionKind) :
    IsLastOfTop (kinds ++ [newer]) (newer.onto (some kind)) := by
  obtain ⟨before, after, rfl, hbefore, hafter⟩ := htop
  by_cases hlower : newer.tier < kind.tier
  · refine ⟨before, after ++ [newer], by simp [onto, hlower], ?_, ?_⟩
    · simpa [onto, hlower] using hbefore
    · simpa [onto, hlower, or_imp, forall_and] using hafter
  · have hle := Nat.le_of_not_lt hlower
    refine ⟨before ++ kind :: after, [], by simp [onto, hlower], ?_, by simp⟩
    simp only [onto, hlower, if_false, List.mem_append, List.mem_cons]
    rintro other (hother | rfl | hother)
    · exact Nat.le_trans (hbefore other hother) hle
    · exact hle
    · exact Nat.le_trans (Nat.le_of_lt (hafter other hother)) hle

theorem isLastOfTop_of_leftOf (hleft : leftOf kinds = some kind) : IsLastOfTop kinds kind := by
  induction kinds using List.reverseRecOn generalizing kind with
  | nil => cases hleft
  | append_singleton kinds newer ih =>
    rw [leftOf_concat, Option.some.injEq] at hleft
    subst hleft
    cases hbefore : leftOf kinds with
    | none =>
      rw [leftOf_eq_none_iff] at hbefore
      subst hbefore
      exact ⟨[], [], rfl, nofun, nofun⟩
    | some before => exact (ih hbefore).concat newer

/-- There is one last kind of the highest tier. -/
theorem IsLastOfTop.unique (hkind : IsLastOfTop kinds kind) (hother : IsLastOfTop kinds other) : kind = other := by
  obtain ⟨before, after, rfl, hbefore, hafter⟩ := hkind
  obtain ⟨front, back, hsplit, hfront, hback⟩ := hother
  -- Whichever stands first, the other one lies behind it, and so is of lower tier and of no lower tier.
  rcases List.append_eq_append_iff.1 hsplit with ⟨middle, rfl, hmiddle⟩ | ⟨middle, rfl, hmiddle⟩
  · cases middle with
    | nil => simpa using (List.cons.inj hmiddle).1
    | cons first middle =>
      obtain ⟨rfl, rfl⟩ := List.cons.inj hmiddle
      have hlow := hafter other (by simp)
      have hhigh := hfront kind (by simp)
      omega
  · cases middle with
    | nil => simpa using (List.cons.inj hmiddle).1.symm
    | cons first middle =>
      obtain ⟨rfl, rfl⟩ := List.cons.inj hmiddle
      have hlow := hback kind (by simp)
      have hhigh := hbefore other (by simp)
      omega

theorem leftOf_eq_some_iff : leftOf kinds = some kind ↔ IsLastOfTop kinds kind := by
  constructor
  · exact isLastOfTop_of_leftOf
  · intro htop
    cases hleft : leftOf kinds with
    | none =>
      obtain ⟨before, after, rfl, -⟩ := htop
      simp [leftOf_eq_none_iff] at hleft
    | some left => rw [(isLastOfTop_of_leftOf hleft).unique htop]

theorem tier_le_onto (kind before : MentionKind) : before.tier ≤ (kind.onto (some before)).tier := by
  by_cases hlower : kind.tier < before.tier
  · simp [onto, hlower]
  · simpa [onto, hlower] using Nat.not_lt.1 hlower

end MentionKind

namespace Mentions

/-- The mentions after a change. -/
def change (mentions : Mentions) : Change → Mentions
  | .add user kind => mentions.add user kind
  | .strip => mentions.strip

/-- The mentions after a history of changes. -/
def after (mentions : Mentions) (history : List Change) : Mentions :=
  history.foldl change mentions

/-- The kind that a change adds for a user. -/
def Change.kindFor? (user : Id) : Change → Option MentionKind
  | .add other kind => if other = user then some kind else none
  | .strip => none

/-- Holds of the changes that are no additions for other users. -/
def Change.concerns (user : Id) : Change → Bool
  | .add other _ => other = user
  | .strip => true

/-- The kinds that a history adds for a user, in order. -/
def added (user : Id) (history : List Change) : List MentionKind :=
  history.filterMap (Change.kindFor? user)

/-- At no withdrawal in the history has the user the kind that is withdrawn. -/
def Keeps (mentions : Mentions) (user : Id) (history : List Change) : Prop :=
  ∀ before later, history = before ++ .strip :: later → (mentions.after before).kind? user ≠ some .channel

/-- The kinds that count for a user after a history: those added since the last withdrawal at which the user had the
kind that is withdrawn. If there was none, these are all that were added, behind the kind at the start. -/
inductive Counts (mentions : Mentions) (user : Id) : List Change → List MentionKind → Prop
  | fromStart {history : List Change} (hkeeps : mentions.Keeps user history) :
      Counts mentions user history ((mentions.kind? user).toList ++ added user history)
  | fromStrip {before later : List Change} (hlost : (mentions.after before).kind? user = some .channel)
      (hkeeps : (mentions.after (before ++ [.strip])).Keeps user later) :
      Counts mentions user (before ++ .strip :: later) (added user later)

/-- The mentions tell the same of every user and of the whole, in whatever order they have the users. -/
structure Agrees (mentions other : Mentions) : Prop where
  kind? : ∀ user, mentions.kind? user = other.kind? user
  channel : mentions.channel = other.channel
  all : mentions.all = other.all
  here : mentions.here = other.here
  potential : mentions.potential = other.potential

variable {mentions other : Mentions} {user : Id} {history : List Change}

theorem after_append (mentions : Mentions) (history more : List Change) :
    mentions.after (history ++ more) = (mentions.after history).after more :=
  List.foldl_append

theorem after_concat (mentions : Mentions) (history : List Change) (change : Change) :
    mentions.after (history ++ [change]) = (mentions.after history).change change :=
  after_append mentions history [change]

/-- What a change does to a user's kind depends on that kind alone. -/
theorem kind?_change_congr (hsame : mentions.kind? user = other.kind? user) (change : Change) :
    (mentions.change change).kind? user = (other.change change).kind? user := by
  cases change with
  | add added kind => simp only [Mentions.change, kind?_add, hsame]
  | strip => simp only [Mentions.change, kind?_strip, hsame]

theorem kind?_change_of_not_concerns {change : Change} (hother : change.concerns user = false) :
    (mentions.change change).kind? user = mentions.kind? user := by
  cases change with
  | add added kind =>
    have hne : user ≠ added := fun h => by simp [Change.concerns, h] at hother
    rw [Mentions.change, kind?_add, if_neg hne]
  | strip => cases hother

theorem added_concat (user : Id) (history : List Change) (change : Change) :
    added user (history ++ [change]) = added user history ++ (change.kindFor? user).toList := by
  rw [added, List.filterMap_append, ← added]
  cases hkind : change.kindFor? user <;> simp [hkind]

theorem keeps_nil : mentions.Keeps user [] := by
  intro before later hsplit
  simp at hsplit

/-- The newest change is no withdrawal, or one at which the user has another kind. -/
theorem keeps_concat_iff {change : Change} : mentions.Keeps user (history ++ [change]) ↔
    mentions.Keeps user history ∧ (change = .strip → (mentions.after history).kind? user ≠ some .channel) := by
  constructor
  · refine fun hkeeps => ⟨?_, ?_⟩
    · rintro before later rfl
      exact hkeeps before (later ++ [change]) (by simp)
    · rintro rfl
      exact hkeeps history [] rfl
  · rintro ⟨hkeeps, hnewest⟩ before later hsplit
    rcases List.eq_nil_or_concat later with rfl | ⟨later, last, rfl⟩
    · obtain ⟨rfl, hlast⟩ := List.append_inj' hsplit rfl
      exact hnewest (List.cons.inj hlast).1
    · rw [List.concat_eq_append, ← List.cons_append, ← List.append_assoc] at hsplit
      exact hkeeps before later (List.append_inj' hsplit rfl).1

/-- Without a withdrawal of the user's kind, the kind at the start and those added are what counts. -/
theorem Keeps.kind?_after (hkeeps : mentions.Keeps user history) :
    (mentions.after history).kind? user =
      MentionKind.leftOf ((mentions.kind? user).toList ++ added user history) := by
  induction history using List.reverseRecOn with
  | nil => cases hkind : mentions.kind? user <;> simp [after, added, hkind, MentionKind.leftOf, MentionKind.onto]
  | append_singleton history change ih =>
    obtain ⟨hkeeps, hnewest⟩ := keeps_concat_iff.1 hkeeps
    have ih := ih hkeeps
    rw [after_concat, added_concat]
    cases change with
    | strip =>
      have hother := hnewest rfl
      rw [Mentions.change, kind?_strip, Change.kindFor?, Option.toList_none, List.append_nil, ← ih]
      cases hkind : (mentions.after history).kind? user with
      | none => rfl
      | some kind => simpa [hkind] using hother
    | add added kind =>
      rw [Mentions.change, kind?_add, Change.kindFor?]
      by_cases hsame : added = user
      · rw [if_pos hsame.symm, if_pos hsame, Option.toList_some, ← List.append_assoc, MentionKind.leftOf_concat, ih]
      · rw [if_neg (Ne.symm hsame), if_neg hsame, Option.toList_none, List.append_nil, ih]

/-- The kinds that count settle the user's kind. -/
theorem Counts.kind?_after {kinds : List MentionKind} (hcounts : mentions.Counts user history kinds) :
    (mentions.after history).kind? user = MentionKind.leftOf kinds := by
  cases hcounts with
  | fromStart hkeeps => exact hkeeps.kind?_after
  | @fromStrip before later hlost hkeeps =>
    have hnone : (mentions.after (before ++ [.strip])).kind? user = none := by
      rw [after_concat, change, kind?_strip, hlost]
      rfl
    rw [List.append_cons, after_append, hkeeps.kind?_after, hnone]
    rfl

theorem exists_counts (mentions : Mentions) (user : Id) (history : List Change) :
    ∃ kinds, mentions.Counts user history kinds := by
  induction history using List.reverseRecOn with
  | nil => exact ⟨_, .fromStart keeps_nil⟩
  | append_singleton history change ih =>
    by_cases hlost : change = .strip ∧ (mentions.after history).kind? user = some .channel
    · obtain ⟨rfl, hchannel⟩ := hlost
      exact ⟨_, .fromStrip hchannel keeps_nil⟩
    · have hnewest : change = .strip → (mentions.after history).kind? user ≠ some .channel :=
        fun hstrip hchannel => hlost ⟨hstrip, hchannel⟩
      obtain ⟨kinds, hcounts⟩ := ih
      cases hcounts with
      | fromStart hkeeps => exact ⟨_, .fromStart (keeps_concat_iff.2 ⟨hkeeps, hnewest⟩)⟩
      | @fromStrip before later hchannel hkeeps =>
        rw [List.append_cons, after_append] at hnewest
        rw [List.append_assoc, List.cons_append]
        exact ⟨_, .fromStrip hchannel (keeps_concat_iff.2 ⟨hkeeps, hnewest⟩)⟩

/-- The changes that concern a user are all that the user's kind depends on. -/
theorem kind?_after_filter_congr (hsame : mentions.kind? user = other.kind? user) (history : List Change) :
    (mentions.after (history.filter (Change.concerns user))).kind? user = (other.after history).kind? user := by
  induction history generalizing mentions other with
  | nil => exact hsame
  | cons change rest ih =>
    cases hconcerns : change.concerns user with
    | true =>
      rw [List.filter_cons_of_pos hconcerns]
      exact ih (kind?_change_congr hsame change)
    | false =>
      rw [List.filter_cons_of_neg (by simp [hconcerns])]
      exact ih (hsame.trans (kind?_change_of_not_concerns hconcerns).symm)

/-- Of the rest of the mentions a history takes back what addresses the whole channel, if it has a withdrawal. -/
theorem exists_after_eq (mentions : Mentions) (history : List Change) :
    ∃ kinds, mentions.after history =
      if .strip ∈ history then { mentions with kinds := kinds, channel := false, all := false, here := false }
      else { mentions with kinds := kinds } := by
  induction history generalizing mentions with
  | nil => exact ⟨mentions.kinds, rfl⟩
  | cons change rest ih =>
    obtain ⟨kinds, hkinds⟩ := ih (mentions.change change)
    refine ⟨kinds, hkinds.trans ?_⟩
    cases change with
    | strip => by_cases hstrip : Change.strip ∈ rest <;> simp [hstrip, Mentions.change, strip]
    | add user kind =>
      obtain ⟨others, hothers⟩ := mentions.exists_addAll_eq [user] kind
      replace hothers : mentions.change (.add user kind) = { mentions with kinds := others } := hothers
      by_cases hstrip : Change.strip ∈ rest <;> simp [hstrip, hothers]

/-- Histories that hold the same for each user alone leave the same. -/
theorem agrees_after (mentions : Mentions) {history others : List Change}
    (hsame : ∀ user, history.filter (Change.concerns user) = others.filter (Change.concerns user)) :
    (mentions.after history).Agrees (mentions.after others) := by
  have hstrip : Change.strip ∈ history ↔ Change.strip ∈ others := by
    have hmem (history : List Change) :
        Change.strip ∈ history ↔ Change.strip ∈ history.filter (Change.concerns default) := by
      simp [Change.concerns]
    rw [hmem history, hmem others, hsame]
  obtain ⟨kinds, hkinds⟩ := mentions.exists_after_eq history
  obtain ⟨otherKinds, hotherKinds⟩ := mentions.exists_after_eq others
  refine ⟨fun user => ?_, ?_, ?_, ?_, ?_⟩
  · rw [← kind?_after_filter_congr rfl history, hsame, kind?_after_filter_congr rfl others]
  all_goals
    rw [hkinds, hotherKinds]
    by_cases hwithdrawn : Change.strip ∈ others <;> simp [hstrip, hwithdrawn]

theorem agrees_after_swap (mentions : Mentions) {user other : Id} (hne : other ≠ user) (kind otherKind : MentionKind)
    (before later : List Change) :
    (mentions.after (before ++ .add user kind :: .add other otherKind :: later)).Agrees
      (mentions.after (before ++ .add other otherKind :: .add user kind :: later)) := by
  refine agrees_after mentions fun concerned => ?_
  rw [List.filter_append, List.filter_append]
  congr 1
  by_cases huser : user = concerned
  · subst huser
    simp [Change.concerns, hne]
  · simp [Change.concerns, List.filter_cons, huser]

/-- Without a withdrawal the tier of a user's kind does not become lower. -/
theorem exists_kind?_after_of_kind? (hkept : .strip ∉ history) {kind : MentionKind}
    (hkind : mentions.kind? user = some kind) :
    ∃ later, (mentions.after history).kind? user = some later ∧ kind.tier ≤ later.tier := by
  induction history generalizing mentions kind with
  | nil => exact ⟨kind, hkind, Nat.le_refl _⟩
  | cons change rest ih =>
    obtain ⟨hchange, hrest⟩ := List.ne_and_not_mem_of_not_mem_cons hkept
    cases change with
    | strip => exact absurd rfl hchange
    | add added newer =>
      have hadded : (mentions.change (.add added newer)).kind? user =
          if user = added then some (newer.onto (some kind)) else some kind := by
        rw [Mentions.change, kind?_add, hkind]
      by_cases hsame : user = added
      · rw [if_pos hsame] at hadded
        obtain ⟨later, hlater, hle⟩ := ih hrest hadded
        exact ⟨later, hlater, Nat.le_trans (newer.tier_le_onto kind) hle⟩
      · rw [if_neg hsame] at hadded
        exact ih hrest hadded

/-- After any history of additions and withdrawals there are kinds that count for a user, and the user's kind is the
last one of the highest tier among them; the user is not mentioned if there are none. Additions for other users do
not change it and may change places with those for the user, and as long as there is no withdrawal its tier does not
become lower. -/
theorem kind?_after_history (mentions : Mentions) (history : List Change) (user : Id) :
    (∃ kinds, mentions.Counts user history kinds) ∧
    (∀ kinds, mentions.Counts user history kinds →
      (∀ kind, (mentions.after history).kind? user = some kind ↔ MentionKind.IsLastOfTop kinds kind) ∧
      ((mentions.after history).kind? user = none ↔ kinds = [])) ∧
    (mentions.after (history.filter (Change.concerns user))).kind? user = (mentions.after history).kind? user ∧
    (∀ before later other kind otherKind, other ≠ user →
      history = before ++ .add user kind :: .add other otherKind :: later →
      (mentions.after history).Agrees
        (mentions.after (before ++ .add other otherKind :: .add user kind :: later))) ∧
    ∀ before middle later, history = before ++ middle ++ later → .strip ∉ middle →
      ∀ kind, (mentions.after before).kind? user = some kind →
        ∃ newer, (mentions.after (before ++ middle)).kind? user = some newer ∧ kind.tier ≤ newer.tier := by
  refine ⟨mentions.exists_counts user history, fun kinds hcounts => ?_, kind?_after_filter_congr rfl history, ?_, ?_⟩
  · rw [hcounts.kind?_after]
    exact ⟨fun kind => MentionKind.leftOf_eq_some_iff, MentionKind.leftOf_eq_none_iff⟩
  · rintro before later other kind otherKind hne rfl
    exact mentions.agrees_after_swap hne kind otherKind before later
  · intro before middle later _ hkept kind hkind
    rw [after_append]
    exact exists_kind?_after_of_kind? hkept hkind

/-- A withdrawal takes the user away who was last addressed with the channel, but not one who was last named. -/
example :
    let user : Id := ⟨2⟩
    (after {} [.add user .keyword, .add user .channel, .strip, .add user .comment]).kind? user = some .comment ∧
      (after {} [.add user .channel, .add user .keyword, .strip, .add user .comment]).kind? user = some .keyword := by
  decide

end Mentions

end ChatNotify
