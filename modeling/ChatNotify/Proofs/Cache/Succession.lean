import ChatNotify.Proofs.Cache.Line
import ChatNotify.Proofs.Log
import Mathlib.Data.List.Nodup

namespace ChatNotify

namespace Gate

variable {entered : Bool} {ticket : Ticket} {line : List Ticket}

/-- Who leaves from behind the head of the line leaves the head where it is. -/
theorem leave_ofLine_of_ne (hne : line.head? ≠ some ticket) :
    (ofLine entered line).leave ticket = ofLine entered (line.erase ticket) := by
  cases line with
  | nil => simp [ofLine, leave]
  | cons owner rest =>
    have howner : owner ≠ ticket := fun heq => hne (congrArg some heq)
    simp [ofLine, leave, howner]

theorem isDeserted_ofLine : (ofLine entered line).isDeserted = true ↔ line = [] := by
  cases line <;> simp [ofLine, isDeserted]

end Gate

namespace Cache.Gates

variable {κ : Type} [DecidableEq κ]

/-- Takes a request back, and leaves the gate where it is. -/
def release (gates : Gates κ) (key : κ) (ticket : Ticket) : Gates κ :=
  match gates.table.get? key with
  | none => gates
  | some gate => ⟨gates.table.insert key (gate.leave ticket)⟩

/-- Takes the gate of a key away if nobody wants it. -/
def sweep (gates : Gates κ) (key : κ) : Gates κ :=
  if (gates.table.get? key).any Gate.isDeserted then ⟨gates.table.erase key⟩ else gates

section

variable {gates : Gates κ} {key other : κ} {ticket : Ticket}

/-- Who has not entered leaves the gate where it is. -/
theorem leave_of_not_held (hheld : gates.isHeldBy key ticket = false) :
    gates.leave key ticket = gates.release key ticket := by
  unfold isHeldBy gate at hheld
  unfold leave release
  cases hget : gates.table.get? key with
  | none => rfl
  | some gate =>
    rw [hget, Option.getD_some] at hheld
    simp [hheld]

/-- A holder who leaves passes the gate on, and then takes it away if nobody wants it. -/
theorem leave_of_held (hheld : gates.isHeldBy key ticket = true) :
    gates.leave key ticket = (gates.release key ticket).sweep key := by
  have herase (table : Table κ Gate) (gate : Gate) : (table.insert key gate).erase key = table.erase key := by
    have hfilter := table.filter_insert (fun other => other ≠ key) key gate
    rwa [if_neg (by simp)] at hfilter
  unfold isHeldBy gate at hheld
  unfold leave release sweep
  cases hget : gates.table.get? key with
  | none =>
    rw [hget] at hheld
    cases hheld
  | some gate =>
    rw [hget, Option.getD_some] at hheld
    simp [hheld, Table.get?_insert, herase]

theorem gate_release : (gates.release key ticket).gate key = (gates.gate key).leave ticket := by
  unfold release gate
  cases hget : gates.table.get? key with
  | none => simp [hget, Gate.leave]
  | some gate => simp [Table.get?_insert]

theorem get?_release_eq_none_iff : (gates.release key ticket).table.get? key = none ↔ gates.table.get? key = none := by
  unfold release
  cases hget : gates.table.get? key with
  | none => simp [hget]
  | some gate => simp [Table.get?_insert]

theorem get?_release_of_ne (gates : Gates κ) (hne : other ≠ key) (ticket : Ticket) :
    (gates.release other ticket).table.get? key = gates.table.get? key := by
  unfold release
  split
  · rfl
  · rw [Table.get?_insert, if_neg hne]

theorem get?_enter_eq_none_iff : (gates.enter key ticket).table.get? key = none ↔ gates.table.get? key = none := by
  unfold enter
  cases hget : gates.table.get? key with
  | none => simp [hget]
  | some gate => simp [Table.get?_insert]

section

variable {entered : Bool} {line : List Ticket}

/-- A gate that is not there is one that nobody wants. -/
theorem line_eq_nil_of_get?_eq_none (hgate : gates.gate key = .ofLine entered line)
    (hget : gates.table.get? key = none) : line = [] := by
  rw [gate, hget] at hgate
  have hdeserted : (Gate.ofLine entered line).isDeserted = true := by
    rw [← hgate]
    rfl
  exact Gate.isDeserted_ofLine.1 hdeserted

theorem any_isDeserted_iff (hgate : gates.gate key = .ofLine entered line) :
    (gates.table.get? key).any Gate.isDeserted = true ↔ line = [] ∧ gates.table.get? key ≠ none := by
  cases hget : gates.table.get? key with
  | none => simp
  | some found =>
    have hfound : found = .ofLine entered line := by rwa [gate, hget, Option.getD_some] at hgate
    simp [hfound, Gate.isDeserted_ofLine]

theorem gate_sweep (hgate : gates.gate key = .ofLine entered line) :
    (gates.sweep key).gate key = .ofLine entered line := by
  unfold sweep
  split
  · next hdeserted =>
    obtain ⟨rfl, -⟩ := (any_isDeserted_iff hgate).1 hdeserted
    rw [gate, Table.get?_erase, if_pos rfl]
    rfl
  · exact hgate

/-- Behind a sweep a gate is there exactly if somebody wants it. -/
theorem get?_sweep_eq_none_iff (hgate : gates.gate key = .ofLine entered line) :
    (gates.sweep key).table.get? key = none ↔ line = [] := by
  unfold sweep
  split
  · next hdeserted =>
    rw [Table.get?_erase, if_pos rfl]
    exact iff_of_true rfl ((any_isDeserted_iff hgate).1 hdeserted).1
  · next hwanted =>
    constructor
    · exact line_eq_nil_of_get?_eq_none hgate
    · exact fun hline => Classical.byContradiction fun hget => hwanted ((any_isDeserted_iff hgate).2 ⟨hline, hget⟩)

end

theorem get?_sweep_of_ne (gates : Gates κ) (hne : other ≠ key) :
    (gates.sweep other).table.get? key = gates.table.get? key := by
  unfold sweep
  split
  · rw [Table.get?_erase, if_neg hne.symm]
  · rfl

end

/-- Something that happens at the gates. -/
inductive Act (κ : Type) where
  /-- A request for the gate is made. -/
  | ask (key : κ) (ticket : Ticket)
  /-- A request is looked after, and comes in if it is its turn. -/
  | look (key : κ) (ticket : Ticket)
  /-- The holder lets the gate go. -/
  | release (key : κ) (ticket : Ticket)
  /-- A holder who has let the gate go sees whether anybody wants it. -/
  | sweep (key : κ)
  /-- A request that has not come in is given up. -/
  | giveUp (key : κ) (ticket : Ticket)
  deriving DecidableEq

namespace Act

/-- The key of the gate at which the act happens. -/
def key : Act κ → κ
  | .ask key _ | .look key _ | .release key _ | .sweep key | .giveUp key _ => key

/-- The request that the act is about. -/
def ticket? : Act κ → Option Ticket
  | .ask _ ticket | .look _ ticket | .release _ ticket | .giveUp _ ticket => some ticket
  | .sweep _ => none

/-- The request for the gate of the key that is made. -/
def asked? (key : κ) : Act κ → Option Ticket
  | .ask other ticket => if other = key then some ticket else none
  | _ => none

theorem asked?_of_ne {act : Act κ} {key : κ} (hne : act.key ≠ key) : act.asked? key = none := by
  cases act with
  | ask => exact if_neg hne
  | look | release | sweep | giveUp => rfl

/-- A holder of the gate lets it go. -/
def Releases (key : κ) (act : Act κ) : Prop :=
  ∃ ticket, act = .release key ticket

/-- A request for the gate is given up. -/
def GivesUp (key : κ) (act : Act κ) : Prop :=
  ∃ ticket, act = .giveUp key ticket

/-- Somebody wants the gate no longer. -/
def Ends (key : κ) (act : Act κ) : Prop :=
  act.Releases key ∨ act.GivesUp key

end Act

/-- The requests for the gate of a key, in the order in which they were made. -/
def asked (history : List (Act κ)) (key : κ) : List Ticket :=
  history.filterMap (Act.asked? key)

/-- The request has held the gate and let it go, or was given up. -/
def IsGone (history : List (Act κ)) (key : κ) (ticket : Ticket) : Prop :=
  .release key ticket ∈ history ∨ .giveUp key ticket ∈ history

instance (history : List (Act κ)) (key : κ) (ticket : Ticket) : Decidable (IsGone history key ticket) :=
  inferInstanceAs (Decidable (_ ∨ _))

/-- Those who hold the gate or wait for it, in the order in which they asked. -/
def line (history : List (Act κ)) (key : κ) : List Ticket :=
  (asked history key).filter fun ticket => ¬ IsGone history key ticket

/-- The request has come in: it was made when nobody wanted the gate, or was looked after when it was the first. -/
def CameIn (history : List (Act κ)) (key : κ) (ticket : Ticket) : Prop :=
  ∃ before act after, history = before ++ act :: after ∧
    (act = .ask key ticket ∧ line before key = [] ∨ act = .look key ticket ∧ (line before key).head? = some ticket)

/-- The request has come in and has not let the gate go. -/
def Holds (history : List (Act κ)) (key : κ) (ticket : Ticket) : Prop :=
  CameIn history key ticket ∧ ¬ IsGone history key ticket

/-- Since an act of the kind no holder has seen whether anybody wants the gate. -/
def IsUnswept (P : Act κ → Prop) (history : List (Act κ)) (key : κ) : Prop :=
  ∃ before act after, history = before ++ act :: after ∧ P act ∧ ∀ later ∈ after, later ≠ .sweep key

/-- Nobody wants the gate, but a request for it was given up and no holder has left since. -/
def IsForsaken (history : List (Act κ)) (key : κ) : Prop :=
  line history key = [] ∧ IsUnswept (Act.GivesUp key) history key

/-- The histories of gates that nobody has asked for at first, with the gates that they lead to and the keys whose
gates holders have let go without having seen yet whether anybody wants them. -/
inductive Runs : List (Act κ) → Gates κ → List κ → Prop
  | start : Runs [] {} []
  | ask {history : List (Act κ)} {gates : Gates κ} {leaving : List κ} (hruns : Runs history gates leaving) (key : κ)
      {ticket : Ticket} (hnew : ∀ act ∈ history, act.ticket? ≠ some ticket) :
      Runs (history ++ [.ask key ticket]) (gates.ask key ticket) leaving
  | look {history : List (Act κ)} {gates : Gates κ} {leaving : List κ} (hruns : Runs history gates leaving) {key : κ}
      {ticket : Ticket} (hwants : ticket ∈ line history key) :
      Runs (history ++ [.look key ticket]) (gates.enter key ticket) leaving
  | release {history : List (Act κ)} {gates : Gates κ} {leaving : List κ} (hruns : Runs history gates leaving)
      {key : κ} {ticket : Ticket} (hheld : gates.isHeldBy key ticket = true) :
      Runs (history ++ [.release key ticket]) (gates.release key ticket) (key :: leaving)
  | sweep {history : List (Act κ)} {gates : Gates κ} {leaving : List κ} (hruns : Runs history gates leaving) {key : κ}
      (hleaving : key ∈ leaving) : Runs (history ++ [.sweep key]) (gates.sweep key) (leaving.erase key)
  | giveUp {history : List (Act κ)} {gates : Gates κ} {leaving : List κ} (hruns : Runs history gates leaving) {key : κ}
      {ticket : Ticket} (hwants : ticket ∈ line history key) (hheld : gates.isHeldBy key ticket = false) :
      Runs (history ++ [.giveUp key ticket]) (gates.leave key ticket) leaving

section

variable {history : List (Act κ)} {act : Act κ} {gates : Gates κ} {leaving : List κ} {key other : κ} {ticket : Ticket}

/-- A holder who leaves lets the gate go and sees at once whether anybody wants it. -/
theorem Runs.leave (hruns : Runs history gates leaving) (hheld : gates.isHeldBy key ticket = true) :
    Runs (history ++ [.release key ticket, .sweep key]) (gates.leave key ticket) leaving := by
  have hswept := (hruns.release hheld).sweep (List.mem_cons_self : key ∈ key :: leaving)
  rwa [List.erase_cons_head, List.append_assoc, ← leave_of_held hheld] at hswept

theorem mem_asked_iff : ticket ∈ asked history key ↔ .ask key ticket ∈ history := by
  unfold asked
  rw [List.mem_filterMap]
  constructor
  · rintro ⟨act, hact, hasked⟩
    cases act with
    | ask other made =>
      by_cases hother : other = key
      · rw [Act.asked?, if_pos hother] at hasked
        cases hasked
        rwa [hother] at hact
      · rw [Act.asked?, if_neg hother] at hasked
        cases hasked
    | look | release | sweep | giveUp => cases hasked
  · exact fun hact => ⟨_, hact, if_pos rfl⟩

theorem mem_line_iff : ticket ∈ line history key ↔ .ask key ticket ∈ history ∧ ¬ IsGone history key ticket := by
  rw [line, List.mem_filter, mem_asked_iff, decide_eq_true_iff]

omit [DecidableEq κ] in
theorem isGone_concat_iff : IsGone (history ++ [act]) key ticket ↔
    IsGone history key ticket ∨ act = .release key ticket ∨ act = .giveUp key ticket := by
  simp only [IsGone, List.mem_append, List.mem_singleton, eq_comm (b := act)]
  tauto

theorem asked_concat : asked (history ++ [act]) key = asked history key ++ (act.asked? key).toList := by
  rw [asked, List.filterMap_append, asked]
  cases hasked : act.asked? key <;> simp [hasked]

theorem asked_concat_of_none (hasked : act.asked? key = none) : asked (history ++ [act]) key = asked history key := by
  rw [asked_concat, hasked, Option.toList_none, List.append_nil]

/-- What is no request and ends none leaves the line as it is. -/
theorem line_concat_of_idle (hasked : act.asked? key = none)
    (hends : ∀ ticket, act ≠ .release key ticket ∧ act ≠ .giveUp key ticket) :
    line (history ++ [act]) key = line history key := by
  have hgone (ticket : Ticket) : IsGone (history ++ [act]) key ticket ↔ IsGone history key ticket := by
    simp [isGone_concat_iff, hends ticket]
  simp only [line, asked_concat_of_none hasked, hgone]

/-- What happens at other gates leaves the line as it is. -/
theorem line_concat_of_ne (hne : act.key ≠ key) : line (history ++ [act]) key = line history key := by
  refine line_concat_of_idle (Act.asked?_of_ne hne) fun ticket => ⟨?_, ?_⟩
  · rintro rfl
    exact hne rfl
  · rintro rfl
    exact hne rfl

/-- Who makes a request comes last. -/
theorem line_concat_ask (hnew : ∀ act ∈ history, act.ticket? ≠ some ticket) :
    line (history ++ [.ask key ticket]) key = line history key ++ [ticket] := by
  have hgone (asker : Ticket) : IsGone (history ++ [.ask key ticket]) key asker ↔ IsGone history key asker := by
    simp [isGone_concat_iff]
  have hstays : ¬ IsGone history key ticket := fun hgone =>
    hgone.elim (fun hact => hnew _ hact rfl) (fun hact => hnew _ hact rfl)
  simp [line, asked_concat, hgone, Act.asked?, hstays]

/-- Who lets the gate go or gives up is not in the line any more. -/
theorem line_concat_of_ends (hends : act = .release key ticket ∨ act = .giveUp key ticket) :
    line (history ++ [act]) key = (line history key).filter (· ≠ ticket) := by
  have hasked : act.asked? key = none := by rcases hends with rfl | rfl <;> rfl
  have hgone (asker : Ticket) : IsGone (history ++ [act]) key asker ↔ IsGone history key asker ∨ asker = ticket := by
    rcases hends with rfl | rfl <;> simp [isGone_concat_iff, eq_comm]
  simp only [line, asked_concat_of_none hasked, hgone, List.filter_filter]
  refine List.filter_congr fun asker _ => ?_
  simp [and_comm]

theorem nodup_asked_concat_ask (hnodup : (asked history key).Nodup)
    (hnew : ∀ act ∈ history, act.ticket? ≠ some ticket) : (asked history key ++ [ticket]).Nodup := by
  refine List.nodup_append.2 ⟨hnodup, List.nodup_singleton _, fun asker hasker other hother => ?_⟩
  rw [List.mem_singleton.1 hother]
  rintro rfl
  exact hnew _ (mem_asked_iff.1 hasker) rfl

theorem cameIn_concat_iff : CameIn (history ++ [act]) key ticket ↔ CameIn history key ticket ∨
    act = .ask key ticket ∧ line history key = [] ∨
      act = .look key ticket ∧ (line history key).head? = some ticket := by
  unfold CameIn
  constructor
  · rintro ⟨before, entering, after, hsplit, henters⟩
    rcases List.eq_nil_or_concat after with rfl | ⟨after, last, rfl⟩
    · obtain ⟨rfl, hlast⟩ := List.append_inj' hsplit rfl
      obtain ⟨rfl, -⟩ := List.cons.inj hlast
      exact .inr henters
    · rw [List.concat_eq_append, ← List.cons_append, ← List.append_assoc] at hsplit
      obtain ⟨rfl, -⟩ := List.append_inj' hsplit rfl
      exact .inl ⟨before, entering, after, rfl, henters⟩
  · rintro (⟨before, entering, after, rfl, henters⟩ | henters)
    · exact ⟨before, entering, after ++ [act], by simp, henters⟩
    · exact ⟨history, act, [], rfl, henters⟩

/-- Only who has asked comes in. -/
theorem CameIn.asked (hcame : CameIn history key ticket) : .ask key ticket ∈ history := by
  obtain ⟨before, act, after, rfl, ⟨rfl, -⟩ | ⟨-, hfirst⟩⟩ := hcame
  · simp
  · have hwants := (mem_line_iff.1 (List.mem_of_head? hfirst)).1
    simp [hwants]

/-- Who holds the gate is in the line. -/
theorem Holds.mem_line (hholds : Holds history key ticket) : ticket ∈ line history key :=
  mem_line_iff.2 ⟨hholds.1.asked, hholds.2⟩

omit [DecidableEq κ] in
theorem isUnswept_concat_iff {P : Act κ → Prop} : IsUnswept P (history ++ [act]) key ↔
    P act ∨ IsUnswept P history key ∧ act ≠ .sweep key :=
  exists_last_concat_iff

theorem holds_concat_ask {asker : Ticket} (hnew : ∀ act ∈ history, act.ticket? ≠ some ticket) :
    Holds (history ++ [.ask key ticket]) key asker ↔
      Holds history key asker ∨ asker = ticket ∧ line history key = [] := by
  have hstays : ¬ IsGone history key ticket := fun hgone =>
    hgone.elim (fun hact => hnew _ hact rfl) (fun hact => hnew _ hact rfl)
  simp only [Holds, cameIn_concat_iff, isGone_concat_iff, Act.ask.injEq, true_and, reduceCtorEq, false_and, or_false]
  constructor
  · rintro ⟨hbefore | ⟨rfl, hempty⟩, hgone⟩
    · exact .inl ⟨hbefore, hgone⟩
    · exact .inr ⟨rfl, hempty⟩
  · rintro (⟨hbefore, hgone⟩ | ⟨rfl, hempty⟩)
    · exact ⟨.inl hbefore, hgone⟩
    · exact ⟨.inr ⟨rfl, hempty⟩, hstays⟩

theorem holds_concat_look {asker : Ticket} (hwants : ticket ∈ line history key) :
    Holds (history ++ [.look key ticket]) key asker ↔
      Holds history key asker ∨ asker = ticket ∧ (line history key).head? = some ticket := by
  simp only [Holds, cameIn_concat_iff, isGone_concat_iff, Act.look.injEq, true_and, reduceCtorEq, false_and, false_or,
    or_false]
  constructor
  · rintro ⟨hbefore | ⟨rfl, hfirst⟩, hgone⟩
    · exact .inl ⟨hbefore, hgone⟩
    · exact .inr ⟨rfl, hfirst⟩
  · rintro (⟨hbefore, hgone⟩ | ⟨rfl, hfirst⟩)
    · exact ⟨.inl hbefore, hgone⟩
    · exact ⟨.inr ⟨rfl, hfirst⟩, (mem_line_iff.1 hwants).2⟩

theorem holds_concat_sweep : Holds (history ++ [.sweep other]) key ticket ↔ Holds history key ticket := by
  simp [Holds, cameIn_concat_iff, isGone_concat_iff]

theorem holds_concat_of_ends {asker : Ticket} (hends : act = .release key ticket ∨ act = .giveUp key ticket) :
    Holds (history ++ [act]) key asker ↔ Holds history key asker ∧ asker ≠ ticket := by
  rcases hends with rfl | rfl <;>
    simp [Holds, cameIn_concat_iff, isGone_concat_iff, and_assoc, eq_comm (b := asker)]

/-- What a gate, and whether holders are leaving it, has to do with the history. -/
structure Tells (history : List (Act κ)) (gates : Gates κ) (leaving : List κ) (key : κ) : Prop where
  nodup : (asked history key).Nodup
  stands : ∃ entered, gates.gate key = .ofLine entered (line history key) ∧
    ∀ ticket, Holds history key ticket ↔ entered = true ∧ (line history key).head? = some ticket
  missing : gates.table.get? key = none ↔ line history key = [] ∧ ¬ IsUnswept (Act.Ends key) history key
  leaves : IsUnswept (Act.Releases key) history key → key ∈ leaving

namespace Tells

theorem nodup_line (htells : Tells history gates leaving key) : (line history key).Nodup :=
  htells.nodup.filter _

theorem isHeldBy_iff (htells : Tells history gates leaving key) :
    gates.isHeldBy key ticket = true ↔ Holds history key ticket := by
  obtain ⟨entered, hgate, hholds⟩ := htells.stands
  rw [isHeldBy, hgate, Gate.isHeldBy_ofLine, Bool.and_eq_true, decide_eq_true_iff, hholds]

/-- Who holds the gate is the first in the line. -/
theorem head?_eq (htells : Tells history gates leaving key) (hholds : Holds history key ticket) :
    (line history key).head? = some ticket := by
  obtain ⟨entered, -, hiff⟩ := htells.stands
  exact ((hiff ticket).1 hholds).2

theorem tells_nil : Tells [] ({} : Gates κ) [] key where
  nodup := List.nodup_nil
  stands := ⟨false, rfl, fun ticket => iff_of_false (fun hholds => by cases hholds.1.asked) (by simp)⟩
  missing := iff_of_true rfl ⟨rfl, fun ⟨_, _, _, hsplit, _⟩ => by simp at hsplit⟩
  leaves := fun ⟨_, _, _, hsplit, _⟩ => by simp at hsplit

theorem nodup_concat (htells : Tells history gates leaving key) (hasked : act.asked? key = none) :
    (asked (history ++ [act]) key).Nodup := by
  rw [asked_concat_of_none hasked]
  exact htells.nodup

theorem leaves_concat (htells : Tells history gates leaving key) (hact : ¬ act.Releases key)
    (hunswept : IsUnswept (Act.Releases key) (history ++ [act]) key) : key ∈ leaving := by
  rcases isUnswept_concat_iff.1 hunswept with hreleases | ⟨hbefore, -⟩
  · exact absurd hreleases hact
  · exact htells.leaves hbefore

/-- What happens at other gates changes nothing. -/
theorem concat_preserves_tells_of_ne (htells : Tells history gates leaving key) (act : Act κ) (hne : act.key ≠ key)
    {after : Gates κ} {later : List κ} (hget : after.table.get? key = gates.table.get? key)
    (hlater : key ∈ leaving → key ∈ later) :
    Tells (history ++ [act]) after later key := by
  have hacts : ∀ ticket, act ≠ .ask key ticket ∧ act ≠ .look key ticket ∧ act ≠ .release key ticket ∧
      act ≠ .giveUp key ticket := by
    refine fun ticket => ⟨?_, ?_, ?_, ?_⟩ <;> exact fun hact => hne (congrArg Act.key hact)
  have hsweep : act ≠ .sweep key := fun hact => hne (congrArg Act.key hact)
  have hline : line (history ++ [act]) key = line history key := line_concat_of_ne hne
  have hreleases : ¬ act.Releases key := fun ⟨ticket, hact⟩ => (hacts ticket).2.2.1 hact
  have hgivesUp : ¬ act.GivesUp key := fun ⟨ticket, hact⟩ => (hacts ticket).2.2.2 hact
  constructor
  · exact htells.nodup_concat (Act.asked?_of_ne hne)
  · obtain ⟨entered, hgate, hholds⟩ := htells.stands
    refine ⟨entered, ?_, fun ticket => ?_⟩
    · rw [gate, hget, hline]
      exact hgate
    · rw [hline, ← hholds, Holds, Holds, cameIn_concat_iff, isGone_concat_iff]
      simp [hacts ticket]
  · rw [hget, htells.missing, hline, isUnswept_concat_iff]
    simp [Act.Ends, hreleases, hgivesUp, hsweep]
  · exact fun hunswept => hlater (htells.leaves_concat hreleases hunswept)

/-- Who asks stands last, and comes in at once if nobody else wants the gate. -/
theorem ask_preserves_tells (htells : Tells history gates leaving key)
    (hnew : ∀ act ∈ history, act.ticket? ≠ some ticket) :
    Tells (history ++ [.ask key ticket]) (gates.ask key ticket) leaving key := by
  have hline : line (history ++ [.ask key ticket]) key = line history key ++ [ticket] := line_concat_ask hnew
  constructor
  · simpa [asked_concat, Act.asked?] using nodup_asked_concat_ask htells.nodup hnew
  · obtain ⟨entered, hgate, hholds⟩ := htells.stands
    refine ⟨entered || (line history key).isEmpty, ?_, fun asker => ?_⟩
    · rw [gate_ask, hgate, Gate.ask_ofLine, hline]
    · rw [holds_concat_ask hnew, hholds, hline]
      cases line history key with
      | nil => simp [eq_comm]
      | cons owner rest => simp
  · refine iff_of_false ?_ fun ⟨hempty, _⟩ => ?_
    · simp [Gates.ask, Table.get?_insert]
    · simp [hline] at hempty
  · exact htells.leaves_concat (by simp [Act.Releases])

/-- Who is looked after comes in if it is the first. -/
theorem look_preserves_tells (htells : Tells history gates leaving key) (hwants : ticket ∈ line history key) :
    Tells (history ++ [.look key ticket]) (gates.enter key ticket) leaving key := by
  have hline : line (history ++ [.look key ticket]) key = line history key :=
    line_concat_of_idle rfl fun _ => ⟨nofun, nofun⟩
  constructor
  · exact htells.nodup_concat rfl
  · obtain ⟨entered, hgate, hholds⟩ := htells.stands
    refine ⟨entered || (line history key).head? = some ticket, ?_, fun asker => ?_⟩
    · rw [gate_enter, hgate, Gate.enter_ofLine, hline]
    · rw [holds_concat_look hwants, hholds, hline, Bool.or_eq_true, decide_eq_true_iff, or_and_right]
      refine or_congr_right ⟨?_, ?_⟩
      · rintro ⟨rfl, hfirst⟩
        exact ⟨hfirst, hfirst⟩
      · rintro ⟨hfirst, hasker⟩
        exact ⟨Option.some.inj (hasker.symm.trans hfirst), hfirst⟩
  · rw [get?_enter_eq_none_iff, htells.missing, hline, isUnswept_concat_iff]
    simp [Act.Ends, Act.Releases, Act.GivesUp]
  · exact htells.leaves_concat (by simp [Act.Releases])

/-- Who wants the gate no longer leaves the line, and the next comes in only when it is looked after. -/
theorem release_preserves_tells (htells : Tells history gates leaving key)
    (hends : act = .release key ticket ∨ act = .giveUp key ticket)
    (hwants : ticket ∈ line history key) {later : List κ} (hleaves : act = .release key ticket → key ∈ later)
    (hlater : key ∈ leaving → key ∈ later) : Tells (history ++ [act]) (gates.release key ticket) later key := by
  have hline : line (history ++ [act]) key = (line history key).erase ticket := by
    rw [line_concat_of_ends hends, htells.nodup_line.erase_eq_filter]
    exact List.filter_congr fun asker _ => Bool.eq_iff_iff.2 (by simp)
  have hact : act.Ends key := hends.imp (⟨ticket, ·⟩) (⟨ticket, ·⟩)
  constructor
  · refine htells.nodup_concat ?_
    rcases hends with rfl | rfl <;> rfl
  · obtain ⟨entered, hgate, hholds⟩ := htells.stands
    simp only [gate_release, hgate, hline, holds_concat_of_ends hends, hholds]
    by_cases hfirst : (line history key).head? = some ticket
    · obtain ⟨rest, hrest⟩ := List.head?_eq_some_iff.1 hfirst
      refine ⟨false, ?_, fun asker => ?_⟩
      · rw [hrest, Gate.leave_ofLine_cons, List.erase_cons_head]
      · simp only [hfirst, Option.some.injEq, Bool.false_eq_true, false_and, iff_false]
        rintro ⟨⟨-, rfl⟩, hne⟩
        exact hne rfl
    · refine ⟨entered, Gate.leave_ofLine_of_ne hfirst, fun asker => ?_⟩
      cases hcons : line history key with
      | nil => simp
      | cons owner rest =>
        have hne : owner ≠ ticket := by simpa [hcons] using hfirst
        rw [List.erase_cons_tail (by simpa using hne)]
        simp only [List.head?_cons, Option.some.injEq, and_assoc]
        refine and_congr_right fun _ => and_iff_left_of_imp ?_
        rintro rfl
        exact hne
  · refine iff_of_false ?_ fun hmissing => hmissing.2 (isUnswept_concat_iff.2 (.inl hact))
    rw [get?_release_eq_none_iff, htells.missing]
    rintro ⟨hempty, -⟩
    simp [hempty] at hwants
  · rw [isUnswept_concat_iff]
    rintro (⟨other, rfl⟩ | ⟨hunswept, -⟩)
    · rcases hends with heq | heq
      · exact hleaves heq
      · cases heq
    · exact hlater (htells.leaves hunswept)

/-- Behind a sweep the gate is there exactly if somebody wants it. -/
theorem sweep_preserves_tells (htells : Tells history gates leaving key) :
    Tells (history ++ [.sweep key]) (gates.sweep key) (leaving.erase key) key := by
  have hline : line (history ++ [.sweep key]) key = line history key :=
    line_concat_of_idle rfl fun _ => ⟨nofun, nofun⟩
  have hswept {P : Act κ → Prop} (hnot : ¬ P (.sweep key)) : ¬ IsUnswept P (history ++ [.sweep key]) key := by
    rw [isUnswept_concat_iff]
    rintro (hact | ⟨-, hne⟩)
    · exact hnot hact
    · exact hne rfl
  obtain ⟨entered, hgate, hholds⟩ := htells.stands
  constructor
  · exact htells.nodup_concat rfl
  · refine ⟨entered, ?_, fun asker => ?_⟩
    · rw [gate_sweep hgate, hline]
    · rw [holds_concat_sweep, hholds, hline]
  · rw [get?_sweep_eq_none_iff hgate, hline]
    exact (and_iff_left (hswept (by simp [Act.Ends, Act.Releases, Act.GivesUp]))).symm
  · exact fun hunswept => absurd hunswept (hswept (by simp [Act.Releases]))

end Tells

/-- Along a run every gate tells of the history. -/
theorem Runs.tells (hruns : Runs history gates leaving) (key : κ) : Tells history gates leaving key := by
  induction hruns with
  | start => exact .tells_nil
  | ask _ other hnew ih =>
    rcases eq_or_ne other key with rfl | hne
    · exact ih.ask_preserves_tells hnew
    · exact ih.concat_preserves_tells_of_ne (.ask other _) hne (get?_ask_of_ne _ hne _) id
  | @look _ _ _ _ other _ hwants ih =>
    rcases eq_or_ne other key with rfl | hne
    · exact ih.look_preserves_tells hwants
    · exact ih.concat_preserves_tells_of_ne (.look other _) hne (get?_enter_of_ne _ hne _) id
  | @release _ _ _ _ other _ hheld ih =>
    rcases eq_or_ne other key with rfl | hne
    · exact ih.release_preserves_tells (.inl rfl) (ih.isHeldBy_iff.1 hheld).mem_line (fun _ => List.mem_cons_self)
        (List.mem_cons_of_mem _)
    · exact ih.concat_preserves_tells_of_ne (.release other _) hne (get?_release_of_ne _ hne _) (List.mem_cons_of_mem _)
  | @sweep _ _ _ _ other _ ih =>
    rcases eq_or_ne other key with rfl | hne
    · exact ih.sweep_preserves_tells
    · exact ih.concat_preserves_tells_of_ne (.sweep other) hne (get?_sweep_of_ne _ hne)
        (List.mem_erase_of_ne hne.symm).2
  | @giveUp _ _ _ _ other _ hwants hheld ih =>
    rcases eq_or_ne other key with rfl | hne
    · rw [leave_of_not_held hheld]
      exact ih.release_preserves_tells (.inr rfl) hwants nofun id
    · exact ih.concat_preserves_tells_of_ne (.giveUp other _) hne (get?_leave_of_ne _ hne _) id

namespace Tells

/-- Who asked before the holder is gone. -/
theorem isGone_of_before (htells : Tells history gates leaving key) {first second : Ticket}
    (hbefore : [first, second].Sublist (asked history key)) (hholds : Holds history key second) :
    IsGone history key first := by
  by_contra hstays
  have hline : [first, second].Sublist (line history key) := by
    have hkept := hbefore.filter fun ticket => ¬ IsGone history key ticket
    rwa [List.filter_eq_self.2 (by simp [hstays, hholds.2])] at hkept
  obtain ⟨rest, hrest⟩ := List.head?_eq_some_iff.1 (htells.head?_eq hholds)
  have hnodup := htells.nodup_line
  rw [hrest] at hline hnodup
  -- The holder is the first in the line, so behind nobody.
  exact (List.nodup_cons.1 hnodup).1 (List.singleton_sublist.1 hline.of_cons_cons)

/-- Who is looked after comes in exactly if it is the first in the line. -/
theorem isHeldBy_enter_iff (htells : Tells history gates leaving key) (hwants : ticket ∈ line history key) :
    (gates.enter key ticket).isHeldBy key ticket = true ↔ (line history key).head? = some ticket := by
  rw [(htells.look_preserves_tells hwants).isHeldBy_iff, holds_concat_look hwants]
  exact ⟨fun h => h.elim htells.head?_eq And.right, fun hfirst => .inr ⟨rfl, hfirst⟩⟩

/-- Who asks comes in at once exactly if nobody wants the gate. -/
theorem isHeldBy_ask_iff (htells : Tells history gates leaving key)
    (hnew : ∀ act ∈ history, act.ticket? ≠ some ticket) :
    (gates.ask key ticket).isHeldBy key ticket = true ↔ line history key = [] := by
  rw [(htells.ask_preserves_tells hnew).isHeldBy_iff, holds_concat_ask hnew]
  exact ⟨fun h => h.elim (fun hholds => absurd rfl (hnew _ hholds.1.asked)) And.right, fun hempty => .inr ⟨rfl, hempty⟩⟩

/-- When no holder is leaving, a gate is there if somebody wants it, and else if it is forsaken. -/
theorem mem_keys_iff (htells : Tells history gates [] key) :
    key ∈ gates.table.keys ↔ line history key ≠ [] ∨ IsForsaken history key := by
  have hunswept : IsUnswept (Act.Ends key) history key ↔ IsUnswept (Act.GivesUp key) history key := by
    constructor
    · rintro ⟨before, act, after, hsplit, hreleases | hgivesUp, hafter⟩
      · exact absurd (htells.leaves ⟨before, act, after, hsplit, hreleases, hafter⟩) List.not_mem_nil
      · exact ⟨before, act, after, hsplit, hgivesUp, hafter⟩
    · rintro ⟨before, act, after, hsplit, hgivesUp, hafter⟩
      exact ⟨before, act, after, hsplit, .inr hgivesUp, hafter⟩
  rw [← not_iff_not, ← Table.get?_eq_none_iff, htells.missing, hunswept, IsForsaken]
  tauto

end Tells

/-- What happens at other gates does not matter to a line. -/
theorem line_filter (history : List (Act κ)) (key : κ) :
    line (history.filter (·.key = key)) key = line history key := by
  have hasked : asked (history.filter (·.key = key)) key = asked history key := by
    rw [asked, List.filterMap_filter]
    refine List.filterMap_congr fun act _ => ?_
    split
    · rfl
    · next hne => exact (Act.asked?_of_ne (by simpa using hne)).symm
  have hgone (ticket : Ticket) : IsGone (history.filter (·.key = key)) key ticket ↔ IsGone history key ticket := by
    simp [IsGone, List.mem_filter, Act.key]
  simp only [line, hasked, hgone]

/-- However requests are made, come in, leave and are given up, one request at most holds each gate; the requests for
a gate come in in the order in which they are made, and one that is looked after waits for none but earlier requests
for the same gate. When no holder is leaving, the gates that are there are those that somebody wants, and those that
are forsaken. -/
theorem Runs.serves_in_order (hruns : Runs history gates leaving) :
    (∀ key ticket, gates.isHeldBy key ticket = true ↔ Holds history key ticket) ∧
    (∀ key ticket other, Holds history key ticket → Holds history key other → ticket = other) ∧
    (∀ key first second, [first, second].Sublist (asked history key) → Holds history key second →
      IsGone history key first) ∧
    (∀ key ticket, ticket ∈ line history key →
      ((gates.enter key ticket).isHeldBy key ticket = true ↔ (line history key).head? = some ticket)) ∧
    (∀ key ticket, (∀ act ∈ history, act.ticket? ≠ some ticket) →
      ((gates.ask key ticket).isHeldBy key ticket = true ↔ line history key = [])) ∧
    (∀ key, line (history.filter (·.key = key)) key = line history key) ∧
    (leaving = [] → (∀ key, key ∈ gates.table.keys ↔ line history key ≠ [] ∨ IsForsaken history key) ∧
      (gates.size = 0 ↔ ∀ key, line history key = [] ∧ ¬ IsForsaken history key)) := by
  refine ⟨fun key ticket => (hruns.tells key).isHeldBy_iff, fun key ticket other hholds hother => ?_,
    fun key first second => (hruns.tells key).isGone_of_before, fun key ticket => (hruns.tells key).isHeldBy_enter_iff,
    fun key ticket => (hruns.tells key).isHeldBy_ask_iff, line_filter history, ?_⟩
  · exact Option.some.inj (((hruns.tells key).head?_eq hholds).symm.trans ((hruns.tells key).head?_eq hother))
  · rintro rfl
    have hkeys (key : κ) := (hruns.tells key).mem_keys_iff
    refine ⟨hkeys, ?_⟩
    have hsize : gates.size = 0 ↔ ∀ key, key ∉ gates.table.keys := by
      rw [← List.eq_nil_iff_forall_not_mem, size, Table.size, Table.keys, List.map_eq_nil_iff, List.length_eq_zero_iff]
    rw [hsize]
    refine forall_congr' fun key => ?_
    rw [hkeys, not_or, not_ne_iff]

/-- A request that is given up when the gate has been passed on to it leaves behind a gate that nobody wants. -/
theorem gate_given_up_stays :
    let history : List (Act Unit) := [.ask () 0, .ask () 1, .release () 0, .sweep (), .giveUp () 1]
    ∃ gates, Runs history gates [] ∧ line history () = [] ∧ () ∈ gates.table.keys := by
  intro history
  have hfirst := Runs.start.ask () (show ∀ act ∈ ([] : List (Act Unit)), act.ticket? ≠ some 0 from nofun)
  have hsecond := hfirst.ask () (show ∀ act ∈ _, Act.ticket? act ≠ some 1 by decide)
  have hreleased := hsecond.release (show isHeldBy _ () 0 = true by decide)
  have hswept := hreleased.sweep (show () ∈ _ by decide)
  have hruns : Runs history _ [] := hswept.giveUp (show 1 ∈ line _ () by decide) (by decide)
  have hforsaken : IsForsaken history () :=
    ⟨by decide, [.ask () 0, .ask () 1, .release () 0, .sweep ()], .giveUp () 1, [], rfl, ⟨1, rfl⟩, nofun⟩
  obtain ⟨-, -, -, -, -, -, hgates⟩ := hruns.serves_in_order
  exact ⟨_, hruns, by decide, ((hgates rfl).1 ()).2 (.inr hforsaken)⟩

end

end Cache.Gates

end ChatNotify
