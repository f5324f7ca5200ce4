import ChatNotify.Cache.Basic
import ChatNotify.Proofs.Text.Count
import ChatNotify.Settings.Basic
import ChatNotify.Time.Ticker

namespace ChatNotify

namespace LogLevel

/-- The text stands for the level: it is the name in any ASCII letter case, or the place in the order in decimal
digits, maybe behind a plus sign. No text at all stands for errors. -/
inductive IsWritten (level : LogLevel) (text : String) : Prop
  | name (hname : text.map Char.toLower = level.text)
  | place {sign digits : List Char} (htext : text.toList = sign ++ digits) (hsign : sign = [] ∨ sign = ['+'])
      (hne : digits ≠ []) (hdigits : ∀ c ∈ digits, c.isDigit = true)
      (hvalue : Nat.ofDigitChars 10 digits 0 = level.rank)
  | nothing (hempty : text = "") (herror : level = .error)

variable {level : LogLevel} {text : String}

theorem all_getElem?_eq_some_iff {place : Nat} : all[place]? = some level ↔ place = level.rank := by
  constructor
  · intro hplace
    have hlt : place < all.length := (List.getElem?_eq_some_iff.1 hplace).1
    have hall : ∀ place < all.length, all[place]?.all (fun level => level.rank = place) = true := by decide
    have hrank := hall place hlt
    rw [hplace] at hrank
    simpa [eq_comm] using hrank
  · rintro rfl
    exact all_getElem?_rank level

theorem ofName?_eq_some_iff : ofName? text = some level ↔ text.map Char.toLower = level.text := by
  constructor
  · intro hname
    simpa [eq_comm] using List.find?_some hname
  · intro hname
    rw [ofName?, hname]
    cases level <;> decide

/-- The name of a level is no number. -/
theorem count?_of_name (hname : text.map Char.toLower = level.text) : Text.count? text.toList = none := by
  rw [Option.eq_none_iff_forall_ne_some]
  intro value hcount
  obtain ⟨sign, digits, htext, -, hne, hdigits, -⟩ := Text.count?_eq_some_iff.1 hcount
  obtain ⟨c, hc⟩ := List.exists_mem_of_ne_nil digits hne
  have hsame : ∀ digit < 10, digit.digitChar.toLower = digit.digitChar := by decide
  obtain ⟨hlt, hdigit⟩ := Text.eq_digitChar_of_digit? (Text.digit?_of_isDigit (hdigits c hc))
  have hlower : c.toLower = c := by
    rw [hdigit]
    exact hsame _ hlt
  have hmem : c ∈ level.text.toList := by
    rw [← hname, String.toList_map, htext, ← hlower]
    exact List.mem_map_of_mem (List.mem_append_right sign hc)
  have hletters : level.text.toList.all (!·.isDigit) = true := by cases level <;> rfl
  have hletter := List.all_eq_true.1 hletters c hmem
  rw [hdigits c hc] at hletter
  cases hletter

theorem ofText?_eq_some_iff : ofText? text = some level ↔ level.IsWritten text := by
  rw [ofText?, Option.or_eq_some_iff, Option.bind_eq_some_iff]
  constructor
  · rintro (⟨place, hcount, hplace⟩ | ⟨-, hname⟩)
    · obtain ⟨sign, digits, htext, hsign, hne, hdigits, hvalue⟩ := Text.count?_eq_some_iff.1 hcount
      exact .place htext hsign hne hdigits (hvalue.trans (all_getElem?_eq_some_iff.1 hplace))
    · split at hname
      · next hempty => exact .nothing (by simpa using hempty) (Option.some.inj hname).symm
      · exact .name (ofName?_eq_some_iff.1 hname)
  · rintro (hname | ⟨htext, hsign, hne, hdigits, hvalue⟩ | ⟨rfl, rfl⟩)
    · have hnonempty : text ≠ "" := by
        rintro rfl
        have hlevel : level.text.toList ≠ [] := by cases level <;> decide
        rw [← hname, String.toList_map] at hlevel
        exact hlevel rfl
      refine .inr ⟨by rw [count?_of_name hname, Option.bind_none], ?_⟩
      rw [if_neg (by simpa using hnonempty)]
      exact ofName?_eq_some_iff.2 hname
    · exact .inl ⟨level.rank, Text.count?_eq_some_iff.2 ⟨_, _, htext, hsign, hne, hdigits, hvalue⟩,
        all_getElem?_rank level⟩
    · exact .inr ⟨by decide, rfl⟩

end LogLevel

namespace Settings

/-- The place of a setting in the order of the check. -/
def Key.place : Key → Nat
  | .logLevel => 0
  | .lastPostTimeLimit => 1
  | .postsLimit => 2
  | .fileInfoLimit => 3
  | .memberCountLimit => 4
  | .batchLimit => 5
  | .maxMembers => 6
  | .digestInterval => 7
  | .digestCadence => 8
  | .digestContent => 9
  | .longestBusy => 10
  | .watchPeriod => 11

namespace Draft

/-- What is demanded of a setting. Those that are missing have their defaults. -/
def Meets (draft : Draft) : Key → Prop
  | .logLevel => ∀ text, draft.logLevel = some text → ∃ level : LogLevel, level.IsWritten text
  | .lastPostTimeLimit => draft.cache.enabled = true → 0 < draft.cache.lastPostTimeLimit
  | .postsLimit => draft.cache.enabled = true → 0 < draft.cache.postsLimit
  | .fileInfoLimit => draft.cache.enabled = true → 0 < draft.cache.fileInfoLimit
  | .memberCountLimit => draft.cache.enabled = true → 0 < draft.cache.memberCountLimit
  | .batchLimit => draft.cache.enabled = true → 0 < draft.cache.batchLimit
  | .maxMembers => 0 < draft.maxMembers.getD 1000
  | .digestInterval => 0 < draft.digestInterval.getD (15 * 60)
  | .digestCadence => 0 < draft.digestCadence.getD 30
  | .digestContent => Text.trimmed (draft.digestContent.getD "full") ∈ ["full", "generic"]
  | .longestBusy => 0 < draft.longestBusy.getD (24 * 60 * 60) ∧
      draft.longestBusy.getD (24 * 60 * 60) ≤ 365 * 24 * 60 * 60
  | .watchPeriod => 0 < draft.watchPeriod.getD 60

/-- What is wrong with a setting that does not meet the demand. -/
def reasonFor (draft : Draft) : Key → Reason
  | .logLevel => .unknownLevel
  | .lastPostTimeLimit | .postsLimit | .fileInfoLimit | .memberCountLimit | .batchLimit => .zeroWhileCaching
  | .maxMembers | .digestInterval | .digestCadence | .watchPeriod => .zero
  | .digestContent => .unknownContent (Text.trimmed (draft.digestContent.getD "full"))
  | .longestBusy => if draft.longestBusy.getD (24 * 60 * 60) = 0 then .zero else .tooLong

/-- The fault is that of the first setting that does not meet the demand. -/
structure FirstFault (draft : Draft) (fault : Fault) : Prop where
  unmet : ¬ draft.Meets fault.key
  reason : fault.reason = draft.reasonFor fault.key
  first : ∀ key : Key, key.place < fault.key.place → draft.Meets key

/-- The settings have what the draft gives, and the defaults for what is missing. -/
structure Gives (draft : Draft) (settings : Settings) : Prop where
  logLevel : ∀ text, draft.logLevel = some text → settings.logLevel.IsWritten text
  defaultLevel : draft.logLevel = none → settings.logLevel = .info
  logsJson : settings.logsJson = draft.logsJson.getD false
  cache : settings.cache = draft.cache
  maxMembers : settings.maxMembers = draft.maxMembers.getD 1000
  digestInterval : settings.digestInterval = .ofSeconds (draft.digestInterval.getD (15 * 60))
  digestCadence : settings.digestCadence = .ofSeconds (draft.digestCadence.getD 30)
  digestContent : settings.digestContent.text = Text.trimmed (draft.digestContent.getD "full")
  watchPeriod : settings.watchPeriod = .ofSeconds (draft.watchPeriod.getD 60)
  longestBusy : settings.longestBusy = .ofSeconds (draft.longestBusy.getD (24 * 60 * 60))

/-- A part of the check looks at the settings from one place up to another. If it lets them pass then all of them
meet the demand, and what it makes of them is as it should be; else it reports the first that does not. -/
structure Judges {α : Type} (draft : Draft) (part : Except Fault α) (Q : α → Prop) (first last : Nat) : Prop where
  le : first ≤ last
  of_ok : ∀ value, part = .ok value →
    Q value ∧ ∀ key : Key, first ≤ key.place → key.place < last → draft.Meets key
  of_error : ∀ fault, part = .error fault →
    first ≤ fault.key.place ∧ fault.key.place < last ∧ ¬ draft.Meets fault.key ∧
      fault.reason = draft.reasonFor fault.key ∧
      ∀ key : Key, first ≤ key.place → key.place < fault.key.place → draft.Meets key

variable {α β : Type} {draft : Draft} {part : Except Fault α} {Q : α → Prop} {first middle last : Nat}

/-- Settings that are passed over meet the demand anyway. -/
theorem Judges.pure {value : α} (hle : first ≤ last) (hvalue : Q value)
    (hmeets : ∀ key : Key, first ≤ key.place → key.place < last → draft.Meets key) :
    draft.Judges (.ok value) Q first last where
  le := hle
  of_ok := by
    rintro _ ⟨⟩
    exact ⟨hvalue, hmeets⟩
  of_error := nofun

/-- What comes next looks at the settings that come next. -/
theorem Judges.bind {R : β → Prop} {next : α → Except Fault β} (hpart : draft.Judges part Q first middle)
    (hnext : ∀ value, Q value → draft.Judges (next value) R middle last) (hle : middle ≤ last) :
    draft.Judges (part >>= next) R first last where
  le := Nat.le_trans hpart.le hle
  of_ok := by
    intro value hvalue
    cases hpassed : part with
    | error fault =>
      rw [hpassed] at hvalue
      cases hvalue
    | ok before =>
      obtain ⟨hbefore, hmeets⟩ := hpart.of_ok before hpassed
      rw [hpassed] at hvalue
      obtain ⟨hresult, hrest⟩ := (hnext before hbefore).of_ok value hvalue
      refine ⟨hresult, fun key hfirst hlast => ?_⟩
      by_cases hkey : key.place < middle
      · exact hmeets key hfirst hkey
      · exact hrest key (Nat.le_of_not_lt hkey) hlast
  of_error := by
    intro fault hfault
    cases hpassed : part with
    | error earlier =>
      rw [hpassed] at hfault
      obtain rfl : earlier = fault := Except.error.inj hfault
      obtain ⟨hfirst, hmiddle, hunmet, hreason, hmeets⟩ := hpart.of_error earlier hpassed
      exact ⟨hfirst, Nat.lt_of_lt_of_le hmiddle hle, hunmet, hreason, hmeets⟩
    | ok before =>
      obtain ⟨hbefore, hmeets⟩ := hpart.of_ok before hpassed
      rw [hpassed] at hfault
      obtain ⟨hmiddle, hlast, hunmet, hreason, hrest⟩ := (hnext before hbefore).of_error fault hfault
      refine ⟨Nat.le_trans hpart.le hmiddle, hlast, hunmet, hreason, fun key hfirst hkey => ?_⟩
      by_cases hearly : key.place < middle
      · exact hmeets key hfirst hearly
      · exact hrest key (Nat.le_of_not_lt hearly) hkey

theorem Key.eq_of_place_eq {key other : Key} (hplace : key.place = other.place) : key = other := by
  cases key <;> cases other <;> simp [Key.place] at hplace ⊢

/-- One setting is looked at, and it meets the demand. -/
theorem Judges.passed (key : Key) {value : α} (hvalue : Q value) (hmeets : draft.Meets key) :
    draft.Judges (.ok value) Q key.place (key.place + 1) := by
  refine .pure (Nat.le_succ _) hvalue fun other hfirst hlast => ?_
  rw [Key.eq_of_place_eq (Nat.le_antisymm (Nat.le_of_lt_succ hlast) hfirst)]
  exact hmeets

/-- One setting is looked at and reported. -/
theorem Judges.reported (key : Key) {reason : Reason} (hunmet : ¬ draft.Meets key)
    (hreason : reason = draft.reasonFor key) :
    draft.Judges (.error ⟨key, reason⟩) Q key.place (key.place + 1) where
  le := Nat.le_succ _
  of_ok := nofun
  of_error := by
    rintro _ ⟨⟩
    exact ⟨Nat.le_refl _, Nat.lt_succ_self _, hunmet, hreason, fun other hfirst hlast =>
      absurd hlast (Nat.not_lt.2 hfirst)⟩

theorem judges_positive (key : Key) {value : Nat} {reason : Reason} (hmeets : draft.Meets key ↔ 0 < value)
    (hreason : value = 0 → reason = draft.reasonFor key) :
    draft.Judges (positive key value reason) (· = value) key.place (key.place + 1) := by
  unfold positive
  by_cases hzero : value = 0
  · rw [if_pos hzero]
    exact .reported key (fun hmet => absurd (hmeets.1 hmet) (by simp [hzero])) (hreason hzero)
  · rw [if_neg hzero]
    exact .passed key rfl (hmeets.2 (Nat.pos_of_ne_zero hzero))

theorem judges_checkLevel (draft : Draft) : draft.Judges draft.checkLevel (fun level =>
    (∀ text, draft.logLevel = some text → level.IsWritten text) ∧ (draft.logLevel = none → level = .info)) 0 1 := by
  unfold checkLevel
  cases htext : draft.logLevel with
  | none => exact .passed .logLevel ⟨nofun, fun _ => rfl⟩ fun text hsome => by simp [htext] at hsome
  | some text =>
    dsimp only
    cases hlevel : LogLevel.ofText? text with
    | none =>
      refine .reported .logLevel (fun hmeets => ?_) rfl
      obtain ⟨level, hwritten⟩ := hmeets text htext
      rw [LogLevel.ofText?_eq_some_iff.2 hwritten] at hlevel
      cases hlevel
    | some level =>
      have hwritten := LogLevel.ofText?_eq_some_iff.1 hlevel
      refine .passed .logLevel ⟨?_, nofun⟩ fun other hother => ⟨level, ?_⟩
      · rintro _ ⟨⟩
        exact hwritten
      · rw [htext, Option.some.injEq] at hother
        exact hother ▸ hwritten

theorem judges_checkCache (draft : Draft) : draft.Judges draft.checkCache (· = draft.cache) 1 6 := by
  unfold checkCache
  by_cases henabled : draft.cache.enabled = true
  · simp only [henabled, if_true]
    have hlimit {key : Key} {value : Nat} (hmeets : draft.Meets key = (draft.cache.enabled = true → 0 < value))
        (hreason : draft.reasonFor key = .zeroWhileCaching) :
        draft.Judges (positive key value .zeroWhileCaching) (· = value) key.place (key.place + 1) :=
      judges_positive key (by simp [hmeets, henabled]) fun _ => hreason.symm
    refine (hlimit rfl rfl).bind (fun _ _ => ?_) (by decide)
    refine (hlimit rfl rfl).bind (fun _ _ => ?_) (by decide)
    refine (hlimit rfl rfl).bind (fun _ _ => ?_) (by decide)
    refine (hlimit rfl rfl).bind (fun _ _ => ?_) (by decide)
    refine (hlimit rfl rfl).bind (fun _ _ => ?_) (by decide)
    exact .pure (by decide) rfl fun key hfirst hlast => absurd hlast (Nat.not_lt.2 hfirst)
  · rw [if_neg henabled]
    refine .pure (by decide) rfl fun key hfirst hlast => ?_
    cases key <;> simp [Key.place] at hfirst hlast <;> exact fun h => absurd h henabled

theorem content_ofText?_eq_some_iff {text : String} {content : Digest.Content} :
    Digest.Content.ofText? text = some content ↔ content.text = text := by
  unfold Digest.Content.ofText?
  split
  · cases content <;> simp [Digest.Content.text]
  · cases content <;> simp [Digest.Content.text]
  · next hfull hgeneric =>
    cases content
    · exact ⟨nofun, fun htext => absurd htext.symm hfull⟩
    · exact ⟨nofun, fun htext => absurd htext.symm hgeneric⟩

theorem meets_digestContent_iff {draft : Draft} : draft.Meets .digestContent ↔
    ∃ content : Digest.Content, content.text = Text.trimmed (draft.digestContent.getD "full") := by
  rw [Meets]
  constructor
  · intro hmem
    rw [List.mem_cons, List.mem_singleton] at hmem
    rcases hmem with hfull | hgeneric
    · exact ⟨.full, hfull.symm⟩
    · exact ⟨.generic, hgeneric.symm⟩
  · rintro ⟨content, hcontent⟩
    rw [← hcontent]
    cases content <;> decide

theorem judges_checkContent (draft : Draft) : draft.Judges draft.checkContent
    (fun content => content.text = Text.trimmed (draft.digestContent.getD "full")) 9 10 := by
  unfold checkContent
  cases htext : draft.digestContent with
  | none => exact .passed .digestContent (by decide) (meets_digestContent_iff.2 ⟨.full, by rw [htext]; decide⟩)
  | some text =>
    rw [Option.map_some, Option.getD_some]
    dsimp only
    cases hcontent : Digest.Content.ofText? (Text.trimmed text) with
    | none =>
      refine .reported .digestContent (fun hmeets => ?_) (by rw [reasonFor, htext, Option.getD_some])
      obtain ⟨content, hsame⟩ := meets_digestContent_iff.1 hmeets
      rw [htext, Option.getD_some] at hsame
      rw [content_ofText?_eq_some_iff.2 hsame] at hcontent
      cases hcontent
    | some content =>
      have hsame := content_ofText?_eq_some_iff.1 hcontent
      exact .passed .digestContent hsame
        (meets_digestContent_iff.2 ⟨content, by rw [htext, Option.getD_some, hsame]⟩)

theorem limit_lt_iff (seconds : Nat) : BusyFlag.limit < .ofSeconds seconds ↔ 365 * 24 * 60 * 60 < seconds := by
  change 365 * 24 * 60 * 60 * nanosPerSecond < seconds * nanosPerSecond ↔ _
  exact Nat.mul_lt_mul_right (by decide)

theorem ok_bind (value : α) (next : α → Except Fault β) : (Except.ok value >>= next) = next value := rfl

theorem checkLongestBusy_eq {draft : Draft} {seconds : Nat}
    (hseconds : draft.longestBusy.getD BusyFlag.defaultLongest.seconds = seconds) :
    draft.checkLongestBusy =
      if seconds = 0 then .error ⟨.longestBusy, .zero⟩
      else if 365 * 24 * 60 * 60 < seconds then .error ⟨.longestBusy, .tooLong⟩
      else .ok (.ofSeconds seconds) := by
  unfold checkLongestBusy positive
  rw [hseconds]
  by_cases hzero : seconds = 0
  · rw [if_pos hzero, if_pos hzero]
    rfl
  · rw [if_neg hzero, if_neg hzero, ok_bind]
    by_cases hlong : 365 * 24 * 60 * 60 < seconds
    · rw [if_pos hlong, if_pos ((limit_lt_iff seconds).2 hlong)]
    · rw [if_neg hlong, if_neg (mt (limit_lt_iff seconds).1 hlong)]
      rfl

theorem judges_checkLongestBusy (draft : Draft) : draft.Judges draft.checkLongestBusy
    (· = .ofSeconds (draft.longestBusy.getD (24 * 60 * 60))) 10 11 := by
  have hdefault : BusyFlag.defaultLongest.seconds = 24 * 60 * 60 := by decide
  obtain ⟨seconds, hseconds⟩ : ∃ seconds, draft.longestBusy.getD (24 * 60 * 60) = seconds := ⟨_, rfl⟩
  have hmeets : draft.Meets .longestBusy ↔ 0 < seconds ∧ seconds ≤ 365 * 24 * 60 * 60 := by rw [Meets, hseconds]
  have hreason : draft.reasonFor .longestBusy = if seconds = 0 then .zero else .tooLong := by
    rw [reasonFor, hseconds]
  rw [checkLongestBusy_eq (hdefault ▸ hseconds), hseconds]
  split
  · next hzero =>
    exact .reported .longestBusy (fun hmet => absurd hzero (Nat.ne_of_gt (hmeets.1 hmet).1))
      (by rw [hreason, if_pos hzero])
  · next hzero =>
    split
    · next hlong =>
      exact .reported .longestBusy (fun hmet => absurd hlong (Nat.not_lt.2 (hmeets.1 hmet).2))
        (by rw [hreason, if_neg hzero])
    · next hlong =>
      exact .passed .longestBusy rfl (hmeets.2 ⟨Nat.pos_of_ne_zero hzero, Nat.le_of_not_lt hlong⟩)

theorem judges_check (draft : Draft) : draft.Judges draft.check draft.Gives 0 12 := by
  have hinterval : Digest.standardInterval.seconds = 15 * 60 := by decide
  unfold check
  rw [hinterval]
  refine draft.judges_checkLevel.bind (fun level hlevel => ?_) (by decide)
  refine draft.judges_checkCache.bind (fun cache hcache => ?_) (by decide)
  refine (judges_positive .maxMembers Iff.rfl fun _ => rfl).bind (fun maxMembers hmaxMembers => ?_) (by decide)
  refine (judges_positive .digestInterval Iff.rfl fun _ => rfl).bind (fun interval hinterval => ?_) (by decide)
  refine (judges_positive .digestCadence Iff.rfl fun _ => rfl).bind (fun cadence hcadence => ?_) (by decide)
  refine draft.judges_checkContent.bind (fun content hcontent => ?_) (by decide)
  refine draft.judges_checkLongestBusy.bind (fun longest hlongest => ?_) (by decide)
  refine (judges_positive .watchPeriod Iff.rfl fun _ => rfl).bind (fun period hperiod => ?_) (by decide)
  refine .pure (by decide) ?_ fun key hfirst hlast => absurd hlast (Nat.not_lt.2 hfirst)
  exact
    { logLevel := hlevel.1
      defaultLevel := hlevel.2
      logsJson := rfl
      cache := hcache
      maxMembers := hmaxMembers
      digestInterval := congrArg Span.ofSeconds hinterval
      digestCadence := congrArg Span.ofSeconds hcadence
      digestContent := hcontent
      watchPeriod := congrArg Span.ofSeconds hperiod
      longestBusy := hlongest }

variable {settings : Settings} {fault : Fault}

theorem gives_of_check (hcheck : draft.check = .ok settings) : draft.Gives settings :=
  (draft.judges_check.of_ok settings hcheck).1

theorem place_lt (key : Key) : key.place < 12 := by
  cases key <;> decide

theorem check_eq_ok_iff_meets : (∃ settings, draft.check = .ok settings) ↔ ∀ key, draft.Meets key := by
  constructor
  · rintro ⟨settings, hcheck⟩ key
    exact (draft.judges_check.of_ok settings hcheck).2 key (Nat.zero_le _) (place_lt key)
  · intro hmeets
    cases hcheck : draft.check with
    | ok settings => exact ⟨settings, rfl⟩
    | error fault =>
      obtain ⟨-, -, hunmet, -⟩ := draft.judges_check.of_error fault hcheck
      exact absurd (hmeets fault.key) hunmet

theorem FirstFault.unique {other : Fault} (hfault : draft.FirstFault fault) (hother : draft.FirstFault other) :
    fault = other := by
  have hkey : fault.key = other.key := by
    apply Key.eq_of_place_eq
    refine Nat.le_antisymm (Nat.not_lt.1 fun hlt => ?_) (Nat.not_lt.1 fun hlt => ?_)
    · exact hother.unmet (hfault.first other.key hlt)
    · exact hfault.unmet (hother.first fault.key hlt)
  have hreason : fault.reason = other.reason := by rw [hfault.reason, hother.reason, hkey]
  cases fault
  cases other
  cases hkey
  cases hreason
  rfl

theorem check_eq_error_iff : draft.check = .error fault ↔ draft.FirstFault fault := by
  have hfirst {fault : Fault} (hcheck : draft.check = .error fault) : draft.FirstFault fault := by
    obtain ⟨-, -, hunmet, hreason, hmeets⟩ := draft.judges_check.of_error fault hcheck
    exact ⟨hunmet, hreason, fun key hlt => hmeets key (Nat.zero_le _) hlt⟩
  constructor
  · exact hfirst
  · intro hfault
    cases hcheck : draft.check with
    | ok settings => exact absurd (check_eq_ok_iff_meets.1 ⟨settings, hcheck⟩ fault.key) hfault.unmet
    | error other => rw [(hfirst hcheck).unique hfault]

/-- What uses the settings takes the values of the draft as they are: the shelves of the cache have room for as many
values, a batch is of as many events, a busy period may be as long, and the tasks in the background have a period. -/
structure UsedAsGiven (draft : Draft) (settings : Settings) : Prop where
  capacity : settings.cache.enabled = true → ∀ hooks space,
    ((Cache.create settings.cache hooks).shelves.shelf space).capacity = draft.cache.limit space
  batch : settings.cache.enabled = true → ∀ cache : Cache, cache.settings = settings.cache →
    cache.consumeBatch.2 = cache.queue.pending.take draft.cache.batchLimit
  longest : (BusyFlag.create settings.longestBusy).longest =
    .ofSeconds (draft.longestBusy.getD (24 * 60 * 60))
  cadence : (Ticker.mk settings.digestCadence).period.nanos ≠ 0
  watch : (Ticker.mk settings.watchPeriod).period.nanos ≠ 0

theorem capacity_eq {settings : Cache.Settings} {hooks : Cache.Hooks} (space : Cache.Namespace)
    (hlimit : 0 < settings.limit space) :
    ((Cache.create settings hooks).shelves.shelf space).capacity = settings.limit space := by
  have hcapacity : ((Cache.create settings hooks).shelves.shelf space).capacity = settings.capacity space := by
    cases space <;> rfl
  rw [hcapacity]
  exact Nat.max_eq_right hlimit

theorem events_consumeBatch (cache : Cache) :
    cache.consumeBatch.2 = cache.queue.pending.take cache.settings.batchSize := by
  unfold Cache.consumeBatch Cache.EventQueue.drain
  dsimp only
  split
  · next hempty => exact (List.isEmpty_iff.1 hempty).symm
  · rfl

theorem nanos_ofSeconds_ne_zero {seconds : Nat} (hpos : 0 < seconds) : (Span.ofSeconds seconds).nanos ≠ 0 :=
  Nat.ne_of_gt (Nat.mul_pos hpos (by decide))

theorem longest_create {seconds : Nat} (hle : seconds ≤ 365 * 24 * 60 * 60) :
    (BusyFlag.create (.ofSeconds seconds)).longest = .ofSeconds seconds := by
  have hlimit : Span.ofSeconds seconds ≤ BusyFlag.limit :=
    Nat.le_of_not_lt (mt (limit_lt_iff seconds).1 (Nat.not_lt.2 hle))
  exact if_pos hlimit

theorem usedAsGiven_of_check (hcheck : draft.check = .ok settings) : draft.UsedAsGiven settings := by
  have hmeets := check_eq_ok_iff_meets.1 ⟨settings, hcheck⟩
  have hgives := gives_of_check hcheck
  refine ⟨fun henabled hooks space => ?_, fun henabled cache hcache => ?_, ?_, ?_, ?_⟩
  · rw [hgives.cache] at henabled ⊢
    refine capacity_eq space ?_
    cases space with
    | lastPostTime => exact hmeets .lastPostTimeLimit henabled
    | posts => exact hmeets .postsLimit henabled
    | fileInfos => exact hmeets .fileInfoLimit henabled
    | memberCounts => exact hmeets .memberCountLimit henabled
  · rw [hgives.cache] at henabled hcache
    rw [events_consumeBatch, hcache]
    exact congrArg (cache.queue.pending.take ·) (Nat.max_eq_right (hmeets .batchLimit henabled))
  · rw [hgives.longestBusy]
    exact longest_create (hmeets .longestBusy).2
  · rw [hgives.digestCadence]
    exact nanos_ofSeconds_ne_zero (hmeets .digestCadence)
  · rw [hgives.watchPeriod]
    exact nanos_ofSeconds_ne_zero (hmeets .watchPeriod)

/-- A draft is accepted if every setting meets what is demanded of it, and the fault that is reported otherwise is
that of the first setting that does not. Accepted settings have the values of the draft, or the defaults, and are
used with these values. -/
theorem check_accepts_safe (draft : Draft) :
    ((∃ settings, draft.check = .ok settings) ↔ ∀ key, draft.Meets key) ∧
    (∀ fault, draft.check = .error fault ↔ draft.FirstFault fault) ∧
    ∀ settings, draft.check = .ok settings → draft.Gives settings ∧ draft.UsedAsGiven settings :=
  ⟨check_eq_ok_iff_meets, fun _ => check_eq_error_iff, fun _ hcheck =>
    ⟨gives_of_check hcheck, usedAsGiven_of_check hcheck⟩⟩

/-- The limits of a cache that is not enabled do not matter, and of two faults the first is reported. -/
example :
    Draft.check
        { cache := { enabled := false, postsLimit := 0 }, longestBusy := some (2 ^ 64 - 1), watchPeriod := some 0 } =
      .error ⟨.longestBusy, .tooLong⟩ := rfl

end Draft

end Settings

end ChatNotify
