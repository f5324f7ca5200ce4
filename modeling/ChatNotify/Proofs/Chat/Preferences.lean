import ChatNotify.Chat.Preferences

namespace ChatNotify

/-- The settings of a user that are one of a few values, with these values. -/
def UserPreferences.values : List (String × List String) :=
  [("email", ["true", "false"]), ("push", ["all", "mention", "none"]), ("push_status", ["online", "away", "offline"]),
    ("channel", ["true", "false"]), ("first_name", ["true", "false"]), ("comments", ["never", "root", "any"])]

/-- All settings of a user. The words that address the user are free. -/
def UserPreferences.keys : List String :=
  "mention_keys" :: values.map Prod.fst

/-- The settings for a channel, with their values. -/
def ChannelPreferences.values : List (String × List String) :=
  [("email", ["true", "false", "default"]), ("push", ["all", "mention", "none", "default"]),
    ("mark_unread", ["all", "mention"]), ("ignore_channel_mentions", ["on", "off", "default"])]

/-- All settings for a channel. -/
def ChannelPreferences.keys : List String :=
  values.map Prod.fst

/-- The setting is there, with a value that it cannot have. -/
def IsMalformed (values : List (String × List String)) (settings : Table String String) (key : String) : Prop :=
  ∃ allowed value, (key, allowed) ∈ values ∧ settings.get? key = some value ∧ value ∉ allowed

variable {settings other : Table String String} {key : String}

/-- What is said under keys that are not settings makes no difference. -/
theorem UserPreferences.read_congr (hkeys : ∀ key ∈ keys, settings.get? key = other.get? key) :
    read settings = read other := by
  simp only [keys, values, List.map_cons, List.map_nil, List.forall_mem_cons] at hkeys
  obtain ⟨hwords, hemail, hpush, hstatus, hchannel, hname, hcomments, -⟩ := hkeys
  simp only [read, hwords, hemail, hpush, hstatus, hchannel, hname, hcomments]

theorem ChannelPreferences.read_congr (hkeys : ∀ key ∈ keys, settings.get? key = other.get? key) :
    read settings = read other := by
  simp only [keys, values, List.map_cons, List.map_nil, List.forall_mem_cons] at hkeys
  obtain ⟨hemail, hpush, hunread, hignore, -⟩ := hkeys
  simp only [read, hemail, hpush, hunread, hignore]

/-- Mentions of the whole channel are compared with `true`, all other settings with what differs from the default. -/
theorem UserPreferences.read_of_isMalformed (hmalformed : IsMalformed values settings key) :
    read settings = if key = "channel" then { read (settings.erase key) with channelMentions := false }
      else read (settings.erase key) := by
  obtain ⟨allowed, value, hkey, hvalue, hnot⟩ := hmalformed
  simp only [values, List.mem_cons, Prod.mk.injEq, List.not_mem_nil, or_false] at hkey
  rcases hkey with ⟨rfl, rfl⟩ | ⟨rfl, rfl⟩ | ⟨rfl, rfl⟩ | ⟨rfl, rfl⟩ | ⟨rfl, rfl⟩ | ⟨rfl, rfl⟩
  -- The value is none of those that a setting is compared with, and the other settings are the same.
  all_goals
    simp only [List.mem_cons, List.not_mem_nil, or_false, not_or] at hnot
    simp [read, PushLevel.ofText?, Table.get?_erase, hvalue, hnot]

theorem ChannelPreferences.read_of_isMalformed (hmalformed : IsMalformed values settings key) :
    read settings = read (settings.erase key) := by
  obtain ⟨allowed, value, hkey, hvalue, hnot⟩ := hmalformed
  simp only [values, List.mem_cons, Prod.mk.injEq, List.not_mem_nil, or_false] at hkey
  rcases hkey with ⟨rfl, rfl⟩ | ⟨rfl, rfl⟩ | ⟨rfl, rfl⟩ | ⟨rfl, rfl⟩
  all_goals
    simp only [List.mem_cons, List.not_mem_nil, or_false, not_or] at hnot
    simp [read, PushLevel.ofText?, Table.get?_erase, hvalue, hnot]

/-- Without the setting a user is addressed by mentions of the whole channel. -/
theorem UserPreferences.channelMentions_read_erase (settings : Table String String) :
    (read (settings.erase "channel")).channelMentions = true := by
  simp [read, Table.get?_erase]

/-- A setting with a value that it cannot have counts as missing, in the preferences of a user for all settings but
mentions of the whole channel, and in those for a channel for all settings. Only the settings count. -/
theorem malformed_counts_as_missing_iff (settings : Table String String) :
    (∀ key, IsMalformed UserPreferences.values settings key →
      (UserPreferences.read settings = UserPreferences.read (settings.erase key) ↔ key ≠ "channel") ∧
      (key = "channel" → UserPreferences.read settings =
        { UserPreferences.read (settings.erase key) with channelMentions := false })) ∧
    (∀ key, IsMalformed ChannelPreferences.values settings key →
      ChannelPreferences.read settings = ChannelPreferences.read (settings.erase key)) ∧
    (∀ other, (∀ key ∈ UserPreferences.keys, settings.get? key = other.get? key) →
      UserPreferences.read settings = UserPreferences.read other) ∧
    ∀ other, (∀ key ∈ ChannelPreferences.keys, settings.get? key = other.get? key) →
      ChannelPreferences.read settings = ChannelPreferences.read other := by
  refine ⟨fun key hmalformed => ?_, fun _ => ChannelPreferences.read_of_isMalformed,
    fun _ => UserPreferences.read_congr, fun _ => ChannelPreferences.read_congr⟩
  rw [UserPreferences.read_of_isMalformed hmalformed]
  by_cases hkey : key = "channel"
  · subst hkey
    refine ⟨iff_of_false (fun hsame => ?_) (not_not_intro rfl), fun _ => if_pos rfl⟩
    have hmentions := congrArg UserPreferences.channelMentions hsame
    rw [if_pos rfl, UserPreferences.channelMentions_read_erase] at hmentions
    cases hmentions
  · rw [if_neg hkey]
    exact ⟨iff_of_true rfl hkey, fun hchannel => absurd hchannel hkey⟩

/-- `yes` is no value of either setting. Mails are sent nevertheless, but mentions of the whole channel are off, and
so they are not where the setting is missing. -/
theorem yes_is_true_for_mail_only :
    (UserPreferences.read (Table.insert ∅ "email" "yes")).email = true ∧
    (UserPreferences.read (Table.insert ∅ "channel" "yes")).channelMentions = false ∧
    (UserPreferences.read ∅).channelMentions = true ∧
    UserPreferences.read (Table.insert ∅ "channel" "yes") ≠
      UserPreferences.read ((Table.insert ∅ "channel" "yes").erase "channel") := by
  have hemail := ((malformed_counts_as_missing_iff (Table.insert ∅ "email" "yes")).1 "email"
    ⟨["true", "false"], "yes", by decide, by decide, by decide⟩).1.2 (by decide)
  have hchannel := (malformed_counts_as_missing_iff (Table.insert ∅ "channel" "yes")).1 "channel"
    ⟨["true", "false"], "yes", by decide, by decide, by decide⟩
  have hmissing := (malformed_counts_as_missing_iff ((Table.insert ∅ "email" "yes").erase "email")).2.2.1 ∅ (by decide)
  refine ⟨?_, ?_, by decide, fun hsame => hchannel.1.1 hsame rfl⟩
  · rw [hemail, hmissing]
    decide
  · rw [hchannel.2 rfl]

end ChatNotify
