import ChatNotify.Proofs.Cluster.Network
import ChatNotify.Proofs.Time.Grammar

namespace ChatNotify

namespace BusyState

/-- The seconds of a message are the end of the period, rounded down. -/
theorem expires_bounds (time : LocalTime) :
    (ofExpiry (some time)).expires * nanosPerSecond ≤ time.instant.nanos ∧
      time.instant.nanos < ((ofExpiry (some time)).expires + 1) * nanosPerSecond := by
  rw [expires_ofExpiry_some]
  exact ⟨Int.ediv_mul_le _ (by decide), Int.lt_ediv_add_one_mul_self _ (by decide)⟩

/-- An end of a year that can be written is in the calendar, and so is the second in which it lies. -/
theorem isInCalendar_of_year {time : LocalTime} (hlow : 0 ≤ time.instant.date.year)
    (hhigh : time.instant.date.year ≤ 9999) : time.instant.isInCalendar = true ∧
      (⟨(ofExpiry (some time)).expires * nanosPerSecond⟩ : Instant).isInCalendar = true := by
  have hin : time.instant.isInCalendar = true := by
    rw [Instant.isInCalendar, Bool.and_eq_true, decide_eq_true_eq, decide_eq_true_eq]
    omega
  refine ⟨hin, ?_⟩
  rw [Instant.isInCalendar_iff] at hin ⊢
  have hbounds := expires_bounds time
  simp only [nanosPerDay, nanosPerSecond] at hin hbounds ⊢
  omega

/-- Without a text that can be read, a message tells the seconds. -/
theorem time?_of_unread {state : BusyState} (htext : LocalTime.ofText? state.expiresText = none)
    (hcalendar : (⟨state.expires * nanosPerSecond⟩ : Instant).isInCalendar = true) :
    state.time? = some { instant := ⟨state.expires * nanosPerSecond⟩ } := by
  rw [time?, htext]
  exact if_pos hcalendar

/-- Let a busy period end at a time in UTC whose year has at most four digits and is not below zero. Then the
message about it arrives as a state that is busy and tells the end to the nanosecond, in seconds rounded down
besides. Whatever text takes the place of the one in the message, the seconds are told, unless the text is one
of RFC 3339 up to the character between date and time, which may be any of ASCII. A node that receives the
message holds exactly the end, and would tell the same state as long as the end lies ahead. The message that
there is no busy period arrives as such, and leaves the receiver without one. -/
theorem ofExpiry_arrives {time : LocalTime} (hutc : time.offset = 0) (hlow : 0 ≤ time.instant.date.year)
    (hhigh : time.instant.date.year ≤ 9999) :
    let payload := (ofExpiry (some time)).encode
    (∃ state, decode? payload = some state ∧ state.busy = true ∧ state.time? = some time ∧
      (state.expires * nanosPerSecond ≤ time.instant.nanos ∧
        time.instant.nanos < (state.expires + 1) * nanosPerSecond) ∧
      (∀ text, ¬ LocalTime.IsTimestamp LocalTime.IsReadSeparator text →
        time? { state with expiresText := text } = some { instant := ⟨state.expires * nanosPerSecond⟩ }) ∧
      ∀ flag : BusyFlag, (flag.receive payload).flag.expiry = some time ∧
        ∀ now < time.instant, ((flag.receive payload).flag.expire now).flag.state = state) ∧
    ∃ idle, decode? (ofExpiry none).encode = some idle ∧ idle.busy = false ∧
      ∀ flag : BusyFlag, (flag.receive (ofExpiry none).encode).flag.expiry = none := by
  intro payload
  obtain ⟨hin, hinSeconds⟩ := isInCalendar_of_year hlow hhigh
  have hcalendar : BusyFlag.IsOfCalendar (some time) := by
    rintro _ ⟨⟩
    exact ⟨hutc, hin⟩
  have harrived : arrived (some time) = some time := by
    refine arrived_of_text? ?_
    rintro _ ⟨⟩
    exact LocalTime.isSome_text? hutc hlow hhigh
  refine ⟨⟨ofExpiry (some time), decode?_encode (isSignedWord_expires fun found hfound => (hcalendar found hfound).2),
    rfl, harrived, expires_bounds time, ?_, fun flag => ?_⟩, ofExpiry none, decode?_encode (by decide), rfl, ?_⟩
  · intro text htext
    have hunread : LocalTime.ofText? text = none :=
      Option.not_isSome_iff_eq_none.1 (mt (LocalTime.isSome_ofText?_iff text).1 htext)
    exact time?_of_unread hunread hinSeconds
  · have hreceived := BusyFlag.receive_encode flag hcalendar
    rw [harrived] at hreceived
    refine ⟨congrArg BusyFlag.expiry hreceived, fun now hnow => ?_⟩
    rw [hreceived, BusyFlag.expire_of_not_over]
    · rfl
    · rintro expiry ⟨⟩
      exact Instant.not_le.2 hnow
  · intro flag
    have hidle : BusyFlag.IsOfCalendar none := nofun
    rw [BusyFlag.receive_encode flag hidle]
    rfl

/-- A nanosecond before 1970 the second is the one before, and what arrives is the nanosecond. -/
theorem last_nanosecond_of_1969_arrives :
    let time : LocalTime := { instant := ⟨-1⟩ }
    time.offset = 0 ∧ 0 ≤ time.instant.date.year ∧ time.instant.date.year ≤ 9999 ∧
      ∃ state, decode? (ofExpiry (some time)).encode = some state ∧ state.time? = some time ∧ state.expires = -1 := by
  intro time
  have hlow : 0 ≤ time.instant.date.year := by decide
  have hhigh : time.instant.date.year ≤ 9999 := by decide
  obtain ⟨⟨state, hdecode, -, htime, hbounds, -⟩, -⟩ := ofExpiry_arrives (show time.offset = 0 from rfl) hlow hhigh
  refine ⟨rfl, hlow, hhigh, state, hdecode, htime, ?_⟩
  simp only [time, nanosPerSecond] at hbounds
  omega

/-- A text with an `x` between date and time is not one of RFC 3339, and is read all the same. -/
theorem text_with_other_separator_is_read :
    let time : LocalTime := { instant := ⟨5000000000 * nanosPerSecond⟩ }
    let text := "2100-01-01x00:00:00Z"
    time.offset = 0 ∧ 0 ≤ time.instant.date.year ∧ time.instant.date.year ≤ 9999 ∧
      ¬ LocalTime.IsTimestamp LocalTime.IsStandardSeparator text ∧
      ∃ state, decode? (ofExpiry (some time)).encode = some state ∧
        time? { state with expiresText := text } ≠ some { instant := ⟨state.expires * nanosPerSecond⟩ } := by
  intro time text
  refine ⟨rfl, by decide, by decide, fun htext => ?_, ofExpiry (some time), decode?_encode (by decide), ?_⟩
  · obtain ⟨separator, hseparator, hchar⟩ := htext.exists_separator
    obtain rfl : 'x' = separator := by simpa [text] using hchar
    simp [LocalTime.IsStandardSeparator] at hseparator
  · decide

end BusyState

end ChatNotify
