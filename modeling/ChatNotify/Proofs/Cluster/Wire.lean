import ChatNotify.Cluster.BusyState
import ChatNotify.Proofs.Json.RoundTrip
import ChatNotify.Proofs.Time.Timestamp

namespace ChatNotify.BusyState

theorem ofJson?_toJson {state : BusyState} (hword : isSignedWord state.expires = true) :
    ofJson? state.toJson = some state := by
  have hfields : state.toJson.record? ["busy", "expires", "expires_ts"] =
      some (Table.ofList [("busy", .bool state.busy), ("expires", .integer state.expires),
        ("expires_ts", .string state.expiresText)]) := by
    simp [toJson, Json.record?]
  have hexpires : Json.int? (.integer state.expires) = some state.expires := if_pos hword
  rw [ofJson?, hfields]
  simp [Json.required, Table.ofList, Table.get?_insert, Json.bool?, hexpires, Json.text?]

/-- A message arrives as it was sent. -/
theorem decode?_encode {state : BusyState} (hword : isSignedWord state.expires = true) :
    decode? state.encode = some state := by
  have hparse : Json.parse? state.encode = some state.toJson := Json.parse?_render rfl
  rw [decode?, hparse, Option.bind_some, ofJson?_toJson hword]

theorem expires_ofExpiry_some (time : LocalTime) :
    (ofExpiry (some time)).expires = time.instant.nanos / nanosPerSecond :=
  Int.fdiv_eq_ediv_of_nonneg _ (by decide)

/-- What has become of the end of a busy period when the message about it arrives. -/
def arrived (expiry : Option LocalTime) : Option LocalTime :=
  (ofExpiry expiry).expiry?

/-- An end that can be written arrives as it is. -/
theorem arrived_of_text? {expiry : Option LocalTime}
    (htext : ∀ time, expiry = some time → time.text?.isSome = true) : arrived expiry = expiry := by
  cases expiry with
  | none => rfl
  | some time =>
    obtain ⟨text, hwritten⟩ := Option.isSome_iff_exists.1 (htext time rfl)
    have hread : LocalTime.ofText? (ofExpiry (some time)).expiresText = some time := by
      change LocalTime.ofText? (time.text?.getD "") = some time
      rw [hwritten]
      exact LocalTime.ofText?_of_text? hwritten
    change (ofExpiry (some time)).time? = some time
    rw [time?, hread]

/-- No end arrives as a later one. -/
theorem arrived_le {time other : LocalTime} (harrived : arrived (some time) = some other) :
    other.instant ≤ time.instant := by
  cases htext : time.text? with
  | some text =>
    rw [arrived_of_text? fun found hfound => by cases hfound; rw [htext]; rfl] at harrived
    cases harrived
    exact Instant.le_refl _
  | none =>
    have hread : LocalTime.ofText? (ofExpiry (some time)).expiresText = none := by
      change LocalTime.ofText? (time.text?.getD "") = none
      rw [htext]
      rfl
    change (ofExpiry (some time)).time? = some other at harrived
    rw [time?, hread, expires_ofExpiry_some] at harrived
    obtain ⟨-, hother⟩ := Option.ite_none_right_eq_some.1 harrived
    cases hother
    exact Int.ediv_mul_le _ (by decide)

theorem isSignedWord_expires {expiry : Option LocalTime}
    (hcalendar : ∀ time, expiry = some time → time.instant.isInCalendar = true) :
    isSignedWord (ofExpiry expiry).expires = true := by
  cases expiry with
  | none => decide
  | some time =>
    have hbounds := (Instant.isInCalendar_iff time.instant).1 (hcalendar time rfl)
    rw [expires_ofExpiry_some]
    rw [isSignedWord, isWord, Bool.and_eq_true, decide_eq_true_eq, decide_eq_true_eq]
    simp only [nanosPerDay, nanosPerSecond, wordCount] at hbounds ⊢
    omega

end ChatNotify.BusyState
