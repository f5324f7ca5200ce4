import ChatNotify.Settings.Basic

namespace ChatNotify

/-- Why the program does not start. -/
inductive StartupError where
  | configuration (fault : Settings.Fault)
  /-- Where log lines go has been settled before, which is possible only once. -/
  | loggingSettled
  deriving Repr, DecidableEq

namespace StartupError

/-- The report of the error. -/
def message : StartupError → String
  | .configuration fault => "configuration error: " ++ fault.message
  | .loggingSettled =>
    "telemetry initialization failed: failed to install tracing subscriber: "
      ++ "a global default trace dispatcher has already been set"

end StartupError

end ChatNotify
