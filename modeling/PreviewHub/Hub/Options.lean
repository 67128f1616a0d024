import PreviewHub.Watch.Poller

/-! What a hub can be told when it is made. -/

namespace PreviewHub

/-- Durations are in milliseconds. -/
structure Options where
  pollInterval : Nat := defaultPollInterval
  responseTimeout : Nat := 1000
  maxPending : Nat := 100
  deriving DecidableEq, Repr, Inhabited

/-- The first fault of the options. The interval does not matter to a hub with its own watcher. -/
def Options.check (o : Options) (ownWatcher : Bool) : Except Error Unit :=
  if o.pollInterval = 0 ∧ ownWatcher = false then
    .error (.config "Poll interval must be greater than zero")
  else if o.responseTimeout = 0 then .error (.config "Response timeout must be greater than zero")
  else if o.maxPending = 0 then
    .error (.config "Maximum pending requests must be greater than zero")
  else .ok ()

end PreviewHub
