import PreviewHub.Bus.Notice

/-! The log. Each remark is a value of `Remark`; `Remark.line` alone knows how it is worded. -/

namespace PreviewHub

/-- The number of a subscription, in the order in which they were made. -/
abbrev SubscriptionId := Nat

def subscriptionText (id : SubscriptionId) : String := "sub-" ++ toString id

inductive Level where
  | trace
  | debug
  | info
  | warn
  deriving DecidableEq, Repr

inductive Remark where
  | windowRegistered (id : PreviewId) (windows : Nat)
  | windowKnown (id : PreviewId)
  | frameRegistered
  | frameReplaced
  | frameUnregistered
  | frameNotCurrent
  | frameMissing
  | requestRegistered (id : RequestId)
  | requestRefused (pending limit : Nat)
  | requestAbandoned (id : RequestId)
  | requestsRejected (count : Nat)
  | posted (origin : String) (bytes : Nat)
  | postedLocally (bytes : Nat)
  | watchStarted (interval : Nat)
  | watchStopped
  | watchImpossible
  | watchTargetGone
  | probing
  | subscribed (id : SubscriptionId)
  | unsubscribed (id : SubscriptionId)
  | subscriberPanicked (id : SubscriptionId) (kind : NoticeKind)
  | started (origin : String)
  | alreadyStarted
  | closingAll (windows : Nat)
  | goneWhileClosing (id : PreviewId) (error : String)
  | frameDetached
  | windowConnected (id : PreviewId) (connections : Nat)
  | connectionClosed (id : PreviewId) (connections : Nat)
  | unknownPreview (id : PreviewId)
  | postFailed (id : PreviewId) (error : String)
  | probeFailed (id : PreviewId) (error : String)
  | requestSent (id : RequestId) (targets : Nat)
  | requestTimedOut (id : RequestId) (timeout : Nat)
  | unreadable (error : String)
  | unknownSource
  | replyMatched (request : RequestId) (id : PreviewId)
  | droppedBeforeStart
  | listenerEnded
  deriving DecidableEq, Repr

structure LogLine where
  level : Level
  text : String
  fields : List (String × String) := []
  deriving DecidableEq, Repr

def Remark.line : Remark → LogLine
  | .windowRegistered id windows =>
    ⟨.debug, "Preview window registered", [("id", id.text), ("window_count", toString windows)]⟩
  | .windowKnown id =>
    ⟨.warn, "Preview window registered twice, keeping existing id", [("id", id.text)]⟩
  | .frameRegistered => ⟨.info, "Embedded game frame registered", []⟩
  | .frameReplaced => ⟨.warn, "Replacing a different embedded game frame without closing it", []⟩
  | .frameUnregistered => ⟨.info, "Embedded game frame unregistered", []⟩
  | .frameNotCurrent =>
    ⟨.warn, "Ignoring unregistration of an embedded frame that is not the current one", []⟩
  | .frameMissing =>
    ⟨.warn, "Ignoring unregistration of an embedded frame, none is registered", []⟩
  | .requestRegistered id =>
    ⟨.trace, "Pending request registered", [("message_id", toString id)]⟩
  | .requestRefused pending limit =>
    ⟨.warn, "Too many pending requests", [("pending", toString pending), ("max", toString limit)]⟩
  | .requestAbandoned id =>
    ⟨.trace, "Abandoned pending request removed", [("message_id", toString id)]⟩
  | .requestsRejected count => ⟨.debug, "Rejected pending requests", [("count", toString count)]⟩
  | .posted origin bytes =>
    ⟨.trace, "Message posted", [("origin", origin), ("len", toString bytes)]⟩
  | .postedLocally bytes =>
    ⟨.trace, "Message posted to local preview", [("len", toString bytes)]⟩
  | .watchStarted interval =>
    ⟨.debug, "Window watcher started", [("interval_ms", toString interval)]⟩
  | .watchStopped => ⟨.debug, "Window watcher stopped", []⟩
  | .watchImpossible =>
    ⟨.warn, "No tokio runtime, closed preview windows will not be detected", []⟩
  | .watchTargetGone => ⟨.debug, "Watch target dropped, stopping poll loop", []⟩
  | .probing => ⟨.trace, "Probing preview windows", []⟩
  | .subscribed id => ⟨.debug, "Callbacks registered", [("subscription", subscriptionText id)]⟩
  | .unsubscribed id => ⟨.debug, "Callbacks unregistered", [("subscription", subscriptionText id)]⟩
  | .subscriberPanicked id kind =>
    ⟨.warn, "Debugger callback panicked",
      [("subscription", subscriptionText id), ("event", kind.text)]⟩
  | .started origin => ⟨.info, "Debugger server started", [("origin", origin)]⟩
  | .alreadyStarted => ⟨.debug, "Debugger server already started", []⟩
  | .closingAll windows => ⟨.info, "Closing all preview connections", [("count", toString windows)]⟩
  | .goneWhileClosing id error =>
    ⟨.info, "Preview window already gone while closing", [("id", id.text), ("error", error)]⟩
  | .frameDetached => ⟨.debug, "Embedded game frame detached", []⟩
  | .windowConnected id connections =>
    ⟨.info, "Preview window connected",
      [("id", id.text), ("connection_count", toString connections)]⟩
  | .connectionClosed id connections =>
    ⟨.info, "Preview connection closed",
      [("id", id.text), ("connection_count", toString connections)]⟩
  | .unknownPreview id => ⟨.debug, "Ignoring message to unknown preview", [("id", id.text)]⟩
  | .postFailed id error =>
    ⟨.warn, "Failed to post message to preview", [("id", id.text), ("error", error)]⟩
  | .probeFailed id error =>
    ⟨.warn, "Could not probe preview window", [("id", id.text), ("error", error)]⟩
  | .requestSent id targets =>
    ⟨.debug, "Request sent, awaiting reply",
      [("message_id", toString id), ("targets", toString targets)]⟩
  | .requestTimedOut id timeout =>
    ⟨.warn, "No reply received for request",
      [("message_id", toString id), ("timeout_ms", toString timeout)]⟩
  | .unreadable error => ⟨.warn, "Dropping unparsable message from preview", [("error", error)]⟩
  | .unknownSource => ⟨.trace, "Dropping message from unknown preview", []⟩
  | .replyMatched request id =>
    ⟨.trace, "Reply matched a pending request",
      [("message_id", toString request), ("id", id.text)]⟩
  | .droppedBeforeStart => ⟨.trace, "Dropping message received before start", []⟩
  | .listenerEnded => ⟨.debug, "Message listener terminated", []⟩

end PreviewHub
