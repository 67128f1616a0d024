import PreviewHub.Log

/-! The previews that are connected: at most one embedded frame, and windows in the order of their
registration. A window keeps the id that it got, and no id is given out twice. -/

namespace PreviewHub

abbrev Endpoint := PreviewId × Handle

structure Registry where
  frame : Option Handle := none
  windows : List Endpoint := []
  nextWindow : Nat := 0
  deriving DecidableEq, Repr, Inhabited

namespace Registry

structure Registration where
  registry : Registry
  id : PreviewId
  added : Bool
  deriving DecidableEq, Repr

/-- A handle that is registered as a window keeps its id; another gets the next one. -/
def registerWindow (r : Registry) (handle : Handle) : Registration :=
  match r.windows.find? fun window => window.2 = handle with
  | some (id, _) => ⟨r, id, false⟩
  | none =>
    let id := PreviewId.window r.nextWindow
    ⟨{ r with windows := r.windows ++ [(id, handle)], nextWindow := r.nextWindow + 1 }, id, true⟩

def Registration.remark (x : Registration) : Remark :=
  if x.added then .windowRegistered x.id x.registry.windows.length else .windowKnown x.id

inductive FrameChange where
  | unchanged
  | registered
  | replaced
  deriving DecidableEq, Repr

/-- The last frame registered counts. -/
def registerFrame (r : Registry) (handle : Handle) : Registry × FrameChange :=
  match r.frame with
  | some current =>
    if current = handle then (r, .unchanged) else ({ r with frame := some handle }, .replaced)
  | none => ({ r with frame := some handle }, .registered)

def FrameChange.remarks : FrameChange → List Remark
  | .unchanged => []
  | .registered => [.frameRegistered]
  | .replaced => [.frameReplaced]

inductive FrameRelease where
  | released
  | notCurrent
  | missing
  deriving DecidableEq, Repr

/-- Only the current frame can be released. -/
def unregisterFrame (r : Registry) (handle : Handle) : Registry × FrameRelease :=
  match r.frame with
  | some current =>
    if current = handle then ({ r with frame := none }, .released) else (r, .notCurrent)
  | none => (r, .missing)

def FrameRelease.remark : FrameRelease → Remark
  | .released => .frameUnregistered
  | .notCurrent => .frameNotCurrent
  | .missing => .frameMissing

def handle? (r : Registry) (id : PreviewId) : Option Handle :=
  if id.isFrame then r.frame else (r.windows.find? fun window => window.1 = id).map (·.2)

def remove (r : Registry) (id : PreviewId) : Option (Handle × Registry) :=
  match r.handle? id with
  | none => none
  | some handle =>
    if id.isFrame then some (handle, { r with frame := none })
    else some (handle, { r with windows := r.windows.eraseP fun window => window.1 = id })

def endpoints (r : Registry) : List Endpoint :=
  match r.frame with
  | some handle => (.frame, handle) :: r.windows
  | none => r.windows

def list (r : Registry) : List PreviewId :=
  match r.frame with
  | some _ => .frame :: r.windows.map (·.1)
  | none => r.windows.map (·.1)

/-- The id that a handle is registered under; the frame is looked at first. -/
def find? (r : Registry) (handle : Handle) : Option PreviewId :=
  if r.frame = some handle then some .frame
  else (r.windows.find? fun window => window.2 = handle).map (·.1)

def contains (r : Registry) (id : PreviewId) : Bool := (r.handle? id).isSome

def windowCount (r : Registry) : Nat := r.windows.length

def size (r : Registry) : Nat := r.windows.length + if r.frame.isSome then 1 else 0

theorem list_eq_map_endpoints (r : Registry) : r.list = r.endpoints.map (·.1) := by
  unfold list endpoints
  cases r.frame <;> rfl

theorem size_eq_length_list (r : Registry) : r.size = r.list.length := by
  unfold size list
  cases r.frame <;> simp

end Registry

end PreviewHub
