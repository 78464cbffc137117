import Bos.Lib.ArrayOps
import Bos.Memory.Addr

/-!
# Bos.Display.Compositor

The display server's compositor (`display_server/src/compositor.rs`). It keeps up to
`MAX_WINDOWS` windows in slots, their ids in `z_order[..n_windows]` (bottom first), and an
off-screen `scene_buf` that holds the background with the windows blitted over it in z-order.
`process_message` decodes one byte message of the window protocol (`kernel_api_types::window`)
and runs its handler; each iteration of `run` processes the messages drained from the endpoint,
moves the cursor by the mouse events, and calls `flush`, which rebuilds the whole scene after a
change of the window set or the z-order, and otherwise repaints only the pending damage
rectangle (`update_scene_region`).

What the compositor only reads is `Env`: the display size, the background it rendered, the
pixels of the shared buffers (held constant), and the kernel's answers to
`sys_create_shared_buf`, one for each window id (every call of `Window::new` has a new id, so
any sequence of answers is one such function). Every `u32`, `i32` and `u64` operation that can
overflow panics (`None`); `as` casts wrap.
-/

namespace Bos.Display

open ArrayOps

/-- `MAX_WINDOWS`. -/
def maxWindows : Nat := 32

/-- `CURSOR_W`, `CURSOR_H`. -/
def cursorW : Nat := 14

def cursorH : Nat := 20

/-- `a + b` on `u32`. -/
def addU32? (a b : Nat) : Option Nat := if a + b < 2 ^ 32 then some (a + b) else none

/-- `a + b` on `i32`. -/
def addI32? (a b : Int) : Option Int :=
  if -2 ^ 31 ≤ a + b ∧ a + b < 2 ^ 31 then some (a + b) else none

/-- `a - b` on `i32`. -/
def subI32? (a b : Int) : Option Int :=
  if -2 ^ 31 ≤ a - b ∧ a - b < 2 ^ 31 then some (a - b) else none

/-- `w as i32` for a `u32`. -/
def u32AsI32 (w : Nat) : Int := if w < 2 ^ 31 then w else (w : Int) - 2 ^ 32

/-- `v.clamp(lo, hi)`, which asserts `lo <= hi`. -/
def clampI32 (v lo hi : Int) : Option Int := if lo ≤ hi then some (max lo (min v hi)) else none

structure DirtyRect where
  x : Nat
  y : Nat
  w : Nat
  h : Nat
  deriving DecidableEq, Repr

/-- `DirtyRect::expand`: the bounding box with `(x, y, w, h)`. -/
def DirtyRect.expand (d : DirtyRect) (x y w h : Nat) : Option DirtyRect := do
  let x2 ← addU32? d.x d.w
  let y2 ← addU32? d.y d.h
  let newX2 := max (← addU32? x w) x2
  let newY2 := max (← addU32? y h) y2
  let x' := min d.x x
  let y' := min d.y y
  -- `new_x2 ≥ x2 ≥ self.x ≥ x'`, so the subtractions never wrap
  pure ⟨x', y', newX2 - x', newY2 - y'⟩

/-- A window: its id, position, size, the pointer to its shared buffer, the buffer's id and size. -/
structure Window where
  id : Nat
  x : Int
  y : Int
  width : Nat
  height : Nat
  buffer : Nat
  sharedBufId : Nat
  bufSize : Nat

structure Env where
  width : Nat
  height : Nat
  /-- `background_buf`, `None` when its `sys_mmap` failed. -/
  background : Option (Nat → UInt32)
  /-- Whether the `sys_mmap` of `scene_buf` succeeded. -/
  sceneBuf : Bool
  /-- The pixels of the shared buffer at a pointer, by offset. -/
  pixels : Nat → Nat → UInt32
  /-- `sys_create_shared_buf(size)` for the window with a given id: `(id, pointer)`. -/
  createSharedBuf : Nat → Nat → Nat × Nat

/-- `Window::new`. Its caller has bounded the size by 4096 × 4096, so `buf_size` fits. -/
def Window.new (env : Env) (id : Nat) (x y : Int) (width height : Nat) : Option Window :=
  let bufSize := width * height * 4
  let (sharedBufId, bufferPtr) := env.createSharedBuf id bufSize
  -- `buffer_ptr.is_null() || shared_buf_id == u64::MAX`
  if bufferPtr = 0 ∨ sharedBufId = 2 ^ 64 - 1 then none
  else some ⟨id, x, y, width, height, bufferPtr, sharedBufId, bufSize⟩

structure Compositor where
  windows : List (Option Window)
  nextWindowId : Nat
  zOrder : List Nat
  nWindows : Nat
  scene : Option (Nat → UInt32)
  cursorX : Int
  cursorY : Int
  pendingDamage : Option DirtyRect
  pendingSceneUpdate : Bool
  pendingFullRedraw : Bool
  zOrder_length : zOrder.length = maxWindows
  nWindows_le : nWindows ≤ maxWindows

namespace Compositor

/-- `Compositor::new`: 32 empty slots, the scene a copy of the background. -/
def new (env : Env) : Compositor where
  windows := List.replicate maxWindows none
  nextWindowId := 1
  zOrder := List.replicate maxWindows 0
  nWindows := 0
  scene :=
    if env.sceneBuf then
      some (match env.background with
        | some bg => copyRange (fun _ => 0) bg 0 0 (env.width * env.height)
        | none => fun _ => 0)
    else none
  cursorX := (u32AsI32 env.width).tdiv 2
  cursorY := (u32AsI32 env.height).tdiv 2
  pendingDamage := none
  pendingSceneUpdate := false
  pendingFullRedraw := false
  zOrder_length := List.length_replicate
  nWindows_le := Nat.zero_le _

/-- The ids in `z_order[..n_windows]`, bottom first. -/
def zList (c : Compositor) : List Nat := c.zOrder.take c.nWindows

/-! ## Z-order helpers -/

def zPush (c : Compositor) (id : Nat) : Compositor :=
  if h : c.nWindows < maxWindows then
    { c with
      zOrder := c.zOrder.set c.nWindows id
      nWindows := c.nWindows + 1
      zOrder_length := by rw [List.length_set, c.zOrder_length]
      nWindows_le := h }
  else c

def zRemove (c : Compositor) (id : Nat) : Compositor :=
  match (c.zOrder.take c.nWindows).findIdx? (· == id) with
  | none => c
  | some pos =>
    { c with
      zOrder := shiftDown c.zOrder pos (c.nWindows - 1)
      nWindows := c.nWindows - 1
      zOrder_length := by rw [length_shiftDown, c.zOrder_length]
      nWindows_le := by have := c.nWindows_le; omega }

def zRaise (c : Compositor) (id : Nat) : Compositor := (c.zRemove id).zPush id

def zLower (c : Compositor) (id : Nat) : Compositor :=
  let c := c.zRemove id
  if h : c.nWindows < maxWindows then
    { c with
      zOrder := (shiftUp c.zOrder c.nWindows).set 0 id
      nWindows := c.nWindows + 1
      zOrder_length := by rw [List.length_set, length_shiftUp, c.zOrder_length]
      nWindows_le := h }
  else c

/-! ## Damage -/

/-- `screen_rect(x, y, w, h)`: the part of the rectangle on the screen, if any. -/
def screenRect (env : Env) (x y : Int) (w h : Nat) : Option (Option DirtyRect) := do
  let x0 := (max x 0).toNat
  let y0 := (max y 0).toNat
  let x1 := min (max (← addI32? x (u32AsI32 w)) 0).toNat env.width
  let y1 := min (max (← addI32? y (u32AsI32 h)) 0).toNat env.height
  pure (if x0 < x1 ∧ y0 < y1 then some ⟨x0, y0, x1 - x0, y1 - y0⟩ else none)

def cursorRect (env : Env) (c : Compositor) : Option (Option DirtyRect) :=
  screenRect env c.cursorX c.cursorY cursorW cursorH

def expandPending (c : Compositor) (rect : DirtyRect) : Option Compositor :=
  match c.pendingDamage with
  | some d => do
    let d ← d.expand rect.x rect.y rect.w rect.h
    pure { c with pendingDamage := some d }
  | none => some { c with pendingDamage := some rect }

def markFullRedraw (c : Compositor) : Compositor :=
  { c with pendingFullRedraw := true, pendingSceneUpdate := true, pendingDamage := none }

def markDamage (c : Compositor) (rect : DirtyRect) : Option Compositor := do
  let c ← c.expandPending rect
  pure { c with pendingSceneUpdate := true }

/-! ## The scene -/

/-- The first slot holding a window with this id, and the window: what
`iter().filter_map(|w| w.as_ref()).find(|w| w.id == id)` finds. -/
def findSlot : List (Option Window) → Nat → Option (Nat × Window)
  | [], _ => none
  | some w :: ws, id =>
    if w.id = id then some (0, w) else (findSlot ws id).map fun (i, w) => (i + 1, w)
  | none :: ws, id => (findSlot ws id).map fun (i, w) => (i + 1, w)

/-- `blit_to_scene(src, src_width, dst_x, dst_y, w, h)`: the part on the screen of a
`w × h` image whose rows are `src_width` apart, copied row by row into the scene. -/
def blitToScene (env : Env) (c : Compositor) (src : Nat → UInt32) (srcWidth : Nat)
    (dstX dstY : Int) (w h : Nat) : Option Compositor :=
  match c.scene with
  | none => some c
  | some scene => do
    let x0 := (max dstX 0).toNat
    let y0 := (max dstY 0).toNat
    let x1 := min (max (← addI32? dstX (u32AsI32 w)) 0).toNat env.width
    let y1 := min (max (← addI32? dstY (u32AsI32 h)) 0).toNat env.height
    if x1 ≤ x0 ∨ y1 ≤ y0 then return c
    let clippedW := x1 - x0
    -- `x0 as i32` is exact: `x0 = max(dst_x, 0)`
    let srcXOff := (max (← subI32? x0 dstX) 0).toNat
    let srcYOff := (max (← subI32? y0 dstY) 0).toNat
    pure { c with
      scene := some ((List.range (y1 - y0)).foldl (fun scene row =>
        copyRange scene src ((srcYOff + row) * srcWidth + srcXOff) ((y0 + row) * env.width + x0)
          clippedW) scene) }

/-- A window blitted whole at its position. -/
def blitWindow (env : Env) (c : Compositor) (w : Window) : Option Compositor :=
  blitToScene env c (env.pixels w.buffer) w.width w.x w.y w.width w.height

/-- `update_scene_region(damage)`: the background inside the damage, then, in z-order, every
window that overlaps the damage, blitted whole. -/
def updateSceneRegion (env : Env) (c : Compositor) (damage : DirtyRect) : Option Compositor := do
  let c ← match env.background with
    | some bg =>
      blitToScene env c (fun i => bg (damage.y * env.width + damage.x + i)) env.width
        (u32AsI32 damage.x) (u32AsI32 damage.y) damage.w damage.h
    | none => pure c
  (List.range c.nWindows).foldlM (fun c i =>
    match findSlot c.windows (c.zOrder.getD i 0) with
    | none => pure c
    | some (_, w) => do
      let wx1 ← addI32? w.x (u32AsI32 w.width)
      let wy1 ← addI32? w.y (u32AsI32 w.height)
      let dx1 ← addI32? (u32AsI32 damage.x) (u32AsI32 damage.w)
      let dy1 ← addI32? (u32AsI32 damage.y) (u32AsI32 damage.h)
      if w.x ≥ dx1 ∨ wx1 ≤ u32AsI32 damage.x ∨ w.y ≥ dy1 ∨ wy1 ≤ u32AsI32 damage.y then pure c
      else blitWindow env c w) c

/-- `update_scene_full`: the whole background, then every window in z-order. -/
def updateSceneFull (env : Env) (c : Compositor) : Option Compositor :=
  match c.scene with
  | none => some c
  | some scene =>
    let scene := match env.background with
      | some bg => copyRange scene bg 0 0 (env.width * env.height)
      | none => scene
    (List.range c.nWindows).foldlM (fun c i =>
      match findSlot c.windows (c.zOrder.getD i 0) with
      | none => pure c
      | some (_, w) => blitWindow env c w) { c with scene := some scene }

/-- `present_region(damage)` changes nothing the model keeps (it draws the scene and the cursor
into the display's back buffer); `cursor_rect()` is where it could panic. -/
def presentRegion (env : Env) (c : Compositor) : Option Unit := do
  let _ ← cursorRect env c
  pure ()

def flush (env : Env) (c : Compositor) : Option Compositor :=
  if c.pendingFullRedraw then do
    let c ← updateSceneFull env
      { c with pendingFullRedraw := false, pendingSceneUpdate := false, pendingDamage := none }
    presentRegion env c
    pure c
  else
    match c.pendingDamage with
    | none => some c
    | some damage => do
      let c := { c with pendingDamage := none }
      let c ← if c.pendingSceneUpdate then
          updateSceneRegion env { c with pendingSceneUpdate := false } damage
        else pure c
      presentRegion env c
      pure c

/-! ## Window handlers -/

structure CreateWindowRequest where
  width : Nat
  height : Nat
  x : Int
  y : Int

structure UpdateWindowRequest where
  windowId : Nat
  dirtyX : Nat
  dirtyY : Nat
  dirtyWidth : Nat
  dirtyHeight : Nat

structure MoveWindowRequest where
  windowId : Nat
  x : Int
  y : Int

def handleCreateWindow (env : Env) (c : Compositor) (req : CreateWindowRequest) :
    Option Compositor :=
  -- `ErrorInvalidDimensions`
  if req.width = 0 ∨ req.height = 0 ∨ req.width > 4096 ∨ req.height > 4096 then some c else
  match c.windows.findIdx? Option.isNone with
  -- `ErrorOutOfMemory`: no free slot
  | none => some c
  | some slotIdx => do
    let windowId := c.nextWindowId
    let c := { c with nextWindowId := ← addU64? windowId 1 }
    match Window.new env windowId req.x req.y req.width req.height with
    | some window =>
      pure ({ c with windows := c.windows.set slotIdx (some window) }.zPush windowId).markFullRedraw
    | none => pure c

def handleUpdateWindow (env : Env) (c : Compositor) (header : UpdateWindowRequest) :
    Option Compositor :=
  match findSlot c.windows header.windowId with
  | none => some c
  | some (_, window) => do
    if (← addU32? header.dirtyX header.dirtyWidth) > window.width then return c
    if (← addU32? header.dirtyY header.dirtyHeight) > window.height then return c
    match ← screenRect env window.x window.y window.width window.height with
    | some rect => c.markDamage rect
    | none => pure c

/-- `handle_close_window`: the slot of the first window with the id is emptied (after the
`sys_munmap` of its buffer, and before the `sys_destroy_shared_buf`, neither of which the model
keeps). -/
def handleCloseWindow (c : Compositor) (windowId : Nat) : Compositor :=
  match findSlot c.windows windowId with
  | none => c
  | some (i, w) => ({ c with windows := c.windows.set i none }.zRemove w.id).markFullRedraw

def handleMoveWindow (env : Env) (c : Compositor) (req : MoveWindowRequest) : Option Compositor :=
  match findSlot c.windows req.windowId with
  | none => some c
  | some (i, w) => do
    let c := { c with windows := c.windows.set i (some { w with x := req.x, y := req.y }) }
    let damage ← screenRect env w.x w.y w.width w.height
    let damage ← match ← screenRect env req.x req.y w.width w.height with
      | some newRect =>
        match damage with
        | some d => some <$> d.expand newRect.x newRect.y newRect.w newRect.h
        | none => pure (some newRect)
      | none => pure damage
    match damage with
    | some d => c.markDamage d
    | none => pure c

def handleRaiseWindow (c : Compositor) (windowId : Nat) : Compositor :=
  (c.zRaise windowId).markFullRedraw

def handleLowerWindow (c : Compositor) (windowId : Nat) : Compositor :=
  (c.zLower windowId).markFullRedraw

/-! ## Messages -/

/-- The little-endian number in the `n` bytes of `msg` from `off`. -/
def leBytes (msg : List UInt8) (off n : Nat) : Nat :=
  ((msg.drop off).take n).foldr (fun b acc => b.toNat + 256 * acc) 0

def leI32 (msg : List UInt8) (off : Nat) : Int := u32AsI32 (leBytes msg off 4)

/-- `WindowMessageType`. -/
inductive WindowMessageType where
  | createWindow
  | updateWindow
  | closeWindow
  | moveWindow
  | resizeWindow
  | raiseWindow
  | lowerWindow
  deriving DecidableEq, Repr

def WindowMessageType.toUInt8 : WindowMessageType → UInt8
  | .createWindow => 0
  | .updateWindow => 1
  | .closeWindow => 2
  | .moveWindow => 3
  | .resizeWindow => 4
  | .raiseWindow => 5
  | .lowerWindow => 6

/-- `process_message(msg)`: the request is read from the bytes after the type byte, a message too
short for its request is dropped, and an unknown type (also `ResizeWindow`) is ignored. The
`CreateWindow` request is followed by the reply endpoint, used only for the response. -/
def processMessage (env : Env) (c : Compositor) (msg : List UInt8) : Option Compositor :=
  match msg.head? with
  | none => some c
  | some t =>
    if t = WindowMessageType.createWindow.toUInt8 then
      if msg.length < 1 + 16 + 8 then some c
      else handleCreateWindow env c
        ⟨leBytes msg 1 4, leBytes msg 5 4, leI32 msg 9, leI32 msg 13⟩
    else if t = WindowMessageType.updateWindow.toUInt8 then
      if msg.length < 1 + 24 then some c
      else handleUpdateWindow env c
        ⟨leBytes msg 1 8, leBytes msg 9 4, leBytes msg 13 4, leBytes msg 17 4, leBytes msg 21 4⟩
    else if t = WindowMessageType.closeWindow.toUInt8 then
      if msg.length < 1 + 8 then some c else some (c.handleCloseWindow (leBytes msg 1 8))
    else if t = WindowMessageType.moveWindow.toUInt8 then
      if msg.length < 1 + 16 then some c
      else handleMoveWindow env c ⟨leBytes msg 1 8, leI32 msg 9, leI32 msg 13⟩
    else if t = WindowMessageType.raiseWindow.toUInt8 then
      if msg.length < 1 + 8 then some c else some (c.handleRaiseWindow (leBytes msg 1 8))
    else if t = WindowMessageType.lowerWindow.toUInt8 then
      if msg.length < 1 + 8 then some c else some (c.handleLowerWindow (leBytes msg 1 8))
    else some c

/-! ## The main loop -/

/-- The cursor moved by `(dx, dy)` and clamped to the screen; the old and new cursor rectangles
join the pending damage, with no scene update (the cursor is drawn above the scene). -/
def moveCursor (env : Env) (c : Compositor) (dx dy : Int) : Option Compositor := do
  let oldRect ← cursorRect env c
  let cx ← clampI32 (← addI32? c.cursorX dx) 0 (← subI32? (u32AsI32 env.width) 1)
  let cy ← clampI32 (← addI32? c.cursorY dy) 0 (← subI32? (u32AsI32 env.height) 1)
  let c := { c with cursorX := cx, cursorY := cy }
  let newRect ← cursorRect env c
  let cursorDamage ← match oldRect, newRect with
    | some a, some b => some <$> a.expand b.x b.y b.w b.h
    | some a, none => pure (some a)
    | none, some b => pure (some b)
    | none, none => pure none
  match cursorDamage with
  | some cd => c.expandPending cd
  | none => pure c

/-- One iteration of the loop of `run`: the messages drained from the endpoint, the mouse events
read (each `(dx, dy)`, summed in `i32`), and the flush. -/
def iteration (env : Env) (c : Compositor) (msgs : List (List UInt8)) (mouse : List (Int × Int)) :
    Option Compositor := do
  let c ← msgs.foldlM (processMessage env) c
  let (dx, dy) ← mouse.foldlM (fun (dx, dy) (ex, ey) => do
    let dx ← addI32? dx ex
    let dy ← addI32? dy ey
    pure (dx, dy)) ((0 : Int), (0 : Int))
  let c ← if dx ≠ 0 ∨ dy ≠ 0 then moveCursor env c dx dy else pure c
  flush env c

/-- `Compositor::run` from `Compositor::new`, over the iterations of its loop. -/
def run (env : Env) (iterations : List (List (List UInt8) × List (Int × Int))) :
    Option Compositor :=
  iterations.foldlM (fun c it => iteration env c it.1 it.2) (Compositor.new env).markFullRedraw

end Compositor

end Bos.Display
