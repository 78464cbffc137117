import Bos.Ulib.Surface
import Bos.Lib.LittleEndian

/-!
# Display.Protocol

The window protocol on the wire. A `ulib` client sends each request as a type byte followed by
the bytes of a `#[repr(C)]` request struct copied out of memory, so on this little-endian target
each field is its little-endian encoding at its offset (`Request.toMsg`); `Window::new` appends
its reply endpoint after the struct. The compositor reads the fields back with `leBytes` and
`leI32` (`process_message`).

* `processMessage_toMsg`: for every request whose fields are values of their Rust types, the
  compositor handles the bytes a client sends as that very request.

It rests on the field reads of `LittleEndian` and on `u32AsI32_emod`, which says that the `u32`
a client's `i32` is stored as is read back as the same `i32`.
-/

namespace Bos.Display

open LittleEndian Compositor

/-- A value of Rust's `i32`. -/
def IsI32 (x : Int) : Prop := -2 ^ 31 ≤ x ∧ x < 2 ^ 31

/-- The four bytes of an `i32` in memory: its two's-complement `u32`, little-endian. -/
def i32Bytes (x : Int) : List UInt8 := encodeLE (x % 2 ^ 32).toNat 4

@[simp] theorem length_i32Bytes (x : Int) : (i32Bytes x).length = 4 := length_encodeLE _ _

/-! ## Reading fields -/

theorem leBytes_eq_decodeLE (msg : List UInt8) (off n : Nat) :
    leBytes msg off n = decodeLE ((msg.drop off).take n) := rfl

@[simp] theorem leBytes_cons_of_pos (b : UInt8) (msg : List UInt8) {off : Nat} (h : 0 < off)
    (n : Nat) : leBytes (b :: msg) off n = leBytes msg (off - 1) n := by
  obtain ⟨k, rfl⟩ := Nat.exists_eq_add_of_lt h
  rfl

@[simp] theorem leBytes_append_of_le {a : List UInt8} (b : List UInt8) {off : Nat}
    (h : a.length ≤ off) (n : Nat) : leBytes (a ++ b) off n = leBytes b (off - a.length) n := by
  rw [leBytes_eq_decodeLE, leBytes_eq_decodeLE, List.drop_append, List.drop_eq_nil_of_le h,
    List.nil_append]

theorem leBytes_encodeLE_append {x n : Nat} (hx : x < 256 ^ n) (b : List UInt8) :
    leBytes (encodeLE x n ++ b) 0 n = x := by
  rw [leBytes_eq_decodeLE]
  simpa using decodeLE_field [] b hx

theorem leBytes_encodeLE {x n : Nat} (hx : x < 256 ^ n) : leBytes (encodeLE x n) 0 n = x := by
  simpa using leBytes_encodeLE_append hx []

/-- A `u32` field is read back. -/
theorem leBytes_u32_append {x : Nat} (hx : x < 2 ^ 32) (b : List UInt8) :
    leBytes (encodeLE x 4 ++ b) 0 4 = x :=
  leBytes_encodeLE_append (by simpa using hx) b

theorem leBytes_u32 {x : Nat} (hx : x < 2 ^ 32) : leBytes (encodeLE x 4) 0 4 = x :=
  leBytes_encodeLE (by simpa using hx)

/-- A `u64` field is read back. -/
theorem leBytes_u64_append {x : Nat} (hx : x < 2 ^ 64) (b : List UInt8) :
    leBytes (encodeLE x 8 ++ b) 0 8 = x :=
  leBytes_encodeLE_append (by simpa using hx) b

theorem leBytes_u64 {x : Nat} (hx : x < 2 ^ 64) : leBytes (encodeLE x 8) 0 8 = x :=
  leBytes_encodeLE (by simpa using hx)

theorem emod_toNat_lt (x : Int) : (x % 2 ^ 32).toNat < 256 ^ 4 := by
  omega

/-- The `u32` an `i32` is stored as is read back as the same `i32`. -/
theorem u32AsI32_emod {x : Int} (hx : IsI32 x) : u32AsI32 (x % 2 ^ 32).toNat = x := by
  obtain ⟨hlo, hhi⟩ := hx
  unfold u32AsI32
  -- a non-negative `i32` is stored as itself, a negative one as `x + 2 ^ 32`
  by_cases hneg : 0 ≤ x
  · rw [if_pos (by omega)]
    omega
  · rw [if_neg (by omega)]
    omega

@[simp] theorem leI32_cons_of_pos (b : UInt8) (msg : List UInt8) {off : Nat} (h : 0 < off) :
    leI32 (b :: msg) off = leI32 msg (off - 1) := by
  rw [leI32, leI32, leBytes_cons_of_pos b msg h]

@[simp] theorem leI32_append_of_le {a : List UInt8} (b : List UInt8) {off : Nat}
    (h : a.length ≤ off) : leI32 (a ++ b) off = leI32 b (off - a.length) := by
  rw [leI32, leI32, leBytes_append_of_le b h]

theorem leI32_i32Bytes_append {x : Int} (hx : IsI32 x) (b : List UInt8) :
    leI32 (i32Bytes x ++ b) 0 = x := by
  rw [leI32, i32Bytes, leBytes_encodeLE_append (emod_toNat_lt x) b, u32AsI32_emod hx]

theorem leI32_i32Bytes {x : Int} (hx : IsI32 x) : leI32 (i32Bytes x) 0 = x := by
  simpa using leI32_i32Bytes_append hx []

/-! ## Requests -/

/-- A request of the window protocol, as a client builds it. -/
inductive Request where
  | createWindow (req : CreateWindowRequest) (replyEndpoint : Nat)
  | updateWindow (header : UpdateWindowRequest)
  | moveWindow (req : MoveWindowRequest)
  | raiseWindow (windowId : Nat)
  | lowerWindow (windowId : Nat)

namespace Request

/-- The bytes a client sends for the request: the type byte, then the struct's fields in order. -/
def toMsg : Request → List UInt8
  | .createWindow r ep => WindowMessageType.createWindow.toUInt8 ::
      (encodeLE r.width 4 ++ encodeLE r.height 4 ++ i32Bytes r.x ++ i32Bytes r.y ++ encodeLE ep 8)
  | .updateWindow h => WindowMessageType.updateWindow.toUInt8 ::
      (encodeLE h.windowId 8 ++ encodeLE h.dirtyX 4 ++ encodeLE h.dirtyY 4 ++
        encodeLE h.dirtyWidth 4 ++ encodeLE h.dirtyHeight 4)
  | .moveWindow r => WindowMessageType.moveWindow.toUInt8 ::
      (encodeLE r.windowId 8 ++ i32Bytes r.x ++ i32Bytes r.y)
  | .raiseWindow windowId => WindowMessageType.raiseWindow.toUInt8 :: encodeLE windowId 8
  | .lowerWindow windowId => WindowMessageType.lowerWindow.toUInt8 :: encodeLE windowId 8

/-- The fields are values of their Rust types: `u32` sizes and dirty rectangles, `i32`
positions, `u64` window ids and endpoints. -/
def Fits : Request → Prop
  | .createWindow r ep =>
      r.width < 2 ^ 32 ∧ r.height < 2 ^ 32 ∧ IsI32 r.x ∧ IsI32 r.y ∧ ep < 2 ^ 64
  | .updateWindow h => h.windowId < 2 ^ 64 ∧ h.dirtyX < 2 ^ 32 ∧ h.dirtyY < 2 ^ 32 ∧
      h.dirtyWidth < 2 ^ 32 ∧ h.dirtyHeight < 2 ^ 32
  | .moveWindow r => r.windowId < 2 ^ 64 ∧ IsI32 r.x ∧ IsI32 r.y
  | .raiseWindow windowId => windowId < 2 ^ 64
  | .lowerWindow windowId => windowId < 2 ^ 64

/-- The compositor's handler for the request. -/
def handle (env : Env) (c : Compositor) : Request → Option Compositor
  | .createWindow r _ => handleCreateWindow env c r
  | .updateWindow h => handleUpdateWindow env c h
  | .moveWindow r => handleMoveWindow env c r
  | .raiseWindow windowId => some (c.handleRaiseWindow windowId)
  | .lowerWindow windowId => some (c.handleLowerWindow windowId)

end Request

theorem processMessage_toMsg (env : Env) (c : Compositor) {r : Request} (hr : r.Fits) :
    processMessage env c r.toMsg = r.handle env c := by
  -- each field is read at its offset: past the type byte, then past the fields before it
  cases r with
  | createWindow r ep =>
    obtain ⟨width, height, x, y⟩ := r
    obtain ⟨hw, hh, hx, hy, -⟩ := hr
    simp [processMessage, Request.toMsg, Request.handle, WindowMessageType.toUInt8,
      leBytes_u32_append hw, leBytes_u32_append hh, leI32_i32Bytes_append hx,
      leI32_i32Bytes_append hy]
  | updateWindow h =>
    obtain ⟨windowId, dx, dy, dw, dh⟩ := h
    obtain ⟨hid, hdx, hdy, hdw, hdh⟩ := hr
    simp [processMessage, Request.toMsg, Request.handle, WindowMessageType.toUInt8,
      leBytes_u64_append hid, leBytes_u32_append hdx, leBytes_u32_append hdy,
      leBytes_u32_append hdw, leBytes_u32 hdh]
  | moveWindow r =>
    obtain ⟨windowId, x, y⟩ := r
    obtain ⟨hid, hx, hy⟩ := hr
    simp [processMessage, Request.toMsg, Request.handle, WindowMessageType.toUInt8,
      leBytes_u64_append hid, leI32_i32Bytes_append hx, leI32_i32Bytes hy]
  | raiseWindow windowId =>
    simp [processMessage, Request.toMsg, Request.handle, WindowMessageType.toUInt8,
      leBytes_u64 (show windowId < 2 ^ 64 from hr)]
  | lowerWindow windowId =>
    simp [processMessage, Request.toMsg, Request.handle, WindowMessageType.toUInt8,
      leBytes_u64 (show windowId < 2 ^ 64 from hr)]

theorem moveWindow_wire_sample :
    (Request.moveWindow ⟨1, -5, 7⟩).Fits ∧
      processMessage blankEnv (Compositor.new blankEnv) (Request.moveWindow ⟨1, -5, 7⟩).toMsg =
        handleMoveWindow blankEnv (Compositor.new blankEnv) ⟨1, -5, 7⟩ := by
  have hfits : (Request.moveWindow ⟨1, -5, 7⟩).Fits := by norm_num [Request.Fits, IsI32]
  exact ⟨hfits, processMessage_toMsg blankEnv (Compositor.new blankEnv) hfits⟩

end Bos.Display
