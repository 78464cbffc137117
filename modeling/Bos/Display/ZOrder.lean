import Bos.Display.Compositor

/-!
# Bos.Display.ZOrder

The z-order of the compositor against its windows. `z_order[..n_windows]` (`zList`) is meant to
hold the id of every window in a slot exactly once and no other id (`ZInv`). The helpers work on
it as on a list: `z_remove` erases the first occurrence of an id (`zList_zRemove`), `z_push`
appends while there is room (`zList_zPush`), `z_lower` puts an id in front (`zList_zLower`).

`handle_raise_window` and `handle_lower_window` take any id and push it after `z_remove`
whether or not a window has it: a `RaiseWindow` or `LowerWindow` message for an id with no
window puts that id in the z-order, and the invariant is broken
(`raise_or_lower_unknown_breaks_zorder`).
-/

namespace Bos.Display

open ArrayOps

namespace Compositor

/-- The ids of the windows in the slots, in slot order. -/
def presentIds (c : Compositor) : List Nat := c.windows.filterMap (Option.map Window.id)

/-- `z_order[..n_windows]` holds the id of every window in a slot exactly once, and no other. -/
structure ZInv (c : Compositor) : Prop where
  nodup : c.zList.Nodup
  perm : c.zList.Perm c.presentIds

theorem zInv_new (env : Env) : (Compositor.new env).ZInv where
  nodup := by simp [zList, Compositor.new]
  perm := by simp [zList, presentIds, Compositor.new]

theorem ZInv.mem_iff {c : Compositor} (h : c.ZInv) {id : Nat} : id ∈ c.zList ↔ id ∈ c.presentIds :=
  h.perm.mem_iff

/-! ## The helpers on `zList` -/

theorem length_zList (c : Compositor) : c.zList.length = c.nWindows := by
  unfold zList
  rw [List.length_take, c.zOrder_length]
  exact Nat.min_eq_left c.nWindows_le

theorem zRemove_of_not_mem {c : Compositor} {id : Nat} (h : id ∉ c.zList) : c.zRemove id = c := by
  unfold zRemove
  rw [List.findIdx?_eq_none_iff.mpr fun x hx => by
    simp only [beq_eq_false_iff_ne]
    exact fun hxe => h (hxe ▸ hx)]

theorem zList_zRemove (c : Compositor) (id : Nat) : (c.zRemove id).zList = c.zList.erase id := by
  by_cases hmem : id ∈ c.zList
  · unfold zRemove
    split
    · rename_i hnone
      exact absurd (List.findIdx?_eq_none_iff.mp hnone id hmem) (by simp)
    · rename_i pos hpos
      obtain ⟨hlt, hidx⟩ := List.findIdx?_eq_some_iff_findIdx_eq.mp hpos
      have hn := c.nWindows_le
      have hlen := c.length_zList
      unfold zList at hlen
      -- the removed position is the first occurrence of `id`, as `List.erase` removes
      have hpos' : pos ≤ c.nWindows - 1 := by omega
      have hlast : c.nWindows - 1 < c.zOrder.length := by rw [c.zOrder_length]; omega
      show (shiftDown c.zOrder pos (c.nWindows - 1)).take (c.nWindows - 1) = c.zList.erase id
      rw [take_shiftDown hpos' hlast, Nat.sub_add_cancel (by omega), ← List.eraseIdx_idxOf_eq_erase]
      unfold zList
      rw [← hidx]
      rfl
  · rw [zRemove_of_not_mem hmem, List.erase_of_not_mem hmem]

theorem zList_zPush {c : Compositor} (h : c.nWindows < maxWindows) (id : Nat) :
    (c.zPush id).zList = c.zList ++ [id] := by
  unfold zPush
  rw [dif_pos h]
  exact take_set_length c.zOrder c.nWindows id (by rw [c.zOrder_length]; exact h)

theorem nWindows_zPush {c : Compositor} (h : c.nWindows < maxWindows) (id : Nat) :
    (c.zPush id).nWindows = c.nWindows + 1 := by
  unfold zPush
  rw [dif_pos h]

theorem zList_zLower {c : Compositor} {id : Nat} (h : (c.zRemove id).nWindows < maxWindows) :
    (c.zLower id).zList = id :: c.zList.erase id := by
  unfold zLower
  rw [dif_pos h, ← zList_zRemove]
  exact take_shiftUp id (by rw [(c.zRemove id).zOrder_length]; exact h)

theorem nWindows_zLower {c : Compositor} {id : Nat} (h : (c.zRemove id).nWindows < maxWindows) :
    (c.zLower id).nWindows = (c.zRemove id).nWindows + 1 := by
  unfold zLower
  rw [dif_pos h]

@[simp] theorem windows_zPush (c : Compositor) (id : Nat) : (c.zPush id).windows = c.windows := by
  unfold zPush
  split <;> rfl

@[simp] theorem windows_zRemove (c : Compositor) (id : Nat) :
    (c.zRemove id).windows = c.windows := by
  unfold zRemove
  split <;> rfl

@[simp] theorem windows_zLower (c : Compositor) (id : Nat) :
    (c.zLower id).windows = c.windows := by
  unfold zLower
  dsimp only
  split <;> exact c.windows_zRemove id

@[simp] theorem windows_markFullRedraw (c : Compositor) : c.markFullRedraw.windows = c.windows :=
  rfl

@[simp] theorem zList_markFullRedraw (c : Compositor) : c.markFullRedraw.zList = c.zList := rfl

@[simp] theorem nWindows_markFullRedraw (c : Compositor) :
    c.markFullRedraw.nWindows = c.nWindows := rfl

/-! ## Raising or lowering an id with no window -/

@[simp] theorem presentIds_handleRaiseWindow (c : Compositor) (id : Nat) :
    (c.handleRaiseWindow id).presentIds = c.presentIds := by
  simp [presentIds, handleRaiseWindow, zRaise]

@[simp] theorem presentIds_handleLowerWindow (c : Compositor) (id : Nat) :
    (c.handleLowerWindow id).presentIds = c.presentIds := by
  simp [presentIds, handleLowerWindow]

/-- Raising or lowering an id that is not in the z-order appends it, or puts it in front. -/
theorem zList_raise_or_lower_of_not_mem {c : Compositor} {id : Nat} (hid : id ∉ c.zList)
    (hn : c.nWindows < maxWindows) :
    (c.handleRaiseWindow id).zList = c.zList ++ [id] ∧
      (c.handleRaiseWindow id).nWindows = c.nWindows + 1 ∧
      (c.handleLowerWindow id).zList = id :: c.zList ∧
      (c.handleLowerWindow id).nWindows = c.nWindows + 1 := by
  have hrem := zRemove_of_not_mem hid
  have hn' : (c.zRemove id).nWindows < maxWindows := by rw [hrem]; exact hn
  unfold handleRaiseWindow handleLowerWindow zRaise
  rw [zList_markFullRedraw, zList_markFullRedraw, nWindows_markFullRedraw, nWindows_markFullRedraw,
    zList_zLower hn', nWindows_zLower hn', hrem, zList_zPush hn, nWindows_zPush hn,
    List.erase_of_not_mem hid]
  exact ⟨rfl, rfl, rfl, rfl⟩

theorem processMessage_raise {env : Env} {c : Compositor} {msg : List UInt8}
    (htype : msg.head? = some WindowMessageType.raiseWindow.toUInt8) (hlen : 9 ≤ msg.length) :
    processMessage env c msg = some (c.handleRaiseWindow (leBytes msg 1 8)) := by
  unfold processMessage
  rw [htype]
  dsimp only
  rw [if_neg (by decide), if_neg (by decide), if_neg (by decide), if_neg (by decide),
    if_pos rfl, if_neg (by omega)]

theorem processMessage_lower {env : Env} {c : Compositor} {msg : List UInt8}
    (htype : msg.head? = some WindowMessageType.lowerWindow.toUInt8) (hlen : 9 ≤ msg.length) :
    processMessage env c msg = some (c.handleLowerWindow (leBytes msg 1 8)) := by
  unfold processMessage
  rw [htype]
  dsimp only
  rw [if_neg (by decide), if_neg (by decide), if_neg (by decide), if_neg (by decide),
    if_neg (by decide), if_pos rfl, if_neg (by omega)]

/-- A `RaiseWindow` or `LowerWindow` message for an id that no window has, while the z-order has
room, adds the id to the z-order and no window: `n_windows` grows past the number of windows
and the invariant is broken. -/
theorem raise_or_lower_unknown_breaks_zorder (env : Env) {c : Compositor} (hinv : c.ZInv)
    (hn : c.nWindows < maxWindows) {msg : List UInt8}
    (htype : msg.head? = some WindowMessageType.raiseWindow.toUInt8 ∨
      msg.head? = some WindowMessageType.lowerWindow.toUInt8)
    (hlen : 9 ≤ msg.length) (hid : leBytes msg 1 8 ∉ c.presentIds) :
    ∃ c', processMessage env c msg = some c' ∧ c'.presentIds = c.presentIds ∧
      c'.nWindows = c.nWindows + 1 ∧ leBytes msg 1 8 ∈ c'.zList ∧ ¬ c'.ZInv := by
  have hz : leBytes msg 1 8 ∉ c.zList := fun h => hid (hinv.mem_iff.mp h)
  obtain ⟨hraise, hnraise, hlower, hnlower⟩ := zList_raise_or_lower_of_not_mem hz hn
  -- the id is in the new z-order, and the windows are those of before
  have hbreak : ∀ c' : Compositor, c'.presentIds = c.presentIds → leBytes msg 1 8 ∈ c'.zList → ¬ c'.ZInv :=
    fun c' hp hmem hinv' => hid (hp ▸ hinv'.mem_iff.mp hmem)
  rcases htype with htype | htype
  · have hmem : leBytes msg 1 8 ∈ (c.handleRaiseWindow (leBytes msg 1 8)).zList := by
      rw [hraise]
      exact List.mem_append_right _ (List.mem_singleton_self _)
    exact ⟨_, processMessage_raise htype hlen, presentIds_handleRaiseWindow c _, hnraise, hmem,
      hbreak _ (presentIds_handleRaiseWindow c _) hmem⟩
  · have hmem : leBytes msg 1 8 ∈ (c.handleLowerWindow (leBytes msg 1 8)).zList := by
      rw [hlower]
      exact List.mem_cons_self
    exact ⟨_, processMessage_lower htype hlen, presentIds_handleLowerWindow c _, hnlower, hmem,
      hbreak _ (presentIds_handleLowerWindow c _) hmem⟩

/-- `RaiseWindow` for id 7, the first message a fresh compositor gets. -/
def raiseSevenMsg : List UInt8 := [5, 7, 0, 0, 0, 0, 0, 0, 0]

/-- An 8 × 8 display with no background. -/
def blankEnv : Env := ⟨8, 8, none, true, fun _ _ => 0, fun id _ => (id, id)⟩

theorem raise_or_lower_unknown_breaks_zorder_sample :
    (Compositor.new blankEnv).ZInv ∧ (Compositor.new blankEnv).nWindows < maxWindows ∧
      leBytes raiseSevenMsg 1 8 ∉ (Compositor.new blankEnv).presentIds ∧
      ∃ c', processMessage blankEnv (Compositor.new blankEnv) raiseSevenMsg = some c' ∧
        c'.nWindows = 1 ∧ c'.presentIds = [] ∧ ¬ c'.ZInv := by
  have hinv := zInv_new blankEnv
  have hn : (Compositor.new blankEnv).nWindows < maxWindows := by decide
  have hid : leBytes raiseSevenMsg 1 8 ∉ (Compositor.new blankEnv).presentIds := by decide
  obtain ⟨c', hc', hp, hnw, -, hbad⟩ :=
    raise_or_lower_unknown_breaks_zorder blankEnv hinv hn (.inl rfl) (by decide) hid
  refine ⟨hinv, hn, hid, c', hc', hnw, ?_, hbad⟩
  rw [hp]
  decide

end Compositor

end Bos.Display
