import Bos.Display.Scene

/-!
# Bos.Display.Clipping

The compositor clips with `i32` and `u32` arithmetic. `screen_rect`, `blit_to_scene` and the
overlap test of `update_scene_region` add a window's size, cast from `u32` to `i32`, to its `i32`
position, and `handle_update_window` adds the `u32` fields of the client's dirty rectangle. The
workspace builds in the dev profile, where each of these additions panics on overflow, and the
protocol bounds neither the position of a window nor the dirty rectangle:

* a window whose right edge `x + width` passes `i32::MAX` panics the next full redraw
  (`flush_eq_none_of_edge`), and a move there panics at once (`handleMoveWindow_eq_none`);
* an `UpdateWindow` whose `dirty_x + dirty_width` passes `u32::MAX` panics before its bounds check
  (`handleUpdateWindow_eq_none`).

The failing input: a 1 × 1 window created at `(i32::MAX, 0)` (`edgeState`).
-/

namespace Bos.Display

open ArrayOps

namespace Compositor

theorem addI32?_eq_none {a b : Int} (h : 2 ^ 31 ≤ a + b) : addI32? a b = none := by
  unfold addI32?
  rw [if_neg (by omega)]

theorem addU32?_eq_none {a b : Nat} (h : 2 ^ 32 ≤ a + b) : addU32? a b = none := by
  unfold addU32?
  rw [if_neg (by omega)]

theorem screenRect_eq_none {env : Env} {x y : Int} {w h : Nat} (hx : 2 ^ 31 ≤ x + u32AsI32 w) :
    screenRect env x y w h = none := by
  unfold screenRect
  rw [addI32?_eq_none hx]
  rfl

theorem blitToScene_eq_none {env : Env} {c : Compositor} {src : Nat → UInt32} {srcWidth : Nat}
    {dstX dstY : Int} {w h : Nat} {s : Nat → UInt32} (hs : c.scene = some s)
    (hx : 2 ^ 31 ≤ dstX + u32AsI32 w) : blitToScene env c src srcWidth dstX dstY w h = none := by
  unfold blitToScene
  rw [hs, addI32?_eq_none hx]
  rfl

/-- The loop of `update_scene_full` over `z_order[..n_windows]` panics when one of the windows it
finds has its right edge past `i32::MAX`: every step before it changes only the scene. -/
theorem updateSceneFull_eq_none {env : Env} {c : Compositor} {s : Nat → UInt32}
    (hs : c.scene = some s) {i j : Nat} {w : Window} (hi : i < c.nWindows)
    (hw : findSlot c.windows (c.zOrder.getD i 0) = some (j, w))
    (hx : 2 ^ 31 ≤ w.x + u32AsI32 w.width) : updateSceneFull env c = none := by
  unfold updateSceneFull
  rw [hs]
  dsimp only
  refine foldlM_eq_none _ (fun c' => ∃ s', c' = { c with scene := some s' }) ?_ ?_ _
    (List.mem_range.mpr hi) _ ⟨_, rfl⟩
  · rintro _ k c'' ⟨s', rfl⟩ hstep
    dsimp only at hstep
    split at hstep
    · cases hstep
      exact ⟨s', rfl⟩
    · obtain ⟨s'', rfl, -⟩ := blitToScene_some hstep rfl
      exact ⟨s'', rfl⟩
  · rintro _ ⟨s', rfl⟩
    dsimp only
    rw [hw]
    exact blitToScene_eq_none rfl hx

theorem flush_eq_none_of_edge {env : Env} {c : Compositor} {s : Nat → UInt32}
    (hs : c.scene = some s) (hfull : c.pendingFullRedraw = true) {i j : Nat} {w : Window}
    (hi : i < c.nWindows) (hw : findSlot c.windows (c.zOrder.getD i 0) = some (j, w))
    (hx : 2 ^ 31 ≤ w.x + u32AsI32 w.width) : flush env c = none := by
  have hnone : updateSceneFull env
      { c with pendingFullRedraw := false, pendingSceneUpdate := false, pendingDamage := none } =
        none :=
    updateSceneFull_eq_none hs hi hw hx
  unfold flush
  rw [if_pos hfull, hnone]
  rfl

/-- A move puts the window's new rectangle through `screen_rect`, which panics when the new right
edge passes `i32::MAX`, whatever the old rectangle gave. -/
theorem handleMoveWindow_eq_none {env : Env} {c : Compositor} {req : MoveWindowRequest} {i : Nat}
    {w : Window} (hw : findSlot c.windows req.windowId = some (i, w))
    (hx : 2 ^ 31 ≤ req.x + u32AsI32 w.width) : handleMoveWindow env c req = none := by
  unfold handleMoveWindow
  rw [hw]
  dsimp only
  rw [screenRect_eq_none hx]
  cases screenRect env w.x w.y w.width w.height <;> rfl

theorem handleUpdateWindow_eq_none {env : Env} {c : Compositor} {header : UpdateWindowRequest}
    {i : Nat} {w : Window} (hw : findSlot c.windows header.windowId = some (i, w))
    (hx : 2 ^ 32 ≤ header.dirtyX + header.dirtyWidth) : handleUpdateWindow env c header = none := by
  unfold handleUpdateWindow
  rw [hw]
  dsimp only
  rw [addU32?_eq_none hx]
  rfl

theorem compositor_clipping_overflows (env : Env) (c : Compositor) :
    (∀ s i j w, c.scene = some s → c.pendingFullRedraw = true → i < c.nWindows →
      findSlot c.windows (c.zOrder.getD i 0) = some (j, w) → w.width ≤ 4096 →
      2 ^ 31 ≤ w.x + (w.width : Int) → flush env c = none) ∧
    (∀ req i w, findSlot c.windows req.windowId = some (i, w) → w.width ≤ 4096 →
      2 ^ 31 ≤ req.x + (w.width : Int) → handleMoveWindow env c req = none) ∧
    ∀ header i w, findSlot c.windows header.windowId = some (i, w) →
      2 ^ 32 ≤ header.dirtyX + header.dirtyWidth → handleUpdateWindow env c header = none := by
  refine ⟨fun s i j w hs hfull hi hw hwidth hx => ?_, fun req i w hw hwidth hx => ?_,
    fun header i w hw hx => handleUpdateWindow_eq_none hw hx⟩
  · exact flush_eq_none_of_edge hs hfull hi hw (by rw [u32AsI32_of_lt (by omega)]; exact hx)
  · exact handleMoveWindow_eq_none hw (by rw [u32AsI32_of_lt (by omega)]; exact hx)

/-- A 1 × 1 window at `(i32::MAX, 0)`, with buffer 1 of `stackEnv`. -/
def edgeWindow : Window := ⟨1, 2 ^ 31 - 1, 0, 1, 1, 1, 1, 4⟩

/-- The compositor of `stackEnv` after `handle_create_window` put `edgeWindow` in slot 0. -/
def edgeState : Compositor :=
  ({ new stackEnv with
      windows := (new stackEnv).windows.set 0 (some edgeWindow)
      nextWindowId := 2 }.zPush 1).markFullRedraw

theorem compositor_clipping_overflows_sample :
    flush stackEnv edgeState = none ∧
      handleMoveWindow stackEnv edgeState ⟨1, 2 ^ 31 - 1, 0⟩ = none ∧
      handleUpdateWindow stackEnv edgeState ⟨1, 2 ^ 32 - 1, 0, 1, 0⟩ = none ∧
      run stackEnv [([createWindowMsg 1 1 (2 ^ 31 - 1) 0], [])] = none :=
  ⟨(compositor_clipping_overflows stackEnv edgeState).1 _ 0 0 edgeWindow rfl rfl (by decide) rfl
      (by decide) (by decide),
    (compositor_clipping_overflows stackEnv edgeState).2.1 _ 0 edgeWindow rfl (by decide)
      (by decide),
    (compositor_clipping_overflows stackEnv edgeState).2.2 _ 0 edgeWindow rfl (by decide),
    rfl⟩

end Compositor

end Bos.Display
