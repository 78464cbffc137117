import Bos.Display.ZOrder

/-!
# Bos.Display.Scene

What the compositor's `scene_buf` holds. A pixel of the screen should show the topmost window of
`z_order[..n_windows]` that covers it, else the background (`composite`).

* `blitToScene_some`: `blit_to_scene` changes only the scene, and there exactly the pixels of the
  screen that the image covers, each from its row of the source.
* `foldlM_paints`: a loop over the z-order whose steps each paint one window over a set of
  pixels (or leave it, where the window does not reach them) ends in the composite there.
* `updateSceneFull_composite`: `update_scene_full` makes every pixel of the screen the composite
  of the windows over the background.
* `updateSceneRegion_inside`: `update_scene_region(damage)` makes every pixel of the damage the
  composite as well. Outside the damage it does not: a window that overlaps the damage is
  re-blitted whole, over the windows above it that do not overlap the damage and are skipped.
  After an `UpdateWindow` for the top window of a stack of three, `flush` leaves a scene that
  `update_scene_full` would not make (`incremental_scene_diverges`).
-/

namespace Bos.Display

open ArrayOps

/-- Screen pixel `(px, py)` lies in the window. -/
def Window.Covers (w : Window) (px py : Nat) : Prop :=
  w.x ≤ px ∧ px < w.x + w.width ∧ w.y ≤ py ∧ py < w.y + w.height

instance (w : Window) (px py : Nat) : Decidable (w.Covers px py) := by
  unfold Window.Covers
  infer_instance

/-- The window's own pixel at screen pixel `(px, py)`; its buffer is row-major, `width` wide. -/
def Window.pixelAt (env : Env) (w : Window) (px py : Nat) : UInt32 :=
  env.pixels w.buffer ((py - w.y).toNat * w.width + (px - w.x).toNat)

namespace Compositor

/-- What screen pixel `(px, py)` shows: the topmost window of `ids` (listed bottom first) that has
a slot and covers the pixel, else `base`. -/
def composite (env : Env) (windows : List (Option Window)) (ids : List Nat) (base : UInt32)
    (px py : Nat) : UInt32 :=
  (ids.reverse.findSome? fun id => (findSlot windows id).bind fun (_, w) =>
    if w.Covers px py then some (w.pixelAt env px py) else none).getD base

/-- Window `id`, if it has a slot, painted over `v` at pixel `(px, py)`. -/
def paintOver (env : Env) (windows : List (Option Window)) (id px py : Nat) (v : UInt32) :
    UInt32 :=
  match findSlot windows id with
  | some (_, w) => if w.Covers px py then w.pixelAt env px py else v
  | none => v

/-- Painting bottom first gives the topmost window: a window put on top is painted over the
composite of those below it. -/
theorem composite_append_singleton (env : Env) (windows : List (Option Window)) (ids : List Nat)
    (id : Nat) (base : UInt32) (px py : Nat) :
    composite env windows (ids ++ [id]) base px py =
      paintOver env windows id px py (composite env windows ids base px py) := by
  unfold composite paintOver
  rw [List.reverse_append, List.reverse_singleton, List.singleton_append, List.findSome?_cons]
  rcases findSlot windows id with _ | ⟨i, w⟩
  · rfl
  · by_cases hcov : w.Covers px py
    · simp [hcov]
    · simp [hcov]

@[simp] theorem composite_nil (env : Env) (windows : List (Option Window)) (base : UInt32)
    (px py : Nat) : composite env windows [] base px py = base := rfl

theorem mem_of_findSlot {ws : List (Option Window)} {id i : Nat} {w : Window}
    (h : findSlot ws id = some (i, w)) : some w ∈ ws := by
  induction ws generalizing i with
  | nil => cases h
  | cons o ws ih =>
    -- a slot further on is found by the recursive call
    have hrest : ∀ {i}, (findSlot ws id).map (fun (i, w) => (i + 1, w)) = some (i, w) →
        some w ∈ o :: ws := by
      intro i hmap
      obtain ⟨⟨j, w'⟩, hj, heq⟩ := Option.map_eq_some_iff.mp hmap
      cases heq
      exact List.mem_cons_of_mem _ (ih hj)
    cases o with
    | none => exact hrest h
    | some v =>
      unfold findSlot at h
      split at h
      · cases h
        exact List.mem_cons_self
      · exact hrest h

/-! ## One blit -/

theorem addI32?_eq_some {a b v : Int} (h : addI32? a b = some v) : v = a + b := by
  unfold addI32? at h
  split at h
  · exact (Option.some.inj h).symm
  · cases h

theorem subI32?_eq_some {a b v : Int} (h : subI32? a b = some v) : v = a - b := by
  unfold subI32? at h
  split at h
  · exact (Option.some.inj h).symm
  · cases h

theorem u32AsI32_of_lt {n : Nat} (h : n < 2 ^ 31) : u32AsI32 n = n := by
  unfold u32AsI32
  rw [if_pos h]

/-- The scene and nothing else replaced. -/
theorem withScene_withScene (c : Compositor) (s s' : Option (Nat → UInt32)) :
    { { c with scene := s } with scene := s' } = { c with scene := s' } := rfl

theorem withScene_self {c : Compositor} {s : Nat → UInt32} (hs : c.scene = some s) :
    { c with scene := some s } = c := by
  cases c
  cases hs
  rfl

/-- A pixel of the screen in the clipped rectangle `[x0, x1) × [y0, y1)` of `blit_to_scene` is one
the image covers, and the other way round. -/
theorem blit_clip_iff {W H : Nat} {dstX dstY w h : Int} {px py : Nat} (hpx : px < W)
    (hpy : py < H) :
    ((max dstY 0).toNat ≤ py ∧ py < min (max (dstY + h) 0).toNat H ∧
        (max dstX 0).toNat ≤ px ∧ px < min (max (dstX + w) 0).toNat W) ↔
      (dstX ≤ px ∧ px < dstX + w ∧ dstY ≤ py ∧ py < dstY + h) := by
  omega

/-- What `blit_to_scene` does when it returns: only the scene changes, and a pixel of the screen
that the image covers (at `(dstX, dstY)`, its size read as `i32`s) takes the image's pixel. -/
theorem blitToScene_some {env : Env} {c c' : Compositor} {src : Nat → UInt32} {srcWidth : Nat}
    {dstX dstY : Int} {w h : Nat} (hb : blitToScene env c src srcWidth dstX dstY w h = some c')
    {s : Nat → UInt32} (hs : c.scene = some s) :
    ∃ s', c' = { c with scene := some s' } ∧ ∀ px py, px < env.width → py < env.height →
      s' (py * env.width + px) =
        if dstX ≤ px ∧ px < dstX + u32AsI32 w ∧ dstY ≤ py ∧ py < dstY + u32AsI32 h then
          src ((py - dstY).toNat * srcWidth + (px - dstX).toNat)
        else s (py * env.width + px) := by
  unfold blitToScene at hb
  rw [hs] at hb
  simp only [Option.bind_eq_bind, Option.bind_eq_some_iff] at hb
  obtain ⟨x1, hx1, y1, hy1, hb⟩ := hb
  rw [addI32?_eq_some hx1] at hb
  rw [addI32?_eq_some hy1] at hb
  split at hb
  · -- the clipped rectangle is empty: no pixel of the screen is covered
    rename_i hempty
    cases hb
    refine ⟨s, (withScene_self hs).symm, fun px py hpx hpy => ?_⟩
    rw [if_neg fun hin => by have := (blit_clip_iff hpx hpy).mpr hin; omega]
  · rename_i hclip
    simp only [Option.bind_eq_some_iff, Option.pure_def, Option.some.injEq] at hb
    obtain ⟨sx, hsx, sy, hsy, hb⟩ := hb
    cases hb
    refine ⟨_, rfl, fun px py hpx hpy => ?_⟩
    rw [foldl_copyRange_rows _ _ _ (by omega) _ _ hpx, subI32?_eq_some hsx, subI32?_eq_some hsy]
    by_cases hin : dstX ≤ px ∧ px < dstX + u32AsI32 w ∧ dstY ≤ py ∧ py < dstY + u32AsI32 h
    · have hclip' := (blit_clip_iff hpx hpy).mpr hin
      rw [if_pos (by omega), if_pos hin]
      -- the source row and column are those of the pixel in the image
      have hrow : (max (((max dstY 0).toNat : Int) - dstY) 0).toNat + (py - (max dstY 0).toNat) =
          (py - dstY).toNat := by omega
      have hcol : (max (((max dstX 0).toNat : Int) - dstX) 0).toNat + (px - (max dstX 0).toNat) =
          (px - dstX).toNat := by omega
      rw [Nat.add_assoc, hcol, hrow]
    · rw [if_neg (fun h' => hin ((blit_clip_iff hpx hpy).mp (by omega))), if_neg hin]

/-- A window blitted whole: the pixels of the screen it covers take its own. -/
theorem blitWindow_some {env : Env} {c c' : Compositor} {w : Window}
    (hb : blitWindow env c w = some c') {s : Nat → UInt32} (hs : c.scene = some s)
    (hw : w.width < 2 ^ 31) (hh : w.height < 2 ^ 31) :
    ∃ s', c' = { c with scene := some s' } ∧ ∀ px py, px < env.width → py < env.height →
      s' (py * env.width + px) =
        if w.Covers px py then w.pixelAt env px py else s (py * env.width + px) := by
  obtain ⟨s', rfl, hpix⟩ := blitToScene_some hb hs
  refine ⟨s', rfl, fun px py hpx hpy => ?_⟩
  rw [hpix px py hpx hpy, u32AsI32_of_lt hw, u32AsI32_of_lt hh]
  rfl

/-! ## Painting the z-order -/

section Paint

variable (env : Env) {c : Compositor} (P : Nat → Nat → Prop)

/-- The pixel offset of `(px, py)` on the screen. -/
abbrev pix (px py : Nat) : Nat := py * env.width + px

/-- A loop over the z-order of `c` whose step `i`, from any scene of `c`, ends in a scene of `c`
where every pixel of `P` is the window `z_order[i]` painted over what it was: after `m` steps the
pixels of `P` show the composite of the first `m` ids of the z-order. The induction is on `m`,
one `foldlM` step at the end. -/
theorem foldlM_paints (f : Compositor → Nat → Option Compositor)
    (hf : ∀ i s c', f { c with scene := some s } i = some c' → ∃ s', c' = { c with scene := some s' } ∧
      ∀ px py, P px py →
        s' (pix env px py) = paintOver env c.windows (c.zOrder.getD i 0) px py (s (pix env px py))) :
    ∀ m, m ≤ c.zOrder.length → ∀ s₀ c', (List.range m).foldlM f { c with scene := some s₀ } = some c' →
      ∃ s', c' = { c with scene := some s' } ∧ ∀ px py, P px py →
        s' (pix env px py) = composite env c.windows (c.zOrder.take m) (s₀ (pix env px py)) px py := by
  intro m
  induction m with
  | zero =>
    intro _ s₀ c' h
    cases h
    exact ⟨s₀, rfl, fun _ _ _ => rfl⟩
  | succ m ih =>
    intro hm s₀ c' h
    rw [List.range_succ, List.foldlM_append, Option.bind_eq_bind, Option.bind_eq_some_iff] at h
    obtain ⟨cm, hcm, hlast⟩ := h
    obtain ⟨sm, rfl, hsm⟩ := ih (by omega) s₀ cm hcm
    simp only [List.foldlM_cons, List.foldlM_nil, bind_pure] at hlast
    obtain ⟨s', rfl, hs'⟩ := hf m sm c' hlast
    refine ⟨s', rfl, fun px py hp => ?_⟩
    -- the id painted last is `z_order[m]`
    have htake : c.zOrder.take (m + 1) = c.zOrder.take m ++ [c.zOrder.getD m 0] := by
      rw [List.take_add_one, List.getElem?_eq_getElem (by omega), Option.toList_some,
        List.getD_eq_getElem _ _ (by omega)]
    rw [hs' px py hp, hsm px py hp, htake, composite_append_singleton]

end Paint

/-- Every window in a slot has a width and a height that are `i32`s. `handle_create_window`
bounds both by 4096. -/
def SizesFit (c : Compositor) : Prop :=
  ∀ w, some w ∈ c.windows → w.width < 2 ^ 31 ∧ w.height < 2 ^ 31

instance (c : Compositor) : Decidable c.SizesFit :=
  decidable_of_iff (∀ o ∈ c.windows, ∀ w ∈ o, w.width < 2 ^ 31 ∧ w.height < 2 ^ 31)
    ⟨fun h w hw => h _ hw w rfl, fun h _ ho w hw => h w (hw ▸ ho)⟩

/-! ## A stack of three windows -/

/-- An 8 × 8 screen over a black background. The shared buffer of window `id` is at address
`id`, and every pixel of a buffer is its address. -/
def stackEnv : Env :=
  ⟨8, 8, some fun _ => 0, true, fun ptr _ => UInt32.ofNat ptr, fun id _ => (id, id)⟩

/-- `n` bytes of `v`, little-endian. -/
def leEncode (v n : Nat) : List UInt8 := (List.range n).map fun i => UInt8.ofNat (v / 256 ^ i)

/-- A `CreateWindow` message, with reply endpoint 0. -/
def createWindowMsg (w h x y : Nat) : List UInt8 :=
  WindowMessageType.createWindow.toUInt8 ::
    (leEncode w 4 ++ leEncode h 4 ++ leEncode x 4 ++ leEncode y 4 ++ leEncode 0 8)

/-- An `UpdateWindow` message with an empty dirty rectangle. -/
def updateWindowMsg (id : Nat) : List UInt8 :=
  WindowMessageType.updateWindow.toUInt8 :: (leEncode id 8 ++ leEncode 0 16)

/-- Window 1 (6 × 6 at the origin) at the bottom, window 2 (3 × 3 at the origin) over it and
window 3 (3 × 3 at `(4, 4)`) on top, created in one iteration; an update of window 3 in the next. -/
def stackRun : List (List (List UInt8) × List (Int × Int)) :=
  [([createWindowMsg 6 6 0 0, createWindowMsg 3 3 0 0, createWindowMsg 3 3 4 4], []),
    ([updateWindowMsg 3], [])]


theorem paintOver_of_findSlot {env : Env} {windows : List (Option Window)} {id px py : Nat}
    {v : UInt32} {i : Nat} {w : Window} (h : findSlot windows id = some (i, w)) :
    paintOver env windows id px py v = if w.Covers px py then w.pixelAt env px py else v := by
  unfold paintOver
  rw [h]

theorem paintOver_of_findSlot_none {env : Env} {windows : List (Option Window)} {id px py : Nat}
    {v : UInt32} (h : findSlot windows id = none) : paintOver env windows id px py v = v := by
  unfold paintOver
  rw [h]

/-- `update_scene_full` makes every pixel of the screen the composite of `z_order[..n_windows]`
over the background, or over the scene before where there is no background. -/
theorem updateSceneFull_composite {env : Env} {c c' : Compositor} (hfit : c.SizesFit)
    (h : updateSceneFull env c = some c') {s : Nat → UInt32} (hs : c.scene = some s) :
    ∃ s', c' = { c with scene := some s' } ∧ ∀ px py, px < env.width → py < env.height →
      s' (py * env.width + px) =
        composite env c.windows c.zList (env.background.getD s (py * env.width + px)) px py := by
  unfold updateSceneFull at h
  rw [hs] at h
  dsimp only at h
  have hm : c.nWindows ≤ c.zOrder.length := by rw [c.zOrder_length]; exact c.nWindows_le
  have hrun := foldlM_paints env (fun px py => px < env.width ∧ py < env.height) _ ?step
    c.nWindows hm _ c' h
  case step =>
    -- each step paints the window `z_order[i]` over every pixel of the screen
    intro i s₁ c₁ hc₁
    split at hc₁
    · rename_i hnone
      cases hc₁
      exact ⟨s₁, rfl, fun px py _ => (paintOver_of_findSlot_none hnone).symm⟩
    · rename_i j w hslot
      have hw := hfit w (mem_of_findSlot hslot)
      obtain ⟨s', hc', hpix⟩ := blitWindow_some hc₁ rfl hw.1 hw.2
      refine ⟨s', by rw [hc', withScene_withScene], fun px py hp => ?_⟩
      rw [hpix px py hp.1 hp.2, paintOver_of_findSlot hslot]
  obtain ⟨s', rfl, hs'⟩ := hrun
  refine ⟨s', rfl, fun px py hpx hpy => ?_⟩
  rw [hs' px py ⟨hpx, hpy⟩]
  -- the background copy covers the whole screen
  congr 1
  cases env.background with
  | none => rfl
  | some bg => exact copyRange_whole s bg hpx hpy

/-- The stack of three windows after its first iteration. -/
theorem updateSceneFull_composite_sample :
    ∃ c c' s, run stackEnv (stackRun.take 1) = some c ∧ c.SizesFit ∧
      updateSceneFull stackEnv c = some c' ∧ c.scene = some s ∧
      ∃ s', c' = { c with scene := some s' } ∧ ∀ px py, px < stackEnv.width →
        py < stackEnv.height → s' (py * stackEnv.width + px) = composite stackEnv c.windows
          c.zList (stackEnv.background.getD s (py * stackEnv.width + px)) px py := by
  have h : ((run stackEnv (stackRun.take 1)).map fun c => decide c.SizesFit &&
      (updateSceneFull stackEnv c).isSome && c.scene.isSome) = some true := by
    decide +kernel
  obtain ⟨c, hc, hb⟩ := Option.map_eq_some_iff.mp h
  simp only [Bool.and_eq_true, decide_eq_true_eq, Option.isSome_iff_exists] at hb
  obtain ⟨⟨hfit, c', hc'⟩, s, hs⟩ := hb
  exact ⟨c, c', s, hc, hfit, hc', hs, updateSceneFull_composite hfit hc' hs⟩

/-- The window loop of `update_scene_region(damage)` paints every pixel of the damage as
`update_scene_full` does: a window it skips does not reach the damage, and one it re-blits is
painted whole. -/
theorem region_windows {env : Env} {c c' : Compositor} {d : DirtyRect} (hfit : c.SizesFit)
    (hx : u32AsI32 d.x = d.x) (hy : u32AsI32 d.y = d.y) (hw : u32AsI32 d.w = d.w)
    (hh : u32AsI32 d.h = d.h) (hdx : d.x + d.w ≤ env.width) (hdy : d.y + d.h ≤ env.height)
    {s₁ : Nat → UInt32}
    (h : (List.range c.nWindows).foldlM (fun c i =>
      match findSlot c.windows (c.zOrder.getD i 0) with
      | none => pure c
      | some (_, w) => do
        let wx1 ← addI32? w.x (u32AsI32 w.width)
        let wy1 ← addI32? w.y (u32AsI32 w.height)
        let dx1 ← addI32? (u32AsI32 d.x) (u32AsI32 d.w)
        let dy1 ← addI32? (u32AsI32 d.y) (u32AsI32 d.h)
        if w.x ≥ dx1 ∨ wx1 ≤ u32AsI32 d.x ∨ w.y ≥ dy1 ∨ wy1 ≤ u32AsI32 d.y then pure c
        else blitWindow env c w) { c with scene := some s₁ } = some c') :
    ∃ s', c' = { c with scene := some s' } ∧ ∀ px py, d.x ≤ px → px < d.x + d.w →
      d.y ≤ py → py < d.y + d.h →
      s' (py * env.width + px) = composite env c.windows c.zList (s₁ (py * env.width + px)) px py := by
  have hm : c.nWindows ≤ c.zOrder.length := by rw [c.zOrder_length]; exact c.nWindows_le
  have hrun := foldlM_paints env
    (fun px py => d.x ≤ px ∧ px < d.x + d.w ∧ d.y ≤ py ∧ py < d.y + d.h) _ ?step
    c.nWindows hm _ c' h
  case step =>
    intro i s₂ c₂ hc₂
    dsimp only at hc₂
    split at hc₂
    · rename_i hnone
      cases hc₂
      exact ⟨s₂, rfl, fun px py _ => (paintOver_of_findSlot_none hnone).symm⟩
    · rename_i j w hslot
      have hwin := hfit w (mem_of_findSlot hslot)
      have hww := u32AsI32_of_lt hwin.1
      have hwh := u32AsI32_of_lt hwin.2
      simp only [Option.bind_eq_bind, Option.bind_eq_some_iff] at hc₂
      obtain ⟨wx1, hwx1, wy1, hwy1, dx1, hdx1, dy1, hdy1, hc₂⟩ := hc₂
      obtain rfl := addI32?_eq_some hwx1
      obtain rfl := addI32?_eq_some hwy1
      obtain rfl := addI32?_eq_some hdx1
      obtain rfl := addI32?_eq_some hdy1
      split at hc₂
      · -- the window is skipped: it covers no pixel of the damage
        rename_i hskip
        cases hc₂
        refine ⟨s₂, rfl, fun px py hp => ?_⟩
        rw [paintOver_of_findSlot hslot, if_neg]
        intro hcov
        unfold Window.Covers at hcov
        rw [hx, hy, hw, hh, hww, hwh] at hskip
        omega
      · obtain ⟨s', hc', hpix⟩ := blitWindow_some hc₂ rfl hwin.1 hwin.2
        refine ⟨s', by rw [hc', withScene_withScene], fun px py hp => ?_⟩
        rw [hpix px py (by omega) (by omega), paintOver_of_findSlot hslot]
  obtain ⟨s', rfl, hs'⟩ := hrun
  exact ⟨s', rfl, fun px py h₁ h₂ h₃ h₄ => hs' px py ⟨h₁, h₂, h₃, h₄⟩⟩

/-- The background blit of `update_scene_region(damage)` puts the background's own pixel at every
pixel of the damage. -/
theorem region_background {env : Env} {c c₁ : Compositor} {d : DirtyRect} {bg : Nat → UInt32}
    {s : Nat → UInt32} (hs : c.scene = some s) (hx : u32AsI32 d.x = d.x)
    (hy : u32AsI32 d.y = d.y) (hw : u32AsI32 d.w = d.w) (hh : u32AsI32 d.h = d.h)
    (hc₁ : blitToScene env c (fun i => bg (d.y * env.width + d.x + i)) env.width
      (u32AsI32 d.x) (u32AsI32 d.y) d.w d.h = some c₁) :
    ∃ s₁, c₁ = { c with scene := some s₁ } ∧ ∀ px py, px < env.width → py < env.height →
      d.x ≤ px → px < d.x + d.w → d.y ≤ py → py < d.y + d.h →
      s₁ (py * env.width + px) = bg (py * env.width + px) := by
  obtain ⟨s₁, rfl, hpix⟩ := blitToScene_some hc₁ hs
  refine ⟨s₁, rfl, fun px py hpx hpy h₁ h₂ h₃ h₄ => ?_⟩
  rw [hpix px py hpx hpy, hx, hy, hw, hh, if_pos (by omega)]
  -- row `py - d.y` of the damage starts `(py - d.y) * width` after its first row
  have hrow : d.y * env.width + (py - d.y) * env.width = py * env.width := by
    rw [← Nat.add_mul, Nat.add_sub_cancel' h₃]
  have hpy' : (py - (d.y : Int)).toNat = py - d.y := by omega
  have hpx' : (px - (d.x : Int)).toNat = px - d.x := by omega
  rw [hpy', hpx']
  congr 1
  omega

/-- `update_scene_region(damage)` makes every pixel of the damage the composite of
`z_order[..n_windows]` over the background, or over the scene before where there is no
background. -/
theorem updateSceneRegion_inside {env : Env} {c c' : Compositor} {d : DirtyRect}
    (hfit : c.SizesFit) (hW : env.width < 2 ^ 31) (hH : env.height < 2 ^ 31)
    (hdx : d.x + d.w ≤ env.width) (hdy : d.y + d.h ≤ env.height)
    (h : updateSceneRegion env c d = some c') {s : Nat → UInt32} (hs : c.scene = some s) :
    ∃ s', c' = { c with scene := some s' } ∧ ∀ px py, d.x ≤ px → px < d.x + d.w →
      d.y ≤ py → py < d.y + d.h →
      s' (py * env.width + px) =
        composite env c.windows c.zList (env.background.getD s (py * env.width + px)) px py := by
  -- the damage is on the screen, so its numbers are the same as `i32`s
  have hx := u32AsI32_of_lt (show d.x < 2 ^ 31 by omega)
  have hy := u32AsI32_of_lt (show d.y < 2 ^ 31 by omega)
  have hw := u32AsI32_of_lt (show d.w < 2 ^ 31 by omega)
  have hh := u32AsI32_of_lt (show d.h < 2 ^ 31 by omega)
  unfold updateSceneRegion at h
  dsimp only at h
  split at h
  · rename_i bg hbg
    rw [Option.bind_eq_bind, Option.bind_eq_some_iff] at h
    obtain ⟨c₁, hc₁, h⟩ := h
    obtain ⟨s₁, rfl, hs₁⟩ := region_background hs hx hy hw hh hc₁
    obtain ⟨s', rfl, hs'⟩ := region_windows hfit hx hy hw hh hdx hdy h
    refine ⟨s', rfl, fun px py h₁ h₂ h₃ h₄ => ?_⟩
    rw [hs' px py h₁ h₂ h₃ h₄, hs₁ px py (by omega) (by omega) h₁ h₂ h₃ h₄, hbg]
    rfl
  · rename_i hbg
    rw [Option.bind_eq_bind, Option.pure_def, Option.bind_some, ← withScene_self hs] at h
    obtain ⟨s', rfl, hs'⟩ := region_windows hfit hx hy hw hh hdx hdy h
    refine ⟨s', withScene_withScene _ _ _, fun px py h₁ h₂ h₃ h₄ => ?_⟩
    rw [hs' px py h₁ h₂ h₃ h₄, hbg]
    rfl

/-- The damage of window 3, over the stack of three windows after its first iteration. -/
theorem updateSceneRegion_inside_sample :
    ∃ c c' s, run stackEnv (stackRun.take 1) = some c ∧ c.SizesFit ∧
      updateSceneRegion stackEnv c ⟨4, 4, 3, 3⟩ = some c' ∧ c.scene = some s ∧
      ∃ s', c' = { c with scene := some s' } ∧ ∀ px py, 4 ≤ px → px < 4 + 3 → 4 ≤ py →
        py < 4 + 3 → s' (py * stackEnv.width + px) = composite stackEnv c.windows c.zList
          (stackEnv.background.getD s (py * stackEnv.width + px)) px py := by
  have h : ((run stackEnv (stackRun.take 1)).map fun c => decide c.SizesFit &&
      (updateSceneRegion stackEnv c ⟨4, 4, 3, 3⟩).isSome && c.scene.isSome) = some true := by
    decide +kernel
  obtain ⟨c, hc, hb⟩ := Option.map_eq_some_iff.mp h
  simp only [Bool.and_eq_true, decide_eq_true_eq, Option.isSome_iff_exists] at hb
  obtain ⟨⟨hfit, c', hc'⟩, s, hs⟩ := hb
  exact ⟨c, c', s, hc, hfit, hc', hs,
    updateSceneRegion_inside hfit (by decide) (by decide) (by decide) (by decide) hc' hs⟩

/-! ## Outside the damage -/

/-- The damage of window 3 overlaps window 1, which is re-blitted whole over window 2; window 2
does not overlap the damage and is not re-blitted. Pixel `(1, 1)` is left showing window 1, where
window 2 is on top of it and `update_scene_full` shows window 2. -/
theorem incremental_scene_diverges :
    ∃ c c', run stackEnv stackRun = some c ∧ updateSceneFull stackEnv c = some c' ∧
      (c.scene.map fun s => s (1 * 8 + 1)) = some 1 ∧
      (c'.scene.map fun s => s (1 * 8 + 1)) = some 2 ∧
      composite stackEnv c.windows c.zList 0 1 1 = 2 := by
  have hrun : ((run stackEnv stackRun).bind fun c => (updateSceneFull stackEnv c).map fun c' =>
      ((c.scene.map fun s => s (1 * 8 + 1)), (c'.scene.map fun s => s (1 * 8 + 1)),
        composite stackEnv c.windows c.zList 0 1 1)) = some (some 1, some 2, 2) := by
    decide +kernel
  obtain ⟨c, hc, hfull⟩ := Option.bind_eq_some_iff.mp hrun
  obtain ⟨c', hc', hpix⟩ := Option.map_eq_some_iff.mp hfull
  simp only [Prod.mk.injEq] at hpix
  exact ⟨c, c', hc, hc', hpix.1, hpix.2.1, hpix.2.2⟩

end Compositor

end Bos.Display
