import Bos.Display.Scene

/-!
# Bos.Ulib.Surface

The two drawing targets of `ulib`: `Display` (`display.rs`), a back buffer in RAM presented to the
front buffer in VRAM, and `Window` (`window.rs`), the client's view of a window's shared buffer,
presented by sending its dirty rectangle to the display server. Both implement `DrawTarget`
(`draw_iter`, `fill_solid`) over a row-major `width × height` buffer and track the dirty
rectangle with `expand_dirty`; `Display` adds `blit_raw` and `blit_cursor`. What the two share is
a `Canvas`, and each of their methods is the canvas's on its own buffer. A write outside the
buffer (a panic of a slice index, or undefined behaviour through a raw pointer) and an overflow
of a checked `i32` or `u32` operation are `none`.

* `DirtyRect.expand_contains_iff`: `DirtyRect::expand` is the least rectangle containing both of
  its arguments.
* `Canvas.Tracks c c'`: every pixel whose value differs between `c` and `c'` is covered by the
  dirty rectangle of `c'`, which covers every pixel that of `c` did. Every drawing call keeps
  `Canvas.Inv` (the dirty rectangle lies on the buffer) and is tracked, and so is a whole run
  (`Display.run_tracks`, `Window.run_tracks`).
* `Display.present_spec`: `present` copies exactly the pixels of the dirty rectangle, inside
  both buffers, and clears it; after a run from a state whose front buffer shows its back
  buffer, `present` makes the front buffer show the back buffer again (`Display.present_syncs`).
-/

namespace Bos.Display

namespace DirtyRect

/-- Pixel `(px, py)` lies in the rectangle. -/
def Mem (r : DirtyRect) (px py : Nat) : Prop :=
  r.x ≤ px ∧ px < r.x + r.w ∧ r.y ≤ py ∧ py < r.y + r.h

/-- `r` contains `a`: each span of `a` lies in that of `r`. -/
def Contains (r a : DirtyRect) : Prop :=
  r.x ≤ a.x ∧ a.x + a.w ≤ r.x + r.w ∧ r.y ≤ a.y ∧ a.y + a.h ≤ r.y + r.h

theorem Contains.mem {r a : DirtyRect} (h : r.Contains a) {px py : Nat} (hp : a.Mem px py) :
    r.Mem px py := by
  unfold Contains at h
  unfold Mem at hp ⊢
  omega

/-- When its four `u32` sums fit, `expand` returns the least rectangle containing both of its
arguments: a rectangle contains the result exactly when it contains both. -/
theorem expand_contains_iff {d : DirtyRect} {x y w h : Nat}
    (hd : d.x + d.w < 2 ^ 32 ∧ d.y + d.h < 2 ^ 32) (ha : x + w < 2 ^ 32 ∧ y + h < 2 ^ 32) :
    ∃ r, d.expand x y w h = some r ∧
      ∀ r' : DirtyRect, r'.Contains r ↔ r'.Contains d ∧ r'.Contains ⟨x, y, w, h⟩ := by
  refine ⟨⟨min d.x x, min d.y y, max (x + w) (d.x + d.w) - min d.x x,
    max (y + h) (d.y + d.h) - min d.y y⟩, ?_, fun r' => ?_⟩
  · unfold expand addU32?
    rw [if_pos hd.1, if_pos hd.2, if_pos ha.1, if_pos ha.2]
    rfl
  · unfold Contains
    dsimp only
    omega

example : DirtyRect.expand ⟨5, 5, 5, 5⟩ 0 0 15 15 = some ⟨0, 0, 15, 15⟩ ∧
    DirtyRect.expand ⟨0, 0, 5, 5⟩ 10 10 5 5 = some ⟨0, 0, 15, 15⟩ := by
  decide

end DirtyRect

end Bos.Display

namespace Bos.Ulib

open Bos.Display ArrayOps

/-- An `Rgb888` colour of `embedded_graphics`. -/
structure Rgb888 where
  r : UInt8
  g : UInt8
  b : UInt8

/-- `a * b` on `u32`. -/
def mulU32? (a b : Nat) : Option Nat := if a * b < 2 ^ 32 then some (a * b) else none

/-- `v as u32` for an `i32`. -/
def i32AsU32 (v : Int) : Nat := if v < 0 then (v + 2 ^ 32).toNat else v.toNat

/-- What `Display` and `Window` share: the buffer (`back_buffer`, or the shared buffer of a
window), its size, the display's pixel format (`info.build_pixel`) and the dirty rectangle. -/
structure Canvas where
  buffer : Nat → UInt32
  width : Nat
  height : Nat
  buildPixel : Rgb888 → UInt32
  dirty : Option DirtyRect

namespace Canvas

/-- `expand_dirty(x, y, w, h)`. -/
def expandDirty (c : Canvas) (x y w h : Nat) : Option Canvas :=
  match c.dirty with
  | some d => do
    let d ← d.expand x y w h
    pure { c with dirty := some d }
  | none => some { c with dirty := some ⟨x, y, w, h⟩ }

/-- `buffer[offset] = v`. -/
def write (c : Canvas) (offset : Nat) (v : UInt32) : Option Canvas :=
  if offset < c.width * c.height then some { c with buffer := Function.update c.buffer offset v }
  else none

/-- One `Pixel(point, color)` of `draw_iter`: skipped off the buffer, else written and added to
the dirty rectangle. -/
def drawPixel (c : Canvas) (p : (Int × Int) × Rgb888) : Option Canvas :=
  if p.1.1 < 0 ∨ p.1.2 < 0 ∨ p.1.1 ≥ u32AsI32 c.width ∨ p.1.2 ≥ u32AsI32 c.height then some c
  else do
    let c ← c.write (p.1.2.toNat * c.width + p.1.1.toNat) (c.buildPixel p.2)
    c.expandDirty p.1.1.toNat p.1.2.toNat 1 1

def drawIter (c : Canvas) (pixels : List ((Int × Int) × Rgb888)) : Option Canvas :=
  pixels.foldlM drawPixel c

/-- `fill_solid(Rectangle { top_left: (x, y), size: (w, h) }, color)`: the part of the rectangle
on the buffer, filled row by row and added to the dirty rectangle. -/
def fillSolid (c : Canvas) (x y : Int) (w h : Nat) (color : Rgb888) : Option Canvas := do
  let pixel := c.buildPixel color
  let x0 := min (max x 0).toNat c.width
  let y0 := min (max y 0).toNat c.height
  let x1 := min (max (← addI32? x (u32AsI32 w)) 0).toNat c.width
  let y1 := min (max (← addI32? y (u32AsI32 h)) 0).toNat c.height
  if x0 ≥ x1 ∨ y0 ≥ y1 then return c
  let buffer ← (List.range' y0 (y1 - y0)).foldlM (fun buffer y =>
    copyRange? buffer (fun _ => pixel) (c.width * c.height) 0 (y * c.width + x0) (x1 - x0)) c.buffer
  { c with buffer }.expandDirty x0 y0 (x1 - x0) (y1 - y0)

/-- `blit_raw(src, src_width, dst_x, dst_y, w, h)`: the part on the buffer of a `w × h` image whose
rows are `src_width` apart, copied row by row and added to the dirty rectangle. -/
def blitRaw (c : Canvas) (src : Nat → UInt32) (srcWidth : Nat) (dstX dstY : Int) (w h : Nat) :
    Option Canvas := do
  let x0 := (max dstX 0).toNat
  let y0 := (max dstY 0).toNat
  let x1 := min (max (← addI32? dstX (u32AsI32 w)) 0).toNat c.width
  let y1 := min (max (← addI32? dstY (u32AsI32 h)) 0).toNat c.height
  if x0 ≥ x1 ∨ y0 ≥ y1 then return c
  let clippedW := x1 - x0
  -- `x0 as i32 - dst_x` is never negative, so its `as u32` is exact
  let srcXOff := (← subI32? x0 dstX).toNat
  let srcYOff := (← subI32? y0 dstY).toNat
  let buffer ← (List.range (y1 - y0)).foldlM (fun buffer row => do
    let srcOffset ← addU32? (← mulU32? (← addU32? srcYOff row) srcWidth) srcXOff
    copyRange? buffer src (c.width * c.height) srcOffset ((y0 + row) * c.width + x0) clippedW)
    c.buffer
  { c with buffer }.expandDirty x0 y0 clippedW (y1 - y0)

/-- The shift of `row_mask >> (15 - col)`, which overflows (and panics) past column 15. -/
def cursorShift (col : Nat) : Option Nat := if col ≤ 15 then some (15 - col) else none

/-- Column `col` of a row of the cursor sprite drawn at screen row `sy`: written, black or white,
when the mask makes it opaque and it is on the buffer (`sw` is `width as i32`). -/
def cursorPixel (cx sw sy : Int) (rowMask rowImage : UInt16) (black white : UInt32) (c : Canvas)
    (col : Nat) : Option Canvas := do
  let shift ← cursorShift col
  if (rowMask >>> shift.toUInt16) &&& 1 = 0 then pure c else do
  let sx ← addI32? cx col
  if sx < 0 ∨ sx ≥ sw then pure c else
  let pixel := if (rowImage >>> shift.toUInt16) &&& 1 = 1 then white else black
  c.write (sy.toNat * c.width + sx.toNat) pixel

/-- Row `row` of the cursor sprite: skipped off the buffer, else drawn column by column. -/
def cursorRow (cx cy sw sh : Int) (mask image : List UInt16) (w : Nat) (black white : UInt32)
    (c : Canvas) (row : Nat) : Option Canvas := do
  let sy ← addI32? cy row
  if sy < 0 ∨ sy ≥ sh then pure c else do
  let rowMask ← mask[row]?
  let rowImage ← image[row]?
  (List.range (u32AsI32 w).toNat).foldlM (cursorPixel cx sw sy rowMask rowImage black white) c

/-- `blit_cursor(cx, cy, mask, image, w, h, black, white)`: the clipped bounding rectangle is
added to the dirty rectangle first; then the sprite is drawn row by row. -/
def blitCursor (c : Canvas) (cx cy : Int) (mask image : List UInt16) (w h : Nat)
    (black white : UInt32) : Option Canvas := do
  let sw := u32AsI32 c.width
  let sh := u32AsI32 c.height
  let x0 := (max cx 0).toNat
  let y0 := (max cy 0).toNat
  let x1 := i32AsU32 (min (max (← addI32? cx (u32AsI32 w)) 0) sw)
  let y1 := i32AsU32 (min (max (← addI32? cy (u32AsI32 h)) 0) sh)
  let c ← if x0 < x1 ∧ y0 < y1 then c.expandDirty x0 y0 (x1 - x0) (y1 - y0) else pure c
  (List.range (u32AsI32 h).toNat).foldlM (cursorRow cx cy sw sh mask image w black white) c

/-! ## The dirty rectangle tracks the buffer -/

/-- The dirty rectangle lies on the buffer, whose sides are `u32`s. -/
structure Inv (c : Canvas) : Prop where
  width_lt : c.width < 2 ^ 32
  height_lt : c.height < 2 ^ 32
  dirty_inside : ∀ r, c.dirty = some r → r.x + r.w ≤ c.width ∧ r.y + r.h ≤ c.height

/-- Pixel `(px, py)` is in the dirty rectangle. -/
def Covers (c : Canvas) (px py : Nat) : Prop := ∃ r, c.dirty = some r ∧ r.Mem px py

/-- From `c` to `c'`: the size is kept, the dirty rectangle of `c'` covers every pixel that of `c`
did and every pixel whose value changed, and nothing past the buffer changed. -/
structure Tracks (c c' : Canvas) : Prop where
  width_eq : c'.width = c.width
  height_eq : c'.height = c.height
  covers : ∀ px py, c.Covers px py → c'.Covers px py
  changed : ∀ px py, px < c.width → py < c.height →
    c'.buffer (py * c.width + px) ≠ c.buffer (py * c.width + px) → c'.Covers px py
  outside : ∀ i, c.width * c.height ≤ i → c'.buffer i = c.buffer i

theorem Tracks.refl (c : Canvas) : Tracks c c :=
  ⟨rfl, rfl, fun _ _ h => h, fun _ _ _ _ h => absurd rfl h, fun _ _ => rfl⟩

theorem Tracks.trans {c c' c'' : Canvas} (h₁ : Tracks c c') (h₂ : Tracks c' c'') : Tracks c c'' where
  width_eq := h₂.width_eq.trans h₁.width_eq
  height_eq := h₂.height_eq.trans h₁.height_eq
  covers px py h := h₂.covers px py (h₁.covers px py h)
  changed px py hx hy hne := by
    by_cases h' : c'.buffer (py * c.width + px) = c.buffer (py * c.width + px)
    · have hne' : c''.buffer (py * c'.width + px) ≠ c'.buffer (py * c'.width + px) := by
        rw [h₁.width_eq, h']
        exact hne
      exact h₂.changed px py (by rw [h₁.width_eq]; exact hx) (by rw [h₁.height_eq]; exact hy) hne'
    · exact h₂.covers px py (h₁.changed px py hx hy h')
  outside i hi := by
    rw [h₂.outside i (by rw [h₁.width_eq, h₁.height_eq]; exact hi), h₁.outside i hi]

/-- From `b` to `b'` only pixels of `R` changed, in an image `W` wide. -/
def ChangesIn (W : Nat) (R : DirtyRect) (b b' : Nat → UInt32) : Prop :=
  ∀ i, b' i ≠ b i → ∃ px py, i = py * W + px ∧ R.Mem px py

theorem ChangesIn.refl (W : Nat) (R : DirtyRect) (b : Nat → UInt32) : ChangesIn W R b b :=
  fun _ h => absurd rfl h

theorem ChangesIn.trans {W : Nat} {R : DirtyRect} {b b' b'' : Nat → UInt32}
    (h₁ : ChangesIn W R b b') (h₂ : ChangesIn W R b' b'') : ChangesIn W R b b'' := by
  intro i hi
  by_cases h : b' i = b i
  · exact h₂ i (by rw [h]; exact hi)
  · exact h₁ i h

/-- `expand_dirty` of a rectangle on the buffer returns, with a rectangle on the buffer that
contains it and the old one. -/
theorem expandDirty_eq {c : Canvas} (hc : c.Inv) {R : DirtyRect}
    (hR : R.x + R.w ≤ c.width ∧ R.y + R.h ≤ c.height) :
    ∃ r, c.expandDirty R.x R.y R.w R.h = some { c with dirty := some r } ∧ r.Contains R ∧
      (∀ d, c.dirty = some d → r.Contains d) ∧ r.x + r.w ≤ c.width ∧ r.y + r.h ≤ c.height := by
  unfold expandDirty
  cases hd : c.dirty with
  | none =>
    refine ⟨R, rfl, ?_, (fun d h => by cases h), hR⟩
    unfold DirtyRect.Contains
    omega
  | some d =>
    have hdin := hc.dirty_inside d hd
    have hw := hc.width_lt
    have hh := hc.height_lt
    obtain ⟨r, hr, hiff⟩ := DirtyRect.expand_contains_iff (d := d) (x := R.x) (y := R.y) (w := R.w)
      (h := R.h) ⟨by omega, by omega⟩ ⟨by omega, by omega⟩
    have hself := (hiff r).mp (by unfold DirtyRect.Contains; omega)
    -- the whole buffer contains both, so it contains their bounding rectangle
    have hscreen := (hiff ⟨0, 0, c.width, c.height⟩).mpr
      ⟨by unfold DirtyRect.Contains; dsimp only; omega, by unfold DirtyRect.Contains; dsimp only; omega⟩
    refine ⟨r, by dsimp only; rw [hr]; rfl, hself.2, fun d' h => ?_, ?_⟩
    · cases h
      exact hself.1
    · unfold DirtyRect.Contains at hscreen
      dsimp only at hscreen
      omega

theorem inv_withBuffer {c : Canvas} (hc : c.Inv) (b : Nat → UInt32) : { c with buffer := b }.Inv :=
  ⟨hc.width_lt, hc.height_lt, hc.dirty_inside⟩

/-- A call that changes the buffer only at pixels of a rectangle `R` on it, and then adds `R` to
the dirty rectangle, keeps the invariant and is tracked. -/
theorem expandDirty_tracks {c : Canvas} (hc : c.Inv) {b : Nat → UInt32} {R : DirtyRect}
    (hR : R.x + R.w ≤ c.width ∧ R.y + R.h ≤ c.height) (hb : ChangesIn c.width R c.buffer b) :
    ∃ c', { c with buffer := b }.expandDirty R.x R.y R.w R.h = some c' ∧ c'.Inv ∧ Tracks c c' ∧
      ∀ px py, R.Mem px py → c'.Covers px py := by
  obtain ⟨r, hr, hR', hold, hrx, hry⟩ := expandDirty_eq (inv_withBuffer hc b) hR
  refine ⟨_, hr, ⟨hc.width_lt, hc.height_lt, fun r' h => ?_⟩, ⟨rfl, rfl, ?_, ?_, ?_⟩,
    fun px py hmem => ⟨r, rfl, hR'.mem hmem⟩⟩
  · cases h
    exact ⟨hrx, hry⟩
  · rintro px py ⟨d, hd, hmem⟩
    exact ⟨r, rfl, (hold d hd).mem hmem⟩
  · intro px py hpx hpy hne
    obtain ⟨qx, qy, hq, hmem⟩ := hb _ hne
    have hqx : qx < c.width := by unfold DirtyRect.Mem at hmem; omega
    obtain ⟨rfl, rfl⟩ := row_major_inj hpx hqx hq
    exact ⟨r, rfl, hR'.mem hmem⟩
  · intro i hi
    by_contra hne
    obtain ⟨qx, qy, rfl, hmem⟩ := hb i hne
    unfold DirtyRect.Mem at hmem
    have : qy * c.width + qx < c.width * c.height := row_major_lt (by omega) (by omega)
    omega

theorem write_of_lt {c : Canvas} {offset : Nat} (h : offset < c.width * c.height) (v : UInt32) :
    c.write offset v = some { c with buffer := Function.update c.buffer offset v } := by
  unfold write
  rw [if_pos h]

theorem changesIn_update {W px py : Nat} (b : Nat → UInt32) (v : UInt32) :
    ChangesIn W ⟨px, py, 1, 1⟩ b (Function.update b (py * W + px) v) := by
  intro i hi
  by_cases h : i = py * W + px
  · refine ⟨px, py, h, ?_⟩
    unfold DirtyRect.Mem
    dsimp only
    omega
  · rw [Function.update_of_ne h] at hi
    exact absurd rfl hi

/-- `draw_iter` writes a pixel only when it is on the buffer, so it never panics. -/
theorem drawPixel_spec {c : Canvas} (hc : c.Inv) (p : (Int × Int) × Rgb888) :
    ∃ c', drawPixel c p = some c' ∧ c'.Inv ∧ Tracks c c' := by
  unfold drawPixel
  split
  · exact ⟨c, rfl, hc, Tracks.refl c⟩
  · rename_i hon
    -- on the buffer: `0 ≤ x < width` as `i32`s, so the width is below `2^31`
    have hx : p.1.1.toNat < c.width := by unfold u32AsI32 at hon; split at hon <;> omega
    have hy : p.1.2.toNat < c.height := by unfold u32AsI32 at hon; split at hon <;> omega
    obtain ⟨c', hc', hinv, htr, -⟩ := expandDirty_tracks hc (R := ⟨p.1.1.toNat, p.1.2.toNat, 1, 1⟩)
      ⟨by dsimp only; omega, by dsimp only; omega⟩ (changesIn_update c.buffer (c.buildPixel p.2))
    refine ⟨c', ?_, hinv, htr⟩
    rw [write_of_lt (row_major_lt hx hy)]
    exact hc'

theorem drawIter_spec {c : Canvas} (hc : c.Inv) (pixels : List ((Int × Int) × Rgb888)) :
    ∃ c', c.drawIter pixels = some c' ∧ c'.Inv ∧ Tracks c c' := by
  obtain ⟨c', h, hinv, htr⟩ := foldlM_exists (fun c' => c'.Inv ∧ Tracks c c')
    (fun c₁ p _ ⟨hinv₁, htr₁⟩ => by
      obtain ⟨c₂, h₂, hinv₂, htr₂⟩ := drawPixel_spec hinv₁ p
      exact ⟨c₂, h₂, hinv₂, htr₁.trans htr₂⟩) c ⟨hc, Tracks.refl c⟩
  exact ⟨c', h, hinv, htr⟩

/-! ## Rows and rectangles -/

/-- A row segment copied at row `y` of the rectangle changes only pixels of the rectangle. -/
theorem changesIn_copyRange? {W x0 y0 n m y len srcOff : Nat} {b b' src : Nat → UInt32}
    (hy : y0 ≤ y ∧ y < y0 + m) (h : copyRange? b src len srcOff (y * W + x0) n = some b') :
    ChangesIn W ⟨x0, y0, n, m⟩ b b' := by
  obtain ⟨-, rfl⟩ := copyRange?_eq_some h
  intro i hi
  by_cases hin : y * W + x0 ≤ i ∧ i < y * W + x0 + n
  · refine ⟨x0 + (i - (y * W + x0)), y, by omega, ?_⟩
    unfold DirtyRect.Mem
    dsimp only
    omega
  · exact absurd (copyRange_of_not_mem b src hin) hi

theorem foldlM_changesIn {β : Type} {W : Nat} {R : DirtyRect} {l : List β}
    {f : (Nat → UInt32) → β → Option (Nat → UInt32)}
    (hf : ∀ b a b', a ∈ l → f b a = some b' → ChangesIn W R b b') {b b' : Nat → UInt32}
    (h : l.foldlM f b = some b') : ChangesIn W R b b' :=
  foldlM_induction (fun b' => ChangesIn W R b b')
    (fun _ a _ ha h₁ h₂ => h₁.trans (hf _ a _ ha h₂)) b b' (ChangesIn.refl W R b) h

/-- `fill_solid` fills the rectangle clamped to the buffer and adds it to the dirty rectangle. -/
theorem fillSolid_spec {c c' : Canvas} (hc : c.Inv) {x y : Int} {w h : Nat} {color : Rgb888}
    (hf : c.fillSolid x y w h color = some c') : c'.Inv ∧ Tracks c c' := by
  unfold fillSolid at hf
  simp only [Option.bind_eq_bind, Option.bind_eq_some_iff] at hf
  obtain ⟨x1, -, y1, -, hf⟩ := hf
  split at hf
  · cases hf
    exact ⟨hc, Tracks.refl c⟩
  · rename_i hclip
    obtain ⟨b, hb, hexp⟩ := Option.bind_eq_some_iff.mp hf
    have hrows := foldlM_changesIn (fun b y b' hy hrow =>
      changesIn_copyRange? (by rw [List.mem_range'_1] at hy; omega) hrow) hb
    obtain ⟨c'', hc'', hinv, htr, -⟩ := expandDirty_tracks hc (by dsimp only; omega) hrows
    rw [hc''] at hexp
    cases hexp
    exact ⟨hinv, htr⟩

/-- `blit_raw` copies the rows of the part of the image on the buffer and adds that part to the
dirty rectangle. -/
theorem blitRaw_spec {c c' : Canvas} (hc : c.Inv) {src : Nat → UInt32} {srcWidth : Nat}
    {dstX dstY : Int} {w h : Nat} (hf : c.blitRaw src srcWidth dstX dstY w h = some c') :
    c'.Inv ∧ Tracks c c' := by
  unfold blitRaw at hf
  simp only [Option.bind_eq_bind, Option.bind_eq_some_iff] at hf
  obtain ⟨x1, -, y1, -, hf⟩ := hf
  split at hf
  · cases hf
    exact ⟨hc, Tracks.refl c⟩
  · rename_i hclip
    simp only [Option.bind_eq_some_iff] at hf
    obtain ⟨sx, -, sy, -, b, hb, hexp⟩ := hf
    have hrows : ChangesIn c.width ⟨(max dstX 0).toNat, (max dstY 0).toNat,
        min (max x1 0).toNat c.width - (max dstX 0).toNat,
        min (max y1 0).toNat c.height - (max dstY 0).toNat⟩ c.buffer b :=
      foldlM_changesIn (fun b row b' hrow hstep => by
        simp only [Option.bind_eq_some_iff] at hstep
        obtain ⟨_, -, _, -, _, -, hcopy⟩ := hstep
        rw [List.mem_range] at hrow
        exact changesIn_copyRange? (by omega) hcopy) hb
    obtain ⟨c'', hc'', hinv, htr, -⟩ := expandDirty_tracks hc (by dsimp only; omega) hrows
    rw [hc''] at hexp
    cases hexp
    exact ⟨hinv, htr⟩

/-! ## The cursor sprite -/

/-- From `c` to `c'` only the buffer changed, and only at offsets of `S`. -/
structure WritesIn (S : Nat → Prop) (c c' : Canvas) : Prop where
  width_eq : c'.width = c.width
  height_eq : c'.height = c.height
  dirty_eq : c'.dirty = c.dirty
  buffer : ∀ i, c'.buffer i ≠ c.buffer i → S i

theorem WritesIn.refl (S : Nat → Prop) (c : Canvas) : WritesIn S c c :=
  ⟨rfl, rfl, rfl, fun _ h => absurd rfl h⟩

theorem WritesIn.trans {S : Nat → Prop} {c c' c'' : Canvas} (h₁ : WritesIn S c c')
    (h₂ : WritesIn S c' c'') : WritesIn S c c'' where
  width_eq := h₂.width_eq.trans h₁.width_eq
  height_eq := h₂.height_eq.trans h₁.height_eq
  dirty_eq := h₂.dirty_eq.trans h₁.dirty_eq
  buffer i hi := by
    by_cases h : c'.buffer i = c.buffer i
    · exact h₂.buffer i (by rw [h]; exact hi)
    · exact h₁.buffer i h

theorem WritesIn.mono {S S' : Nat → Prop} {c c' : Canvas} (h : WritesIn S c c')
    (hS : ∀ i, S i → S' i) : WritesIn S' c c' :=
  ⟨h.width_eq, h.height_eq, h.dirty_eq, fun i hi => hS i (h.buffer i hi)⟩

/-- Writes at pixels that the dirty rectangle already covers are tracked. -/
theorem WritesIn.tracks {S : Nat → Prop} {c c' : Canvas} (hc : c.Inv) (h : WritesIn S c c')
    (hS : ∀ i, S i → ∃ px py, i = py * c.width + px ∧ c.Covers px py) : c'.Inv ∧ Tracks c c' := by
  have hinside : ∀ px py, c.Covers px py → px < c.width ∧ py < c.height := by
    rintro px py ⟨r, hr, hmem⟩
    have := hc.dirty_inside r hr
    unfold DirtyRect.Mem at hmem
    omega
  refine ⟨⟨h.width_eq ▸ hc.width_lt, h.height_eq ▸ hc.height_lt, ?_⟩,
    ⟨h.width_eq, h.height_eq, ?_, ?_, ?_⟩⟩
  · intro r hr
    rw [h.width_eq, h.height_eq]
    exact hc.dirty_inside r (h.dirty_eq ▸ hr)
  · intro px py hcov
    unfold Covers
    rw [h.dirty_eq]
    exact hcov
  · intro px py hpx hpy hne
    obtain ⟨qx, qy, hq, hcov⟩ := hS _ (h.buffer _ hne)
    obtain ⟨rfl, rfl⟩ := row_major_inj hpx (hinside qx qy hcov).1 hq
    unfold Covers
    rw [h.dirty_eq]
    exact hcov
  · intro i hi
    by_contra hne
    obtain ⟨qx, qy, rfl, hcov⟩ := hS i (h.buffer i hne)
    have := row_major_lt (hinside qx qy hcov).1 (hinside qx qy hcov).2
    omega

theorem write_eq_some {c c' : Canvas} {offset : Nat} {v : UInt32} (h : c.write offset v = some c') :
    c' = { c with buffer := Function.update c.buffer offset v } := by
  unfold write at h
  split at h
  · exact (Option.some.inj h).symm
  · cases h

/-- A column of the sprite writes at most its own pixel, and only when it is on the buffer. -/
theorem cursorPixel_writesIn {cx sw sy : Int} {rowMask rowImage : UInt16} {black white : UInt32}
    {c c' : Canvas} {col : Nat}
    (hstep : cursorPixel cx sw sy rowMask rowImage black white c col = some c') :
    WritesIn (fun i => 0 ≤ cx + col ∧ cx + col < sw ∧ i = sy.toNat * c.width + (cx + col).toNat)
      c c' := by
  unfold cursorPixel at hstep
  simp only [Option.bind_eq_bind, Option.bind_eq_some_iff] at hstep
  obtain ⟨shift, -, hstep⟩ := hstep
  split at hstep
  · cases hstep
    exact WritesIn.refl _ c
  · obtain ⟨sx, hsx, hstep⟩ := Option.bind_eq_some_iff.mp hstep
    rw [Compositor.addI32?_eq_some hsx] at hstep
    split at hstep
    · cases hstep
      exact WritesIn.refl _ c
    · rename_i hon
      rw [write_eq_some hstep]
      refine ⟨rfl, rfl, rfl, fun i hi => ⟨by omega, by omega, ?_⟩⟩
      by_contra hne
      exact hi (Function.update_of_ne hne _ _)

/-- A row of the sprite writes only pixels of that row that are on the buffer. -/
theorem cursorRow_writesIn {cx cy sw sh : Int} {mask image : List UInt16} {w : Nat}
    {black white : UInt32} {c c' : Canvas} {row : Nat}
    (hstep : cursorRow cx cy sw sh mask image w black white c row = some c') :
    WritesIn (fun i => ∃ col, col < (u32AsI32 w).toNat ∧ 0 ≤ cx + col ∧ cx + col < sw ∧
      0 ≤ cy + row ∧ cy + row < sh ∧ i = (cy + row).toNat * c.width + (cx + col).toNat) c c' := by
  unfold cursorRow at hstep
  simp only [Option.bind_eq_bind, Option.bind_eq_some_iff] at hstep
  obtain ⟨sy, hsy, hstep⟩ := hstep
  rw [Compositor.addI32?_eq_some hsy] at hstep
  split at hstep
  · cases hstep
    exact WritesIn.refl _ c
  · rename_i hon
    simp only [Option.bind_eq_some_iff] at hstep
    obtain ⟨rowMask, -, rowImage, -, hloop⟩ := hstep
    refine foldlM_induction (fun c'' => WritesIn _ c c'') (fun c₁ col c₂ hcol h₁ h₂ => ?_) c c'
      (WritesIn.refl _ c) hloop
    refine h₁.trans ((cursorPixel_writesIn h₂).mono fun i ⟨h₃, h₄, h₅⟩ => ?_)
    rw [List.mem_range] at hcol
    rw [h₁.width_eq] at h₅
    exact ⟨col, hcol, h₃, h₄, by omega, by omega, h₅⟩

/-- The clipped end of a span of the sprite, `((c + n).max(0)).min(s) as u32` with `s` the side
of the buffer as an `i32`, is at most that side. -/
theorem i32AsU32_clamp_le {v : Int} {W : Nat} (hW : W < 2 ^ 32) :
    i32AsU32 (min (max v 0) (u32AsI32 W)) ≤ W := by
  unfold i32AsU32 u32AsI32
  split_ifs <;> omega

/-- A pixel `c + k` of the sprite that is on the buffer lies in the clipped span of
`blit_cursor`. -/
theorem cursor_span {c n s : Int} {k : Nat} (hk : (k : Int) < n) (h0 : 0 ≤ c + k) (hs : c + k < s) :
    (max c 0).toNat ≤ (c + k).toNat ∧ (c + k).toNat < i32AsU32 (min (max (c + n) 0) s) := by
  unfold i32AsU32
  rw [if_neg (by omega)]
  omega

/-- `blit_cursor` adds the clipped bounding rectangle of the sprite to the dirty rectangle before
it writes any pixel, and writes only pixels of that rectangle. -/
theorem blitCursor_spec {c c' : Canvas} (hc : c.Inv) {cx cy : Int} {mask image : List UInt16}
    {w h : Nat} {black white : UInt32}
    (hf : c.blitCursor cx cy mask image w h black white = some c') : c'.Inv ∧ Tracks c c' := by
  unfold blitCursor at hf
  simp only [Option.bind_eq_bind, Option.bind_eq_some_iff] at hf
  obtain ⟨xe, hxe, ye, hye, hf⟩ := hf
  rw [Compositor.addI32?_eq_some hxe, Compositor.addI32?_eq_some hye] at hf
  -- the clipped bounding rectangle, on the buffer
  have hX := i32AsU32_clamp_le (v := cx + u32AsI32 w) hc.width_lt
  have hY := i32AsU32_clamp_le (v := cy + u32AsI32 h) hc.height_lt
  let R : DirtyRect := ⟨(max cx 0).toNat, (max cy 0).toNat,
    i32AsU32 (min (max (cx + u32AsI32 w) 0) (u32AsI32 c.width)) - (max cx 0).toNat,
    i32AsU32 (min (max (cy + u32AsI32 h) 0) (u32AsI32 c.height)) - (max cy 0).toNat⟩
  obtain ⟨c₁, hinv₁, htr₁, hcov₁, hloop⟩ : ∃ c₁, c₁.Inv ∧ Tracks c c₁ ∧
      (∀ px py, R.Mem px py → c₁.Covers px py) ∧
      (List.range (u32AsI32 h).toNat).foldlM
        (cursorRow cx cy (u32AsI32 c.width) (u32AsI32 c.height) mask image w black white) c₁ =
        some c' := by
    split at hf
    · obtain ⟨c₁, hc₁, hloop⟩ := Option.bind_eq_some_iff.mp hf
      obtain ⟨c'', hc'', hinv, htr, hcov⟩ := expandDirty_tracks hc (b := c.buffer) (R := R)
        (by dsimp only [R]; omega) (ChangesIn.refl _ _ _)
      -- the buffer is the one `c` has
      have hexp : c.expandDirty _ _ _ _ = some c'' := hc''
      rw [hexp] at hc₁
      cases hc₁
      exact ⟨_, hinv, htr, hcov, hloop⟩
    · rename_i hempty
      refine ⟨c, hc, Tracks.refl c, fun px py hmem => ?_, hf⟩
      unfold DirtyRect.Mem at hmem
      dsimp only [R] at hmem
      omega
  have hwrites := foldlM_induction (fun c'' => WritesIn (fun i => ∃ row col,
      row < (u32AsI32 h).toNat ∧ col < (u32AsI32 w).toNat ∧ 0 ≤ cx + col ∧
      cx + col < u32AsI32 c.width ∧ 0 ≤ cy + row ∧ cy + row < u32AsI32 c.height ∧
      i = (cy + row).toNat * c₁.width + (cx + col).toNat) c₁ c'')
    (fun c₂ row c₃ hrow h₂ h₃ => h₂.trans ((cursorRow_writesIn h₃).mono fun i ⟨col, hcol, hi⟩ => by
      rw [List.mem_range] at hrow
      rw [h₂.width_eq] at hi
      exact ⟨row, col, hrow, hcol, hi⟩)) c₁ c' (WritesIn.refl _ c₁) hloop
  obtain ⟨hinv', htr'⟩ := hwrites.tracks hinv₁ fun i ⟨row, col, hrow, hcol, h₁, h₂, h₃, h₄, hi⟩ => by
    have hx := cursor_span (n := u32AsI32 w) (by omega) h₁ h₂
    have hy := cursor_span (n := u32AsI32 h) (by omega) h₃ h₄
    refine ⟨(cx + col).toNat, (cy + row).toNat, hi, hcov₁ _ _ ?_⟩
    unfold DirtyRect.Mem
    dsimp only [R]
    omega
  exact ⟨hinv', htr₁.trans htr'⟩

end Canvas

/-- A call of the `DrawTarget` interface. -/
inductive DrawCall where
  | drawIter (pixels : List ((Int × Int) × Rgb888))
  | fillSolid (x y : Int) (w h : Nat) (color : Rgb888)

def DrawCall.apply (c : Canvas) : DrawCall → Option Canvas
  | .drawIter pixels => c.drawIter pixels
  | .fillSolid x y w h color => c.fillSolid x y w h color

theorem DrawCall.apply_spec {c c' : Canvas} (hc : c.Inv) (call : DrawCall)
    (h : call.apply c = some c') : c'.Inv ∧ Canvas.Tracks c c' := by
  cases call with
  | drawIter pixels =>
    obtain ⟨c'', h', hinv, htr⟩ := Canvas.drawIter_spec hc pixels
    rw [DrawCall.apply, h'] at h
    cases h
    exact ⟨hinv, htr⟩
  | fillSolid x y w h color => exact Canvas.fillSolid_spec hc h

/-! ## `Display` -/

/-- `Display`: the back buffer with its size, format and dirty rectangle, and the front buffer. -/
structure Display where
  back : Canvas
  frontBuffer : Nat → UInt32

/-- A drawing call on a `Display`. -/
inductive DisplayCall where
  | draw (call : DrawCall)
  | blitRaw (src : Nat → UInt32) (srcWidth : Nat) (dstX dstY : Int) (w h : Nat)
  | blitCursor (cx cy : Int) (mask image : List UInt16) (w h : Nat) (black white : UInt32)

namespace Display

def drawIter (d : Display) (pixels : List ((Int × Int) × Rgb888)) : Option Display :=
  (d.back.drawIter pixels).map fun back => { d with back }

def fillSolid (d : Display) (x y : Int) (w h : Nat) (color : Rgb888) : Option Display :=
  (d.back.fillSolid x y w h color).map fun back => { d with back }

def blitRaw (d : Display) (src : Nat → UInt32) (srcWidth : Nat) (dstX dstY : Int) (w h : Nat) :
    Option Display :=
  (d.back.blitRaw src srcWidth dstX dstY w h).map fun back => { d with back }

def blitCursor (d : Display) (cx cy : Int) (mask image : List UInt16) (w h : Nat)
    (black white : UInt32) : Option Display :=
  (d.back.blitCursor cx cy mask image w h black white).map fun back => { d with back }

/-- `present`: the dirty rectangle is taken and copied row by row from the back buffer to the
front buffer, both `width * height` long. -/
def present (d : Display) : Option Display :=
  match d.back.dirty with
  | none => some d
  | some dirty => do
    let frontBuffer ← (List.range dirty.h).foldlM (fun front row =>
      let offset := (dirty.y + row) * d.back.width + dirty.x
      copyRange? front d.back.buffer (d.back.width * d.back.height) offset offset dirty.w)
      d.frontBuffer
    pure { back := { d.back with dirty := none }, frontBuffer }

def step (d : Display) : DisplayCall → Option Display
  | .draw (.drawIter pixels) => d.drawIter pixels
  | .draw (.fillSolid x y w h color) => d.fillSolid x y w h color
  | .blitRaw src srcWidth dstX dstY w h => d.blitRaw src srcWidth dstX dstY w h
  | .blitCursor cx cy mask image w h black white => d.blitCursor cx cy mask image w h black white

def run (d : Display) (calls : List DisplayCall) : Option Display := calls.foldlM step d

/-- Every call draws on the back buffer only, and is tracked. -/
theorem step_spec {d d' : Display} (hd : d.back.Inv) (call : DisplayCall)
    (hs : d.step call = some d') :
    d'.back.Inv ∧ Canvas.Tracks d.back d'.back ∧ d'.frontBuffer = d.frontBuffer := by
  have hback : ∀ {o : Option Canvas}, (∀ c', o = some c' → c'.Inv ∧ Canvas.Tracks d.back c') →
      o.map (fun back => { d with back }) = some d' →
      d'.back.Inv ∧ Canvas.Tracks d.back d'.back ∧ d'.frontBuffer = d.frontBuffer := by
    intro o ho hmap
    obtain ⟨back, hb, rfl⟩ := Option.map_eq_some_iff.mp hmap
    exact ⟨(ho back hb).1, (ho back hb).2, rfl⟩
  cases call with
  | draw call =>
    cases call with
    | drawIter pixels => exact hback (fun _ => DrawCall.apply_spec hd (.drawIter pixels)) hs
    | fillSolid x y w h color =>
      exact hback (fun _ => DrawCall.apply_spec hd (.fillSolid x y w h color)) hs
  | blitRaw src srcWidth dstX dstY w h => exact hback (fun _ => Canvas.blitRaw_spec hd) hs
  | blitCursor cx cy mask image w h black white =>
    exact hback (fun _ => Canvas.blitCursor_spec hd) hs

/-- A whole run of drawing calls keeps the invariant, is tracked, and leaves the front buffer. -/
theorem run_tracks {d d' : Display} (hd : d.back.Inv) {calls : List DisplayCall}
    (h : d.run calls = some d') :
    d'.back.Inv ∧ Canvas.Tracks d.back d'.back ∧ d'.frontBuffer = d.frontBuffer :=
  foldlM_induction
    (fun d'' => d''.back.Inv ∧ Canvas.Tracks d.back d''.back ∧ d''.frontBuffer = d.frontBuffer)
    (fun _ call _ _ ⟨h₁, h₂, h₃⟩ hstep => by
      obtain ⟨h₄, h₅, h₆⟩ := step_spec h₁ call hstep
      exact ⟨h₄, h₂.trans h₅, h₆.trans h₃⟩) d d' ⟨hd, Canvas.Tracks.refl _, rfl⟩ h

/-- What `present` does: the back buffer is kept and its dirty rectangle cleared; the front
buffer takes the back buffer's pixels of that rectangle and keeps every other offset. -/
structure Presented (d d' : Display) : Prop where
  back_eq : d'.back = { d.back with dirty := none }
  copied : ∀ px py, d.back.Covers px py →
    d'.frontBuffer (py * d.back.width + px) = d.back.buffer (py * d.back.width + px)
  kept : ∀ i, (∀ px py, i = py * d.back.width + px → ¬ d.back.Covers px py) →
    d'.frontBuffer i = d.frontBuffer i

/-- With its dirty rectangle on the buffer, `present` copies inside both buffers, so it never
indexes outside them, and it copies exactly that rectangle. -/
theorem present_spec {d : Display} (hd : d.back.Inv) : ∃ d', d.present = some d' ∧ Presented d d' := by
  unfold present
  cases hdirty : d.back.dirty with
  | none =>
    refine ⟨d, rfl, ⟨?_, fun px py ⟨r, hr, _⟩ => (by rw [hdirty] at hr; cases hr), fun i _ => rfl⟩⟩
    rw [← hdirty]
  | some r =>
    have hin := hd.dirty_inside r hdirty
    have hloop := foldlM_eq_some_foldl (l := List.range r.h)
      (f := fun front row => copyRange? front d.back.buffer (d.back.width * d.back.height)
        ((r.y + row) * d.back.width + r.x) ((r.y + row) * d.back.width + r.x) r.w)
      (g := fun front row => copyRange front d.back.buffer ((r.y + row) * d.back.width + r.x)
        ((r.y + row) * d.back.width + r.x) r.w)
      (fun front row hrow => by
        rw [List.mem_range] at hrow
        unfold copyRange?
        rw [if_pos (row_segment_le (by omega) hin.1)]) d.frontBuffer
    dsimp only
    rw [hloop]
    refine ⟨_, rfl, ⟨rfl, fun px py ⟨r', hr', hmem⟩ => ?_, fun i hi => ?_⟩⟩
    · rw [hdirty] at hr'
      cases hr'
      unfold DirtyRect.Mem at hmem
      dsimp only
      rw [foldl_copyRange_rows _ _ _ hin.1 _ _ (by omega), if_pos (by omega)]
      congr 1
      have hrow : r.y + (py - r.y) = py := by omega
      rw [hrow]
      omega
    · by_contra hne
      have hch := Canvas.foldlM_changesIn (R := r) (fun b row b' hrow hstep =>
        Canvas.changesIn_copyRange? (by rw [List.mem_range] at hrow; omega) hstep) hloop
      obtain ⟨px, py, rfl, hmem⟩ := hch _ hne
      exact hi px py rfl ⟨r, hdirty, hmem⟩

/-- The front buffer shows the back buffer on the screen. -/
def Synced (d : Display) : Prop :=
  ∀ px py, px < d.back.width → py < d.back.height →
    d.frontBuffer (py * d.back.width + px) = d.back.buffer (py * d.back.width + px)

/-- From a state whose front buffer shows its back buffer, any run of drawing calls followed by
`present` leaves the front buffer showing the back buffer again: the dirty rectangle has covered
every pixel that changed. -/
theorem present_syncs {d d' : Display} (hd : d.back.Inv) (hsync : d.Synced)
    {calls : List DisplayCall} (h : d.run calls = some d') :
    ∃ d'', d'.present = some d'' ∧ d''.back.dirty = none ∧ d''.Synced := by
  obtain ⟨hinv, htr, hfront⟩ := run_tracks hd h
  obtain ⟨d'', hp, hpres⟩ := present_spec hinv
  refine ⟨d'', hp, by rw [hpres.back_eq], fun px py hpx hpy => ?_⟩
  rw [hpres.back_eq] at hpx hpy ⊢
  dsimp only at hpx hpy ⊢
  by_cases hcov : d'.back.Covers px py
  · exact hpres.copied px py hcov
  · -- an uncovered pixel kept its value, on both buffers
    have hkeep : d'.back.buffer (py * d.back.width + px) = d.back.buffer (py * d.back.width + px) := by
      by_contra hne
      exact hcov (htr.changed px py (by rw [← htr.width_eq]; exact hpx)
        (by rw [← htr.height_eq]; exact hpy) hne)
    have hother : ∀ qx qy, py * d'.back.width + px = qy * d'.back.width + qx →
        ¬ d'.back.Covers qx qy := by
      intro qx qy hq hcov'
      obtain ⟨r, hr, hmem⟩ := hcov'
      have := hinv.dirty_inside r hr
      unfold DirtyRect.Mem at hmem
      obtain ⟨rfl, rfl⟩ := row_major_inj hpx (by omega) hq
      exact hcov ⟨r, hr, hmem⟩
    rw [hpres.kept _ hother, hfront, htr.width_eq, hsync px py (by rw [← htr.width_eq]; exact hpx)
      (by rw [← htr.height_eq]; exact hpy), ← hkeep]

end Display

/-! ## `Window` -/

/-- A client's `Window`: its id, the display server's endpoint, and the canvas on its shared
buffer. -/
structure Window where
  windowId : Nat
  sendEndpoint : Nat
  canvas : Canvas

namespace Window

def drawIter (w : Window) (pixels : List ((Int × Int) × Rgb888)) : Option Window :=
  (w.canvas.drawIter pixels).map fun canvas => { w with canvas }

def fillSolid (w : Window) (x y : Int) (width height : Nat) (color : Rgb888) : Option Window :=
  (w.canvas.fillSolid x y width height color).map fun canvas => { w with canvas }

/-- `present`: the dirty rectangle is taken and sent to the display server as an `UpdateWindow`
request, with the endpoint it goes to. -/
def present (w : Window) : Window × Option (Nat × Compositor.UpdateWindowRequest) :=
  match w.canvas.dirty with
  | none => (w, none)
  | some dirty =>
    ({ w with canvas := { w.canvas with dirty := none } },
      some (w.sendEndpoint, ⟨w.windowId, dirty.x, dirty.y, dirty.w, dirty.h⟩))

def step (w : Window) : DrawCall → Option Window
  | .drawIter pixels => w.drawIter pixels
  | .fillSolid x y width height color => w.fillSolid x y width height color

def run (w : Window) (calls : List DrawCall) : Option Window := calls.foldlM step w

theorem step_spec {w w' : Window} (hw : w.canvas.Inv) (call : DrawCall) (hs : w.step call = some w') :
    w'.canvas.Inv ∧ Canvas.Tracks w.canvas w'.canvas ∧ w'.windowId = w.windowId ∧
      w'.sendEndpoint = w.sendEndpoint := by
  have hstep : w.step call = (call.apply w.canvas).map fun canvas => { w with canvas } := by
    cases call <;> rfl
  rw [hstep] at hs
  obtain ⟨canvas, hc, rfl⟩ := Option.map_eq_some_iff.mp hs
  obtain ⟨hinv, htr⟩ := DrawCall.apply_spec hw call hc
  exact ⟨hinv, htr, rfl, rfl⟩

theorem run_tracks {w w' : Window} (hw : w.canvas.Inv) {calls : List DrawCall}
    (h : w.run calls = some w') :
    w'.canvas.Inv ∧ Canvas.Tracks w.canvas w'.canvas ∧ w'.windowId = w.windowId ∧
      w'.sendEndpoint = w.sendEndpoint :=
  foldlM_induction (fun w'' => w''.canvas.Inv ∧ Canvas.Tracks w.canvas w''.canvas ∧
      w''.windowId = w.windowId ∧ w''.sendEndpoint = w.sendEndpoint)
    (fun _ call _ _ ⟨h₁, h₂, h₃, h₄⟩ hstep => by
      obtain ⟨h₅, h₆, h₇, h₈⟩ := step_spec h₁ call hstep
      exact ⟨h₅, h₂.trans h₆, h₇.trans h₃, h₈.trans h₄⟩) w w' ⟨hw, Canvas.Tracks.refl _, rfl, rfl⟩ h

/-- `present` clears the dirty rectangle and sends exactly it, as an `UpdateWindow` of this
window to the display server's endpoint; a rectangle on the buffer passes the server's bounds
check of the request. -/
theorem present_spec {w : Window} (hw : w.canvas.Inv) :
    w.present.1.canvas = { w.canvas with dirty := none } ∧
      ∀ ep hdr, w.present.2 = some (ep, hdr) → ep = w.sendEndpoint ∧ hdr.windowId = w.windowId ∧
        hdr.dirtyX + hdr.dirtyWidth ≤ w.canvas.width ∧
        hdr.dirtyY + hdr.dirtyHeight ≤ w.canvas.height ∧
        ∀ px py, w.canvas.Covers px py ↔
          DirtyRect.Mem ⟨hdr.dirtyX, hdr.dirtyY, hdr.dirtyWidth, hdr.dirtyHeight⟩ px py := by
  unfold present
  split
  · rename_i hdirty
    refine ⟨by rw [← hdirty], fun ep hdr h => ?_⟩
    cases h
  · rename_i r hdirty
    refine ⟨rfl, fun ep hdr h => ?_⟩
    cases h
    have hin := hw.dirty_inside r hdirty
    refine ⟨rfl, rfl, hin.1, hin.2, fun px py => ⟨?_, fun hmem => ⟨r, hdirty, hmem⟩⟩⟩
    rintro ⟨r', hr', hmem⟩
    rw [hdirty] at hr'
    cases hr'
    exact hmem

end Window

/-- `DirtyRect::expand` is the least rectangle containing both of its arguments. Every sequence of
drawing calls on a `Display` keeps its dirty rectangle on the buffer and covering every pixel
that changed, and `present` then copies exactly that rectangle between the two buffers; every
sequence on a `Window` does the same, and its `present` sends that rectangle. -/
theorem dirty_rect_covers_every_write :
    (∀ (d : DirtyRect) (x y w h : Nat), d.x + d.w < 2 ^ 32 ∧ d.y + d.h < 2 ^ 32 →
      x + w < 2 ^ 32 ∧ y + h < 2 ^ 32 →
      ∃ r, d.expand x y w h = some r ∧
        ∀ r' : DirtyRect, r'.Contains r ↔ r'.Contains d ∧ r'.Contains ⟨x, y, w, h⟩) ∧
    (∀ (d d' : Display) (calls : List DisplayCall), d.back.Inv → d.run calls = some d' →
      d'.back.Inv ∧ Canvas.Tracks d.back d'.back ∧
        ∃ d'', d'.present = some d'' ∧ Display.Presented d' d'' ∧ (d.Synced → d''.Synced)) ∧
    ∀ (w w' : Window) (calls : List DrawCall), w.canvas.Inv → w.run calls = some w' →
      w'.canvas.Inv ∧ Canvas.Tracks w.canvas w'.canvas ∧
        ∀ ep hdr, w'.present.2 = some (ep, hdr) →
          hdr.dirtyX + hdr.dirtyWidth ≤ w'.canvas.width ∧
          hdr.dirtyY + hdr.dirtyHeight ≤ w'.canvas.height ∧
          ∀ px py, w'.canvas.Covers px py ↔
            DirtyRect.Mem ⟨hdr.dirtyX, hdr.dirtyY, hdr.dirtyWidth, hdr.dirtyHeight⟩ px py := by
  refine ⟨fun d x y w h hd ha => DirtyRect.expand_contains_iff hd ha, ?_, ?_⟩
  · intro d d' calls hd h
    obtain ⟨hinv, htr, -⟩ := Display.run_tracks hd h
    obtain ⟨d'', hp, hpres⟩ := Display.present_spec hinv
    refine ⟨hinv, htr, d'', hp, hpres, fun hsync => ?_⟩
    obtain ⟨d₃, hp₃, -, hsync₃⟩ := Display.present_syncs hd hsync h
    rw [hp] at hp₃
    cases hp₃
    exact hsync₃
  · intro w w' calls hw h
    obtain ⟨hinv, htr, -, -⟩ := Window.run_tracks hw h
    refine ⟨hinv, htr, fun ep hdr hsend => ?_⟩
    obtain ⟨-, -, h₁, h₂, h₃⟩ := (Window.present_spec hinv).2 ep hdr hsend
    exact ⟨h₁, h₂, h₃⟩

end Bos.Ulib
