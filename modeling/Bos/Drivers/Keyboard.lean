import Bos.Lib.RingBuffer

/-!
# Bos.Drivers.Keyboard

The PS/2 keyboard driver (`drivers/keyboard.rs`). The interrupt handler passes each set-1
scancode to `handle_scancode`, which keeps three flags (`EXTENDED` after an `0xE0` prefix, one
`SHIFT_PRESSED` for both shift keys, `CAPSLOCK_ON`) and pushes the key's `KeyEvent` into the
64-entry ring `KEY_BUFFER`, raising `KEY_AVAILABLE`. `try_read_key` pops the oldest event and
clears `KEY_AVAILABLE` when it took the last one; `has_key` reads the flag.

* `Keyboard.Inv`: over every sequential run of the entry points, `KEY_BUFFER` keeps the ring
  layout and `has_key()` is `count > 0` (`Keyboard.Reachable.inv`).
* `KeyModel`: the set-1 key model the decoder is meant to follow, with the shift keys tracked
  one by one and Caps Lock shifting letters only. On every stream where the two differences do
  not show (`KeyModel.RunBenign`), the events `try_read_key` returns are the model's
  (`run_eq_of_runBenign`); a shift released while the other is held, or a digit pressed with
  Caps Lock on, makes them differ.

The waking of `KEYBOARD_WAITER` in `push_event` (the scheduler and an IPI) is left out: it reads
and writes nothing of the decoder. The port read `inb(0x60)` of `on_keyboard_interrupt` is the
scancode argument.
-/

namespace Bos

/-- `KeyEventType`. -/
inductive KeyEventType where
  | char
  | enter
  | backspace
  | tab
  | escape
  | arrowLeft
  | arrowRight
  | arrowUp
  | arrowDown
  deriving DecidableEq, Repr

/-- `KeyEvent`: the kind of key, and the character of a `Char` event (0 for the others). -/
structure KeyEvent where
  eventType : KeyEventType
  character : UInt8
  deriving DecidableEq, Repr

namespace KeyEvent

/-- `KeyEvent::EMPTY`. -/
def empty : KeyEvent := ⟨.char, 0⟩

instance : Inhabited KeyEvent := ⟨empty⟩

/-- `KeyEvent::char(c)`, which stores `c as u8`. -/
def char (c : UInt8) : KeyEvent := ⟨.char, c⟩

def enter : KeyEvent := ⟨.enter, 0⟩

def backspace : KeyEvent := ⟨.backspace, 0⟩

def tab : KeyEvent := ⟨.tab, 0⟩

def escape : KeyEvent := ⟨.escape, 0⟩

def arrowLeft : KeyEvent := ⟨.arrowLeft, 0⟩

def arrowRight : KeyEvent := ⟨.arrowRight, 0⟩

def arrowUp : KeyEvent := ⟨.arrowUp, 0⟩

def arrowDown : KeyEvent := ⟨.arrowDown, 0⟩

end KeyEvent

/-- `NORMAL`: the character of each make code without shift, 0 where there is none. -/
def normal : List UInt8 := List.map Char.toUInt8
  ['\x00', '\x1b', '1', '2', '3', '4', '5', '6', '7', '8', '9', '0', '-', '=', '\x08',
   '\t', 'q', 'w', 'e', 'r', 't', 'y', 'u', 'i', 'o', 'p', '[', ']', '\n',
   '\x00', 'a', 's', 'd', 'f', 'g', 'h', 'j', 'k', 'l', ';', '\x27', '\x60',
   '\x00', '\x5c', 'z', 'x', 'c', 'v', 'b', 'n', 'm', ',', '.', '/', '\x00', '*',
   '\x00', ' ']

/-- `SHIFTED`: the character of each make code with shift. -/
def shifted : List UInt8 := List.map Char.toUInt8
  ['\x00', '\x1b', '!', '@', '#', '$', '%', '^', '&', '*', '(', ')', '_', '+', '\x08',
   '\t', 'Q', 'W', 'E', 'R', 'T', 'Y', 'U', 'I', 'O', 'P', '\x7b', '\x7d', '\n',
   '\x00', 'A', 'S', 'D', 'F', 'G', 'H', 'J', 'K', 'L', ':', '\x22', '~',
   '\x00', '|', 'Z', 'X', 'C', 'V', 'B', 'N', 'M', '<', '>', '?', '\x00', '*',
   '\x00', ' ']

/-- `scancode_to_ascii(code, uppercase)`: the non-zero table entry. The source returns it as a
`char` (`c as char`), which `KeyEvent::char` turns back into the same byte. -/
def scancodeToAscii (code : UInt8) (uppercase : Bool) : Option UInt8 :=
  let table := if uppercase then shifted else normal
  match table[code.toNat]? with
  | some c => if c ≠ 0 then some c else none
  | none => none

/-- The `match code` of an `0xE0`-prefixed make code in `handle_scancode`. -/
def arrowEvent (code : UInt8) : Option KeyEvent :=
  match code with
  | 0x48 => some KeyEvent.arrowUp
  | 0x50 => some KeyEvent.arrowDown
  | 0x4B => some KeyEvent.arrowLeft
  | 0x4D => some KeyEvent.arrowRight
  | _ => none

/-- The `match code` of a plain make code in `handle_scancode`, with `uppercase` the
`shift ^ caps` of its default arm. -/
def keyEvent (code : UInt8) (uppercase : Bool) : Option KeyEvent :=
  match code with
  | 0x01 => some KeyEvent.escape
  | 0x0E => some KeyEvent.backspace
  | 0x0F => some KeyEvent.tab
  | 0x1C => some KeyEvent.enter
  | _ => (scancodeToAscii code uppercase).map KeyEvent.char

/-- `KEY_BUFFER_SIZE`. -/
def keyBufferSize : Nat := 64

/-- `KeyBuffer`: a ring of `KEY_BUFFER_SIZE` events. -/
abbrev KeyBuffer := RingBuffer KeyEvent keyBufferSize

/-- `KeyBuffer::new()`. -/
def KeyBuffer.new : KeyBuffer := RingBuffer.new KeyEvent.empty

/-- The driver's statics. -/
structure Keyboard where
  keyBuffer : KeyBuffer
  keyAvailable : Bool
  shiftPressed : Bool
  capslockOn : Bool
  extended : Bool

namespace Keyboard

/-- The statics at boot, which are also what `reset` leaves. -/
def boot : Keyboard := ⟨KeyBuffer.new, false, false, false, false⟩

def pushEvent (s : Keyboard) (event : KeyEvent) : Keyboard :=
  { s with keyBuffer := s.keyBuffer.push event, keyAvailable := true }

/-- `handle_scancode(scancode)`. -/
def handleScancode (s : Keyboard) (scancode : UInt8) : Keyboard :=
  if scancode = 0xE0 then { s with extended := true } else
  let released := scancode &&& 0x80 != 0
  let code := scancode &&& 0x7F
  let pressed := !released
  let isExtended := s.extended
  let s := { s with extended := false }
  if isExtended then
    if pressed then
      match arrowEvent code with
      | some ev => s.pushEvent ev
      | none => s
    else s
  else if code = 0x2A ∨ code = 0x36 then { s with shiftPressed := pressed }
  else if code = 0x3A ∧ pressed then { s with capslockOn := !s.capslockOn }
  else if !pressed then s
  else
    match keyEvent code (s.shiftPressed ^^ s.capslockOn) with
    | some ev => s.pushEvent ev
    | none => s

/-- `try_read_key()`. The source locks the buffer again to read `count`; the model runs the
calls one after the other, so nothing comes in between. -/
def tryReadKey (s : Keyboard) : Option KeyEvent × Keyboard :=
  let (result, buf) := s.keyBuffer.pop
  let s := { s with keyBuffer := buf }
  if result.isSome then
    if s.keyBuffer.count = 0 then (result, { s with keyAvailable := false }) else (result, s)
  else (result, s)

def hasKey (s : Keyboard) : Bool := s.keyAvailable

/-- `reset()`. -/
def reset (_ : Keyboard) : Keyboard := boot

/-- The statics reached from boot by the driver's entry points, one at a time. -/
inductive Reachable : Keyboard → Prop
  | boot : Reachable boot
  | handleScancode {s : Keyboard} (scancode : UInt8) : Reachable s → Reachable (s.handleScancode scancode)
  | pushEvent {s : Keyboard} (event : KeyEvent) : Reachable s → Reachable (s.pushEvent event)
  | tryReadKey {s : Keyboard} : Reachable s → Reachable s.tryReadKey.2
  | reset {s : Keyboard} : Reachable s → Reachable s.reset

/-! ## `has_key` -/

/-- The ring keeps its layout and `KEY_AVAILABLE` says whether it holds an event. -/
structure Inv (s : Keyboard) : Prop where
  ring : s.keyBuffer.Inv
  keyAvailable_eq : s.keyAvailable = decide (0 < s.keyBuffer.count)

theorem inv_boot : boot.Inv := ⟨RingBuffer.inv_new (by decide), rfl⟩

/-- A push leaves at least one event: a full ring keeps its 64. -/
theorem count_push_pos (b : KeyBuffer) (e : KeyEvent) : 0 < (b.push e).count := by
  unfold RingBuffer.push
  split
  · exact Nat.succ_pos _
  · rename_i hc
    have : 0 < keyBufferSize := by decide
    omega

theorem Inv.pushEvent {s : Keyboard} (h : s.Inv) (e : KeyEvent) : (s.pushEvent e).Inv :=
  ⟨h.ring.push e, by simp [Keyboard.pushEvent, count_push_pos]⟩

/-- What `handle_scancode` does to the ring and the flag: nothing, or one `push_event`. -/
theorem handleScancode_cases (s : Keyboard) (scancode : UInt8) :
    ((s.handleScancode scancode).keyBuffer = s.keyBuffer ∧
        (s.handleScancode scancode).keyAvailable = s.keyAvailable) ∨
      ∃ e, (s.handleScancode scancode).keyBuffer = s.keyBuffer.push e ∧
        (s.handleScancode scancode).keyAvailable = true := by
  unfold handleScancode
  dsimp only
  split_ifs
  all_goals first
    | exact Or.inl ⟨rfl, rfl⟩
    | (split
       · exact Or.inr ⟨_, rfl, rfl⟩
       · exact Or.inl ⟨rfl, rfl⟩)

theorem Inv.handleScancode {s : Keyboard} (h : s.Inv) (scancode : UInt8) :
    (s.handleScancode scancode).Inv := by
  rcases handleScancode_cases s scancode with ⟨hbuf, havail⟩ | ⟨e, hbuf, havail⟩
  · exact ⟨hbuf ▸ h.ring, by rw [hbuf, havail, h.keyAvailable_eq]⟩
  · exact ⟨hbuf ▸ h.ring.push e, by rw [hbuf, havail, decide_eq_true (count_push_pos _ _)]⟩

theorem tryReadKey_of_count_eq_zero {s : Keyboard} (hc : s.keyBuffer.count = 0) :
    s.tryReadKey = (none, s) := by
  unfold tryReadKey
  rw [RingBuffer.pop_of_count_eq_zero hc]
  rfl

/-- A read from a ring with events: the popped event, and `KEY_AVAILABLE` cleared when the ring is
left empty. -/
theorem tryReadKey_of_count_ne_zero {s : Keyboard} (hc : s.keyBuffer.count ≠ 0) :
    s.tryReadKey = (s.keyBuffer.pop.1,
      { s with
        keyBuffer := s.keyBuffer.pop.2
        keyAvailable := if s.keyBuffer.pop.2.count = 0 then false else s.keyAvailable }) := by
  have hsome : s.keyBuffer.pop.1.isSome = true := by
    rw [Option.isSome_iff_ne_none]
    exact mt RingBuffer.pop_fst_eq_none_iff.mp hc
  unfold tryReadKey
  dsimp only
  rw [if_pos hsome]
  split <;> simp_all

theorem Inv.tryReadKey {s : Keyboard} (h : s.Inv) : s.tryReadKey.2.Inv := by
  by_cases hc : s.keyBuffer.count = 0
  · rw [tryReadKey_of_count_eq_zero hc]
    exact h
  · have hcount : s.keyBuffer.pop.2.count = s.keyBuffer.count - 1 := by
      unfold RingBuffer.pop
      rw [if_neg hc]
    rw [tryReadKey_of_count_ne_zero hc]
    refine ⟨h.ring.pop, ?_⟩
    dsimp only
    split
    · rename_i hzero
      simp [hzero]
    · rename_i hpos
      simp only [h.keyAvailable_eq]
      simp only [decide_eq_decide]
      omega

theorem Reachable.inv {s : Keyboard} (h : s.Reachable) : s.Inv := by
  induction h with
  | boot => exact inv_boot
  | handleScancode scancode _ ih => exact ih.handleScancode scancode
  | pushEvent e _ ih => exact ih.pushEvent e
  | tryReadKey _ ih => exact ih.tryReadKey
  | reset _ => exact inv_boot

theorem hasKey_eq {s : Keyboard} (h : s.Inv) : s.hasKey = decide (0 < s.keyBuffer.count) :=
  h.keyAvailable_eq

end Keyboard

/-! ## The set-1 key model -/

/-- A call of one of the driver's entry points. -/
inductive KeyboardCall where
  | handleScancode (scancode : UInt8)
  | tryReadKey
  | reset

namespace Keyboard

/-- The calls one after the other, and what each `try_read_key` returned. -/
def run : Keyboard → List KeyboardCall → List (Option KeyEvent) × Keyboard
  | s, [] => ([], s)
  | s, .handleScancode sc :: calls => run (s.handleScancode sc) calls
  | s, .tryReadKey :: calls =>
    let (e, s) := s.tryReadKey
    let (es, s) := run s calls
    (e :: es, s)
  | s, .reset :: calls => run s.reset calls

end Keyboard

/-- The key model of PS/2 scancode set 1: each shift key held or not by itself, Caps Lock on or
off, the `0xE0` prefix, and the events not yet read, at most 64, a 65th being dropped. -/
structure KeyModel where
  leftShift : Bool
  rightShift : Bool
  capsLock : Bool
  extended : Bool
  queue : BoundedFifo KeyEvent

namespace KeyModel

def init : KeyModel := ⟨false, false, false, false, ⟨[], keyBufferSize, Nat.zero_le _⟩⟩

/-- The letter keys: those whose `NORMAL` character is one of `a` to `z`. -/
def isLetter (code : UInt8) : Bool :=
  match normal[code.toNat]? with
  | some c => 'a'.toUInt8 ≤ c && c ≤ 'z'.toUInt8
  | none => false

/-- The event, if any, joins the queue unless it is full. -/
def push (m : KeyModel) : Option KeyEvent → KeyModel
  | some e => { m with queue := (m.queue.push? e).getD m.queue }
  | none => m

/-- One scancode. A make code has bit 7 clear; the arrows are the `0xE0`-prefixed make codes
`0x48`, `0x50`, `0x4B`, `0x4D` (`arrowEvent`); a plain make code gives Escape, Backspace, Tab or
Enter, or else the character of its `SHIFTED` entry when exactly one of a held shift key and
Caps Lock on a letter key applies, of its `NORMAL` entry otherwise (`keyEvent`). -/
def scancode (m : KeyModel) (sc : UInt8) : KeyModel :=
  let make := sc &&& 0x80 == 0
  let code := sc &&& 0x7F
  if sc = 0xE0 then { m with extended := true }
  else if m.extended then { m with extended := false }.push (if make then arrowEvent code else none)
  else if code = 0x2A then { m with leftShift := make }
  else if code = 0x36 then { m with rightShift := make }
  else if code = 0x3A then { m with capsLock := m.capsLock ^^ make }
  else if !make then m
  else m.push (keyEvent code ((m.leftShift || m.rightShift) ^^ (m.capsLock && isLetter code)))

/-- The oldest event, if any. -/
def read (m : KeyModel) : Option KeyEvent × KeyModel :=
  match m.queue.pop? with
  | some (e, q) => (some e, { m with queue := q })
  | none => (none, m)

def run : KeyModel → List KeyboardCall → List (Option KeyEvent) × KeyModel
  | m, [] => ([], m)
  | m, .handleScancode sc :: calls => run (m.scancode sc) calls
  | m, .tryReadKey :: calls =>
    let (e, m) := m.read
    let (es, m) := run m calls
    (e :: es, m)
  | _, .reset :: calls => run init calls

/-- A scancode on which one shared shift flag and a Caps Lock on every key give what the model
gives: it does not release one shift key while the other is held, and it is not, with Caps Lock
on, the make code of a key other than a letter whose two table entries differ. -/
def Benign (m : KeyModel) (sc : UInt8) : Prop :=
  sc ≠ 0xE0 → m.extended = false →
    (sc = 0xAA → m.rightShift = false) ∧ (sc = 0xB6 → m.leftShift = false) ∧
    (sc &&& 0x80 = 0 → m.capsLock = true → isLetter sc = false →
      scancodeToAscii sc true = scancodeToAscii sc false)

/-- Every scancode of the calls is benign where the model stands when it comes. -/
def RunBenign : KeyModel → List KeyboardCall → Prop
  | _, [] => True
  | m, .handleScancode sc :: calls => m.Benign sc ∧ RunBenign (m.scancode sc) calls
  | m, .tryReadKey :: calls => RunBenign m.read.2 calls
  | _, .reset :: calls => RunBenign init calls

instance (m : KeyModel) (sc : UInt8) : Decidable (m.Benign sc) :=
  inferInstanceAs (Decidable (_ → _))

instance decRunBenign : (m : KeyModel) → (calls : List KeyboardCall) → Decidable (m.RunBenign calls)
  | _, [] => isTrue trivial
  | m, .handleScancode sc :: calls =>
    have := decRunBenign (m.scancode sc) calls
    inferInstanceAs (Decidable (_ ∧ _))
  | m, .tryReadKey :: calls => decRunBenign m.read.2 calls
  | _, .reset :: calls => decRunBenign init calls

end KeyModel

/-! ## Where the decoder follows the model -/

namespace Keyboard

/-- The driver's statics stand for the model: the ring holds the model's queue, the one shift
flag is set when either shift key is held, and the other flags agree. -/
structure Follows (s : Keyboard) (m : KeyModel) : Prop where
  ring : s.keyBuffer.Refines m.queue
  shift : s.shiftPressed = (m.leftShift || m.rightShift)
  caps : s.capslockOn = m.capsLock
  extended : s.extended = m.extended

theorem follows_boot : boot.Follows KeyModel.init :=
  ⟨⟨RingBuffer.inv_new (by decide), RingBuffer.contents_new, rfl⟩, rfl, rfl, rfl⟩

theorem Follows.pushEvent {s : Keyboard} {m : KeyModel} (h : s.Follows m) (e : KeyEvent) :
    (s.pushEvent e).Follows (m.push (some e)) :=
  ⟨h.ring.push e, h.shift, h.caps, h.extended⟩

/-- Both push the same event, or neither does. -/
theorem Follows.pushOpt {s : Keyboard} {m : KeyModel} (h : s.Follows m) (ev : Option KeyEvent) :
    (match ev with
      | some e => s.pushEvent e
      | none => s).Follows (m.push ev) := by
  cases ev with
  | some e => exact h.pushEvent e
  | none => exact h

/-- A break code is its key's make code with bit 7 set. -/
theorem eq_of_break : ∀ sc : UInt8, (sc &&& 0x80 == 0) = false → sc = (sc &&& 0x7F) + 0x80 := by
  decide +kernel

theorem and_eq_of_make : ∀ sc : UInt8, (sc &&& 0x80 == 0) = true → sc &&& 0x7F = sc := by
  decide +kernel

/-- A key whose two table entries agree gives one event whatever the shift state. -/
theorem keyEvent_eq_of_ascii_eq {code : UInt8}
    (h : scancodeToAscii code true = scancodeToAscii code false) (u u' : Bool) :
    keyEvent code u = keyEvent code u' := by
  unfold keyEvent
  split
  all_goals first
    | rfl
    | (cases u <;> cases u' <;> simp [h])

/-- A benign scancode keeps the driver following the model. -/
theorem Follows.handleScancode {s : Keyboard} {m : KeyModel} (h : s.Follows m) {sc : UInt8}
    (hb : m.Benign sc) : (s.handleScancode sc).Follows (m.scancode sc) := by
  have hpressed : (!(sc &&& 0x80 != 0)) = (sc &&& 0x80 == 0) := by rw [bne, Bool.not_not]
  unfold Keyboard.handleScancode KeyModel.scancode
  dsimp only
  rw [hpressed, h.extended]
  by_cases he : sc = 0xE0
  · rw [if_pos he, if_pos he]
    exact ⟨h.ring, h.shift, h.caps, rfl⟩
  rw [if_neg he, if_neg he]
  by_cases hx : m.extended = true
  · -- after the prefix: an arrow, or nothing
    rw [if_pos hx, if_pos hx]
    have h' : ({ s with extended := false } : Keyboard).Follows { m with extended := false } :=
      ⟨h.ring, h.shift, h.caps, rfl⟩
    split
    · exact h'.pushOpt _
    · exact h'
  rw [if_neg hx, if_neg hx]
  have hx' : m.extended = false := by simpa using hx
  have h' : ({ s with extended := false } : Keyboard).Follows m := ⟨h.ring, h.shift, h.caps, hx'.symm⟩
  obtain ⟨hl, hr, hcaps⟩ := hb he hx'
  by_cases hL : sc &&& 0x7F = 0x2A
  · -- the left shift key: a release clears the one flag, the right key being up
    rw [if_pos (Or.inl hL), if_pos hL]
    refine ⟨h.ring, ?_, h.caps, hx'.symm⟩
    cases hm : (sc &&& 0x80 == 0)
    · have hsc := eq_of_break sc hm
      rw [hL] at hsc
      simp [hl hsc]
    · simp
  by_cases hR : sc &&& 0x7F = 0x36
  · rw [if_pos (Or.inr hR), if_neg hL, if_pos hR]
    refine ⟨h.ring, ?_, h.caps, hx'.symm⟩
    cases hm : (sc &&& 0x80 == 0)
    · have hsc := eq_of_break sc hm
      rw [hR] at hsc
      simp [hr hsc]
    · simp
  rw [if_neg (not_or.mpr ⟨hL, hR⟩), if_neg hL, if_neg hR]
  by_cases hC : sc &&& 0x7F = 0x3A
  · -- Caps Lock toggles on its make code only
    rw [if_pos hC]
    cases hm : (sc &&& 0x80 == 0)
    · rw [if_neg (by simp), Bool.not_false, if_pos rfl]
      exact ⟨h.ring, h.shift, by simp [h.caps], hx'.symm⟩
    · rw [if_pos ⟨hC, rfl⟩]
      exact ⟨h.ring, h.shift, by simp [h.caps], hx'.symm⟩
  rw [if_neg (fun hc => hC hc.1), if_neg hC]
  cases hm : (sc &&& 0x80 == 0)
  · exact h'
  · simp only [Bool.not_true, Bool.false_eq_true, if_false]
    -- the code's `shift ^ caps` and the model's shift gives one event
    have hev : keyEvent (sc &&& 0x7F) (s.shiftPressed ^^ s.capslockOn) =
        keyEvent (sc &&& 0x7F) ((m.leftShift || m.rightShift) ^^
          (m.capsLock && KeyModel.isLetter (sc &&& 0x7F))) := by
      rw [h.shift, h.caps, and_eq_of_make sc hm]
      cases hcl : m.capsLock
      · simp
      · cases hlet : KeyModel.isLetter sc
        · exact keyEvent_eq_of_ascii_eq (hcaps (by simpa using hm) hcl hlet) _ _
        · simp
    rw [hev]
    exact h'.pushOpt _

theorem tryReadKey_fst (s : Keyboard) : s.tryReadKey.1 = s.keyBuffer.pop.1 := by
  by_cases hc : s.keyBuffer.count = 0
  · rw [tryReadKey_of_count_eq_zero hc, RingBuffer.pop_of_count_eq_zero hc]
  · rw [tryReadKey_of_count_ne_zero hc]

/-- `try_read_key` changes the ring as `pop` does, and of the rest only `KEY_AVAILABLE`. -/
theorem tryReadKey_snd (s : Keyboard) :
    ∃ avail, s.tryReadKey.2 = { s with keyBuffer := s.keyBuffer.pop.2, keyAvailable := avail } := by
  by_cases hc : s.keyBuffer.count = 0
  · rw [tryReadKey_of_count_eq_zero hc, RingBuffer.pop_of_count_eq_zero hc]
    exact ⟨s.keyAvailable, rfl⟩
  · rw [tryReadKey_of_count_ne_zero hc]
    exact ⟨_, rfl⟩

theorem Follows.tryReadKey {s : Keyboard} {m : KeyModel} (h : s.Follows m) :
    s.tryReadKey.1 = m.read.1 ∧ s.tryReadKey.2.Follows m.read.2 := by
  obtain ⟨hfst, hsnd⟩ := h.ring.pop
  obtain ⟨avail, hs⟩ := tryReadKey_snd s
  rw [tryReadKey_fst, hs, hfst]
  unfold KeyModel.read
  cases hq : m.queue.pop? with
  | none =>
    rw [hq] at hsnd
    exact ⟨rfl, hsnd, h.shift, h.caps, h.extended⟩
  | some p =>
    obtain ⟨e, q⟩ := p
    rw [hq] at hsnd
    exact ⟨rfl, hsnd, h.shift, h.caps, h.extended⟩

/-- On calls whose scancodes are all benign, every `try_read_key` returns what the model
returns. The induction is on the calls, each kind of call keeping `Follows`. -/
theorem Follows.run_eq {s : Keyboard} {m : KeyModel} (h : s.Follows m) (calls : List KeyboardCall)
    (hb : m.RunBenign calls) : (s.run calls).1 = (m.run calls).1 := by
  induction calls generalizing s m with
  | nil => rfl
  | cons c calls ih =>
    cases c with
    | handleScancode sc => exact ih (h.handleScancode hb.1) hb.2
    | tryReadKey =>
      obtain ⟨hfst, hsnd⟩ := h.tryReadKey
      simp only [Keyboard.run, KeyModel.run]
      rw [hfst, ih hsnd hb]
    | reset => exact ih follows_boot hb

/-- From boot, on every stream of calls whose scancodes are benign, the decoder returns the
events of the set-1 key model, in order, with the same events dropped at a full buffer. -/
theorem run_eq_of_runBenign (calls : List KeyboardCall) (hb : KeyModel.init.RunBenign calls) :
    (boot.run calls).1 = (KeyModel.init.run calls).1 :=
  follows_boot.run_eq calls hb

/-- Shift held over `a`, then released: the decoder returns `A` and then nothing, as the model. -/
theorem run_eq_of_runBenign_sample :
    KeyModel.init.RunBenign [.handleScancode 0x2A, .handleScancode 0x1E, .handleScancode 0xAA,
        .tryReadKey, .tryReadKey] ∧
      (boot.run [.handleScancode 0x2A, .handleScancode 0x1E, .handleScancode 0xAA, .tryReadKey,
        .tryReadKey]).1 = (KeyModel.init.run [.handleScancode 0x2A, .handleScancode 0x1E,
          .handleScancode 0xAA, .tryReadKey, .tryReadKey]).1 :=
  ⟨by decide, run_eq_of_runBenign _ (by decide)⟩

/-- `test_shift_produces_uppercase`. -/
example : (boot.run [.handleScancode 0x2A, .handleScancode 0x1E, .handleScancode 0xAA, .tryReadKey,
    .tryReadKey]).1 = [some (KeyEvent.char 0x41), none] := by decide

/-- One shift key released while the other is held ends the shift: `a` where the model, the right
shift being up and the left one still down, gives `A`. With Caps Lock on, the `1` key gives `!`
where the model gives `1`. -/
theorem decoder_diverges_from_key_model :
    (boot.run [.handleScancode 0x2A, .handleScancode 0x36, .handleScancode 0xB6,
        .handleScancode 0x1E, .tryReadKey]).1 = [some (KeyEvent.char 0x61)] ∧
      (KeyModel.init.run [.handleScancode 0x2A, .handleScancode 0x36, .handleScancode 0xB6,
        .handleScancode 0x1E, .tryReadKey]).1 = [some (KeyEvent.char 0x41)] ∧
      (boot.run [.handleScancode 0x3A, .handleScancode 0xBA, .handleScancode 0x02,
        .tryReadKey]).1 = [some (KeyEvent.char 0x21)] ∧
      (KeyModel.init.run [.handleScancode 0x3A, .handleScancode 0xBA, .handleScancode 0x02,
        .tryReadKey]).1 = [some (KeyEvent.char 0x31)] := by
  decide

end Keyboard

end Bos
