import Bos.Drivers.Keyboard
import Bos.Lib.ArrayOps

/-!
# Bos.Drivers.Mouse

The PS/2 mouse driver (`drivers/mouse.rs`). `on_mouse_interrupt` collects the bytes the mouse
sends into a 3-byte `PACKET`, dropping a byte at packet position 0 that lacks the always-set
bit 3 of a status byte, and on the third byte decodes the packet into a `MouseEvent`: the 9-bit
deltas sign-extended into `i16` (the y axis negated) and the three buttons. A packet with an
overflow bit set is dropped. The events wait in the 64-entry ring `MOUSE_BUFFER` for
`try_read_mouse`.

`parse` is the packet parse of a whole byte stream, and `MouseModel` the driver as it is meant
to be: the bytes seen so far, and the events of their parse not yet read, at most 64.
`Mouse.Tracks` relates the two: the bytes of the packet being collected are what the parse of the
bytes seen has left over. Over every sequence of interrupts and reads, `try_read_mouse` returns
what the model returns (`mouse_events_follow_packet_parse`).

The port read `inb(0x60)` is the byte argument; `init` (the controller setup) is left out.
-/

namespace Bos

/-- `MouseEvent`. -/
structure MouseEvent where
  dx : Int16
  dy : Int16
  buttons : UInt8
  deriving DecidableEq, Repr

/-- `MouseEvent::EMPTY`. -/
def MouseEvent.empty : MouseEvent := ⟨0, 0, 0⟩

instance : Inhabited MouseEvent := ⟨MouseEvent.empty⟩

/-- `MOUSE_LEFT`, `MOUSE_RIGHT`, `MOUSE_MIDDLE`. -/
def mouseLeft : UInt8 := (1 : UInt8) <<< 0

def mouseRight : UInt8 := (1 : UInt8) <<< 1

def mouseMiddle : UInt8 := (1 : UInt8) <<< 2

/-- `MOUSE_BUFFER_SIZE`. -/
def mouseBufferSize : Nat := 64

/-- `MouseBuffer`: a ring of `MOUSE_BUFFER_SIZE` events. -/
abbrev MouseBuffer := RingBuffer MouseEvent mouseBufferSize

/-- `MouseBuffer::new()`. -/
def MouseBuffer.new : MouseBuffer := RingBuffer.new MouseEvent.empty

/-- The driver's statics: `MOUSE_BUFFER`, `PACKET` and `PACKET_IDX`. -/
structure Mouse where
  mouseBuffer : MouseBuffer
  packet : List UInt8
  packetIdx : UInt8
  packet_length : packet.length = 3

namespace Mouse

def boot : Mouse := ⟨MouseBuffer.new, [0, 0, 0], 0, rfl⟩

def pushEvent (s : Mouse) (event : MouseEvent) : Mouse :=
  { s with mouseBuffer := s.mouseBuffer.push event }

def tryReadMouse (s : Mouse) : Option MouseEvent × Mouse :=
  let (result, buf) := s.mouseBuffer.pop
  (result, { s with mouseBuffer := buf })

/-- A 9-bit delta: `(raw as i16) | (if sign { -256i16 } else { 0 })`. -/
def signExtend (raw : UInt8) (sign : Bool) : Int16 :=
  raw.toUInt16.toInt16 ||| (if sign then -256 else 0)

/-- The buttons of a status byte, set one by one. -/
def buttonsOf (status : UInt8) : UInt8 :=
  let buttons : UInt8 := 0
  let buttons := if status &&& 0x01 ≠ 0 then buttons ||| mouseLeft else buttons
  let buttons := if status &&& 0x02 ≠ 0 then buttons ||| mouseRight else buttons
  if status &&& 0x04 ≠ 0 then buttons ||| mouseMiddle else buttons

/-- `on_mouse_interrupt()`, with `byte` the byte read from port `0x60`. `-dy` is the `i16`
negation, which `signExtend_ne_minValue` shows never overflows. -/
def onMouseInterrupt (s : Mouse) (byte : UInt8) : Mouse :=
  if s.packetIdx = 0 ∧ byte &&& 0x08 = 0 then s else
  let packet := s.packet.set s.packetIdx.toNat byte
  let idx := s.packetIdx + 1
  if idx = 3 then
    let s : Mouse :=
      { s with
        packet := packet
        packetIdx := 0
        packet_length := by rw [List.length_set, s.packet_length] }
    let status := packet[0]!
    let rawDx := packet[1]!
    let rawDy := packet[2]!
    if status &&& 0xC0 ≠ 0 then s else
    let dx := signExtend rawDx (status &&& 0x10 ≠ 0)
    let dy := signExtend rawDy (status &&& 0x20 ≠ 0)
    let dy := -dy
    s.pushEvent ⟨dx, dy, buttonsOf status⟩
  else
    { s with
      packet := packet
      packetIdx := idx
      packet_length := by rw [List.length_set, s.packet_length] }

end Mouse

/-! ## The packet parse -/

/-- The 9-bit two's complement number of a byte and a sign bit. -/
def nineBit (raw : UInt8) (sign : Bool) : Int := raw.toNat - 256 * (if sign then 1 else 0)

/-- The event of a packet `(s, x, y)` that has no overflow bit: `dx = x - 256 * [s bit 4]`,
`dy = -(y - 256 * [s bit 5])`, and the buttons of bits 0, 1 and 2. -/
def packetEvent (s x y : UInt8) : MouseEvent :=
  ⟨Int16.ofInt (nineBit x (s &&& 0x10 ≠ 0)), Int16.ofInt (-nineBit y (s &&& 0x20 ≠ 0)),
    s &&& 0x07⟩

/-- The events of a packet: none when an overflow bit is set. -/
def packetEvents (s x y : UInt8) : List MouseEvent :=
  if s &&& 0xC0 ≠ 0 then [] else [packetEvent s x y]

/-- The packets of a byte stream: a byte with bit 3 clear where a packet would start is skipped,
and otherwise it and the next two bytes are one packet. -/
def parse : List UInt8 → List MouseEvent
  | [] => []
  | b :: rest =>
    if b &&& 0x08 = 0 then parse rest else
    match rest with
    | x :: y :: rest => packetEvents b x y ++ parse rest
    | _ => []

theorem parse_skip {b : UInt8} (hb : b &&& 0x08 = 0) (rest : List UInt8) :
    parse (b :: rest) = parse rest := by
  rw [parse.eq_def]
  simp only [hb, if_true]

theorem parse_packet {s : UInt8} (hs : s &&& 0x08 ≠ 0) (x y : UInt8) (rest : List UInt8) :
    parse (s :: x :: y :: rest) = packetEvents s x y ++ parse rest := by
  rw [parse.eq_def]
  simp only [hs, if_false]

/-- A status byte with fewer than two bytes after it is a packet cut short. -/
theorem parse_short {b : UInt8} (hb : ¬ b &&& 0x08 = 0) {rest : List UInt8}
    (hrest : ∀ x y r, rest = x :: y :: r → False) : parse (b :: rest) = [] := by
  match rest, hrest with
  | [], _ =>
    rw [parse.eq_def]
    simp only [hb, if_false]
  | [x], _ =>
    rw [parse.eq_def]
    simp only [hb, if_false]
  | x :: y :: r, h => exact (h x y r rfl).elim

/-- The start of a packet gives no event until its third byte. -/
theorem parse_partial {p : List UInt8} (hp : p.length < 3) (hs : ∀ b t, p = b :: t → b &&& 0x08 ≠ 0) :
    parse p = [] := by
  match p, hp with
  | [], _ => rfl
  | [b], _ =>
    rw [parse.eq_def]
    simp only [hs b [] rfl, if_false]
  | [b, x], _ =>
    rw [parse.eq_def]
    simp only [hs b [x] rfl, if_false]

/-! ## The decoder's arithmetic -/

/-- The sign extension is the 9-bit value. -/
theorem signExtend_eq : ∀ (raw : UInt8) (sign : Bool),
    Mouse.signExtend raw sign = Int16.ofInt (nineBit raw sign) := by
  decide +kernel

theorem nineBit_range (raw : UInt8) (sign : Bool) : -256 ≤ nineBit raw sign ∧ nineBit raw sign ≤ 255 := by
  have := raw.toNat_lt
  unfold nineBit
  split <;> omega

/-- A value of `[-256, 256]` is an `i16` as it is. -/
theorem toInt_ofInt_of_small {i : Int} (h₁ : -256 ≤ i) (h₂ : i ≤ 256) : (Int16.ofInt i).toInt = i := by
  rw [Int16.toInt_ofInt]
  apply Int.bmod_eq_of_le <;> simp [Int16.size] <;> omega

theorem signExtend_range (raw : UInt8) (sign : Bool) :
    -256 ≤ (Mouse.signExtend raw sign).toInt ∧ (Mouse.signExtend raw sign).toInt ≤ 255 := by
  have h := nineBit_range raw sign
  rw [signExtend_eq, toInt_ofInt_of_small (by omega) (by omega)]
  exact h

theorem neg_signExtend (raw : UInt8) (sign : Bool) :
    -Mouse.signExtend raw sign = Int16.ofInt (-nineBit raw sign) := by
  rw [signExtend_eq, Int16.neg_ofInt]

theorem neg_signExtend_range (raw : UInt8) (sign : Bool) :
    -255 ≤ (-Mouse.signExtend raw sign).toInt ∧ (-Mouse.signExtend raw sign).toInt ≤ 256 := by
  have h := nineBit_range raw sign
  rw [neg_signExtend, toInt_ofInt_of_small (by omega) (by omega)]
  omega

/-- The value negated for `dy` is never `i16::MIN`. -/
theorem signExtend_ne_minValue (raw : UInt8) (sign : Bool) :
    Mouse.signExtend raw sign ≠ Int16.minValue := by
  intro h
  have hlow := (signExtend_range raw sign).1
  rw [h, Int16.toInt_minValue] at hlow
  norm_num at hlow

theorem buttonsOf_eq : ∀ status : UInt8, Mouse.buttonsOf status = status &&& 0x07 := by
  decide +kernel

/-- The decoder's event of a packet is the parse's. -/
theorem decoded_eq_packetEvent (s x y : UInt8) :
    (⟨Mouse.signExtend x (s &&& 0x10 ≠ 0), -Mouse.signExtend y (s &&& 0x20 ≠ 0),
      Mouse.buttonsOf s⟩ : MouseEvent) = packetEvent s x y := by
  rw [signExtend_eq, neg_signExtend, buttonsOf_eq]
  rfl

/-! ## The driver as it is meant to be -/

/-- A call of one of the driver's entry points. -/
inductive MouseCall where
  | onMouseInterrupt (byte : UInt8)
  | tryReadMouse

/-- The bytes the mouse has sent, and the events of their parse not yet read. -/
structure MouseModel where
  seen : List UInt8
  queue : BoundedFifo MouseEvent

namespace MouseModel

def init : MouseModel := ⟨[], ⟨[], mouseBufferSize, Nat.zero_le _⟩⟩

/-- The events join the queue one by one, those that find it full being dropped. -/
def enqueue (q : BoundedFifo MouseEvent) (es : List MouseEvent) : BoundedFifo MouseEvent :=
  es.foldl (fun q e => (q.push? e).getD q) q

/-- A byte: the events its arrival adds to the parse join the queue. -/
def interrupt (m : MouseModel) (byte : UInt8) : MouseModel :=
  ⟨m.seen ++ [byte], enqueue m.queue ((parse (m.seen ++ [byte])).drop (parse m.seen).length)⟩

/-- The oldest event, if any. -/
def read (m : MouseModel) : Option MouseEvent × MouseModel :=
  match m.queue.pop? with
  | some (e, q) => (some e, { m with queue := q })
  | none => (none, m)

def run : MouseModel → List MouseCall → List (Option MouseEvent) × MouseModel
  | m, [] => ([], m)
  | m, .onMouseInterrupt byte :: calls => run (m.interrupt byte) calls
  | m, .tryReadMouse :: calls =>
    let (e, m) := m.read
    let (es, m) := run m calls
    (e :: es, m)

end MouseModel

namespace Mouse

/-- The calls one after the other, and what each `try_read_mouse` returned. -/
def run : Mouse → List MouseCall → List (Option MouseEvent) × Mouse
  | s, [] => ([], s)
  | s, .onMouseInterrupt byte :: calls => run (s.onMouseInterrupt byte) calls
  | s, .tryReadMouse :: calls =>
    let (e, s) := s.tryReadMouse
    let (es, s) := run s calls
    (e :: es, s)

/-- The bytes of the packet being collected. -/
def pending (s : Mouse) : List UInt8 := s.packet.take s.packetIdx.toNat

/-- The driver stands for the model: the ring holds the model's queue, and the packet being
collected starts with a status byte and is what the parse of the bytes seen has left over. -/
structure Tracks (s : Mouse) (m : MouseModel) : Prop where
  ring : s.mouseBuffer.Refines m.queue
  idx_lt : s.packetIdx.toNat < 3
  status : ∀ b t, s.pending = b :: t → b &&& 0x08 ≠ 0
  parse_seen : ∀ rest, parse (m.seen ++ rest) = parse m.seen ++ parse (s.pending ++ rest)

theorem tracks_boot : boot.Tracks MouseModel.init :=
  ⟨⟨RingBuffer.inv_new (by decide), RingBuffer.contents_new, rfl⟩, (by decide),
    fun _ _ h => (nomatch h), fun _ => rfl⟩

/-- A byte keeps the driver tracking the model when the driver's packet after it, `s'.pending`,
is what the parse of the packet before it and the byte leaves over, and the ring gets the
events of that parse. -/
theorem Tracks.step {s s' : Mouse} {m : MouseModel} (h : s.Tracks m) {b : UInt8}
    (hring : s'.mouseBuffer.Refines (MouseModel.enqueue m.queue (parse (s.pending ++ [b]))))
    (hidx : s'.packetIdx.toNat < 3) (hstatus : ∀ b t, s'.pending = b :: t → b &&& 0x08 ≠ 0)
    (hsplit : ∀ rest, parse (s.pending ++ b :: rest) = parse (s.pending ++ [b]) ++ parse (s'.pending ++ rest)) :
    s'.Tracks (m.interrupt b) := by
  have hnew : (parse (m.seen ++ [b])).drop (parse m.seen).length = parse (s.pending ++ [b]) := by
    rw [h.parse_seen [b], List.drop_left]
  unfold MouseModel.interrupt
  rw [hnew]
  refine ⟨hring, hidx, hstatus, fun rest => ?_⟩
  rw [List.append_assoc, List.singleton_append, h.parse_seen, hsplit, h.parse_seen [b],
    List.append_assoc]

/-- `PACKET_IDX` is a packet position. -/
theorem idx_cases : ∀ i : UInt8, i.toNat < 3 → i = 0 ∨ i = 1 ∨ i = 2 := by
  decide +kernel

/-! ### The branches of `on_mouse_interrupt`, by packet position -/

section Branches

variable {buf : MouseBuffer} {p0 p1 p2 b : UInt8} {hlen : [p0, p1, p2].length = 3}

/-- At position 0 a byte without bit 3 is dropped. -/
theorem onMouseInterrupt_drop (hb : b &&& 0x08 = 0) :
    onMouseInterrupt ⟨buf, [p0, p1, p2], 0, hlen⟩ b = ⟨buf, [p0, p1, p2], 0, hlen⟩ := by
  unfold onMouseInterrupt
  rw [if_pos ⟨rfl, hb⟩]

/-- At position 0 a status byte starts the packet. -/
theorem onMouseInterrupt_start (hb : b &&& 0x08 ≠ 0) :
    onMouseInterrupt ⟨buf, [p0, p1, p2], 0, hlen⟩ b = ⟨buf, [b, p1, p2], 1, rfl⟩ := by
  unfold onMouseInterrupt
  rw [if_neg (fun h' => hb h'.2)]
  rfl

theorem onMouseInterrupt_second :
    onMouseInterrupt ⟨buf, [p0, p1, p2], 1, hlen⟩ b = ⟨buf, [p0, b, p2], 2, rfl⟩ := by
  unfold onMouseInterrupt
  rw [if_neg (fun h' => absurd h'.1 (show ¬ (1 : UInt8) = 0 by decide))]
  rfl

/-- The third byte completes the packet, which is dropped when an overflow bit is set... -/
theorem onMouseInterrupt_overflow (hover : p0 &&& 0xC0 ≠ 0) :
    onMouseInterrupt ⟨buf, [p0, p1, p2], 2, hlen⟩ b = ⟨buf, [p0, p1, b], 0, rfl⟩ := by
  unfold onMouseInterrupt
  rw [if_neg (fun h' => absurd h'.1 (show ¬ (2 : UInt8) = 0 by decide))]
  dsimp only
  rw [if_pos (show (2 : UInt8) + 1 = 3 by decide)]
  exact if_pos hover

/-- ... and otherwise decoded into the ring. -/
theorem onMouseInterrupt_complete (hover : ¬ p0 &&& 0xC0 ≠ 0) :
    onMouseInterrupt ⟨buf, [p0, p1, p2], 2, hlen⟩ b =
      ⟨buf.push (packetEvent p0 p1 b), [p0, p1, b], 0, rfl⟩ := by
  unfold onMouseInterrupt
  rw [if_neg (fun h' => absurd h'.1 (show ¬ (2 : UInt8) = 0 by decide))]
  dsimp only
  rw [if_pos (show (2 : UInt8) + 1 = 3 by decide)]
  have hset : [p0, p1, p2].set (UInt8.toNat 2) b = [p0, p1, b] := rfl
  have h0 : ([p0, p1, b] : List UInt8)[0]! = p0 := rfl
  have h1 : ([p0, p1, b] : List UInt8)[1]! = p1 := rfl
  have h2 : ([p0, p1, b] : List UInt8)[2]! = b := rfl
  simp only [hset, h0, h1, h2]
  rw [if_neg hover, ← decoded_eq_packetEvent]
  rfl

end Branches

theorem Tracks.onMouseInterrupt {s : Mouse} {m : MouseModel} (h : s.Tracks m) (b : UInt8) :
    (s.onMouseInterrupt b).Tracks (m.interrupt b) := by
  obtain ⟨buf, packet, idx, hlen⟩ := s
  obtain ⟨p0, p1, p2, rfl⟩ : ∃ p0 p1 p2, packet = [p0, p1, p2] := by
    match packet, hlen with
    | [p0, p1, p2], _ => exact ⟨p0, p1, p2, rfl⟩
  rcases idx_cases idx h.idx_lt with rfl | rfl | rfl
  · have hp : pending ⟨buf, [p0, p1, p2], 0, hlen⟩ = [] := rfl
    by_cases hb : b &&& 0x08 = 0
    · rw [onMouseInterrupt_drop hb]
      refine h.step ?_ h.idx_lt h.status fun rest => ?_
      · rw [hp, List.nil_append, parse_skip hb]
        exact h.ring
      · rw [hp, List.nil_append, List.nil_append, parse_skip hb, parse_skip hb]
        rfl
    · -- the status byte alone parses to nothing yet
      have hpart : parse [b] = [] := parse_partial (by simp) fun _ _ h' => by
        cases h'
        exact hb
      rw [onMouseInterrupt_start hb]
      refine h.step ?_ (show (1 : UInt8).toNat < 3 by decide) (fun b' t h' => ?_) fun rest => ?_
      · rw [hp, List.nil_append, hpart]
        exact h.ring
      · cases h'
        exact hb
      · rw [hp, List.nil_append, List.nil_append, hpart]
        rfl
  · have hp : pending ⟨buf, [p0, p1, p2], 1, hlen⟩ = [p0] := rfl
    have hs0 : p0 &&& 0x08 ≠ 0 := h.status p0 [] hp
    have hpart : parse [p0, b] = [] := parse_partial (by simp) fun _ _ h' => by
      cases h'
      exact hs0
    rw [onMouseInterrupt_second]
    refine h.step ?_ (show (2 : UInt8).toNat < 3 by decide) (fun b' t h' => ?_) fun rest => ?_
    · rw [hp, List.singleton_append, hpart]
      exact h.ring
    · cases h'
      exact hs0
    · rw [hp, List.singleton_append, List.singleton_append, hpart]
      rfl
  · -- the third byte: the parse takes the whole packet and leaves nothing pending
    have hp : pending ⟨buf, [p0, p1, p2], 2, hlen⟩ = [p0, p1] := rfl
    have hs0 : p0 &&& 0x08 ≠ 0 := h.status p0 [p1] hp
    have hparse : parse ([p0, p1] ++ [b]) = packetEvents p0 p1 b := by
      rw [List.cons_append, List.cons_append, List.nil_append, parse_packet hs0]
      exact List.append_nil _
    have hsplit : ∀ rest, parse ([p0, p1] ++ b :: rest) =
        parse ([p0, p1] ++ [b]) ++ parse (([] : List UInt8) ++ rest) := by
      intro rest
      rw [hparse, List.cons_append, List.cons_append, List.nil_append, parse_packet hs0,
        List.nil_append]
    by_cases hover : p0 &&& 0xC0 ≠ 0
    · rw [onMouseInterrupt_overflow hover]
      refine h.step ?_ (show (0 : UInt8).toNat < 3 by decide) (fun _ _ h' => nomatch h') ?_
      · rw [hp, hparse]
        unfold packetEvents
        rw [if_pos hover]
        exact h.ring
      · rw [hp]
        exact hsplit
    · rw [onMouseInterrupt_complete hover]
      refine h.step ?_ (show (0 : UInt8).toNat < 3 by decide) (fun _ _ h' => nomatch h') ?_
      · rw [hp, hparse]
        unfold packetEvents
        rw [if_neg hover]
        exact h.ring.push _
      · rw [hp]
        exact hsplit

theorem Tracks.tryReadMouse {s : Mouse} {m : MouseModel} (h : s.Tracks m) :
    s.tryReadMouse.1 = m.read.1 ∧ s.tryReadMouse.2.Tracks m.read.2 := by
  obtain ⟨hfst, hsnd⟩ := h.ring.pop
  unfold Mouse.tryReadMouse MouseModel.read
  cases hq : m.queue.pop? with
  | none =>
    rw [hq] at hfst hsnd
    exact ⟨hfst, hsnd, h.idx_lt, h.status, h.parse_seen⟩
  | some p =>
    obtain ⟨e, q⟩ := p
    rw [hq] at hfst hsnd
    exact ⟨hfst, hsnd, h.idx_lt, h.status, h.parse_seen⟩

/-- Every `try_read_mouse` of the calls returns what the model returns. The induction is on the
calls, interrupts and reads each keeping `Tracks`. -/
theorem Tracks.run_eq {s : Mouse} {m : MouseModel} (h : s.Tracks m) (calls : List MouseCall) :
    (s.run calls).1 = (m.run calls).1 := by
  induction calls generalizing s m with
  | nil => rfl
  | cons c calls ih =>
    cases c with
    | onMouseInterrupt byte => exact ih (h.onMouseInterrupt byte)
    | tryReadMouse =>
      obtain ⟨hfst, hsnd⟩ := h.tryReadMouse
      simp only [Mouse.run, MouseModel.run]
      rw [hfst, ih hsnd]

end Mouse

/-! ## What the model returns -/

/-- The parse of a stream starts with the parse of each of its prefixes. -/
theorem parse_prefix (l r : List UInt8) : parse l <+: parse (l ++ r) := by
  induction l using parse.induct with
  | case1 => exact List.nil_prefix
  | case2 b rest hb ih =>
    rw [List.cons_append, parse_skip hb, parse_skip hb]
    exact ih
  | case3 b hb x y rest ih =>
    rw [List.cons_append, List.cons_append, List.cons_append, parse_packet hb, parse_packet hb]
    exact (List.prefix_append_right_inj _).mpr ih
  | case4 b rest hb hrest =>
    rw [parse_short hb hrest]
    exact List.nil_prefix

/-- Every event of a parse is the event of a packet. -/
theorem mem_parse {e : MouseEvent} {l : List UInt8} (he : e ∈ parse l) :
    ∃ s x y, e = packetEvent s x y := by
  induction l using parse.induct with
  | case1 => cases he
  | case2 b rest hb ih =>
    rw [parse_skip hb] at he
    exact ih he
  | case3 b hb x y rest ih =>
    rw [parse_packet hb, List.mem_append] at he
    rcases he with he | he
    · unfold packetEvents at he
      split at he
      · cases he
      · exact ⟨b, x, y, List.mem_singleton.mp he⟩
    · exact ih he
  | case4 b rest hb hrest =>
    rw [parse_short hb hrest] at he
    cases he

theorem packetEvent_range (s x y : UInt8) :
    -256 ≤ (packetEvent s x y).dx.toInt ∧ (packetEvent s x y).dx.toInt ≤ 255 ∧
      -255 ≤ (packetEvent s x y).dy.toInt ∧ (packetEvent s x y).dy.toInt ≤ 256 := by
  rw [← decoded_eq_packetEvent]
  exact ⟨(signExtend_range _ _).1, (signExtend_range _ _).2, (neg_signExtend_range _ _).1,
    (neg_signExtend_range _ _).2⟩

/-- The bytes the calls deliver. -/
def MouseCall.bytes : List MouseCall → List UInt8
  | [] => []
  | .onMouseInterrupt byte :: calls => byte :: bytes calls
  | .tryReadMouse :: calls => bytes calls

namespace MouseModel

/-- The queue keeps what it had and takes some of the new events, in order. -/
theorem items_enqueue_sublist (q : BoundedFifo MouseEvent) (es : List MouseEvent) :
    List.Sublist (enqueue q es).items (q.items ++ es) := by
  induction es generalizing q with
  | nil => simp [enqueue]
  | cons e es ih =>
    have hstep : enqueue q (e :: es) = enqueue ((q.push? e).getD q) es := rfl
    rw [hstep]
    refine (ih _).trans ?_
    cases hq : q.push? e with
    | none => exact (List.sublist_cons_self e es).append_left q.items
    | some q' =>
      rw [Option.getD_some, (BoundedFifo.push?_eq_some_iff.mp hq).2.1, List.append_assoc,
        List.singleton_append]

theorem read_seen (m : MouseModel) : m.read.2.seen = m.seen := by
  unfold MouseModel.read
  split <;> rfl

/-- The events read, then those waiting, are drawn in order from the parse of the bytes seen. -/
def History (taken : List MouseEvent) (m : MouseModel) : Prop :=
  List.Sublist (taken ++ m.queue.items) (parse m.seen)

theorem History.interrupt {taken : List MouseEvent} {m : MouseModel} (h : History taken m)
    (b : UInt8) : History taken (m.interrupt b) := by
  obtain ⟨t, ht⟩ := parse_prefix m.seen [b]
  unfold History MouseModel.interrupt
  dsimp only
  rw [← ht, List.drop_left]
  have h₁ : List.Sublist (taken ++ (enqueue m.queue t).items) (taken ++ (m.queue.items ++ t)) :=
    (items_enqueue_sublist _ _).append_left taken
  rw [← List.append_assoc] at h₁
  exact h₁.trans (h.append_right t)

theorem History.read {taken : List MouseEvent} {m : MouseModel} (h : History taken m) :
    History (taken ++ m.read.1.toList) m.read.2 := by
  unfold History at h ⊢
  unfold MouseModel.read
  cases hq : m.queue.pop? with
  | none => simpa using h
  | some p =>
    obtain ⟨e, q⟩ := p
    have hitems := (BoundedFifo.pop?_eq_some_iff.mp hq).1
    rw [hitems] at h
    simpa using h

/-- Over a run of calls the history grows by the events the reads return, and the bytes seen by
those the interrupts deliver. -/
theorem History.run {taken : List MouseEvent} {m : MouseModel} (h : History taken m)
    (calls : List MouseCall) :
    History (taken ++ (m.run calls).1.reduceOption) (m.run calls).2 ∧
      (m.run calls).2.seen = m.seen ++ MouseCall.bytes calls := by
  induction calls generalizing taken m with
  | nil => simpa [MouseModel.run, MouseCall.bytes] using h
  | cons c calls ih =>
    cases c with
    | onMouseInterrupt byte =>
      obtain ⟨h₁, h₂⟩ := ih (h.interrupt byte)
      refine ⟨h₁, ?_⟩
      rw [MouseModel.run, h₂, MouseCall.bytes]
      show (m.seen ++ [byte]) ++ MouseCall.bytes calls = m.seen ++ byte :: MouseCall.bytes calls
      rw [List.append_assoc, List.singleton_append]
    | tryReadMouse =>
      obtain ⟨h₁, h₂⟩ := ih h.read
      simp only [MouseModel.run]
      refine ⟨?_, by rw [h₂, read_seen, MouseCall.bytes]⟩
      cases he : m.read.1 with
      | none =>
        rw [he] at h₁
        simpa using h₁
      | some e =>
        rw [he] at h₁
        simpa using h₁

end MouseModel

/-- From boot, over every sequence of interrupts (each with the byte read from the port) and
reads: each `try_read_mouse` returns what the packet model returns; the events read, then those
still buffered, are drawn in order from the parse of the bytes, one per packet at most, those
finding 64 events buffered being dropped; every event has `dx` in `[-256, 255]` and `dy` in
`[-255, 256]`; and the `i16` negation of `dy` never overflows. -/
theorem mouse_events_follow_packet_parse (calls : List MouseCall) :
    (Mouse.boot.run calls).1 = (MouseModel.init.run calls).1 ∧
      List.Sublist
        ((MouseModel.init.run calls).1.reduceOption ++ (MouseModel.init.run calls).2.queue.items)
        (parse (MouseCall.bytes calls)) ∧
      (∀ e, some e ∈ (Mouse.boot.run calls).1 →
        -256 ≤ e.dx.toInt ∧ e.dx.toInt ≤ 255 ∧ -255 ≤ e.dy.toInt ∧ e.dy.toInt ≤ 256) ∧
      ∀ raw sign, Mouse.signExtend raw sign ≠ Int16.minValue := by
  have hrun := Mouse.tracks_boot.run_eq calls
  obtain ⟨hhist, hseen⟩ := (show MouseModel.History [] MouseModel.init from List.nil_sublist _).run
    calls
  rw [List.nil_append] at hhist
  unfold MouseModel.History at hhist
  rw [hseen] at hhist
  refine ⟨hrun, hhist, fun e he => ?_, signExtend_ne_minValue⟩
  -- an event read is in the parse, so it is the event of a packet
  rw [hrun] at he
  have hmem : e ∈ parse (MouseCall.bytes calls) :=
    hhist.subset (List.mem_append_left _ (List.reduceOption_mem_iff.mpr he))
  obtain ⟨s, x, y, rfl⟩ := mem_parse hmem
  exact packetEvent_range s x y

/-! ## The two rings -/

/-- Over every sequence of pushes and pops, `KeyBuffer` and `MouseBuffer` keep their layout
(`head < 64`, `tail < 64`, `count ≤ 64`, `tail = (head + count) % 64`) and behave as a FIFO of
capacity 64; over every sequential run of the keyboard's entry points `has_key()` is
`count > 0`. -/
theorem key_and_mouse_buffers_refine_fifo :
    (∀ r : KeyBuffer, r.Reachable KeyEvent.empty → r.Inv ∧ r.BehavesAsFifo) ∧
      (∀ r : MouseBuffer, r.Reachable MouseEvent.empty → r.Inv ∧ r.BehavesAsFifo) ∧
      ∀ s : Keyboard, s.Reachable → s.hasKey = decide (0 < s.keyBuffer.count) := by
  refine ⟨fun r hr => ?_, fun r hr => ?_, fun s hs => Keyboard.hasKey_eq hs.inv⟩
  · have hinv := hr.inv (by decide)
    exact ⟨hinv, hinv.behavesAsFifo⟩
  · have hinv := hr.inv (by decide)
    exact ⟨hinv, hinv.behavesAsFifo⟩

end Bos
