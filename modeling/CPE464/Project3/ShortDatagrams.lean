/-
Datagrams that are shorter than the packet header.

`isValidPacket` accepts any byte string whose sum comes out right, and rcopy then reads the
header of the packet it was copied into.  Where that packet was cleared before, a short
datagram has flag 0 and is thrown out.  Where it was not, the bytes that the datagram does
not reach are those of an earlier packet, and `dataSize - sizeof(PacketHeader_t)` wraps
around.
-/

import CPE464.General.GuardedRun
import CPE464.Project3.RcopyAnyInput
import CPE464.Project3.DataPackets

namespace CPE464.Project3

open General

/-! ### Headers -/

/-- The header of a datagram; a byte that it is too short for counts as zero. -/
def headerOf (datagram : Datagram) : List UInt8 :=
  (datagram ++ List.replicate packetHeaderSsize 0).take packetHeaderSsize

theorem header_eq_iff (packet : Packet) {datagram : Datagram}
    (fits : datagram.length ≤ packetMaxSsize) :
    (packet.memcpy 0 datagram).bytes.take packetHeaderSsize = headerOf datagram ↔
      ∀ index < packetHeaderSsize, datagram.length ≤ index →
        packet.bytes.getD index 0 = 0 := by
  have size := packet.size_eq
  have header : packetHeaderSsize ≤ packetMaxSsize := by decide
  rw [packet.memcpy_zero_bytes fits, headerOf, List.take_append, List.take_append,
    List.append_right_inj, List.take_replicate, List.eq_replicate_iff]
  constructor
  · rintro ⟨_, zeros⟩ index below above
    have inside : index < packet.bytes.length := by omega
    rw [List.getD_eq_getElem _ _ inside]
    apply zeros
    rw [List.mem_take_iff_getElem]
    refine ⟨index - datagram.length, ?_, ?_⟩
    · rw [List.length_drop]
      omega
    · rw [List.getElem_drop]
      simp only [Nat.add_sub_cancel' above]
  · intro zeros
    refine ⟨?_, fun byte member => ?_⟩
    · rw [List.length_take, List.length_drop]
      omega
    · obtain ⟨offset, inside, rfl⟩ := List.mem_take_iff_getElem.mp member
      rw [List.length_drop] at inside
      rw [List.getElem_drop, ← List.getD_eq_getElem _ 0]
      exact zeros _ (by omega) (Nat.le_add_right _ _)

namespace Rcopy

/-! ### The datagrams received -/

structure Watched where
  process : Process
  received : List Datagram

def Watched.next (watched : Watched) (input : Input) : Watched where
  process := stateMachine watched.process input
  received := watched.received ++ (accepted watched.process input).toList

def watch (process : Process) : Watched := ⟨process, []⟩

def stepWrites (process : Process) (input : Input) : List (Packet × Nat) :=
  match handling process input with
  | none => []
  | some (packet, dataSize) =>
      diskWrites process.statics packet dataSize (activeBuffering process)

theorem step_toFile {process : Process} (modes : Modes process) (input : Input) :
    (stateMachine process input).statics.toFile =
      process.statics.toFile ++ writtenBytes (stepWrites process input) := by
  rcases stateMachine_any modes input with ⟨packet, dataSize, isHandled, handled⟩ |
    ⟨nothing, keeps⟩
  · rw [handled, handleData_toFile, stepWrites, isHandled]
  · rw [keeps.toFile, stepWrites, nothing]
    exact (List.append_nil _).symm

/-- The header that is acted on is that of the datagram just received, and each call of
`writeDataToDisk` writes the payload of a datagram that was received, with its size; the file
grows by just that. -/
def WritesReceived (watched : Watched) (input : Input) : Prop :=
  (∀ datagram ∈ accepted watched.process input,
    (receivedPacket watched.process input).bytes.take packetHeaderSsize =
      headerOf datagram) ∧
  (∀ write ∈ stepWrites watched.process input, ∃ datagram ∈ (watched.next input).received,
    writeSize write.2 + packetHeaderSsize = datagram.length ∧
      writeSize write.2 ≤ watched.process.statics.bufferSize ∧
      write.1.payload.take (writeSize write.2) = payloadOf datagram) ∧
  (stateMachine watched.process input).statics.toFile =
    watched.process.statics.toFile ++ writtenBytes (stepWrites watched.process input)

/-- A datagram shorter than the header is accepted as the first data packet, or into a
packet that is not clear behind it. -/
def FallsShort (process : Process) (input : Input) : Prop :=
  ∃ datagram ∈ accepted process input, datagram.length < packetHeaderSsize ∧
    (process.state = .receiveFirstData ∨
      ∃ index < packetHeaderSsize, datagram.length ≤ index ∧
        (memory process).bytes.getD index 0 ≠ 0)

def Whole (bufferSize : Nat) (received : List Datagram) (bytes : List UInt8) (size : Nat) :
    Prop :=
  ∃ datagram ∈ received, size = datagram.length ∧ bytes.take size = datagram ∧
    packetHeaderSsize ≤ size ∧ size ≤ dataPacketSsize bufferSize

def HoldsWhole (bufferSize : Nat) (received : List Datagram) (window : Window) : Prop :=
  ∀ index, (window.elements index).valid = true →
    Whole bufferSize received (window.elements index).packet (window.elements index).dataSize ∧
      (window.elements index).packet.length ≤ packetMaxSsize ∧
      window.slot (seqNumOf (window.elements index).packet) = index

structure StaticsWhole (bufferSize : Nat) (received : List Datagram) (statics : Statics) :
    Prop where
  bufferSize_eq : statics.bufferSize = bufferSize
  windowBuffer_eq : statics.window.bufferSize = bufferSize
  slots : HoldsWhole bufferSize received statics.window

structure WatchedInv (bufferSize : Nat) (watched : Watched) : Prop where
  modes : Modes watched.process
  asks : watched.process.state = .receiveFirstData →
    watched.process.currPacket.flag = FlagType.filenameResp.code
  waits : Waits watched.process → isDataFlag watched.process.currPacket.flag = true →
    Whole bufferSize watched.received watched.process.currPacket.bytes watched.process.dataSize
  statics : StaticsWhole bufferSize watched.received watched.process.statics

section Slots

variable {bufferSize : Nat} {received : List Datagram} {window : Window} {packet : Packet}
  {dataSize : Nat}

theorem Whole.mono {later : List Datagram} {bytes : List UInt8} {size : Nat}
    (whole : Whole bufferSize received bytes size)
    (kept : ∀ datagram ∈ received, datagram ∈ later) :
    Whole bufferSize later bytes size := by
  obtain ⟨datagram, member, holds⟩ := whole
  exact ⟨datagram, kept datagram member, holds⟩

theorem Whole.of_take_eq {bytes copy : List UInt8} {size : Nat}
    (whole : Whole bufferSize received bytes size) (same : copy.take size = bytes.take size) :
    Whole bufferSize received copy size := by
  obtain ⟨datagram, member, sized, held, bounds⟩ := whole
  exact ⟨datagram, member, sized, same.trans held, bounds⟩

theorem Whole.size_le {bytes : List UInt8} {size : Nat}
    (whole : Whole bufferSize received bytes size) : size ≤ bytes.length := by
  obtain ⟨datagram, member, sized, held, bounds⟩ := whole
  rw [sized, ← held]
  exact List.length_take_le' _ _

theorem Whole.written (whole : Whole bufferSize received packet.bytes dataSize)
    (bufferMax : bufferSize ≤ payloadMax) :
    ∃ datagram ∈ received, writeSize dataSize + packetHeaderSsize = datagram.length ∧
      writeSize dataSize ≤ bufferSize ∧
      packet.payload.take (writeSize dataSize) = payloadOf datagram := by
  obtain ⟨datagram, member, sized, held, header, atMost⟩ := whole
  obtain ⟨size, rfl⟩ := Nat.exists_eq_add_of_le header
  have small : size ≤ bufferSize := Nat.le_of_add_le_add_left atMost
  have noWrap : writeSize (packetHeaderSsize + size) = size := by
    apply writeSize_eq
    rw [payloadMax] at bufferMax
    omega
  refine ⟨datagram, member, ?_, ?_, ?_⟩
  · rw [noWrap, ← sized, Nat.add_comm]
  · rw [noWrap]
    exact small
  · rw [noWrap, ← held, payloadOf, List.drop_take, Nat.add_sub_cancel_left]
    rfl

theorem HoldsWhole.mono {later : List Datagram} (holds : HoldsWhole bufferSize received window)
    (kept : ∀ datagram ∈ received, datagram ∈ later) : HoldsWhole bufferSize later window := by
  intro index valid
  obtain ⟨whole, rest⟩ := holds index valid
  exact ⟨whole.mono kept, rest⟩

theorem HoldsWhole.of_valid {later : Window} (holds : HoldsWhole bufferSize received window)
    (windowSize : later.windowSize = window.windowSize)
    (kept : ∀ index, (later.elements index).valid = true →
      later.elements index = window.elements index) :
    HoldsWhole bufferSize received later := by
  intro index valid
  rw [Window.slot, windowSize, kept index valid]
  rw [kept index valid] at valid
  exact holds index valid

theorem HoldsWhole.replaced (holds : HoldsWhole bufferSize received window)
    (buffer : window.bufferSize = bufferSize)
    (whole : Whole bufferSize received packet.bytes dataSize) :
    HoldsWhole bufferSize received (replacePacket window packet dataSize) := by
  intro index valid
  by_cases own : index = window.slot packet.seqNum
  · rw [own, ReceiveWindow.replaced_same]
    obtain ⟨_, _, _, _, _, atMost⟩ := id whole
    have room : windowElementPacketSsize window.bufferSize = dataPacketSsize bufferSize := by
      rw [buffer]
      rfl
    refine ⟨whole.of_take_eq ?_, ?_, ?_⟩
    · change (packet.bytes.take _).take dataSize = _
      rw [List.take_take, room, Nat.min_eq_left atMost]
    · exact Nat.le_trans (List.length_take_le' _ _) (Nat.le_of_eq packet.size_eq)
    · have enough : 4 ≤ dataPacketSsize bufferSize :=
        Nat.le_trans (by decide) (Nat.le_add_right packetHeaderSsize bufferSize)
      change window.slot (seqNumOf (packet.bytes.take _)) = _
      rw [room, seqNumOf, ntohl_take _ _ enough]
      rfl
  · rw [ReceiveWindow.replaced_other _ _ _ own] at valid ⊢
    exact holds index valid

theorem HoldsWhole.removed (holds : HoldsWhole bufferSize received window) (seqNum : Nat) :
    HoldsWhole bufferSize received (removePacket window seqNum) :=
  holds.of_valid rfl (ReceiveWindow.removed_valid window seqNum)

theorem HoldsWhole.added (holds : HoldsWhole bufferSize received window)
    (buffer : window.bufferSize = bufferSize)
    (whole : Whole bufferSize received packet.bytes dataSize) :
    HoldsWhole bufferSize received (addPacket window packet dataSize).2 := by
  have stored := holds.replaced buffer whole
  unfold addPacket
  split
  · exact holds
  · dsimp only
    split
    · exact stored.of_valid rfl (fun _ _ => rfl)
    · split
      · exact stored.of_valid rfl (fun index valid =>
          ReceiveWindow.cleared_valid _ _ _ _ _ valid)
      · exact stored

end Slots

section Handlers

variable {bufferSize : Nat} {received : List Datagram} {statics : Statics} {packet : Packet}
  {dataSize : Nat}

theorem StaticsWhole.of_window {later : Statics} (ok : StaticsWhole bufferSize received statics)
    (size : later.bufferSize = statics.bufferSize) (window : later.window = statics.window) :
    StaticsWhole bufferSize received later :=
  ⟨size.trans ok.bufferSize_eq, window ▸ ok.windowBuffer_eq, window ▸ ok.slots⟩

theorem StaticsWhole.drained (ok : StaticsWhole bufferSize received statics)
    (whole : Whole bufferSize received packet.bytes dataSize) :
    StaticsWhole bufferSize received (drain statics packet dataSize) := by
  have stored := ok.slots.replaced ok.windowBuffer_eq whole
  by_cases found : 0 < (drainNumbers statics packet dataSize).length
  · obtain ⟨window, _, _, size⟩ := flushPackets_frame (drainNumbers statics packet dataSize)
      (placed statics packet dataSize)
    rw [drain_eq found]
    refine ⟨size.trans ok.bufferSize_eq, ?_, ?_⟩
    · rw [flushWindow, moveWindow, window]
      exact ok.windowBuffer_eq
    · rw [flushWindow, moveWindow, window]
      exact stored.removed _
  · have kept : drain statics packet dataSize = placed statics packet dataSize := if_neg found
    rw [kept]
    exact ⟨ok.bufferSize_eq, ok.windowBuffer_eq, stored⟩

theorem StaticsWhole.handled (ok : StaticsWhole bufferSize received statics) (buffering : Bool)
    (whole : isDataFlag packet.flag = true → Whole bufferSize received packet.bytes dataSize) :
    StaticsWhole bufferSize received
      (handleData statics packet dataSize buffering).statics := by
  cases data : isDataFlag packet.flag with
  | false =>
      rw [handleData_notData dataSize buffering data]
      exact ok
  | true =>
      have replied : ∀ later buffering, StaticsWhole bufferSize received later →
          StaticsWhole bufferSize received (acknowledge later buffering) :=
        fun later buffering holds =>
          holds.of_window (acknowledge_frame later buffering).2.2.2.2.2
            (acknowledge_frame later buffering).1
      obtain ⟨window, _, _, _, size⟩ := rejectGap_frame statics buffering
      have outcome := handleData_outcome statics packet dataSize buffering data
      generalize handleData statics packet dataSize buffering = handled at outcome ⊢
      cases outcome with
      | inOrder here =>
          apply replied
          exact ⟨ok.bufferSize_eq, ok.windowBuffer_eq, ok.slots.removed _⟩
      | stored _ above isOpen free =>
          exact ⟨size.trans ok.bufferSize_eq, (addPacket_frame _ _ _).2.trans
            ok.windowBuffer_eq, ok.slots.added ok.windowBuffer_eq (whole data)⟩
      | refused _ highest above closed free => exact ok.of_window size window
      | drainedPart here free more => exact replied _ true (ok.drained (whole data))
      | drainedAll here free done => exact replied _ false (ok.drained (whole data))
      | repeated _ known => exact replied statics buffering ok

theorem mem_inorderFrom {window : Window} {count first number : Nat}
    (found : number ∈ inorderFrom window count first) :
    ∃ index, (window.elements index).valid = true ∧
      number = seqNumOf (window.elements index).packet := by
  obtain ⟨offset, inside, isNumber⟩ := List.getElem_of_mem found
  obtain ⟨valid, read⟩ := inorderFrom_getElem window count first offset inside
  exact ⟨_, valid, isNumber.symm.trans read⟩

theorem HoldsWhole.flushed {window : Window} (holds : HoldsWhole bufferSize received window)
    {index : Nat} (valid : (window.elements index).valid = true) :
    Whole bufferSize received
      (getPacket window Packet.zero (seqNumOf (window.elements index).packet)).1.bytes
      (getPacket window Packet.zero (seqNumOf (window.elements index).packet)).2 := by
  obtain ⟨whole, inPacket, atIndex⟩ := holds index valid
  have read := getPacket_take window Packet.zero (seqNumOf (window.elements index).packet)
    (by rw [atIndex]; exact inPacket) (by rw [atIndex]; exact whole.size_le)
  have size : (getPacket window Packet.zero
      (seqNumOf (window.elements index).packet)).2 = (window.elements index).dataSize := by
    rw [getPacket, atIndex]
  rw [atIndex, size] at read
  rw [size]
  exact whole.of_take_eq read

theorem StaticsWhole.writes (ok : StaticsWhole bufferSize received statics) (buffering : Bool)
    (whole : isDataFlag packet.flag = true → Whole bufferSize received packet.bytes dataSize) :
    ∀ write ∈ diskWrites statics packet dataSize buffering,
      Whole bufferSize received write.1.bytes write.2 := by
  intro write listed
  unfold diskWrites at listed
  split at listed
  · next here =>
      have data := (Bool.and_eq_true_iff.mp here).1
      split at listed
      · split at listed
        · cases listed
        · obtain ⟨number, found, rfl⟩ := List.mem_map.mp listed
          obtain ⟨index, valid, rfl⟩ := mem_inorderFrom found
          exact (ok.slots.replaced ok.windowBuffer_eq (whole data)).flushed valid
      · rw [List.mem_singleton.mp listed]
        exact whole data
  · cases listed

end Handlers

/-! ### Steps -/

section Step

variable {bufferSize : Nat} {watched : Watched} {input : Input}

theorem Watched.received_next (watched : Watched) (input : Input) :
    ∀ datagram ∈ watched.received, datagram ∈ (watched.next input).received :=
  fun _ member => List.mem_append_left _ member

theorem accepted_received {datagram : Datagram}
    (accepts : accepted watched.process input = some datagram) :
    datagram ∈ (watched.next input).received := by
  apply List.mem_append_right
  rw [accepts]
  exact List.mem_singleton_self datagram

theorem accepted_length (ok : watched.process.statics.bufferSize = bufferSize)
    (bufferMax : bufferSize ≤ payloadMax) {datagram : Datagram}
    (accepts : accepted watched.process input = some datagram) :
    datagram.length ≤ packetMaxSsize ∧
      (watched.process.state ≠ .waitForFilenameAck →
        datagram.length ≤ dataPacketSsize bufferSize) := by
  obtain ⟨_, arrived, _, rfl, _⟩ := accepted_eq_some accepts
  have limited := List.length_take_le (receiveLimit watched.process) arrived
  by_cases asking : watched.process.state = .waitForFilenameAck
  · simp only [receiveLimit, asking] at limited ⊢
    exact ⟨Nat.le_trans limited (by decide), fun other => absurd rfl other⟩
  · have limit : receiveLimit watched.process = dataPacketSsize bufferSize := by
      unfold receiveLimit
      split
      · next isAsking => exact absurd isAsking asking
      · rw [ok]
    rw [limit] at limited ⊢
    refine ⟨Nat.le_trans limited ?_, fun _ => limited⟩
    simp only [dataPacketSsize, packetHeaderSsize, packetMaxSsize, payloadMax] at *
    omega

theorem accepted_whole (ok : watched.process.statics.bufferSize = bufferSize)
    (bufferMax : bufferSize ≤ payloadMax) {datagram : Datagram}
    (accepts : accepted watched.process input = some datagram)
    (notAsking : watched.process.state ≠ .waitForFilenameAck)
    (fine : ¬FallsShort watched.process input)
    (data : isDataFlag ((memory watched.process).memcpy 0 datagram).flag = true) :
    Whole bufferSize (watched.next input).received
      ((memory watched.process).memcpy 0 datagram).bytes datagram.length := by
  obtain ⟨fits, atMost⟩ := accepted_length ok bufferMax accepts
  refine ⟨datagram, accepted_received accepts, rfl, Packet.memcpy_take _ fits, ?_,
    atMost notAsking⟩
  by_contra short
  have isShort : datagram.length < packetHeaderSsize := Nat.lt_of_not_le short
  have uncovered : datagram.length ≤ 6 := Nat.le_of_lt_succ isShort
  have flag : ((memory watched.process).memcpy 0 datagram).flag =
      (memory watched.process).bytes.getD 6 0 := by
    rw [Packet.flag, flagOf, Packet.memcpy_zero_bytes _ fits,
      List.getD_append_right _ _ _ _ uncovered, List.getD_eq_getElem?_getD, List.getElem?_drop,
      Nat.add_sub_cancel' uncovered, ← List.getD_eq_getElem?_getD]
  have clear : (memory watched.process).bytes.getD 6 0 = 0 := by
    by_contra nonzero
    exact fine ⟨datagram, accepts, isShort, .inr ⟨6, by decide, uncovered, nonzero⟩⟩
  rw [flag, clear] at data
  revert data
  decide

theorem handled_whole (inv : WatchedInv bufferSize watched) (bufferMax : bufferSize ≤ payloadMax)
    (fine : ¬FallsShort watched.process input) {packet : Packet} {dataSize : Nat}
    (isHandled : handling watched.process input = some (packet, dataSize))
    (data : isDataFlag packet.flag = true) :
    Whole bufferSize (watched.next input).received packet.bytes dataSize := by
  by_cases atLoop : watched.process.state = .lastDataLoop
  · rw [handling_teardown atLoop] at isHandled
    obtain ⟨datagram, accepts, same⟩ := Option.map_eq_some_iff.mp isHandled
    cases same
    exact accepted_whole inv.statics.bufferSize_eq bufferMax accepts (by simp [atLoop]) fine data
  · have pending : Waits watched.process ∧
        (watched.process.currPacket, watched.process.dataSize) = (packet, dataSize) := by
      by_cases waits : Waits watched.process
      · by_cases under : watched.process.timeout < timeoutMax
        · rw [handling_waits input waits under] at isHandled
          exact ⟨waits, Option.some.inj isHandled⟩
        · rw [handling_expired input atLoop (Nat.not_lt.mp under)] at isHandled
          cases isHandled
      · rw [handling_of_idle input atLoop waits] at isHandled
        cases isHandled
    obtain ⟨waits, same⟩ := pending
    cases same
    exact (inv.waits waits data).mono (watched.received_next input)

theorem WatchedInv.next (inv : WatchedInv bufferSize watched) (bufferMax : bufferSize ≤ payloadMax)
    (fine : ¬FallsShort watched.process input) : WatchedInv bufferSize (watched.next input) where
  modes := stateMachine_modes inv.modes
  asks := stateMachine_asks inv.modes
  waits := by
    intro waits data
    obtain ⟨receiving, datagram, accepts, packet, size⟩ := stateMachine_waits inv.modes waits
    have notAsking : watched.process.state ≠ .waitForFilenameAck := by
      rcases receiving with atState | atState <;> simp [atState]
    change isDataFlag (stateMachine watched.process input).currPacket.flag = true at data
    change Whole _ _ (stateMachine watched.process input).currPacket.bytes
      (stateMachine watched.process input).dataSize
    rw [packet] at data ⊢
    rw [size]
    exact accepted_whole inv.statics.bufferSize_eq bufferMax accepts notAsking fine data
  statics := by
    have kept : StaticsWhole bufferSize (watched.next input).received watched.process.statics :=
      ⟨inv.statics.bufferSize_eq, inv.statics.windowBuffer_eq,
        inv.statics.slots.mono (watched.received_next input)⟩
    rcases stateMachine_any inv.modes input with
      ⟨packet, dataSize, isHandled, handled⟩ | ⟨_, keeps⟩
    · change StaticsWhole _ _ (stateMachine watched.process input).statics
      rw [handled]
      exact kept.handled _ (handled_whole inv bufferMax fine isHandled)
    · exact kept.of_window keeps.bufferSize keeps.window

theorem writesReceived_iff (inv : WatchedInv bufferSize watched)
    (bufferMax : bufferSize ≤ payloadMax) :
    WritesReceived watched input ↔ ¬FallsShort watched.process input := by
  constructor
  · rintro ⟨headers, _⟩ ⟨datagram, accepts, short, leftover⟩
    have fits := (accepted_length inv.statics.bufferSize_eq bufferMax accepts).1
    have header := headers datagram accepts
    rw [receivedPacket_eq accepts, header_eq_iff _ fits] at header
    rcases leftover with atFirst | ⟨index, inside, above, nonzero⟩
    · have flagged : (memory watched.process).bytes.getD 6 0 = FlagType.filenameResp.code := by
        simp only [memory, atFirst]
        exact inv.asks atFirst
      rw [header 6 (by decide) (Nat.le_of_lt_succ short)] at flagged
      exact FlagType.code_ne_zero _ flagged.symm
    · exact nonzero (header index inside above)
  · intro fine
    refine ⟨?_, ?_, step_toFile inv.modes input⟩
    · intro datagram accepts
      have fits := (accepted_length inv.statics.bufferSize_eq bufferMax accepts).1
      rw [receivedPacket_eq accepts, header_eq_iff _ fits]
      intro index inside above
      by_contra nonzero
      exact fine ⟨datagram, accepts, Nat.lt_of_le_of_lt above inside,
        .inr ⟨index, inside, above, nonzero⟩⟩
    · intro write listed
      have kept : StaticsWhole bufferSize (watched.next input).received
          watched.process.statics :=
        ⟨inv.statics.bufferSize_eq, inv.statics.windowBuffer_eq,
          inv.statics.slots.mono (watched.received_next input)⟩
      unfold stepWrites at listed
      split at listed
      · cases listed
      · next packet dataSize isHandled =>
          have whole := kept.writes _ (handled_whole inv bufferMax fine isHandled) write listed
          rw [inv.statics.bufferSize_eq]
          exact whole.written bufferMax

end Step

theorem watch_inv (windowSize bufferSize : Nat) (fromFileName : List UInt8) :
    WatchedInv bufferSize (watch (start windowSize bufferSize fromFileName)) where
  modes := .of_handshake rfl (fun no => by cases no)
  asks := fun no => by cases no
  waits := fun waits => by rcases waits with no | no <;> cases no
  statics := ⟨rfl, rfl, fun _ no => by cases no⟩

/-- Whatever arrives: rcopy acts on the header of the datagram just received and writes
nothing but whole payloads with their own size, in exactly the runs in which no datagram
shorter than the header is accepted onto older bytes. -/
theorem writes_received_iff (windowSize bufferSize : Nat) (bufferMax : bufferSize ≤ payloadMax)
    (fromFileName : List UInt8) (inputs : List Input) :
    EveryStep Watched.next WritesReceived
        (watch (start windowSize bufferSize fromFileName)) inputs ↔
      EveryStep Watched.next (fun watched input => ¬FallsShort watched.process input)
        (watch (start windowSize bufferSize fromFileName)) inputs :=
  everyStep_congr (WatchedInv bufferSize)
    (fun _ _ inv _ first => inv.next bufferMax ((writesReceived_iff inv bufferMax).mp first))
    (fun _ _ inv _ => writesReceived_iff inv bufferMax)
    (watch_inv windowSize bufferSize fromFileName) (everyStep_true _ inputs)

instance (watched : Watched) (input : Input) : Decidable (WritesReceived watched input) :=
  inferInstanceAs (Decidable ((∀ _ ∈ accepted _ _, _) ∧
    (∀ _ ∈ stepWrites _ _, ∃ _ ∈ _, _ ∧ _ ∧ _) ∧ _ = _))

instance (process : Process) (input : Input) : Decidable (FallsShort process input) :=
  inferInstanceAs (Decidable (∃ _ ∈ accepted _ _, _ ∧ (_ ∨ ∃ _ < _, _ ∧ _)))

/-- Two bytes that `isValidPacket` accepts are thrown out after packet 1. -/
theorem writes_received_iff_thrown_out :
    EveryStep Watched.next WritesReceived (watch (start 4 1 []))
      (handshake ++ arriving (eightBytes 4) [1] ++ [pass (some [255, 255]), pass none]) :=
  (writes_received_iff 4 1 (by decide) [] _).mpr (by decide +kernel)

/-- The last packet of a file arrives before packet 1, and again in `lastData`.  Six bytes
that name packet 1 are then taken for a last packet, and 65535 bytes are written. -/
def sixBytes : List Input :=
  let lastPacket := dataDatagram 2 .eof []
  handshake ++ [pass (some lastPacket), pass none, pass none, pass (some lastPacket),
    pass (some [0, 0, 0, 1, 255, 254])]

theorem short_datagram_underflows :
    ¬∀ (windowSize bufferSize : Nat) (fromFileName : List UInt8) (inputs : List Input),
      1 ≤ windowSize → windowSize ≤ 2 ^ 30 → payloadMin ≤ bufferSize → bufferSize ≤ payloadMax →
      EveryStep Watched.next WritesReceived (watch (start windowSize bufferSize fromFileName))
        inputs := by
  intro claim
  have received := claim 4 1 [] sixBytes (by decide) (by decide) (by decide) (by decide)
  revert received
  decide +kernel

end Rcopy

end CPE464.Project3
