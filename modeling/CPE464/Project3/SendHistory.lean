/-
What the ring of the server child holds, in every run.

Only `readFromDiskAndSend` writes a slot, always with the next packet, and RRs change
nothing but validity and the edges of the window.  So whatever datagrams arrive, and however
often the sequence numbers have wrapped around, each slot holds the last packet that was
built for it.  An SREJ is answered from the slot of its number, whatever that slot holds.
-/

import CPE464.General.CellHistory
import CPE464.General.GuardedRun
import CPE464.Project3.ServerReads
import CPE464.Project3.SenderTheorems

namespace CPE464.Project3

open General

theorem restamp_seqNum (packet : Packet) (flag : FlagType) (size : Nat) :
    seqNumOf ((restamp packet flag (dataPacketSsize size)).bytes.take (dataPacketSsize size)) =
      packet.seqNum := by
  have size4 : (packet.bytes.take 4).length = 4 := by
    rw [List.length_take, packet.size_eq]
    rfl
  have sent := stamp_image (reflag_image packet flag) size4 size
  calc seqNumOf ((restamp packet flag (dataPacketSsize size)).bytes.take (dataPacketSsize size))
      = ntohl (packet.bytes.take 4) :=
        (congrArg seqNumOf sent).trans (seqNumOf_packetImage _ _ size4)
    _ = packet.seqNum := ntohl_take _ _ (Nat.le_refl 4)

namespace Server

/-! ### The packets built -/

def sends (child : Child) : Bool := child.state == .windowOpen && isWindowOpen child.window

/-- The packets built and sent for the first time in a run, oldest first. -/
def built : Child → List Input → List Datagram
  | _, [] => []
  | child, input :: rest =>
      (if sends child then [nextDatagram child] else []) ++ built (step child input) rest

def place (windowSize write : Nat) : Nat := wrap32 (seqNumStart + write) % windowSize

def Keeps (packets : List Datagram) (write : Nat) (element : WindowElement) : Prop :=
  ∃ datagram, packets[write]? = some datagram ∧ element.dataSize = datagram.length ∧
    element.packet.take element.dataSize = datagram

structure SendHistory (windowSize bufferSize : Nat) (packets : List Datagram) (child : Child) :
    Prop where
  windowSize_eq : child.window.windowSize = windowSize
  bufferSize_eq : child.bufferSize = bufferSize
  windowBuffer_eq : child.window.bufferSize = bufferSize
  seqNum_eq : child.seqNum = wrap32 (seqNumStart + packets.length)
  current_eq : child.window.current = child.seqNum
  block_length : ∀ index, (child.window.elements index).packet.length =
    windowElementPacketSsize bufferSize
  packet : ∀ index (inside : index < packets.length),
    seqNumOf packets[index] = wrap32 (seqNumStart + index) ∧
      packetHeaderSsize ≤ packets[index].length ∧
      packets[index].length ≤ dataPacketSsize bufferSize
  ring : Written (place windowSize) (Keeps packets) (fun element => element.dataSize = 0)
    packets.length child.window.elements

theorem start_history (windowSize bufferSize : Nat) (file : List UInt8) :
    SendHistory windowSize bufferSize [] (start windowSize bufferSize file) where
  windowSize_eq := rfl
  bufferSize_eq := rfl
  windowBuffer_eq := rfl
  seqNum_eq := rfl
  current_eq := rfl
  block_length := fun _ => List.length_replicate
  packet := fun _ absent => absurd absent (Nat.not_lt_zero _)
  ring := .initially (fun _ => rfl)

section Step

variable {windowSize bufferSize : Nat} {packets : List Datagram} {child : Child} {input : Input}

theorem step_of_sends (sending : sends child = true) :
    step child input = { readFromDiskAndSend child with
      state := if (readFromDiskAndSend child).atEof then .lastData else .checkRrSrej } := by
  simp only [sends, Bool.and_eq_true, beq_iff_eq] at sending
  simp only [step, sending.1, sendAndReceiveData, sending.2, if_true]

/-- What a step that builds no packet leaves alone. -/
structure KeepsRing (child later : Child) : Prop where
  bufferSize : later.bufferSize = child.bufferSize
  seqNum : later.seqNum = child.seqNum
  windowSize : later.window.windowSize = child.window.windowSize
  windowBuffer : later.window.bufferSize = child.window.bufferSize
  current : later.window.current = child.window.current
  dataSize : ∀ index,
    (later.window.elements index).dataSize = (child.window.elements index).dataSize
  packet : ∀ index, (later.window.elements index).packet = (child.window.elements index).packet

theorem step_keepsRing (input : Input) (idle : sends child = false) :
    KeepsRing child (step child input) := by
  have outcome := step_outcome child input
  generalize step child input = later at outcome ⊢
  cases outcome with
  | sent atTest isOpen => simp [sends, atTest, isOpen] at idle
  | acknowledged number state timeout lastTimeout rr fits notAcked =>
      exact ⟨rfl, rfl, rfl, rfl, rfl,
        fun index => sweep_keeps WindowElement.dataSize _ invalidateElement (fun _ => rfl) _ _ _ _,
        fun index => sweep_keeps WindowElement.packet _ invalidateElement (fun _ => rfl) _ _ _ _⟩
  | resent number flag stack unconditional state timeout lastTimeout asked noRr resendFlag
      inClosed fits notAcked => exact ⟨rfl, rfl, rfl, rfl, rfl, fun _ => rfl, fun _ => rfl⟩
  | idle state timeout lastTimeout noRr noResend fits acked =>
      exact ⟨rfl, rfl, rfl, rfl, rfl, fun _ => rfl, fun _ => rfl⟩

theorem SendHistory.keep {later : Child}
    (history : SendHistory windowSize bufferSize packets child) (keeps : KeepsRing child later) :
    SendHistory windowSize bufferSize packets later where
  windowSize_eq := keeps.windowSize.trans history.windowSize_eq
  bufferSize_eq := keeps.bufferSize.trans history.bufferSize_eq
  windowBuffer_eq := keeps.windowBuffer.trans history.windowBuffer_eq
  seqNum_eq := keeps.seqNum.trans history.seqNum_eq
  current_eq := keeps.current.trans (history.current_eq.trans keeps.seqNum.symm)
  block_length := fun index => by rw [keeps.packet, history.block_length]
  packet := history.packet
  ring := history.ring.mono
    (fun index write kept => by rw [Keeps, keeps.packet, keeps.dataSize]; exact kept)
    (fun index blank => (keeps.dataSize index).trans blank)

theorem Keeps.grow {write : Nat} {element : WindowElement} (kept : Keeps packets write element)
    (next : Datagram) : Keeps (packets ++ [next]) write element := by
  obtain ⟨datagram, found, held⟩ := kept
  have inside := (List.getElem?_eq_some_iff.mp found).1
  exact ⟨datagram, (List.getElem?_append_left inside).trans found, held⟩

section Send

variable (history : SendHistory windowSize bufferSize packets child)
  (bound : bufferSize ≤ payloadMax)

include history

theorem nextDatagram_length_le :
    (nextDatagram child).length ≤ dataPacketSsize bufferSize := by
  rw [nextDatagram, dataDatagram_length, ← history.bufferSize_eq]
  exact Nat.add_le_add_left (List.length_take_le _ _) _

include bound

theorem nextPacket_numbered : (nextPacket child).seqNum = child.window.current := by
  rw [nextPacket_seqNum (history.bufferSize_eq ▸ bound), history.current_eq, history.seqNum_eq,
    wrap32, wrap32, Nat.mod_mod]

theorem nextPacket_slot :
    child.window.slot (nextPacket child).seqNum = place windowSize packets.length := by
  rw [nextPacket_numbered history bound, history.current_eq, history.seqNum_eq, Window.slot,
    history.windowSize_eq]
  rfl

theorem nextPacket_kept : Keeps (packets ++ [nextDatagram child]) packets.length
    (storedElement child.window (nextPacket child) (nextDatagram child).length) := by
  have atMost := nextDatagram_length_le history
  refine ⟨nextDatagram child, List.getElem?_concat_length, rfl, ?_⟩
  change ((nextPacket child).bytes.take _).take (nextDatagram child).length = _
  rw [List.take_take, Nat.min_eq_left, nextPacket_take (history.bufferSize_eq ▸ bound)]
  rw [history.windowBuffer_eq]
  simp only [dataPacketSsize, windowElementPacketSsize, packetHeaderSsize, packetMaxSsize,
    payloadMax] at *
  omega

theorem SendHistory.send (sending : sends child = true) (input : Input) :
    SendHistory windowSize bufferSize (packets ++ [nextDatagram child]) (step child input) := by
  have isOpen : isWindowOpen child.window = true := by
    simp only [sends, Bool.and_eq_true] at sending
    exact sending.2
  have next : wrap32 (child.seqNum + 1) =
      wrap32 (seqNumStart + (packets ++ [nextDatagram child]).length) := by
    rw [history.seqNum_eq, wrap32, wrap32, wrap32, Nat.mod_add_mod, List.length_append,
      List.length_singleton, Nat.add_assoc]
  rw [step_of_sends sending, readFromDiskAndSend_frame (history.bufferSize_eq ▸ bound),
    addPacket_current _ _ _ isOpen (nextPacket_numbered history bound)]
  constructor
  · exact history.windowSize_eq
  · exact history.bufferSize_eq
  · exact history.windowBuffer_eq
  · exact next
  · change wrap32 (child.window.current + 1) = wrap32 (child.seqNum + 1)
    rw [history.current_eq]
  · intro index
    by_cases own : index = child.window.slot (nextPacket child).seqNum
    · subst own
      change ((setCell child.window.elements _ _) _).packet.length = _
      rw [setCell_same]
      exact (storedElement_length _ _ (history.windowBuffer_eq ▸ bound)).trans
        (congrArg windowElementPacketSsize history.windowBuffer_eq)
    · change ((setCell child.window.elements _ _) index).packet.length = _
      rw [setCell_of_ne _ _ own, history.block_length]
  · intro index inside
    rw [List.length_append, List.length_singleton] at inside
    rcases Nat.lt_succ_iff_lt_or_eq.mp inside with before | rfl
    · rw [List.getElem_append_left before]
      exact history.packet index before
    · rw [List.getElem_concat_length rfl]
      refine ⟨?_, dataDatagram_length _ _ _ ▸ Nat.le_add_right _ _,
        nextDatagram_length_le history⟩
      rw [nextDatagram, dataDatagram_seqNum, history.seqNum_eq, wrap32, wrap32, Nat.mod_mod]
  · have known := history.ring.mono (fun _ _ kept => Keeps.grow kept (nextDatagram child))
      (fun _ blank => blank)
    have grown := known.write (nextPacket_kept history bound)
    rw [← nextPacket_slot history bound] at grown
    rw [List.length_append]
    exact grown

end Send

theorem SendHistory.onward (history : SendHistory windowSize bufferSize packets child)
    (bound : bufferSize ≤ payloadMax) (input : Input) :
    SendHistory windowSize bufferSize
      (packets ++ if sends child then [nextDatagram child] else []) (step child input) := by
  cases sending : sends child with
  | true => exact history.send bound sending input
  | false =>
      rw [if_neg Bool.false_ne_true, List.append_nil]
      exact history.keep (step_keepsRing input sending)

theorem SendHistory.onward_run (history : SendHistory windowSize bufferSize packets child)
    (bound : bufferSize ≤ payloadMax) (inputs : List Input) :
    SendHistory windowSize bufferSize (packets ++ built child inputs)
      (run step child inputs) := by
  induction inputs generalizing packets child with
  | nil =>
      rw [built, List.append_nil]
      exact history
  | cons input rest ih =>
      rw [built, ← List.append_assoc]
      exact ih (history.onward bound input)

end Step

theorem run_history (windowSize : Nat) {bufferSize : Nat} (bound : bufferSize ≤ payloadMax)
    (file : List UInt8) (inputs : List Input) :
    SendHistory windowSize bufferSize (built (start windowSize bufferSize file) inputs)
      (run step (start windowSize bufferSize file) inputs) :=
  (start_history windowSize bufferSize file).onward_run bound inputs

/-! ### SREJs for any number -/

def srejNumber? (datagram : Datagram) : Option Nat :=
  let (valid, packet, _) := receiveAndValidateData Packet.zero datagram rrPacketSsize true
  if valid && packet.flag == FlagType.srej.code then some packet.number else none

/-- Between the two states the window has not changed, and nothing has been sent but whole
packets with this number. -/
def Harmless (number : Nat) (child later : Child) : Prop :=
  later.window = child.window ∧
    ∀ datagram ∈ later.sent.drop child.sent.length,
      seqNumOf datagram = number ∧ packetHeaderSsize ≤ datagram.length

/-- A packet with this number has been built, and none of the later ones has taken its
slot. -/
def LastInSlot (windowSize : Nat) (packets : List Datagram) (number : Nat) : Prop :=
  ∃ before after, packets.map seqNumOf = before ++ number :: after ∧
    ∀ other ∈ after, other % windowSize ≠ number % windowSize

section Srej

variable {windowSize bufferSize : Nat} {packets : List Datagram} {child : Child}
  {number : Nat} {datagram : Datagram}

theorem processRrSrej_srej (named : srejNumber? datagram = some number) (child : Child)
    (stack : Packet) :
    (processRrSrej child datagram stack).1 = resendRejected child number stack := by
  simp only [srejNumber?] at named
  split at named
  · next accepted =>
      obtain rfl := Option.some.inj named
      rw [Bool.and_eq_true, beq_iff_eq] at accepted
      simp only [processRrSrej, accepted.1, accepted.2, Bool.not_true, Bool.false_eq_true,
        if_false, if_true]
      rw [if_neg (by decide)]
  · cases named

theorem restampUnlessEof_seqNum (packet : Packet) (flag : FlagType) {dataSize : Nat}
    (header : packetHeaderSsize ≤ dataSize) :
    seqNumOf ((restampUnlessEof packet flag dataSize).bytes.take dataSize) = packet.seqNum := by
  obtain ⟨size, rfl⟩ := Nat.exists_eq_add_of_le header
  rw [restampUnlessEof]
  split
  · exact restamp_seqNum packet flag size
  · exact ntohl_take _ _ (Nat.le_trans (by decide) header)

theorem resendRejected_harmless_iff (stack : Packet) :
    Harmless number child (resendRejected child number stack) ↔
      packetHeaderSsize ≤ (getPacket child.window stack number).2 ∧
        (getPacket child.window stack number).1.seqNum = number := by
  have grown : (resendRejected child number stack).sent.drop child.sent.length =
      [(restampUnlessEof (getPacket child.window stack number).1 .srejData
        (getPacket child.window stack number).2).bytes.take
          (getPacket child.window stack number).2] := List.drop_left
  have length : ∀ packet : Packet, ∀ size, (packet.bytes.take size).length =
      min size packetMaxSsize := fun packet size => by rw [List.length_take, packet.size_eq]
  have header : packetHeaderSsize ≤ packetMaxSsize := by decide
  rw [Harmless, grown]
  simp only [List.mem_singleton, forall_eq, length, le_min_iff]
  constructor
  · rintro ⟨_, named, whole, _⟩
    rw [restampUnlessEof_seqNum _ _ whole] at named
    exact ⟨whole, named⟩
  · rintro ⟨whole, named⟩
    rw [restampUnlessEof_seqNum _ _ whole]
    exact ⟨rfl, named, whole, header⟩

theorem SendHistory.slot (history : SendHistory windowSize bufferSize packets child)
    (bound : bufferSize ≤ payloadMax) (number : Nat) (stack : Packet) :
    (getPacket child.window stack number).2 = 0 ∧
        lastWrite (place windowSize) packets.length (number % windowSize) = none ∨
      ∃ write, lastWrite (place windowSize) packets.length (number % windowSize) = some write ∧
        (getPacket child.window stack number).1.bytes.take
          (getPacket child.window stack number).2 ∈ packets[write]? ∧
        packetHeaderSsize ≤ (getPacket child.window stack number).2 := by
  have slot : child.window.slot number = number % windowSize := by
    rw [Window.slot, history.windowSize_eq]
  cases isLast : lastWrite (place windowSize) packets.length (number % windowSize) with
  | none =>
      have blank := history.ring.never _ isLast
      rw [← slot] at blank
      exact .inl ⟨blank, rfl⟩
  | some write =>
      obtain ⟨datagram, found, sized, held⟩ := history.ring.last _ write isLast
      obtain ⟨inside, isDatagram⟩ := List.getElem?_eq_some_iff.mp found
      obtain ⟨_, header, atMost⟩ := history.packet write inside
      rw [isDatagram] at header atMost
      rw [← slot] at sized held
      have block := history.block_length (child.window.slot number)
      have read := getPacket_take child.window stack number (by
          rw [block]
          simp only [windowElementPacketSsize, packetMaxSsize, payloadMax] at *
          omega) (by
          rw [block, sized]
          simp only [dataPacketSsize, windowElementPacketSsize, packetHeaderSsize,
            packetMaxSsize, payloadMax] at *
          omega)
      refine .inr ⟨write, rfl, ?_, Nat.le_trans header (Nat.le_of_eq sized.symm)⟩
      rw [read, held]
      exact found

/-- A packet whose slot no later packet has taken is read back as it was built. -/
theorem SendHistory.read (history : SendHistory windowSize bufferSize packets child)
    (bound : bufferSize ≤ payloadMax) {write : Nat} (made : write < packets.length)
    (kept : ∀ later, write < later → later < packets.length →
      place windowSize later ≠ place windowSize write)
    {number : Nat} (atSlot : number % windowSize = place windowSize write) (stack : Packet) :
    (getPacket child.window stack number).1.seqNum = wrap32 (seqNumStart + write) ∧
      packets[write]? = some ((getPacket child.window stack number).1.bytes.take
        (getPacket child.window stack number).2) := by
  have isLast : lastWrite (place windowSize) packets.length (number % windowSize) = some write :=
    lastWrite_eq_some_iff.mpr ⟨made, atSlot.symm, atSlot ▸ kept⟩
  rcases history.slot bound number stack with ⟨_, never⟩ | ⟨other, isOther, held, header⟩
  · cases never.symm.trans isLast
  · obtain rfl := Option.some.inj (isOther.symm.trans isLast)
    have isPacket := (List.getElem?_eq_some_iff.mp held).2
    refine ⟨?_, held⟩
    rw [← (history.packet other made).1, isPacket]
    exact (ntohl_take _ _ (Nat.le_trans (by decide) header)).symm

theorem lastInSlot_iff (history : SendHistory windowSize bufferSize packets child)
    (number : Nat) :
    LastInSlot windowSize packets number ↔
      ∃ write, lastWrite (place windowSize) packets.length (number % windowSize) = some write ∧
        number ∈ packets[write]?.map seqNumOf := by
  have listed : (∃ write, lastWrite (place windowSize) (packets.map seqNumOf).length
        (number % windowSize) = some write ∧ (packets.map seqNumOf)[write]? = some number) ↔
      ∃ before after, packets.map seqNumOf = before ++ number :: after ∧
        number % windowSize = number % windowSize ∧
        ∀ other ∈ after, other % windowSize ≠ number % windowSize := by
    apply lastWrite_of_list
    intro write made
    rw [List.length_map] at made
    rw [List.getElem_map, (history.packet write made).1, place]
  rw [List.length_map] at listed
  simp only [List.getElem?_map] at listed
  rw [LastInSlot]
  simpa using listed.symm

theorem SendHistory.harmless_iff (history : SendHistory windowSize bufferSize packets child)
    (bound : bufferSize ≤ payloadMax) (number : Nat) (stack : Packet) :
    Harmless number child (resendRejected child number stack) ↔
      LastInSlot windowSize packets number := by
  rw [resendRejected_harmless_iff, lastInSlot_iff history]
  rcases history.slot bound number stack with ⟨empty, isLast⟩ | ⟨write, isLast, held, header⟩
  · rw [empty, isLast]
    refine iff_of_false (fun whole => absurd whole.1 (by decide)) ?_
    rintro ⟨_, absent, _⟩
    cases absent
  · have enough : 4 ≤ (getPacket child.window stack number).2 :=
      Nat.le_trans (by decide) header
    have read : packets[write]?.map seqNumOf =
        some (getPacket child.window stack number).1.seqNum := by
      rw [Option.mem_def.mp held, Option.map_some]
      exact congrArg some (ntohl_take _ _ enough)
    rw [isLast]
    simp only [header, true_and, Option.some.injEq, exists_eq_left', read, Option.mem_def]

end Srej

/-- In every run, with any number of packets sent before, an SREJ is harmless exactly when
the packet it names is the last one built for its slot: when it has been sent and no later
packet has taken its place. -/
theorem srej_harmless_iff (windowSize bufferSize : Nat) (bufferMax : bufferSize ≤ payloadMax)
    (file : List UInt8) (inputs : List Input) (number : Nat) (datagram : Datagram)
    (named : srejNumber? datagram = some number) (stack : Packet) :
    let child := run step (start windowSize bufferSize file) inputs
    Harmless number child (processRrSrej child datagram stack).1 ↔
      LastInSlot windowSize (built (start windowSize bufferSize file) inputs) number := by
  intro child
  rw [processRrSrej_srej named]
  exact (run_history windowSize bufferMax file inputs).harmless_iff bufferMax number stack

/-- Packet 1 has been acknowledged and is still in its slot. -/
theorem srej_harmless_iff_acknowledged :
    let child := run step (start 2 1 (eightBytes 2).file) (sending 1 ++ [pass none, rrArrives 2])
    Harmless 1 child
      (processRrSrej child ((buildSrejPacket 0 1).bytes.take srejPacketSsize) .zero).1 :=
  (srej_harmless_iff 2 1 (by decide) (eightBytes 2).file _ 1 _ (by decide +kernel) .zero).mpr
    ⟨[], [2], by decide +kernel, by decide⟩

/-- SREJ 5 after one packet has been sent: its slot is that of packet 1. -/
theorem srej_beyond_window_resends_other_packet :
    ¬∀ (windowSize bufferSize : Nat) (file : List UInt8) (inputs : List Input) (number : Nat)
      (datagram : Datagram) (stack : Packet), 1 ≤ windowSize → payloadMin ≤ bufferSize →
      bufferSize ≤ payloadMax → srejNumber? datagram = some number →
      let child := run step (start windowSize bufferSize file) inputs
      ¬(child.window.lower ≤ number ∧ number < child.window.current) →
      Harmless number child (processRrSrej child datagram stack).1 := by
  intro claim
  have harmless := claim 2 1 (eightBytes 2).file (sending 1) 5
    ((buildSrejPacket 0 5).bytes.take srejPacketSsize) .zero (by decide) (by decide) (by decide)
    (by decide +kernel) (by decide +kernel)
  exact absurd harmless.2 (by decide +kernel)

end Server

end CPE464.Project3
