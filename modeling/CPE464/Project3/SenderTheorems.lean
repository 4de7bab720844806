/-
What the window of the server child promises, and what its resends carry.

Both need the RRs to arrive in order: `removePacket` moves the edges of the window to
whatever number it is given.
-/

import CPE464.General.GuardedRun
import CPE464.Project3.ControlMessages
import CPE464.Project3.ServerInvariant

namespace CPE464.Project3.Server

open General

/-! ### The window bound -/

/-- After this step `lower` has not moved back, no more than `windowSize` packets are
unacknowledged, the window is closed exactly when it is full, and the slots of the
packets that were and still are unacknowledged have not been touched. -/
def KeepsBound (child : Child) (input : Input) : Prop :=
  child.window.lower ≤ (step child input).window.lower ∧
    (step child input).window.lower ≤ (step child input).window.current ∧
    (step child input).window.current ≤ (step child input).window.upper ∧
    (step child input).window.upper =
      (step child input).window.lower + (step child input).window.windowSize ∧
    (isWindowOpen (step child input).window = false ↔
      (step child input).window.current - (step child input).window.lower =
        (step child input).window.windowSize) ∧
    (step child input).window.current - (step child input).window.lower ≤
      (step child input).window.windowSize ∧
    ∀ seqNum < child.window.current, (step child input).window.lower ≤ seqNum →
      (step child input).window.elements ((step child input).window.slot seqNum) =
        child.window.elements (child.window.slot seqNum)

instance (child : Child) (input : Input) : Decidable (KeepsBound child input) :=
  inferInstanceAs (Decidable (_ ∧ _ ∧ _ ∧ _ ∧ (_ ↔ _) ∧ _ ∧ ∀ _ < _, _ → _))

section Bound

variable {transfer : Transfer} {child : Child} {input : Input}

theorem keepsBound_iff (short : transfer.packetCount + 1 + transfer.windowSize < 2 ^ 32)
    (inv : ServerInv transfer child) : KeepsBound child input ↔ AcksInWindow child input := by
  constructor
  · rintro ⟨notBack, behind, _⟩ number rr
    rw [step_of_rr rr] at notBack behind
    exact ⟨notBack, behind⟩
  · intro acks
    have later := step_inv inv acks
    have sized := later.window.windowSize_eq
    have bound := later.window.near
    have last := later.window.current_le
    have behind := later.window.lower_le
    have upper : (step child input).window.upper =
        (step child input).window.lower + (step child input).window.windowSize := by
      rw [later.window.upper_eq, sized, wrap32, Nat.mod_eq_of_lt (by omega)]
    have sameSlot : ∀ seqNum,
        (step child input).window.slot seqNum = child.window.slot seqNum := by
      intro seqNum
      rw [Window.slot, Window.slot, sized, inv.window.windowSize_eq]
    refine ⟨?_, behind, by omega, upper, ?_, by omega, ?_⟩
    · cases rr : rrReceived child input with
      | none => exact Nat.le_of_eq (step_without_rr inv rr).1.symm
      | some number =>
          rw [step_of_rr rr]
          exact (acks number rr).1
    · rw [later.window.isWindowOpen_eq_false_iff, sized]
      omega
    · intro seqNum before above
      rw [sameSlot]
      cases rr : rrReceived child input with
      | none =>
          obtain ⟨stays, untouched, _⟩ := step_without_rr inv rr
          exact untouched seqNum before (stays ▸ above)
      | some number =>
          rw [step_of_rr rr] at above ⊢
          exact inv.window.removed_other above before

end Bound

/-- Whatever datagrams arrive, short of wrap-around the window keeps its bound in exactly
the runs in which every RR lies between `lower` and `current` when it is handled. -/
theorem window_bound_iff (transfer : Transfer)
    (short : transfer.packetCount + 1 + transfer.windowSize < 2 ^ 32) (inputs : List Input) :
    EveryStep step KeepsBound
        (start transfer.windowSize transfer.bufferSize transfer.file) inputs ↔
      EveryStep step AcksInWindow
        (start transfer.windowSize transfer.bufferSize transfer.file) inputs := by
  refine everyStep_congr (ServerInv transfer) ?_
    (fun child input inv _ => keepsBound_iff short inv) (start_inv transfer)
    (everyStep_true _ inputs)
  intro child input inv _ kept
  exact step_inv inv ((keepsBound_iff short inv).mp kept)

def pass (poll : Option Datagram) : Input := ⟨poll, Packet.zero⟩

def rrArrives (number : Nat) : Input :=
  pass (some ((buildRrPacket 0 number).bytes.take rrPacketSsize))

def srejArrives (number : Nat) : Input :=
  pass (some ((buildSrejPacket 0 number).bytes.take srejPacketSsize))

def sending (count : Nat) : List Input := List.replicate (2 * count) (pass none)

theorem receive_isControl {flag : FlagType} {number : Nat} {datagram : Datagram}
    (control : IsControl flag number datagram) (packet : Packet) :
    receiveAndValidateData packet datagram rrPacketSsize true =
        (true, packet.memcpy 0 datagram, rrPacketSsize) ∧
      (packet.memcpy 0 datagram).flag = flag.code ∧
      (packet.memcpy 0 datagram).number = number := by
  have length := control.length_eq
  have fits : datagram.length ≤ packetMaxSsize := by
    rw [length]
    decide
  have whole : datagram.take rrPacketSsize = datagram :=
    List.take_of_length_le (Nat.le_of_eq length)
  have copied := packet.memcpy_take fits
  have valid := isValidPacket_memcpy packet fits
  rw [control.verifies] at valid
  rw [length] at copied valid
  refine ⟨?_, ?_, ?_⟩
  · simp only [receiveAndValidateData, whole, length, valid]
    rfl
  · rw [← control.flag_eq, Packet.flag, ← flagOf_take _ (show packetHeaderSsize ≤ rrPacketSsize
      by decide), copied]
  · rw [← control.number_eq, Packet.number, ← numberOf_take _ (Nat.le_refl rrPacketSsize),
      copied]

theorem processRrSrej_rr {number : Nat} {datagram : Datagram}
    (control : IsControl .rr number datagram) (child : Child) (stack : Packet) :
    (processRrSrej child datagram stack).1 =
      { child with window := removePacket child.window number } := by
  obtain ⟨accepted, flag, named⟩ := receive_isControl control Packet.zero
  simp only [processRrSrej, accepted, flag, named, Bool.not_true, Bool.false_eq_true, if_false,
    if_true]

theorem rrReceived_rr {child : Child} {number : Nat} {datagram : Datagram}
    (polling : polls child = true) (control : IsControl .rr number datagram) (stack : Packet) :
    rrReceived child ⟨some datagram, stack⟩ = some number := by
  obtain ⟨accepted, flag, named⟩ := receive_isControl control Packet.zero
  rw [rrReceived, received_of_poll polling rfl, accepted]
  simp only [if_true, flag, named]

theorem window_bound_iff_in_order :
    EveryStep step KeepsBound (start 3 1 (eightBytes 3).file)
      (sending 3 ++ [pass none, rrArrives 2, pass none, pass none, srejArrives 2]) :=
  (window_bound_iff (eightBytes 3) (by decide) _).mpr (by decide +kernel)

/-- RR 2 arrives after RR 3 and two more packets: `lower` moves back and `upper` falls below
`current`, so that the window no longer closes. -/
theorem late_rr_moves_window_back :
    ¬∀ transfer : Transfer, transfer.packetCount + 1 + transfer.windowSize < 2 ^ 32 →
      ∀ inputs : List Input,
        (∀ input ∈ inputs, ∀ datagram ∈ input.poll, ∃ flag number,
          (flag = .rr ∨ flag = .srej ∨ flag = .eofAck) ∧ IsControl flag number datagram) →
        EveryStep step KeepsBound
          (start transfer.windowSize transfer.bufferSize transfer.file) inputs := by
  intro claim
  have kept := claim (eightBytes 3) (by decide)
    (sending 3 ++ [pass none, rrArrives 3, pass none] ++ sending 2 ++ [pass none, rrArrives 2])
    (by
      intro input member datagram polled
      simp only [sending, List.mem_append, List.mem_replicate, List.mem_cons, List.not_mem_nil,
        or_false] at member
      rcases member with ((⟨_, rfl⟩ | rfl | rfl | rfl) | ⟨_, rfl⟩) | rfl | rfl
      · cases polled
      · cases polled
      · obtain rfl := Option.some.inj polled
        exact ⟨.rr, 3, .inl rfl, buildRrPacket_isControl 0 (by decide)⟩
      · cases polled
      · cases polled
      · cases polled
      · obtain rfl := Option.some.inj polled
        exact ⟨.rr, 2, .inl rfl, buildRrPacket_isControl 0 (by decide)⟩)
  exact absurd kept (by decide +kernel)

/-! ### Resends -/

/-- A packet of the window is resent as it was first sent: the same number, length and
payload, under the flag asked for, or `FLAG_TYPE_EOF` for the last packet. -/
def ResendsFirst (transfer : Transfer) (child : Child) (input : Input) : Prop :=
  ∀ request ∈ retransmits child input,
    child.window.lower ≤ request.1 → request.1 < child.window.current →
      (step child input).sent.dropLast = child.sent ∧
        ∃ datagram ∈ (step child input).sent.getLast?,
          ∃ first ∈ child.sent.find? (named request.1),
            seqNumOf datagram = request.1 ∧
              datagram.length = first.length ∧ payloadOf datagram = payloadOf first ∧
              isValidPacket (Packet.zero.memcpy 0 datagram) datagram.length = true ∧
              flagOf datagram = (transfer.flagFor request.1 request.2).code

instance (transfer : Transfer) (child : Child) (input : Input) :
    Decidable (ResendsFirst transfer child input) :=
  inferInstanceAs (Decidable (∀ _ ∈ retransmits child input, _ → _ → _))

def rrsHandled : Child → List Input → List Nat
  | _, [] => []
  | child, input :: rest =>
      (rrReceived child input).toList ++ rrsHandled (step child input) rest

section Resends

variable {transfer : Transfer} {child : Child} {input : Input}

theorem resendsFirst (inv : ServerInv transfer child) : ResendsFirst transfer child input := by
  rintro ⟨number, flag⟩ asked above below
  have first : 1 ≤ number := Nat.le_trans inv.window.lower_pos above
  have sameLength : (transfer.datagram number (transfer.flagFor number flag)).length =
      (transfer.datagram number (transfer.flagFor number .data)).length := by
    rw [transfer.datagram_length, transfer.datagram_length]
  have samePayload : payloadOf (transfer.datagram number (transfer.flagFor number flag)) =
      payloadOf (transfer.datagram number (transfer.flagFor number .data)) := by
    rw [transfer.datagram_payload, transfer.datagram_payload]
  rw [step_resent inv asked above below]
  refine ⟨List.dropLast_concat, _, List.getLast?_concat, _,
    inv.firsts number first below, ?_, sameLength, samePayload, ?_, ?_⟩
  · exact transfer.datagram_seqNum _ _ (Nat.lt_trans below inv.current_lt)
  · have fits : (transfer.datagram number (transfer.flagFor number flag)).length ≤
        packetMaxSsize := by
      have chunk := transfer.chunk_length_le_payloadMax number
      rw [transfer.datagram_length]
      simp only [dataPacketSsize, packetHeaderSsize, packetMaxSsize, payloadMax] at *
      omega
    rw [isValidPacket_memcpy _ fits, beq_iff_eq]
    exact transfer.datagram_verifies _ _
  · exact transfer.datagram_flag _ _

/-- RR numbers that never step back, from the start of the window on, and never run ahead of
what has been sent lie in the window. -/
theorem acksInWindow_of_handled {inputs : List Input}
    (first : ∀ number ∈ rrsHandled child inputs, child.window.lower ≤ number)
    (sorted : (rrsHandled child inputs).Pairwise (· ≤ ·))
    (acked : EveryStep step
      (fun child input => ∀ number ∈ rrReceived child input, number ≤ child.window.current)
      child inputs)
    (inv : ServerInv transfer child) : EveryStep step AcksInWindow child inputs := by
  induction inputs generalizing child with
  | nil => trivial
  | cons input rest ih =>
      rw [rrsHandled, List.pairwise_append] at sorted
      have acks : AcksInWindow child input := fun number rr =>
        ⟨first number (List.mem_append_left _ (Option.mem_toList.mpr rr)), acked.1 number rr⟩
      refine ⟨acks, ih ?_ sorted.2.1 acked.2 (step_inv inv acks)⟩
      intro number later
      cases rr : rrReceived child input with
      | none =>
          rw [(step_without_rr inv rr).1]
          exact first number (List.mem_append_right _ later)
      | some earlier =>
          rw [step_of_rr rr]
          exact sorted.2.2 earlier (Option.mem_toList.mpr rr) number later

end Resends

/-- When the RRs handled never step back, start no lower than `SEQ_NUM_START` and never run
ahead of `current`, every SREJ for a packet of the window, and every timeout while it is not
empty, is answered by the first transmission of that packet under the right flag. -/
theorem resends_first_transmission (transfer : Transfer) (inputs : List Input)
    (sorted : (rrsHandled (start transfer.windowSize transfer.bufferSize transfer.file)
      inputs).Pairwise (· ≤ ·))
    (first : ∀ number ∈ rrsHandled
      (start transfer.windowSize transfer.bufferSize transfer.file) inputs,
        seqNumStart ≤ number)
    (acked : EveryStep step
      (fun child input => ∀ number ∈ rrReceived child input, number ≤ child.window.current)
      (start transfer.windowSize transfer.bufferSize transfer.file) inputs) :
    EveryStep step (ResendsFirst transfer)
      (start transfer.windowSize transfer.bufferSize transfer.file) inputs := by
  have acks := acksInWindow_of_handled first sorted acked (start_inv transfer)
  have both : EveryStep step AcksInWindow _ inputs ↔
      EveryStep step (fun child input =>
        AcksInWindow child input ∧ ResendsFirst transfer child input) _ inputs := everyStep_congr
    (ServerInv transfer) (fun child input inv _ acks => step_inv inv acks)
    (fun child input inv _ => ⟨fun acks => ⟨acks, resendsFirst inv⟩, fun both => both.1⟩)
    (start_inv transfer) (everyStep_true _ inputs)
  exact (both.mp acks).mono (fun _ _ each => each.2)

theorem resends_first_transmission_after_rr :
    EveryStep step (ResendsFirst (eightBytes 3))
      (start 3 1 (eightBytes 3).file)
      (sending 3 ++ [pass none, rrArrives 2, pass none, pass none, srejArrives 2]) :=
  resends_first_transmission (eightBytes 3) _ (by decide +kernel)
    (by decide +kernel) (by decide +kernel)

/-- RR 0 opens the window for packet 2 while packet 1 is unacknowledged; packet 2 takes its
slot and is sent for SREJ 1. -/
theorem rr_zero_resends_wrong_packet :
    ¬∀ (transfer : Transfer) (inputs : List Input),
      (rrsHandled (start transfer.windowSize transfer.bufferSize transfer.file)
        inputs).Pairwise (· ≤ ·) →
      EveryStep step
        (fun child input => ∀ number ∈ rrReceived child input, number ≤ child.window.current)
        (start transfer.windowSize transfer.bufferSize transfer.file) inputs →
      EveryStep step (ResendsFirst transfer)
        (start transfer.windowSize transfer.bufferSize transfer.file) inputs :=
  fun claim => absurd
    (claim (eightBytes 1)
      (pass none :: rrArrives 0 :: pass none :: pass none :: [srejArrives 1])
      (by decide +kernel) (by decide +kernel))
    (by decide +kernel)

end CPE464.Project3.Server
