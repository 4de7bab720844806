/-
What the server sends when a poll times out.

In the closed-window loop the window is full, so there is always a lowest packet to resend.
`lastData` has no such guard: once the RR for the last packet has been handled the window is
empty, and the slot of `lower` holds an older packet or none.
-/

import CPE464.Project3.EndToEnd

namespace CPE464.Project3

open General

namespace Server

def timesOut (child : Child) (input : Input) : Bool :=
  polls child && input.poll.isNone && child.state != .checkRrSrej

/-- Whatever this step sends from a timeout is the lowest packet of a window that is not
empty. -/
def ResendsOutstanding (transfer : Transfer) (child : Child) (input : Input) : Prop :=
  timesOut child input = true →
    child.window.lower < child.window.current ∧
      (step child input).sent.dropLast = child.sent ∧
      ∃ datagram ∈ (step child input).sent.getLast?,
        seqNumOf datagram = child.window.lower ∧ packetHeaderSsize ≤ datagram.length ∧
          IsDataPacket transfer child.window.lower datagram

/-- The RR for the last packet has not been handled when a poll of `lastData` runs out. -/
def AwaitsLastRr (transfer : Transfer) (child : Child) (input : Input) : Prop :=
  timesOut child input = true → child.state = .lastData →
    child.window.lower ≠ transfer.packetCount + 1

instance (transfer : Transfer) (child : Child) (input : Input) :
    Decidable (ResendsOutstanding transfer child input) :=
  inferInstanceAs (Decidable (_ → _ ∧ _ ∧ ∃ _ ∈ _, _))

instance (transfer : Transfer) (child : Child) (input : Input) :
    Decidable (AwaitsLastRr transfer child input) :=
  inferInstanceAs (Decidable (_ → _ → _ ≠ _))

section Timeout

variable {transfer : Transfer} {child : Child} {input : Input}

theorem retransmits_timeout (expired : timesOut child input = true) :
    retransmits child input = some (child.window.lower, .timeoutData) := by
  simp only [timesOut, Bool.and_eq_true, Option.isNone_iff_eq_none, bne_iff_ne, ne_eq] at expired
  obtain ⟨⟨polling, timedOut⟩, notCheck⟩ := expired
  have nothing : received child input = none := by
    simp [received, timedOut]
  simp [retransmits, nothing, polling, timedOut, notCheck]

theorem outstanding_iff (inv : ServerInv transfer child) (expired : timesOut child input = true) :
    child.window.lower < child.window.current ↔
      (child.state = .lastData → child.window.lower ≠ transfer.packetCount + 1) := by
  have behind := inv.window.lower_le
  have last := inv.window.current_le
  simp only [timesOut, Bool.and_eq_true, bne_iff_ne, ne_eq] at expired
  obtain ⟨⟨polling, _⟩, notCheck⟩ := expired
  cases atState : child.state with
  | windowClosed =>
      have closed : isWindowOpen child.window = false := by
        simp only [polls, atState, Bool.and_eq_true, Bool.not_eq_true'] at polling
        exact polling.1
      have full := inv.window.isWindowOpen_eq_false_iff.mp closed
      have positive := transfer.windowSize_pos
      simp only [reduceCtorEq, false_implies, iff_true]
      omega
  | lastData =>
      have atEof : child.atEof = true := by
        have fits := inv.fits
        rw [atState] at fits
        exact fits
      have whole := inv.atEof_iff.mp atEof
      simp only [true_implies]
      omega
  | checkRrSrej => exact absurd atState notCheck
  | windowOpen | eofAcked | kill => simp [polls, atState] at polling

theorem resendsOutstanding_iff (inv : ServerInv transfer child) :
    ResendsOutstanding transfer child input ↔ AwaitsLastRr transfer child input := by
  constructor
  · intro resends expired
    exact (outstanding_iff inv expired).mp (resends expired).1
  · intro awaits expired
    have outstanding := (outstanding_iff inv expired).mpr (awaits expired)
    have first := inv.window.lower_pos
    have last := inv.window.current_le
    have resent := step_resent inv (retransmits_timeout expired) (Nat.le_refl _) outstanding
    have isPacket := transfer.datagram_isDataPacket first (by omega)
      (transfer.flagged_flagFor child.window.lower (.inr (.inr rfl)))
    rw [resent]
    exact ⟨outstanding, List.dropLast_concat, _, List.getLast?_concat, isPacket.seqNum_eq,
      isPacket.header, isPacket⟩

end Timeout

end Server

namespace System

def OfServer (holds : Server.Child → Server.Input → Prop) (system : System) (action : Action) :
    Prop :=
  ∀ input ∈ serverInput system action, holds system.server input

instance (holds : Server.Child → Server.Input → Prop)
    [∀ child input, Decidable (holds child input)] (system : System) (action : Action) :
    Decidable (OfServer holds system action) :=
  inferInstanceAs (Decidable (∀ _ ∈ serverInput system action, _))

/-- Everything sent from a timeout is an unacknowledged packet of the file in exactly the
sessions in which no poll of `lastData` runs out after the RR for the last packet. -/
theorem timeouts_resend_outstanding_iff (transfer : Transfer) (start : System)
    (actions : List Action) (begins : Begins transfer start)
    (enabled : EveryStep step (Enabled transfer) start actions) :
    EveryStep step (OfServer (Server.ResendsOutstanding transfer)) start actions ↔
      EveryStep step (OfServer (Server.AwaitsLastRr transfer)) start actions :=
  everyStep_congr (JointInv transfer) (fun _ _ inv allowed _ => (step_refines inv allowed).2)
    (fun _ _ inv _ => forall₂_congr fun _ _ => Server.resendsOutstanding_iff inv.server)
    (begins_inv begins) enabled

/-- The server waits for packet 1, which is lost, and sends it again. -/
theorem timeouts_resend_outstanding_iff_lost_packet :
    EveryStep step (OfServer (Server.ResendsOutstanding oneByte)) (afterHandshake oneByte)
      (firstPacketLost ++ [.serverStep .zero]) :=
  (timeouts_resend_outstanding_iff oneByte _ _ oneByte_begins (by decide +kernel)).mpr
    (by decide +kernel)

/-- Both packets arrive, both RRs are handled, the acknowledgement of the end of the file is
lost, and the poll of `lastData` runs out. -/
def eofAckLost : List Action :=
  [.serverStep .zero, .serverStep .zero, .serverStep .zero,
    .rcopyReceive .zero, .rcopyStep .zero, .rcopyReceive .zero, .rcopyStep .zero,
    .rcopyStep .zero, .rcopyStep .zero,
    .serverReceive .zero, .serverReceive .zero, .loseToServer 0, .serverStep .zero]

/-- The slot of `lower` is that of packet 1, which has been acknowledged, and packet 1 is
sent. -/
theorem eof_ack_lost_resends_old_packet :
    ¬∀ (transfer : Transfer) (start : System) (actions : List Action), Begins transfer start →
      EveryStep step (Enabled transfer) start actions →
      EveryStep step (OfServer (Server.ResendsOutstanding transfer)) start actions :=
  fun claim => absurd
    (claim oneByte _ eofAckLost oneByte_begins (by decide +kernel))
    (by decide +kernel)

end System

end CPE464.Project3
