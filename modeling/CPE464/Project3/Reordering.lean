/-
A session in which datagrams also overtake each other and arrive more than once.

On the way to rcopy that may happen to any datagram.  On the way to the server it may happen as
long as the numbers of the RRs do not step back, because `removePacket` takes over whatever number
arrives.
-/

import CPE464.Project3.EndToEnd

namespace CPE464.Project3.System

open General

/-- A step of the session, or other datagrams in the place of those under way. -/
inductive Event where
  | act (action : Action)
  | rearrangeToClient (datagrams : List Datagram)
  | rearrangeToServer (datagrams : List Datagram)

def happen (system : System) : Event → System
  | .act action => step system action
  | .rearrangeToClient datagrams => { system with toClient := datagrams }
  | .rearrangeToServer datagrams => { system with toServer := datagrams }

/-- The network repeats, drops and reorders what is under way, but it makes nothing up, and the
RRs stay in the order of their numbers. -/
def Possible (transfer : Transfer) (system : System) : Event → Prop
  | .act action => Enabled transfer system action
  | .rearrangeToClient datagrams => ∀ datagram ∈ datagrams, datagram ∈ system.toClient
  | .rearrangeToServer datagrams =>
      (∀ datagram ∈ datagrams, datagram ∈ system.toServer) ∧
        (datagrams.filterMap rrNumber?).Pairwise (· ≤ ·)

instance Possible.decidable (transfer : Transfer) (system : System) :
    (event : Event) → Decidable (Possible transfer system event)
  | .act action => Enabled.decidable transfer system action
  | .rearrangeToClient _ => inferInstanceAs (Decidable (∀ _ ∈ _, _))
  | .rearrangeToServer _ => inferInstanceAs (Decidable ((∀ _ ∈ _, _) ∧ _))

variable {transfer : Transfer} {system : System}

theorem happen_inv {event : Event} (inv : JointInv transfer system)
    (possible : Possible transfer system event) : JointInv transfer (happen system event) := by
  cases event with
  | act action => exact (step_refines inv possible).2
  | rearrangeToClient datagrams => exact inv.of_toClient possible
  | rearrangeToServer datagrams => exact inv.of_toServer possible.1 possible.2

theorem events_inv {start : System} {events : List Event} (begins : Begins transfer start)
    (possible : EveryStep happen (Possible transfer) start events) :
    JointInv transfer (run happen start events) :=
  run_invariant (JointInv transfer) (fun _ _ inv allowed => happen_inv inv allowed)
    (begins_inv begins) possible

/-- However the datagrams overtake each other and however often they arrive, if only the numbers
of the RRs do not step back: rcopy writes a prefix of the file, it acknowledges the end only of the
whole file, and the window of the server spans the packets that rcopy lacks. -/
theorem copied_when_reordered (transfer : Transfer) (start : System) (events : List Event)
    (begins : Begins transfer start)
    (possible : EveryStep happen (Possible transfer) start events) :
    let system := run happen start events
    let statics := system.rcopy.statics
    let window := system.server.window
    statics.toFile = transfer.delivered (statics.expected - 1) ∧
      statics.toFile <+: transfer.file ∧
      (∀ datagram ∈ statics.sent, flagOf datagram = FlagType.eofAck.code →
        statics.toFile = transfer.file) ∧
      (system.server.state = .eofAcked → statics.toFile = transfer.file) ∧
      window.lower ≤ statics.expected ∧ statics.expected ≤ window.current ∧
      window.current ≤ window.lower + transfer.windowSize := by
  intro system statics window
  have inv : JointInv transfer system := events_inv begins possible
  exact ⟨inv.toFile_eq, inv.toFile_prefix,
    fun datagram member isAck => inv.toFile_whole (inv.rcopy.sent datagram member isAck),
    fun acked => inv.toFile_whole (inv.acked acked),
    inv.counters.base_le, inv.counters.delivered_le, inv.counters.near⟩

/-- The end of the file overtakes the first packet, and both arrive twice. -/
def endFirst : List Event :=
  let bothSent : List Event := List.replicate 3 (.act (.serverStep .zero))
  let underWay := (run happen (afterHandshake oneByte) bothSent).toClient
  bothSent ++ .rearrangeToClient (underWay.reverse ++ underWay) ::
    [.rcopyReceive .zero, .rcopyStep .zero, .rcopyStep .zero, .rcopyReceive .zero,
      .rcopyStep .zero].map .act

/-- The acknowledgement of the end overtakes the RR and the SREJ, and all of them are repeated. -/
def ackFirst : List Event :=
  let underWay := (run happen (afterHandshake oneByte) endFirst).toServer
  endFirst ++ [.rearrangeToServer (underWay.reverse ++ underWay), .act (.serverReceive .zero)]

theorem copied_when_reordered_twice :
    (run happen (afterHandshake oneByte) ackFirst).server.state = .eofAcked ∧
      (run happen (afterHandshake oneByte) ackFirst).rcopy.statics.toFile = [65] := by
  have acked : (run happen (afterHandshake oneByte) ackFirst).server.state = .eofAcked := by
    decide +kernel
  exact ⟨acked, (copied_when_reordered oneByte _ ackFirst oneByte_begins
    (by decide +kernel)).2.2.2.1 acked⟩

/-! ### RRs that step back -/

def Shuffles (transfer : Transfer) (system : System) : Event → Prop
  | .act action => Enabled transfer system action
  | .rearrangeToClient datagrams => datagrams.Perm system.toClient
  | .rearrangeToServer datagrams => datagrams.Perm system.toServer

instance Shuffles.decidable (transfer : Transfer) (system : System) :
    (event : Event) → Decidable (Shuffles transfer system event)
  | .act action => Enabled.decidable transfer system action
  | .rearrangeToClient _ | .rearrangeToServer _ => inferInstanceAs (Decidable (List.Perm _ _))

def sixBytes : Transfer :=
  { oneByte with
    file := [65, 66, 67, 68, 69, 70]
    short := by decide }

/-- The first two packets are acknowledged, and their RRs change places.  So the server opens its
window once more after packet 4, and packet 5 overtakes the two before it. -/
def rrsSwapped : List Event :=
  let arrivals (count : Nat) : List Action :=
    (List.replicate count [.rcopyReceive .zero, .rcopyStep .zero]).flatten
  let windowSent : List Action := List.replicate 4 (.serverStep .zero) ++ arrivals 2
  let acknowledged := windowSent.map Event.act
  let rrs := (run happen (afterHandshake sixBytes) acknowledged).toServer
  let answers : List Action :=
    .serverStep .zero :: .serverReceive .zero :: List.replicate 6 (.serverStep .zero) ++
      .serverReceive .zero :: List.replicate 2 (.serverStep .zero)
  let answered := acknowledged ++ .rearrangeToServer rrs.reverse :: answers.map .act
  let packets := (run happen (afterHandshake sixBytes) answered).toClient
  answered ++ .rearrangeToClient packets.reverse :: (arrivals 3).map .act

-- Packets 3 and 5 share a slot of rcopy's window, so that packet 3 is written in place of both.
example : EveryStep happen (Shuffles sixBytes) (afterHandshake sixBytes) rrsSwapped ∧
    (run happen (afterHandshake sixBytes) rrsSwapped).rcopy.statics.toFile =
      [65, 66, 67, 68, 67] := by
  decide +kernel

end CPE464.Project3.System
