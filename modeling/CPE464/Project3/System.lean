/-
rcopy and one server child over two channels that keep the order of the datagrams.

A datagram in a channel is delivered as it is, delivered with other contents that the
receiver rejects, or lost.  The two programs take their steps in any order, and a poll may
time out whether or not a datagram is under way.  The session begins where the filename
handshake has ended.  An rcopy that goes back to the handshake sends its request to the
same server child, and whatever it then receives may be taken for the answer.
-/

import CPE464.General.SlidingWindow
import CPE464.Project3.ServerInvariant
import CPE464.Project3.Session

namespace CPE464.Project3

open General

/-- The two programs and the datagrams under way, oldest first. -/
structure System where
  server : Server.Child
  rcopy : Rcopy.Process
  toClient : List Datagram
  toServer : List Datagram

namespace System

/-- One step of one of the programs, or the loss of a datagram.  `stack` is the contents of
an uninitialised packet of the program that takes the step. -/
inductive Action where
  | serverStep (stack : Packet)
  | serverReceive (stack : Packet)
  | serverReceiveDamaged (damaged : Datagram) (stack : Packet)
  | loseToServer (index : Nat)
  | rcopyStep (stack : Packet)
  | rcopyReceive (stack : Packet)
  | rcopyReceiveDamaged (damaged : Datagram) (stack : Packet)
  | loseToClient (index : Nat)

def serverMove (system : System) (poll : Option Datagram) (stack : Packet)
    (toServer : List Datagram) : System :=
  { system with
    server := Server.step system.server ⟨poll, stack⟩
    toClient := system.toClient ++
      (Server.step system.server ⟨poll, stack⟩).sent.drop system.server.sent.length
    toServer }

def rcopyMove (system : System) (poll : Option Datagram) (stack : Packet)
    (toClient : List Datagram) : System :=
  { system with
    rcopy := Rcopy.stateMachine system.rcopy ⟨poll, stack⟩
    toServer := system.toServer ++
      (Rcopy.stateMachine system.rcopy ⟨poll, stack⟩).statics.sent.drop
        system.rcopy.statics.sent.length
    toClient }

def step (system : System) : Action → System
  | .serverStep stack => serverMove system none stack system.toServer
  | .serverReceive stack =>
      serverMove system system.toServer.head? stack system.toServer.tail
  | .serverReceiveDamaged damaged stack =>
      serverMove system (some damaged) stack system.toServer.tail
  | .loseToServer index => { system with toServer := system.toServer.eraseIdx index }
  | .rcopyStep stack => rcopyMove system none stack system.toClient
  | .rcopyReceive stack =>
      rcopyMove system system.toClient.head? stack system.toClient.tail
  | .rcopyReceiveDamaged damaged stack =>
      rcopyMove system (some damaged) stack system.toClient.tail
  | .loseToClient index => { system with toClient := system.toClient.eraseIdx index }

def serverInput (system : System) : Action → Option Server.Input
  | .serverStep stack => some ⟨none, stack⟩
  | .serverReceive stack => some ⟨system.toServer.head?, stack⟩
  | .serverReceiveDamaged damaged stack => some ⟨some damaged, stack⟩
  | _ => none

def rcopyInput (system : System) : Action → Option Rcopy.Input
  | .rcopyStep stack => some ⟨none, stack⟩
  | .rcopyReceive stack => some ⟨system.toClient.head?, stack⟩
  | .rcopyReceiveDamaged damaged stack => some ⟨some damaged, stack⟩
  | .serverStep _ | .serverReceive _ | .serverReceiveDamaged _ _ | .loseToServer _ |
      .loseToClient _ => none

def ServerRejects (datagram : Datagram) : Prop :=
  (Server.receiveAndValidateData Packet.zero datagram rrPacketSsize true).1 = false

/-- A program receives when it polls, and damaged contents are rejected. -/
def Enabled (transfer : Transfer) (system : System) : Action → Prop
  | .serverStep _ | .loseToServer _ | .rcopyStep _ | .loseToClient _ => True
  | .serverReceive _ => Server.polls system.server = true ∧ system.toServer ≠ []
  | .serverReceiveDamaged damaged _ =>
      Server.polls system.server = true ∧ system.toServer ≠ [] ∧ ServerRejects damaged
  | .rcopyReceive _ => Rcopy.polls system.rcopy = true ∧ system.toClient ≠ []
  | .rcopyReceiveDamaged damaged _ =>
      Rcopy.polls system.rcopy = true ∧ system.toClient ≠ [] ∧
        (system.rcopy.state = .waitForFilenameAck ∨
          Rcopy.Rejected transfer.bufferSize damaged)

instance (datagram : Datagram) : Decidable (ServerRejects datagram) :=
  inferInstanceAs (Decidable (_ = _))

instance Enabled.decidable (transfer : Transfer) (system : System) :
    (action : Action) → Decidable (Enabled transfer system action)
  | .serverStep _ | .loseToServer _ | .rcopyStep _ | .loseToClient _ =>
      inferInstanceAs (Decidable True)
  | .serverReceive _ | .rcopyReceive _ => inferInstanceAs (Decidable (_ ∧ _ ≠ _))
  | .serverReceiveDamaged _ _ => inferInstanceAs (Decidable (_ ∧ _ ≠ _ ∧ ServerRejects _))
  | .rcopyReceiveDamaged _ _ =>
      inferInstanceAs (Decidable (_ ∧ _ ≠ _ ∧ (_ ∨ Rcopy.Rejected _ _)))

def Handshaking (process : Rcopy.Process) (input : Rcopy.Input) : Prop :=
  Rcopy.isHandshake process.state = true ∧
    (process.state = .receiveFirstData → input.poll = none)

instance (process : Rcopy.Process) (input : Rcopy.Input) :
    Decidable (Handshaking process input) :=
  inferInstanceAs (Decidable (_ ∧ (_ → _)))

/-- The handshake is over, the server child has just entered its sending loop, and nothing
is under way. -/
structure Begins (transfer : Transfer) (system : System) : Prop where
  server : system.server =
    Server.start transfer.windowSize transfer.bufferSize transfer.file
  rcopy : ∃ fromFileName inputs,
    EveryStep Rcopy.stateMachine Handshaking
      (Rcopy.start transfer.windowSize transfer.bufferSize fromFileName) inputs ∧
    system.rcopy = run Rcopy.stateMachine
      (Rcopy.start transfer.windowSize transfer.bufferSize fromFileName) inputs
  waiting : system.rcopy.state = .receiveFirstData
  toClient : system.toClient = []
  toServer : system.toServer = []

def afterHandshake (transfer : Transfer) : System where
  server := Server.start transfer.windowSize transfer.bufferSize transfer.file
  rcopy := run Rcopy.stateMachine
    (Rcopy.start transfer.windowSize transfer.bufferSize []) Rcopy.handshake
  toClient := []
  toServer := []

def counters (system : System) : SlidingWindow.Counters where
  base := system.server.window.lower
  next := system.server.window.current
  delivered := system.rcopy.statics.expected
  acks := system.toServer.filterMap rrNumber?

end System

end CPE464.Project3
