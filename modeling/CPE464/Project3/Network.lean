/-
rcopy and the server from their start.

rcopy opens a new socket each time it asks for the file again, and `settings.server` is the
address of the main socket until a datagram of a child arrives.  The main socket is also open
to other hosts, which may send what they want; the children forked for them have nothing to do
with rcopy and are left out.  A child answers the socket that the request came from.  Once rcopy
has closed that socket, what is under way to it can only be lost.  As between rcopy and one
child, datagrams are delivered in order or lost, or the receiver rejects what has become of
them.
-/

import CPE464.Project3.SessionRanges
import CPE464.Project3.SystemInvariant

namespace CPE464.Project3

open General

/-- A child of the server, the socket of rcopy that it answers, and the datagrams between the
two. -/
structure Session where
  socket : Nat
  child : Server.Child
  toClient : List Datagram
  toServer : List Datagram

/-- The sockets of rcopy are numbered.  `server` is `settings.server`: the main socket, or the
child with this index. -/
structure Network where
  main : MainServer.Main
  rcopy : Rcopy.Process
  socket : Nat
  server : Option Nat
  requests : List (Nat × Datagram)
  sessions : List Session

/-- The child behind `processFileName`: without a file it ends at once. -/
def MainServer.childOf (child : Main) : Server.Child :=
  match child.client.file with
  | some file => enterSession child file
  | none => { enterSession child [] with state := .kill }

/-- The pass of `STATE_SEND_FILENAME_TIMEOUT`, which closes the socket and opens another. -/
def Rcopy.reopens (process : Process) : Bool :=
  process.state == .sendFilenameTimeout && process.timeout < timeoutMax

/-- What rcopy does not take for the answer to its request. -/
def Rcopy.RejectsResponse (datagram : Datagram) : Prop :=
  inCksum (datagram.take filenameRespPacketSsize) ≠ 0 ∨
    packetHeaderSsize ≤ datagram.length ∧ flagOf datagram ≠ FlagType.filenameResp.code

instance (datagram : Datagram) : Decidable (Rcopy.RejectsResponse datagram) :=
  inferInstanceAs (Decidable (_ ∨ _ ∧ _))

namespace Session

def move (rcopy : Rcopy.Process) (action : System.Action) (session : Session) : Session :=
  let moved := System.step ⟨session.child, rcopy, session.toClient, session.toServer⟩ action
  { session with
    child := moved.server
    toClient := moved.toClient
    toServer := moved.toServer }

def Enabled (session : Session) : System.Action → Prop
  | .serverStep _ | .loseToServer _ | .loseToClient _ => True
  | .serverReceive _ => Server.polls session.child = true ∧ session.toServer ≠ []
  | .serverReceiveDamaged damaged _ =>
      Server.polls session.child = true ∧ session.toServer ≠ [] ∧ System.ServerRejects damaged
  | .rcopyStep _ | .rcopyReceive _ | .rcopyReceiveDamaged _ _ => False

instance (session : Session) : (action : System.Action) → Decidable (Enabled session action)
  | .serverStep _ | .loseToServer _ | .loseToClient _ => inferInstanceAs (Decidable True)
  | .serverReceive _ => inferInstanceAs (Decidable (_ ∧ _ ≠ _))
  | .serverReceiveDamaged _ _ =>
      inferInstanceAs (Decidable (_ ∧ _ ≠ _ ∧ System.ServerRejects _))
  | .rcopyStep _ | .rcopyReceive _ | .rcopyReceiveDamaged _ _ =>
      inferInstanceAs (Decidable False)

end Session

namespace Network

/-- One step of rcopy, a datagram on the main socket, the loss of a request, or a step of a
session, each with the index of the request or the session. -/
inductive Action where
  | rcopyStep (stack : Packet)
  | rcopyReceive (index : Nat) (stack : Packet)
  | rcopyReceiveDamaged (index : Nat) (damaged : Datagram) (stack : Packet)
  | mainReceive (index : Nat)
  | mainReceiveDamaged (index : Nat) (damaged : Datagram)
  | mainReceiveOther (datagram : Datagram)
  | loseRequest (index : Nat)
  | session (index : Nat) (action : System.Action)

def start (windowSize bufferSize : Nat) (fromFileName : List UInt8) : Network where
  main := MainServer.start
  rcopy := Rcopy.start windowSize bufferSize fromFileName
  socket := 0
  server := none
  requests := []
  sessions := []

def send (network : Network) (datagrams : List Datagram) : Network :=
  match network.server with
  | none =>
      { network with
        requests := network.requests ++ datagrams.map (Prod.mk network.socket) }
  | some index =>
      { network with
        sessions := network.sessions.modify index fun session =>
          { session with toServer := session.toServer ++ datagrams } }

def rcopyMove (network : Network) (poll : Option Datagram) (stack : Packet) : Network :=
  let later := Rcopy.stateMachine network.rcopy ⟨poll, stack⟩
  let moved := { network with rcopy := later }
  if Rcopy.reopens network.rcopy then
    { moved with socket := network.socket + 1, server := none }
  else moved.send (later.statics.sent.drop network.rcopy.statics.sent.length)

/-- `safeRecvfrom` stores the address of the sender. -/
def receiveFrom (network : Network) (index : Nat) : Network :=
  { network with
    server := some index
    sessions := network.sessions.modify index fun session =>
      { session with toClient := session.toClient.tail } }

def serve (files : List UInt8 → Option (List UInt8)) (network : Network) (socket : Nat)
    (datagram : Datagram) : Network :=
  { network with
    main := MainServer.serve files network.main datagram
    sessions := network.sessions ++
      ((MainServer.forked files network.main datagram).map fun child =>
        { socket
          child := MainServer.childOf child
          toClient := child.sent.drop network.main.sent.length
          toServer := [] }).toList }

def step (files : List UInt8 → Option (List UInt8)) (network : Network) : Action → Network
  | .rcopyStep stack => rcopyMove network none stack
  | .rcopyReceive index stack =>
      rcopyMove (network.receiveFrom index)
        (network.sessions[index]?.bind fun session => session.toClient.head?) stack
  | .rcopyReceiveDamaged index damaged stack =>
      rcopyMove (network.receiveFrom index) (some damaged) stack
  | .mainReceive index =>
      match network.requests[index]? with
      | some (socket, datagram) =>
          serve files { network with requests := network.requests.eraseIdx index } socket datagram
      | none => network
  | .mainReceiveDamaged index damaged =>
      match network.requests[index]? with
      | some (socket, _) =>
          serve files { network with requests := network.requests.eraseIdx index } socket damaged
      | none => network
  | .mainReceiveOther datagram =>
      { network with main := MainServer.serve files network.main datagram }
  | .loseRequest index => { network with requests := network.requests.eraseIdx index }
  | .session index action =>
      { network with sessions := network.sessions.modify index (Session.move network.rcopy action) }

def Arrives (network : Network) (index : Nat) : Prop :=
  Rcopy.polls network.rcopy = true ∧
    ∃ session ∈ network.sessions[index]?,
      session.socket = network.socket ∧ session.toClient ≠ []

/-- A program receives when it polls, and damaged contents are rejected. -/
def Enabled (bufferSize : Nat) (network : Network) : Action → Prop
  | .rcopyStep _ | .mainReceive _ | .mainReceiveOther _ | .loseRequest _ => True
  | .rcopyReceive index _ => network.Arrives index
  | .rcopyReceiveDamaged index damaged _ =>
      network.Arrives index ∧
        if network.rcopy.state = .waitForFilenameAck then Rcopy.RejectsResponse damaged
        else Rcopy.Rejected bufferSize damaged
  | .mainReceiveDamaged _ damaged =>
      inCksum (damaged.take filenameMaxSsize) ≠ 0
  | .session index action =>
      ∃ session ∈ network.sessions[index]?, session.Enabled action

instance (network : Network) (index : Nat) : Decidable (network.Arrives index) :=
  inferInstanceAs (Decidable (_ ∧ ∃ _ ∈ _, _ ∧ _ ≠ _))

instance (bufferSize : Nat) (network : Network) :
    (action : Action) → Decidable (Enabled bufferSize network action)
  | .rcopyStep _ | .mainReceive _ | .mainReceiveOther _ | .loseRequest _ =>
      inferInstanceAs (Decidable True)
  | .rcopyReceive index _ => inferInstanceAs (Decidable (network.Arrives index))
  | .rcopyReceiveDamaged index damaged _ =>
      inferInstanceAs (Decidable (network.Arrives index ∧
        if network.rcopy.state = .waitForFilenameAck then Rcopy.RejectsResponse damaged
        else Rcopy.Rejected bufferSize damaged))
  | .mainReceiveDamaged _ damaged =>
      inferInstanceAs (Decidable (inCksum (damaged.take filenameMaxSsize) ≠ 0))
  | .session index action =>
      inferInstanceAs (Decidable (∃ session ∈ network.sessions[index]?, session.Enabled action))

/-- The request for the file and the answers to it.  Both have the sequence number 0. -/
def request (windowSize bufferSize : Nat) (fromFileName : List UInt8) : Datagram :=
  (buildFileNamePacket 0 windowSize bufferSize fromFileName).bytes.take
    (filenamePacketSsize fromFileName.length)

def response (found : Bool) : Datagram :=
  (buildFileNameRespPacket 0 found).bytes.take filenameRespPacketSsize

end Network

end CPE464.Project3
