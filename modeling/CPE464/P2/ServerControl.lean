/-
server.c: the loop over the listening socket and the clients, and the clients around it.

Each client has a process and a connection of its own.  What is typed, which processes are
killed, when bytes arrive and which connections are lost is up to the environment.  The server
never closes the socket of a client, so `accept` never returns a number twice.

The rest of a pass is one step, which is taken when all its calls return.  A process that waits
for space in a connection has not yet taken what it is about to send off the other one.
-/

import CPE464.P2.Cclient
import Mathlib.Logic.Function.Basic

namespace CPE464.P2

open General

/-- The socket numbers of the programs, which have descriptor 0 open when they start, and how
many bytes a connection holds in one direction. -/
structure Sockets (Name : Type) where
  serverSocket : Nat
  socketNum : Name → Nat
  capacity : Nat
  serverSocket_ne : serverSocket ≠ stdinFileno
  socketNum_ne : ∀ client, socketNum client ≠ stdinFileno
  pduMax_le : maxBuf + pduHdrLen ≤ capacity

/-- The server with its poll set, the connections that wait for `accept` and those behind a
socket, and the clients.  `hungUp` is the state of the server's standard input. -/
structure World (Name : Type) where
  phase : Phase
  pollSet : PollSet
  hungUp : Bool
  backlog : List Name
  accepted : List (Nat × Name)
  clients : Name → Client

namespace World

variable {Name : Type} [DecidableEq Name]

inductive Action (Name : Type) where
  | connect (name : Name)
  | enter (name : Name) (chunk : Chunk)
  | endInput (name : Name)
  | killClient (name : Name)
  | killServer
  | hangUp
  | reset (name : Name)
  | arriveAtServer (name : Name) (count : Nat)
  | arriveAtClient (name : Name) (count : Nat)
  | serverPoll
  | serverServe (newSocket : Nat)
  | clientPoll (name : Name)
  | clientServe (name : Name) (stack : List UInt8)

def modify (world : World Name) (name : Name) (change : Client → Client) : World Name :=
  { world with clients := Function.update world.clients name (change (world.clients name)) }

/-- The kernel closes the connections of a process that has ended. -/
def exit (world : World Name) : World Name :=
  { world with
    phase := .exited
    clients := fun name =>
      { world.clients name with toClient := (world.clients name).toClient.finish } }

def withPollSet (world : World Name) : Except Fault PollSet → World Name
  | .ok pollSet => { world with pollSet }
  | .error _ => world.exit

def start (sockets : Sockets Name) : World Name :=
  withPollSet
    { phase := .polling
      pollSet := PollSet.setupPollSet
      hungUp := false
      backlog := []
      accepted := []
      clients := fun _ => .start }
    (PollSet.setupPollSet.addToPollSet sockets.serverSocket)

/-! ### The server -/

/-- The connection behind a descriptor, and what `send` makes of it. -/
def connectionAt (world : World Name) (currSock : Nat) : Connection :=
  match world.accepted.lookup currSock with
  | some name => (world.clients name).toServer.connection
  | none => ⟨[], .failed⟩

def sendAt (world : World Name) (currSock : Nat) : List UInt8 → Option Nat :=
  match world.accepted.lookup currSock with
  | some name => (world.clients name).toClient.send
  | none => fun _ => none

def descriptors (sockets : Sockets Name) (world : World Name) (descriptor : Nat) : Readiness :=
  if descriptor = stdinFileno then ⟨false, world.hungUp⟩
  else if descriptor = sockets.serverSocket then ⟨!world.backlog.isEmpty, false⟩
  else
    match world.accepted.lookup descriptor with
    | some name => (world.clients name).toServer.readiness
    | none => ⟨false, true⟩

def serverPoll (sockets : Sockets Name) (world : World Name) : World Name :=
  match world.pollSet.pollCall (world.descriptors sockets) with
  | .ok currSock =>
      if currSock < 0 then world.exit else { world with phase := .serving currSock.toNat }
  | .error _ => world.exit

def recvFrom (world : World Name) (currSock : Nat) : RecvFromClient :=
  recvFromClient (world.sendAt currSock) ((world.connectionAt currSock).ending == .failed)
    (world.connectionAt currSock)

def echoed (world : World Name) (currSock : Nat) (call : RecvFromClient) : World Name :=
  match world.accepted.lookup currSock with
  | some name =>
      world.modify name fun client =>
        { client with
          toServer := client.toServer.leave call.connection
          toClient := client.toClient.put call.sent }
  | none => world

def processClient (world : World Name) (currSock : Nat) : World Name :=
  let call := world.recvFrom currSock
  match call.result with
  | .exited => world.exit
  | .waiting => world
  | .returned value =>
      let served := { world.echoed currSock call with phase := .polling }
      if value < 0 then served.withPollSet (served.pollSet.removeFromPollSet currSock) else served

/-- `accept` takes the connection that has waited longest. -/
def addNewSocket (world : World Name) (newSocket : Nat) : World Name :=
  match world.backlog with
  | name :: others =>
      withPollSet
        { world with
          backlog := others
          accepted := world.accepted ++ [(newSocket, name)]
          phase := .polling }
        (world.pollSet.addToPollSet newSocket)
  | [] => world

def serverServe (sockets : Sockets Name) (world : World Name) (newSocket : Nat) : World Name :=
  match world.phase with
  | .serving currSock =>
      if currSock = sockets.serverSocket then world.addNewSocket newSocket
      else world.processClient currSock
  | .notStarted | .polling | .exited => world

/-! ### Steps -/

def step (sockets : Sockets Name) (world : World Name) : Action Name → World Name
  | .connect name =>
      { world.modify name Client.connect with backlog := world.backlog ++ [name] }
  | .enter name chunk => world.modify name fun client => client.enter chunk
  | .endInput name => world.modify name Client.endInput
  | .killClient name => world.modify name Client.exit
  | .killServer => world.exit
  | .hangUp => { world with hungUp := true }
  | .reset name => world.modify name Client.reset
  | .arriveAtServer name count =>
      world.modify name fun client => { client with toServer := client.toServer.arrive count }
  | .arriveAtClient name count =>
      world.modify name fun client => { client with toClient := client.toClient.arrive count }
  | .serverPoll => world.serverPoll sockets
  | .serverServe newSocket => world.serverServe sockets newSocket
  | .clientPoll name => world.modify name fun client => client.poll (sockets.socketNum name)
  | .clientServe name stack =>
      world.modify name fun client => client.finishPass (sockets.socketNum name) stack

def FreshSocket (sockets : Sockets Name) (world : World Name) (newSocket : Nat) : Prop :=
  newSocket ≠ stdinFileno ∧ newSocket ≠ sockets.serverSocket ∧
    newSocket ∉ world.accepted.map Prod.fst

instance (sockets : Sockets Name) (world : World Name) (newSocket : Nat) :
    Decidable (FreshSocket sockets world newSocket) :=
  inferInstanceAs (Decidable (_ ∧ _ ∧ _))

/-- There is space for what is sent on this socket; on one without a connection `send` fails. -/
def RoomAt (sockets : Sockets Name) (world : World Name) (currSock : Nat)
    (bytes : List UInt8) : Prop :=
  ∀ name ∈ world.accepted.lookup currSock,
    (world.clients name).toClient.HasRoom sockets.capacity bytes

instance (sockets : Sockets Name) (world : World Name) (currSock : Nat) (bytes : List UInt8) :
    Decidable (RoomAt sockets world currSock bytes) :=
  inferInstanceAs (Decidable (∀ name ∈ world.accepted.lookup currSock, _))

/-- A call that waits does not return: `accept` until there is a connection, `recv` until
everything it asks for has arrived, `getchar` until something has been typed, and `send` until
there is space. -/
def ServerReturns (sockets : Sockets Name) (world : World Name) (newSocket : Nat) : Phase → Prop
  | .serving currSock =>
      if currSock = sockets.serverSocket then
        world.backlog ≠ [] ∧ world.FreshSocket sockets newSocket
      else (world.recvFrom currSock).result ≠ .waiting ∧
        world.RoomAt sockets currSock (world.recvFrom currSock).sent
  | .notStarted | .polling | .exited => False

instance (sockets : Sockets Name) (world : World Name) (newSocket : Nat) :
    (phase : Phase) → Decidable (ServerReturns sockets world newSocket phase)
  | .serving currSock =>
      inferInstanceAs (Decidable (if currSock = sockets.serverSocket then
        world.backlog ≠ [] ∧ world.FreshSocket sockets newSocket
      else _ ∧ world.RoomAt sockets currSock (world.recvFrom currSock).sent))
  | .notStarted | .polling | .exited => inferInstanceAs (Decidable False)

def Sendable (capacity : Nat) (client : Client) : Option (List UInt8 × Keyboard) → Prop
  | some (sendBuf, _) => client.toServer.HasRoom capacity (pdu sendBuf)
  | none => False

instance (capacity : Nat) (client : Client) :
    (read : Option (List UInt8 × Keyboard)) → Decidable (Sendable capacity client read)
  | some (sendBuf, _) =>
      inferInstanceAs (Decidable (client.toServer.HasRoom capacity (pdu sendBuf)))
  | none => inferInstanceAs (Decidable False)

def ClientReturns (client : Client) (capacity socketNum : Nat) : Phase → Prop
  | .serving currSock =>
      if currSock = stdinFileno then Sendable capacity client client.keyboard.processStdin
      else (recvPDU (client.connectionAt socketNum currSock) maxBuf).result ≠ .waiting
  | .notStarted | .polling | .exited => False

instance (client : Client) (capacity socketNum : Nat) :
    (phase : Phase) → Decidable (ClientReturns client capacity socketNum phase)
  | .serving currSock =>
      inferInstanceAs (Decidable (if currSock = stdinFileno then
        Sendable capacity client client.keyboard.processStdin
      else (recvPDU (client.connectionAt socketNum currSock) maxBuf).result ≠ .waiting))
  | .notStarted | .polling | .exited => inferInstanceAs (Decidable False)

/-- `pollCall` does not return before something is reported. -/
def Enabled (sockets : Sockets Name) (world : World Name) : Action Name → Prop
  | .connect name => world.phase ≠ .exited ∧ (world.clients name).phase = .notStarted
  | .enter name _ => (world.clients name).keyboard.closed = false
  | .endInput _ | .killServer | .hangUp => True
  | .killClient name | .reset name => (world.clients name).phase ≠ .notStarted
  | .arriveAtServer name count => 1 ≤ count ∧ (world.clients name).toServer.underWay ≠ []
  | .arriveAtClient name count => 1 ≤ count ∧ (world.clients name).toClient.underWay ≠ []
  | .serverPoll =>
      world.phase = .polling ∧ world.pollSet.pollCall (world.descriptors sockets) ≠ .ok (-1)
  | .serverServe newSocket => ServerReturns sockets world newSocket world.phase
  | .clientPoll name =>
      (world.clients name).phase = .polling ∧
        (world.clients name).pollCall (sockets.socketNum name) ≠ .ok (-1)
  | .clientServe name _ =>
      ClientReturns (world.clients name) sockets.capacity (sockets.socketNum name)
        (world.clients name).phase

instance (sockets : Sockets Name) (world : World Name) :
    (action : Action Name) → Decidable (Enabled sockets world action)
  | .connect _ => inferInstanceAs (Decidable (_ ≠ _ ∧ _ = _))
  | .enter _ _ => inferInstanceAs (Decidable (_ = _))
  | .endInput _ | .killServer | .hangUp => inferInstanceAs (Decidable True)
  | .killClient _ | .reset _ => inferInstanceAs (Decidable (_ ≠ _))
  | .arriveAtServer _ _ | .arriveAtClient _ _ => inferInstanceAs (Decidable (_ ∧ _ ≠ _))
  | .serverPoll | .clientPoll _ => inferInstanceAs (Decidable (_ = _ ∧ _ ≠ _))
  | .serverServe newSocket =>
      inferInstanceAs (Decidable (ServerReturns sockets world newSocket world.phase))
  | .clientServe name _ =>
      inferInstanceAs (Decidable (ClientReturns (world.clients name) sockets.capacity
        (sockets.socketNum name) (world.clients name).phase))

end World

end CPE464.P2
