/-
rcopy and the server with the error library.

Each process has its own copy of the library, and what it sends reaches the network only as far
as the library lets it through.  A child takes over the library of the server and sets it up once
more.  A process that has been ended by the library takes no step, and what its state is then
does not matter.
-/

import CPE464.General.Simulation
import CPE464.Project3.LibraryRuns
import CPE464.Project3.Network

namespace CPE464.Project3

open General

def Library.sendAll (library : Library) (datagrams : List Datagram) : Library :=
  run Library.call library (datagrams.map .sendtoErr)

def Library.wiresSince (library earlier : Library) : List Datagram :=
  (library.log.drop earlier.log.length).filterMap Prod.snd

/-- The library of a child belongs to the session with the same index. -/
structure LossyNetwork where
  network : Network
  rcopyLibrary : Library
  mainLibrary : Library
  childLibraries : Nat → Library

/-- What `main` of a program sets its library up from. -/
structure Host where
  environment : Environment
  errorRate : Rat
  loaded : Int
  now : Int

def Host.library (host : Host) : Library :=
  (Library.load host.environment host.loaded).sendErr_init host.errorRate true true true host.now

namespace LossyNetwork

def start (client server : Host) (windowSize bufferSize : Nat) (fromFileName : List UInt8) :
    LossyNetwork where
  network := Network.start windowSize bufferSize fromFileName
  rcopyLibrary := client.library
  mainLibrary := server.library
  childLibraries := fun _ => server.library

def rcopyMove (lossy : LossyNetwork) (poll : Option Datagram) (stack : Packet) : LossyNetwork :=
  let later := Rcopy.stateMachine lossy.network.rcopy ⟨poll, stack⟩
  let moved := { lossy.network with rcopy := later }
  if Rcopy.reopens lossy.network.rcopy then
    { lossy with network := { moved with socket := lossy.network.socket + 1, server := none } }
  else
    let library := lossy.rcopyLibrary.sendAll
      (later.statics.sent.drop lossy.network.rcopy.statics.sent.length)
    { lossy with
      network := moved.send (library.wiresSince lossy.rcopyLibrary)
      rcopyLibrary := library }

section Server

variable (files : List UInt8 → Option (List UInt8)) (server : Host) (clock : Nat → Int)

def forkedLibrary (lossy : LossyNetwork) : Library :=
  (lossy.mainLibrary.forkMod true).sendErr_init server.errorRate true true true
    (clock lossy.network.sessions.length)

def serve (lossy : LossyNetwork) (socket : Nat) (datagram : Datagram) : LossyNetwork :=
  let served := { lossy.network with main := MainServer.serve files lossy.network.main datagram }
  match MainServer.forked files lossy.network.main datagram with
  | none => { lossy with network := served }
  | some child =>
      let forked := lossy.forkedLibrary server clock
      let library := forked.sendAll (child.sent.drop lossy.network.main.sent.length)
      { lossy with
        network := { served with
          sessions := served.sessions ++
            [{ socket
               child := MainServer.childOf child
               toClient := library.wiresSince forked
               toServer := [] }] }
        mainLibrary := lossy.mainLibrary.forkMod false
        childLibraries :=
          Function.update lossy.childLibraries lossy.network.sessions.length library }

def sessionMove (lossy : LossyNetwork) (index : Nat) (action : System.Action) : LossyNetwork :=
  match lossy.network.sessions[index]? with
  | none => lossy
  | some session =>
      let moved := session.move lossy.network.rcopy action
      match action with
      | .loseToServer _ | .loseToClient _ =>
          { lossy with
            network := { lossy.network with
              sessions := lossy.network.sessions.set index moved } }
      | _ =>
          let library := (lossy.childLibraries index).sendAll
            (moved.child.sent.drop session.child.sent.length)
          let wires := library.wiresSince (lossy.childLibraries index)
          { lossy with
            network := { lossy.network with
              sessions := lossy.network.sessions.set index
                { moved with toClient := session.toClient ++ wires } }
            childLibraries := Function.update lossy.childLibraries index library }

def step (lossy : LossyNetwork) : Network.Action → LossyNetwork
  | .rcopyStep stack => lossy.rcopyMove none stack
  | .rcopyReceive index stack =>
      { lossy with network := lossy.network.receiveFrom index }.rcopyMove
        (lossy.network.sessions[index]?.bind fun session => session.toClient.head?) stack
  | .rcopyReceiveDamaged index damaged stack =>
      { lossy with network := lossy.network.receiveFrom index }.rcopyMove (some damaged) stack
  | .mainReceive index =>
      match lossy.network.requests[index]? with
      | some (socket, datagram) =>
          serve files server clock
            { lossy with network := { lossy.network with
                requests := lossy.network.requests.eraseIdx index } } socket datagram
      | none => lossy
  | .mainReceiveDamaged index damaged =>
      match lossy.network.requests[index]? with
      | some (socket, _) =>
          serve files server clock
            { lossy with network := { lossy.network with
                requests := lossy.network.requests.eraseIdx index } } socket damaged
      | none => lossy
  | .mainReceiveOther datagram =>
      { lossy with
        network := Network.step files lossy.network (.mainReceiveOther datagram)
        mainLibrary :=
          if (MainServer.forked files lossy.network.main datagram).isSome then
            lossy.mainLibrary.forkMod false
          else lossy.mainLibrary }
  | .loseRequest index =>
      { lossy with network := Network.step files lossy.network (.loseRequest index) }
  | .session index action => lossy.sessionMove index action

end Server

def Running (lossy : LossyNetwork) : Network.Action → Prop
  | .rcopyStep _ | .rcopyReceive _ _ | .rcopyReceiveDamaged _ _ _ =>
      lossy.rcopyLibrary.exited = false
  | .session index (.serverStep _) | .session index (.serverReceive _)
  | .session index (.serverReceiveDamaged _ _) => (lossy.childLibraries index).exited = false
  | _ => True

/-- On the way the network may lose and damage what the libraries have let through. -/
def Enabled (bufferSize : Nat) (lossy : LossyNetwork) (action : Network.Action) : Prop :=
  Network.Enabled bufferSize lossy.network action ∧ lossy.Running action

instance (lossy : LossyNetwork) : (action : Network.Action) → Decidable (lossy.Running action)
  | .rcopyStep _ | .rcopyReceive _ _ | .rcopyReceiveDamaged _ _ _ =>
      inferInstanceAs (Decidable (_ = false))
  | .session _ (.serverStep _) | .session _ (.serverReceive _)
  | .session _ (.serverReceiveDamaged _ _) => inferInstanceAs (Decidable (_ = false))
  | .session _ (.loseToServer _) | .session _ (.loseToClient _) | .session _ (.rcopyStep _)
  | .session _ (.rcopyReceive _) | .session _ (.rcopyReceiveDamaged _ _)
  | .mainReceive _ | .mainReceiveDamaged _ _ | .mainReceiveOther _ | .loseRequest _ =>
      inferInstanceAs (Decidable True)

instance (bufferSize : Nat) (lossy : LossyNetwork) (action : Network.Action) :
    Decidable (Enabled bufferSize lossy action) :=
  inferInstanceAs (Decidable (_ ∧ _))

end LossyNetwork

end CPE464.Project3
