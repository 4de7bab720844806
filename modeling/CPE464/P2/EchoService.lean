/-
The echo service: whatever the clients, the server, the network and the users do, each client
prints a line for each message entered at its own keyboard, in order.
-/

import CPE464.P2.ClientInvariant

namespace CPE464.P2

open General

namespace World

variable {Name : Type} {sockets : Sockets Name} {world : World Name}

def ClientsInv (world : World Name) : Prop := ∀ name, (world.clients name).Inv

theorem ClientsInv.exit (inv : ClientsInv world) : ClientsInv world.exit :=
  fun name => (inv name).serverGone

theorem ClientsInv.withPollSet (inv : ClientsInv world) (made : Except Fault PollSet) :
    ClientsInv (world.withPollSet made) := by
  cases made with
  | ok pollSet => exact inv
  | error fault => exact inv.exit

theorem start_inv (sockets : Sockets Name) : ClientsInv (start sockets) :=
  ClientsInv.withPollSet (fun _ => Client.start_inv) _

theorem ClientsInv.serverPoll (inv : ClientsInv world) :
    ClientsInv (world.serverPoll sockets) := by
  unfold World.serverPoll
  split
  · split
    · exact inv.exit
    · exact inv
  · exact inv.exit

theorem ClientsInv.addNewSocket (inv : ClientsInv world) (newSocket : Nat) :
    ClientsInv (world.addNewSocket newSocket) := by
  unfold World.addNewSocket
  split
  · refine ClientsInv.withPollSet ?_ _
    exact inv
  · exact inv

variable [DecidableEq Name]

theorem ClientsInv.modify (inv : ClientsInv world) (name : Name) {change : Client → Client}
    (kept : (change (world.clients name)).Inv) : ClientsInv (world.modify name change) := by
  intro other
  by_cases same : other = name
  · subst same
    simpa only [World.modify, Function.update_self] using kept
  · simpa only [World.modify, Function.update_of_ne same] using inv other

theorem ClientsInv.echoed (inv : ClientsInv world) {currSock : Nat} {value : Int}
    (returned : (world.recvFrom currSock).result = .returned value) :
    ClientsInv (world.echoed currSock (world.recvFrom currSock)) := by
  unfold World.echoed
  split
  · rename_i name found
    have isCall : recvFromClient (world.clients name).toClient.send
        ((world.connectionAt currSock).ending == .failed)
        (world.clients name).toServer.connection = world.recvFrom currSock := by
      simp only [recvFrom, sendAt, connectionAt, found]
    exact inv.modify name ((inv name).echoed isCall returned)
  · exact inv

theorem ClientsInv.processClient (inv : ClientsInv world) (currSock : Nat) :
    ClientsInv (world.processClient currSock) := by
  unfold World.processClient
  dsimp only
  split
  · exact inv.exit
  · exact inv
  · rename_i value returned
    have served := inv.echoed returned
    split
    · refine ClientsInv.withPollSet ?_ _
      exact served
    · exact served

theorem ClientsInv.step (inv : ClientsInv world) {action : Action Name}
    (enabled : Enabled sockets world action) : ClientsInv (world.step sockets action) := by
  unfold World.step
  cases action with
  | connect name =>
      have connected : ClientsInv (world.modify name Client.connect) := by
        refine inv.modify name ?_
        exact (inv name).phase .polling
      exact connected
  | enter name chunk =>
      refine inv.modify name ?_
      exact (inv name).enter enabled chunk
  | endInput name =>
      refine inv.modify name ?_
      exact (inv name).endInput
  | killClient name =>
      refine inv.modify name ?_
      exact (inv name).exit
  | killServer => exact inv.exit
  | hangUp => exact inv
  | reset name =>
      refine inv.modify name ?_
      exact (inv name).reset
  | arriveAtServer name count =>
      refine inv.modify name ?_
      exact (inv name).arriveAtServer count
  | arriveAtClient name count =>
      refine inv.modify name ?_
      exact (inv name).arriveAtClient count
  | serverPoll => exact inv.serverPoll
  | serverServe newSocket =>
      dsimp only
      unfold World.serverServe
      split
      · split
        · exact inv.addNewSocket newSocket
        · exact inv.processClient _
      all_goals exact inv
  | clientPoll name =>
      refine inv.modify name ?_
      exact (inv name).poll _
  | clientServe name stack =>
      refine inv.modify name ?_
      unfold Client.finishPass
      split
      · exact (inv name).serve _ _ stack
      all_goals exact inv name

theorem run_clients {actions : List (Action Name)}
    (enabled : EveryStep (step sockets) (Enabled sockets) (start sockets) actions) :
    ClientsInv (run (step sockets) (start sockets) actions) :=
  run_invariant ClientsInv (fun _ _ inv permitted => inv.step permitted) (start_inv sockets) enabled

/-- A client prints a line for each message that was entered at its own keyboard, in order, with
the length of the message and its characters up to the first NUL.  Where the connection is lost, a
last line may show the bytes that had arrived of the next message, and behind them whatever lies
in memory up to a NUL.  The messages are what was typed, cut at the newlines and where the buffer
is full; behind the end of the input they go on. -/
theorem echoes_in_order (sockets : Sockets Name) (actions : List (Action Name)) (name : Name)
    (enabled : EveryStep (step sockets) (Enabled sockets) (start sockets) actions) :
    let client := (run (step sockets) (start sockets) actions).clients name
    (∃ count, client.printed = (client.entered.take count).map shownAs ∨
      client.toClient.ending = .failed ∧
        ∃ message ∈ client.entered[count]?, ∃ cut memory, cut ≠ [] ∧ cut <+: message ∧
          client.printed = (client.entered.take count).map shownAs ++
            [((cut.length : Int), cString (cut ++ memory))]) ∧
      ∃ texts : List (List UInt8), client.entered = texts.map (fun text => text ++ [0]) ∧
        (∀ text ∈ texts, Client.IsText text) ∧
        ∃ ends, client.typed ++ List.replicate ends endOfFile =
          texts.flatMap Client.keys ++ client.keyboard.stream ∧
            (client.keyboard.closed = false → ends = 0) := by
  intro client
  have inv : client.Inv := run_clients enabled name
  refine ⟨?_, ?_⟩
  · have whole : ∀ {lines : List (Int × List UInt8)} {received : List (List UInt8)},
        List.Forall₂ Shows lines received → received <+: client.entered →
          lines = (client.entered.take received.length).map shownAs := by
      intro lines received shown isPrefix
      rw [← List.prefix_iff_eq_take.mp isPrefix]
      exact eq_map_shownAs shown fun message member =>
        inv.typed.terminated message (isPrefix.subset member)
    rcases inv.connection with ⟨back, forth, split, -⟩ | lost
    · exact ⟨_, .inl (whole inv.shown ⟨back ++ forth, by rw [← List.append_assoc, split]⟩)⟩
    · cases lost.remains with
      | whole back isPrefix _ =>
          exact ⟨_, .inl (whole inv.shown ((List.prefix_append _ back).trans isPrefix))⟩
      | cut done part message isReceived isPart some isPrefix _ =>
          have shown := inv.shown
          rw [isReceived] at shown
          have before := whole (List.forall₂_take_append _ done [part] shown)
            ((List.prefix_append done [message]).trans isPrefix)
          obtain ⟨line, _, ⟨length, memory, text⟩, nothing, isLast⟩ :=
            List.forall₂_cons_right_iff.mp (List.forall₂_drop_append _ done [part] shown)
          obtain rfl := List.forall₂_nil_right_iff.mp nothing
          obtain ⟨later, isEntered⟩ := isPrefix
          have next : client.entered[done.length]? = Option.some message := by
            simp [← isEntered]
          refine ⟨done.length, .inr ⟨lost.toClient, message, next, part, memory, some, isPart, ?_⟩⟩
          have isLine : line = ((part.length : Int), cString (part ++ memory)) :=
            Prod.ext length text
          rw [← before, ← isLine, ← isLast, List.take_append_drop]
  · obtain ⟨texts, entered, areTexts, ends, stream, atEnd⟩ := inv.typed
    refine ⟨texts, entered, areTexts, ends, stream, fun opened => ?_⟩
    exact atEnd.resolve_right fun both => by
      rw [opened] at both
      exact Bool.false_ne_true both.1

/-- Descriptors 0 to 2 are open when the programs start. -/
def usualSockets : Sockets Bool where
  serverSocket := 3
  socketNum := fun _ => 3
  capacity := 2 ^ 16
  serverSocket_ne := by decide
  socketNum_ne := fun _ => by decide
  pduMax_le := by decide

/-- Two clients; the message of the first one arrives in two pieces and is echoed while the other
client has typed no more than a part of a line. -/
def twoClients : List (Action Bool) :=
  [.connect false, .connect true, .enter false ⟨104, [105, 10]⟩, .serverPoll, .serverServe 4,
    .clientPoll false, .clientServe false [], .arriveAtServer false 1, .enter true ⟨120, []⟩,
    .serverPoll, .serverServe 5, .clientPoll true, .serverPoll, .arriveAtServer false 9,
    .serverServe 6, .arriveAtClient false 9, .clientPoll false, .clientServe false []]

theorem echoes_in_order_two_clients :
    let client := (run (step usualSockets) (start usualSockets) twoClients).clients false
    client.printed = [(3, [104, 105])] ∧ client.entered = [[104, 105, 0]] ∧
      ∃ count, client.printed = (client.entered.take count).map shownAs := by
  obtain ⟨⟨count, inOrder | ⟨lost, -⟩⟩, -⟩ :=
    echoes_in_order usualSockets twoClients false (by decide +kernel)
  · exact ⟨by decide +kernel, by decide +kernel, count, inOrder⟩
  · exact absurd lost (by decide +kernel)

end World

end CPE464.P2
