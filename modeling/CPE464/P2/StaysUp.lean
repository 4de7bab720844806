/-
The server while it is left alone: it never ends, and the sockets it waits on are the listening
one and those of the clients that have not ended.
-/

import CPE464.General.FallingRun
import CPE464.P2.GoodOrder
import CPE464.P2.ServerEnds

namespace CPE464.P2

open General

namespace World

variable {Name : Type} {sockets : Sockets Name} {world : World Name} {members : Finset Nat}
  {limit : Nat}

def Finds (sockets : Sockets Name) (world : World Name) (currSock : Nat) : Prop :=
  if currSock = sockets.serverSocket then world.backlog ≠ []
  else ∀ name, (currSock, name) ∈ world.accepted → (world.clients name).toServer.Readable

/-- The poll set holds the sockets in `members`; a client whose socket has been removed from it
has ended, and all that it had sent has been echoed. -/
structure Orderly (sockets : Sockets Name) (world : World Name) (members : Finset Nat)
    (limit : Nat) : Prop where
  polled : Polled sockets world.pollSet world.accepted members limit
  removed : ∀ entry ∈ world.accepted, entry.1 ∉ members →
    (world.clients entry.2).toServer = ⟨[], [], .closed⟩
  once : (world.backlog ++ world.accepted.map Prod.snd).Nodup
  connected : ∀ name, name ∈ world.backlog ++ world.accepted.map Prod.snd ↔
    (world.clients name).phase ≠ .notStarted
  clients : ∀ name, (world.clients name).Orderly (sockets.socketNum name)
  notHungUp : world.hungUp = false
  running : world.phase = .polling ∨
    ∃ currSock ∈ members, world.phase = .serving currSock ∧ Finds sockets world currSock

def nextPass (world : World Name) : World Name := { world with phase := .polling }

theorem Orderly.nextPass (orderly : Orderly sockets world members limit) :
    Orderly sockets world.nextPass members limit :=
  { orderly with running := .inl rfl }

theorem start_orderly (sockets : Sockets Name) :
    ∃ members limit, Orderly sockets (start sockets) members limit := by
  obtain ⟨pollSet, made, polled⟩ := polled_start sockets
  refine ⟨insert sockets.serverSocket ∅, max 0 (sockets.serverSocket + 1), ?_⟩
  rw [start, made]
  exact
    { polled
      removed := List.forall_mem_nil _
      once := List.nodup_nil
      connected := fun name => by simp [withPollSet, Client.start]
      clients := fun name => Client.start_orderly _
      notHungUp := rfl
      running := .inl rfl }

/-! ### Polling -/

theorem Orderly.ready (orderly : Orderly sockets world members limit) {currSock : Nat}
    (ready : PollSet.Ready (world.descriptors sockets) currSock) :
    Finds sockets world currSock := by
  unfold PollSet.Ready at ready
  by_cases isListening : currSock = sockets.serverSocket
  · simp only [descriptors, isListening, if_neg sockets.serverSocket_ne, if_true] at ready
    rw [Finds, if_pos isListening]
    simpa using ready
  · rw [Finds, if_neg isListening]
    intro name found
    have notStdin : currSock ≠ stdinFileno := (orderly.polled.own _ found).1
    simp only [descriptors, if_neg notStdin, if_neg isListening,
      orderly.polled.lookup found] at ready
    exact (Stream.ready_iff (orderly.clients name).toServer_unfailed).mp ready

theorem Orderly.serverPoll (orderly : Orderly sockets world members limit)
    (enabled : world.pollSet.pollCall (world.descriptors sockets) ≠ .ok (-1)) :
    ∃ currSock, world.serverPoll sockets = { world with phase := .serving currSock } ∧
      Orderly sockets { world with phase := .serving currSock } members limit := by
  have goodOrder : (world.descriptors sockets 0).condition = false := by
    simp [descriptors, stdinFileno, orderly.notHungUp]
  rcases orderly.polled.holds.pollCall_goodOrder goodOrder with
    ⟨currSock, member, ready, -, answer⟩ | ⟨-, answer⟩
  · have positive : ¬(currSock : Int) < 0 := by omega
    refine ⟨currSock, ?_, { orderly with
      running := .inr ⟨currSock, member, rfl, orderly.ready ready⟩ }⟩
    simp only [World.serverPoll, answer, if_neg positive, Int.toNat_natCast]
  · exact absurd answer enabled

/-! ### Serving -/

variable [DecidableEq Name]

theorem Orderly.modify (orderly : Orderly sockets world members limit) (name : Name)
    {change : Client → Client}
    (kept : (change (world.clients name)).Orderly (sockets.socketNum name))
    (started : (change (world.clients name)).phase = .notStarted ↔
      (world.clients name).phase = .notStarted)
    (stays : (world.clients name).toServer = ⟨[], [], .closed⟩ →
      (change (world.clients name)).toServer = ⟨[], [], .closed⟩)
    (readable : world.phase = .polling ∨ ((world.clients name).toServer.Readable →
      (change (world.clients name)).toServer.Readable)) :
    Orderly sockets (world.modify name change) members limit where
  polled := orderly.polled
  removed := by
    intro entry found absent
    have before := orderly.removed entry found absent
    by_cases same : entry.2 = name
    · simp only [World.modify, same, Function.update_self]
      exact stays (same ▸ before)
    · simpa only [World.modify, Function.update_of_ne same] using before
  once := orderly.once
  connected := by
    intro other
    refine (orderly.connected other).trans ?_
    by_cases same : other = name
    · subst same
      simp only [World.modify, Function.update_self, ne_eq, started]
    · simp only [World.modify, Function.update_of_ne same]
  clients := by
    intro other
    by_cases same : other = name
    · subst same
      simpa only [World.modify, Function.update_self] using kept
    · simpa only [World.modify, Function.update_of_ne same] using orderly.clients other
  notHungUp := orderly.notHungUp
  running := by
    refine orderly.running.imp_right ?_
    rintro ⟨currSock, member, isServing, finds⟩
    refine ⟨currSock, member, isServing, ?_⟩
    unfold Finds at finds ⊢
    split
    · rename_i isListening
      rwa [if_pos isListening] at finds
    · rename_i different
      rw [if_neg different] at finds
      intro other found
      by_cases same : other = name
      · subst same
        simp only [World.modify, Function.update_self]
        refine (readable.resolve_left fun isPolling => ?_) (finds other found)
        rw [isPolling] at isServing
        cases isServing
      · simpa only [World.modify, Function.update_of_ne same] using finds other found

/-- What the rest of a pass of the server comes to: a client is accepted, its message is echoed,
or its socket is removed. -/
inductive ServerServed (world : World Name) (members : Finset Nat) (later : World Name)
    (others : Finset Nat) : Prop where
  | accepted (newSocket : Nat) (name : Name) (backlog : List Name) (pollSet : PollSet)
      (isBacklog : world.backlog = name :: backlog)
      (fresh : newSocket ∉ members) (inserted : others = insert newSocket members)
      (isLater : later = { world with
        backlog
        accepted := world.accepted ++ [(newSocket, name)]
        phase := .polling
        pollSet })
  | echoed (currSock : Nat) (name : Name) (first : List UInt8) (connection : Connection)
      (found : (currSock, name) ∈ world.accepted) (same : others = members)
      (shorter : (world.clients name).toServer.arrived.length =
        ((world.clients name).toServer.leave connection).arrived.length + first.length + 2)
      (isLater : later =
        (world.modify name fun client => client.echoed first connection).nextPass)
  | removed (currSock : Nat) (pollSet : PollSet) (member : currSock ∈ members)
      (erased : others = members.erase currSock)
      (isLater : later = { world with phase := .polling, pollSet })

theorem ServerServed.client_phase {later : World Name} {others : Finset Nat}
    (served : ServerServed world members later others) (name : Name) :
    (later.clients name).phase = (world.clients name).phase := by
  cases served with
  | accepted _ _ _ _ _ _ _ isLater | removed _ _ _ _ isLater => rw [isLater]
  | echoed _ other _ _ _ _ _ isLater =>
      rw [isLater]
      by_cases same : name = other
      · subst same
        simp only [World.nextPass, World.modify, Function.update_self]
        rfl
      · simp only [World.nextPass, World.modify, Function.update_of_ne same]

theorem Orderly.addNewSocket (orderly : Orderly sockets world members limit) {newSocket : Nat}
    (waiting : world.backlog ≠ []) (fresh : FreshSocket sockets world newSocket) :
    Orderly sockets (world.addNewSocket newSocket) (insert newSocket members)
        (max limit (newSocket + 1)) ∧
      ServerServed world members (world.addNewSocket newSocket) (insert newSocket members) := by
  obtain ⟨name, others, isBacklog⟩ := List.exists_cons_of_ne_nil waiting
  obtain ⟨pollSet, made, absent, polled⟩ := orderly.polled.add fresh.1 fresh.2.1 fresh.2.2 name
  have added : world.addNewSocket newSocket = { world with
      backlog := others
      accepted := world.accepted ++ [(newSocket, name)]
      phase := .polling
      pollSet } := by
    simp only [World.addNewSocket, isBacklog, made, withPollSet]
  refine ⟨?_, .accepted newSocket name others pollSet isBacklog absent rfl added⟩
  have connected := orderly.connected
  have once := orderly.once
  rw [isBacklog] at connected once
  have permuted : (name :: others ++ world.accepted.map Prod.snd).Perm
      (others ++ (world.accepted ++ [(newSocket, name)]).map Prod.snd) := by
    rw [List.map_append, ← List.append_assoc]
    exact (List.perm_append_singleton _ _).symm
  rw [added]
  exact
    { polled
      removed := by
        intro entry found absent
        rw [Finset.mem_insert, not_or] at absent
        rcases List.mem_append.mp found with old | new
        · exact orderly.removed entry old absent.2
        · rw [List.mem_singleton.mp new] at absent
          exact absurd rfl absent.1
      once := permuted.nodup_iff.mp once
      connected := fun other => permuted.mem_iff.symm.trans (connected other)
      clients := orderly.clients
      notHungUp := orderly.notHungUp
      running := .inl rfl }

theorem Orderly.processClient (orderly : Orderly sockets world members limit) {currSock : Nat}
    (member : currSock ∈ members) (different : currSock ≠ sockets.serverSocket)
    (returns : (world.recvFrom currSock).result ≠ .waiting) :
    ∃ others, Orderly sockets (world.processClient currSock) others limit ∧
      ServerServed world members (world.processClient currSock) others := by
  obtain ⟨name, found⟩ := orderly.polled.known currSock member different
  have lookup := orderly.polled.lookup found
  have client := orderly.clients name
  obtain ⟨back, forth, split, carriesBack, carriesForth⟩ := client.intact
  obtain ⟨connReset, isCall⟩ : ∃ connReset, world.recvFrom currSock =
      recvFromClient (world.clients name).toClient.send connReset
        (world.clients name).toServer.connection := by
    simp only [recvFrom, sendAt, connectionAt, lookup]
    exact ⟨_, rfl⟩
  cases carriesForth.receives with
  | waits _ result => exact absurd (isCall ▸ recvFromClient_waiting result) returns
  | closed nothing ending received =>
      subst nothing
      rw [recvFromClient_closed received] at isCall
      have gone := carriesForth.closed ending
      have unchanged : world.echoed currSock ⟨.returned (-1), [], ⟨[], .closed⟩⟩ = world := by
        have same : { world.clients name with
            toServer := (world.clients name).toServer.leave ⟨[], .closed⟩
            toClient := (world.clients name).toClient.put [] } = world.clients name := by
          simp only [Stream.leave, Stream.put, List.append_nil, gone]
          rw [← gone]
        simp only [World.echoed, lookup, World.modify, same, Function.update_eq_self]
      obtain ⟨pollSet, made, polled⟩ := orderly.polled.remove member different
      have isLater : world.processClient currSock = { world with phase := .polling, pollSet } := by
        simp only [World.processClient, isCall, unchanged, Int.reduceNeg, Int.reduceLT, if_true,
          made, withPollSet]
      refine ⟨members.erase currSock, ?_, .removed currSock pollSet member rfl isLater⟩
      rw [isLater]
      exact { orderly with
        polled
        removed := by
          intro entry isEntry absent
          by_cases same : entry.1 = currSock
          · have isName : some entry.2 = some name := by
              rw [← lookup, ← same, orderly.polled.lookup isEntry]
            rw [Option.some.inj isName, gone]
          · exact orderly.removed entry isEntry fun isMember =>
              absent (Finset.mem_erase.mpr ⟨same, isMember⟩)
        running := .inl rfl }
  | message first others isFirst later received shorter carries =>
      subst isFirst
      have isMessage := carriesForth.sized first List.mem_cons_self
      rw [recvFromClient_message (Stream.send_unfailed carriesBack.unfailed) isMessage
        received] at isCall
      have isLater : world.processClient currSock =
          (world.modify name fun client => client.echoed first later).nextPass := by
        simp only [World.processClient, isCall, World.echoed, lookup, Client.echoed,
          World.nextPass, lt_self_iff_false, if_false]
      refine ⟨members, ?_, .echoed currSock name first later found rfl shorter isLater⟩
      rw [isLater]
      suffices kept : Orderly sockets (world.nextPass.modify name
          fun client => client.echoed first later) members limit from kept
      refine orderly.nextPass.modify name ?_ ?_ ?_ (.inl rfl)
      · exact client.echoed split carriesBack isMessage carries shorter
      · exact Iff.rfl
      · intro gone
        have nothing : (world.clients name).toServer.arrived = [] := by
          change (world.clients name).toServer = _ at gone
          rw [gone]
        rw [nothing, List.length_nil] at shorter
        omega

/-! ### Runs -/

/-- Nothing happens to the server from outside, and no connection is lost. -/
def Action.Harmless : Action Name → Prop
  | .killServer | .hangUp | .reset _ => False
  | .connect _ | .enter _ _ | .endInput _ | .killClient _ | .arriveAtServer _ _
  | .arriveAtClient _ _ | .serverPoll | .serverServe _ | .clientPoll _ | .clientServe _ _ => True

instance : (action : Action Name) → Decidable action.Harmless
  | .killServer | .hangUp | .reset _ => inferInstanceAs (Decidable False)
  | .connect _ | .enter _ _ | .endInput _ | .killClient _ | .arriveAtServer _ _
  | .arriveAtClient _ _ | .serverPoll | .serverServe _ | .clientPoll _ | .clientServe _ _ =>
      inferInstanceAs (Decidable True)

theorem Orderly.connect (orderly : Orderly sockets world members limit) {name : Name}
    (notStarted : (world.clients name).phase = .notStarted) :
    Orderly sockets { world.modify name Client.connect with
      backlog := world.backlog ++ [name] } members limit := by
  have absent : name ∉ world.backlog ++ world.accepted.map Prod.snd := fun member =>
    (orderly.connected name).mp member notStarted
  have permuted : (name :: (world.backlog ++ world.accepted.map Prod.snd)).Perm
      (world.backlog ++ [name] ++ world.accepted.map Prod.snd) := by
    rw [List.append_assoc]
    exact List.perm_middle.symm
  have notAccepted : ∀ entry ∈ world.accepted, entry.2 ≠ name := by
    rintro entry found rfl
    exact absent (List.mem_append_right _ (List.mem_map_of_mem found))
  exact
    { polled := orderly.polled
      removed := by
        intro entry found gone
        simp only [World.modify, Function.update_of_ne (notAccepted entry found)]
        exact orderly.removed entry found gone
      once := permuted.nodup_iff.mp (List.nodup_cons.mpr ⟨absent, orderly.once⟩)
      connected := by
        intro other
        refine permuted.mem_iff.symm.trans ?_
        rw [List.mem_cons]
        by_cases same : other = name
        · subst same
          simp [World.modify, Client.connect]
        · simp only [same, false_or, World.modify, Function.update_of_ne same]
          exact orderly.connected other
      clients := by
        intro other
        by_cases same : other = name
        · subst same
          simp only [World.modify, Function.update_self]
          exact (orderly.clients other).connect notStarted
        · simp only [World.modify, Function.update_of_ne same]
          exact orderly.clients other
      notHungUp := orderly.notHungUp
      running := by
        refine orderly.running.imp_right ?_
        rintro ⟨currSock, member, isServing, finds⟩
        refine ⟨currSock, member, isServing, ?_⟩
        unfold Finds at finds ⊢
        split
        · simp
        · rename_i different
          rw [if_neg different] at finds
          intro other found
          simp only [World.modify, Function.update_of_ne (notAccepted _ found)]
          exact finds other found }

theorem Orderly.serverServe (orderly : Orderly sockets world members limit) {newSocket : Nat}
    (returns : ServerReturns sockets world newSocket world.phase) :
    ∃ others limit, Orderly sockets (world.serverServe sockets newSocket) others limit ∧
      ServerServed world members (world.serverServe sockets newSocket) others := by
  rcases orderly.running with isPolling | ⟨currSock, member, isServing, -⟩
  · rw [isPolling] at returns
    exact returns.elim
  · rw [isServing, ServerReturns] at returns
    simp only [World.serverServe, isServing]
    by_cases isListening : currSock = sockets.serverSocket
    · rw [if_pos isListening] at returns ⊢
      exact ⟨_, _, orderly.addNewSocket returns.1 returns.2⟩
    · rw [if_neg isListening] at returns ⊢
      obtain ⟨others, served⟩ := orderly.processClient member isListening returns.1
      exact ⟨others, limit, served⟩

theorem Orderly.step (orderly : Orderly sockets world members limit) {action : Action Name}
    (enabled : Enabled sockets world action) (harmless : action.Harmless) :
    ∃ members limit, Orderly sockets (world.step sockets action) members limit := by
  unfold World.step
  cases action with
  | connect name => exact ⟨_, _, orderly.connect enabled.2⟩
  | enter name chunk =>
      refine ⟨_, _, orderly.modify name ?_ ?_ ?_ (.inr ?_)⟩
      · exact (orderly.clients name).enter enabled chunk
      · exact Iff.rfl
      · exact id
      · exact id
  | endInput name =>
      refine ⟨_, _, orderly.modify name ?_ ?_ ?_ (.inr ?_)⟩
      · exact (orderly.clients name).endInput
      · exact Iff.rfl
      · exact id
      · exact id
  | killClient name =>
      refine ⟨_, _, orderly.modify name ?_ ?_ ?_ (.inr ?_)⟩
      · exact (orderly.clients name).exit
      · exact iff_of_false (by simp [Client.exit]) enabled
      · intro gone
        simp [Client.exit, Stream.finish, gone]
      · exact Stream.Readable.finish
  | arriveAtServer name count =>
      refine ⟨_, _, orderly.modify name ?_ ?_ ?_ (.inr ?_)⟩
      · exact (orderly.clients name).arriveAtServer count
      · exact Iff.rfl
      · intro gone
        simp [Stream.arrive, gone]
      · exact fun readable => readable.arrive count
  | arriveAtClient name count =>
      refine ⟨_, _, orderly.modify name ?_ ?_ ?_ (.inr ?_)⟩
      · exact (orderly.clients name).arriveAtClient count
      · exact Iff.rfl
      · exact id
      · exact id
  | serverPoll =>
      obtain ⟨currSock, isLater, later⟩ := orderly.serverPoll enabled.2
      exact ⟨_, _, isLater ▸ later⟩
  | serverServe newSocket =>
      obtain ⟨others, higher, later, -⟩ := orderly.serverServe enabled
      exact ⟨others, higher, later⟩
  | clientPoll name =>
      obtain ⟨currSock, isLater, later⟩ :=
        (orderly.clients name).poll (sockets.socketNum_ne name) enabled.1 enabled.2
      refine ⟨_, _, orderly.modify name ?_ ?_ ?_ (.inr ?_)⟩
      · exact isLater ▸ later
      · rw [isLater, enabled.1]
        simp
      · rw [isLater]
        exact id
      · rw [isLater]
        exact id
  | clientServe name stack =>
      have client := orderly.clients name
      obtain ⟨currSock, isServing⟩ := Client.serving_of_returns enabled
      obtain ⟨kept, served⟩ := client.finishPass (sockets.socketNum_ne name) enabled stack
      have opened := client.toServer_quiet (by simp [isServing])
      refine ⟨_, _, orderly.modify name ?_ ?_ ?_ (.inr ?_)⟩
      · exact kept
      · rw [served.phase, isServing]
        simp
      · intro gone
        rw [gone] at opened
        cases opened
      · intro readable
        cases served with
        | entered _ _ _ isLater =>
            rw [isLater]
            exact readable.put opened _
        | printed _ _ _ _ isLater =>
            rw [isLater]
            exact readable
  | killServer | hangUp | reset => exact harmless.elim

def SomeOrderly (sockets : Sockets Name) (world : World Name) : Prop :=
  ∃ members limit, Orderly sockets world members limit

theorem run_orderly {actions : List (Action Name)} (start : SomeOrderly sockets world)
    (enabled : EveryStep (step sockets)
      (fun world action => Enabled sockets world action ∧ action.Harmless) world actions) :
    SomeOrderly sockets (run (step sockets) world actions) :=
  run_invariant (SomeOrderly sockets)
    (fun _ _ ⟨_, _, orderly⟩ permitted => orderly.step permitted.1 permitted.2) start enabled

theorem Orderly.client_running (orderly : Orderly sockets world members limit)
    {action : Action Name} (enabled : Enabled sockets world action) (harmless : action.Harmless)
    {name : Name} (different : action ≠ .killClient name)
    (running : (world.clients name).phase ≠ .exited) :
    ((world.step sockets action).clients name).phase ≠ .exited := by
  have modified : ∀ {other : Name} {change : Client → Client},
      (other = name → (change (world.clients name)).phase ≠ .exited) →
        ((world.modify other change).clients name).phase ≠ .exited := by
    intro other change kept
    by_cases same : name = other
    · subst same
      simpa only [World.modify, Function.update_self] using kept rfl
    · simpa only [World.modify, Function.update_of_ne same] using running
  unfold World.step
  cases action with
  | connect other =>
      refine modified fun _ => ?_
      simp [Client.connect]
  | enter | endInput | arriveAtServer | arriveAtClient => exact modified fun _ => running
  | killClient other =>
      refine modified fun same => ?_
      exact absurd (congrArg Action.killClient same) different
  | serverPoll =>
      obtain ⟨currSock, isLater, -⟩ := orderly.serverPoll enabled.2
      rw [isLater]
      exact running
  | serverServe newSocket =>
      obtain ⟨_, _, -, served⟩ := orderly.serverServe enabled
      change ((world.serverServe sockets newSocket).clients name).phase ≠ .exited
      rwa [served.client_phase name]
  | clientPoll other =>
      refine modified fun same => ?_
      subst same
      obtain ⟨currSock, isLater, -⟩ :=
        (orderly.clients other).poll (sockets.socketNum_ne other) enabled.1 enabled.2
      simp [isLater]
  | clientServe other stack =>
      refine modified fun same => ?_
      subst same
      have served :=
        ((orderly.clients other).finishPass (sockets.socketNum_ne other) enabled stack).2
      simp [served.phase]
  | killServer | hangUp | reset => exact harmless.elim

/-- While nobody kills the server or hangs up its standard input and no connection is lost, the
server does not end, whatever is typed and whichever clients are killed; no client ends unless it
is killed; and every accepted socket is polled until its client has ended and everything that the
client had sent has been echoed. -/
theorem stays_up (sockets : Sockets Name) (actions : List (Action Name))
    (enabled : EveryStep (step sockets) (Enabled sockets) (start sockets) actions)
    (harmless : ∀ action ∈ actions, action.Harmless) :
    let world := run (step sockets) (start sockets) actions
    world.phase ≠ .exited ∧
      (∀ name, (world.clients name).phase = .exited → .killClient name ∈ actions) ∧
      ∀ entry ∈ world.accepted,
        world.pollSet.pollFileDescriptors[entry.1]? = some ⟨entry.1, true⟩ ∨
          (world.clients entry.2).phase = .exited ∧
            (world.clients entry.2).toServer = ⟨[], [], .closed⟩ := by
  intro world
  have each := enabled.and (everyStep_of_inputs harmless)
  obtain ⟨members, limit, orderly⟩ : SomeOrderly sockets world :=
    run_orderly (start_orderly sockets) each
  refine ⟨?_, fun name ended => ?_, fun entry found => ?_⟩
  · rcases orderly.running with isPolling | ⟨_, _, isServing, _⟩
    · simp [isPolling]
    · simp [isServing]
  · by_contra notKilled
    have spared : ∀ action ∈ actions, action ≠ .killClient name := by
      rintro _ member rfl
      exact notKilled member
    refine (run_invariant (fun world : World Name =>
      SomeOrderly sockets world ∧ (world.clients name).phase ≠ .exited) ?_
      ⟨start_orderly sockets, ?_⟩ (each.and (everyStep_of_inputs spared))).2 ended
    · rintro state action ⟨⟨_, _, here⟩, running⟩ ⟨⟨permitted, isHarmless⟩, different⟩
      exact ⟨here.step permitted isHarmless,
        here.client_running permitted isHarmless different running⟩
    · obtain ⟨pollSet, made, -⟩ :=
        PollSet.setupPollSet_holds.addToPollSet sockets.serverSocket
      rw [start, made]
      simp [withPollSet, Client.start]
  · by_cases member : entry.1 ∈ members
    · left
      have inside := Nat.lt_of_lt_of_le (orderly.polled.holds.members_lt _ member)
        orderly.polled.holds.limit_le
      rw [orderly.polled.holds.entry _ inside, if_pos member]
    · right
      have gone := orderly.removed entry found member
      refine ⟨?_, gone⟩
      have finished := (orderly.clients entry.2).finished
      rw [gone] at finished
      by_contra running
      rw [if_neg running] at finished
      cases finished

/-- The first client is killed behind a message, the other one goes on. -/
def oneKilled : List (Action Bool) :=
  [.connect false, .connect true, .enter false ⟨104, [10]⟩, .serverPoll, .serverServe 4,
    .clientPoll false, .clientServe false [], .killClient false, .serverPoll, .serverServe 5,
    .arriveAtServer false 9, .serverPoll, .serverServe 6, .serverPoll, .serverServe 6]

theorem stays_up_one_killed :
    let world := run (step usualSockets) (start usualSockets) oneKilled
    world.phase ≠ .exited ∧ (world.clients true).phase ≠ .exited := by
  have up := stays_up usualSockets oneKilled (by decide +kernel) (by decide)
  exact ⟨up.1, fun ended => absurd (up.2.1 true ended) (by
    simp [oneKilled])⟩

end World

end CPE464.P2
