/-
What ends the server.

Its poll set holds the listening socket and sockets that it has accepted, whatever happens.  So
`pollCall` answers with one of these, but for a condition of standard input, and the process ends
on a descriptor that is no socket and on a lost connection, and on nothing else.
-/

import CPE464.P2.EchoService

namespace CPE464.P2

open General

theorem lookup_of_mem {Key Value : Type} [DecidableEq Key] {table : List (Key × Value)}
    (distinct : (table.map Prod.fst).Nodup) {key : Key} {value : Value}
    (found : (key, value) ∈ table) : table.lookup key = some value := by
  induction table with
  | nil => cases found
  | cons entry others ih =>
      rw [List.map_cons, List.nodup_cons] at distinct
      rcases List.mem_cons.mp found with rfl | later
      · rw [List.lookup_cons_self]
      · have different : ¬key = entry.1 := by
          rintro rfl
          exact distinct.1 (List.mem_map.mpr ⟨_, later, rfl⟩)
        rw [List.lookup_cons, beq_false_of_ne different]
        exact ih distinct.2 later

section Polled

variable {Name : Type} {sockets : Sockets Name} {pollSet : PollSet}
  {accepted : List (Nat × Name)} {members : Finset Nat} {limit : Nat}

/-- The poll set holds the sockets in `members`: the listening one and accepted ones. -/
structure Polled (sockets : Sockets Name) (pollSet : PollSet) (accepted : List (Nat × Name))
    (members : Finset Nat) (limit : Nat) : Prop where
  holds : pollSet.Holds members limit
  listening : sockets.serverSocket ∈ members
  known : ∀ currSock ∈ members, currSock ≠ sockets.serverSocket →
    ∃ name, (currSock, name) ∈ accepted
  distinct : (accepted.map Prod.fst).Nodup
  own : ∀ entry ∈ accepted, entry.1 ≠ stdinFileno ∧ entry.1 ≠ sockets.serverSocket

theorem Polled.lookup (polled : Polled sockets pollSet accepted members limit) {currSock : Nat}
    {name : Name} (found : (currSock, name) ∈ accepted) :
    accepted.lookup currSock = some name := lookup_of_mem polled.distinct found

theorem Polled.limit_pos (polled : Polled sockets pollSet accepted members limit) : 0 < limit :=
  Nat.lt_of_le_of_lt (Nat.zero_le _) (polled.holds.members_lt _ polled.listening)

theorem polled_start (sockets : Sockets Name) : ∃ pollSet,
    PollSet.setupPollSet.addToPollSet sockets.serverSocket = .ok pollSet ∧
      Polled sockets pollSet [] (insert sockets.serverSocket ∅)
        (max 0 (sockets.serverSocket + 1)) := by
  obtain ⟨pollSet, made, holds⟩ := PollSet.setupPollSet_holds.addToPollSet sockets.serverSocket
  refine ⟨pollSet, made, holds, Finset.mem_insert_self _ _, ?_, List.nodup_nil,
    List.forall_mem_nil _⟩
  intro currSock member different
  simp [different] at member

theorem Polled.add (polled : Polled sockets pollSet accepted members limit) {newSocket : Nat}
    (notStdin : newSocket ≠ stdinFileno) (notListening : newSocket ≠ sockets.serverSocket)
    (unused : newSocket ∉ accepted.map Prod.fst) (name : Name) :
    ∃ later, pollSet.addToPollSet newSocket = .ok later ∧ newSocket ∉ members ∧
      Polled sockets later (accepted ++ [(newSocket, name)]) (insert newSocket members)
        (max limit (newSocket + 1)) := by
  obtain ⟨later, made, holds⟩ := polled.holds.addToPollSet newSocket
  refine ⟨later, made, fun member => ?_, holds, Finset.mem_insert_of_mem polled.listening, ?_, ?_,
    ?_⟩
  · obtain ⟨known, found⟩ := polled.known newSocket member notListening
    exact unused (List.mem_map_of_mem found)
  · intro currSock member different
    rcases Finset.mem_insert.mp member with rfl | old
    · exact ⟨name, List.mem_append_right _ (List.mem_singleton_self _)⟩
    · obtain ⟨known, found⟩ := polled.known currSock old different
      exact ⟨known, List.mem_append_left _ found⟩
  · rw [List.map_append, List.map_cons, List.map_nil]
    refine polled.distinct.append (List.nodup_singleton _) ?_
    rw [List.disjoint_singleton]
    exact unused
  · intro entry found
    rcases List.mem_append.mp found with old | new
    · exact polled.own entry old
    · rw [List.mem_singleton.mp new]
      exact ⟨notStdin, notListening⟩

theorem Polled.remove (polled : Polled sockets pollSet accepted members limit) {currSock : Nat}
    (member : currSock ∈ members) (different : currSock ≠ sockets.serverSocket) :
    ∃ later, pollSet.removeFromPollSet currSock = .ok later ∧
      Polled sockets later accepted (members.erase currSock) limit := by
  obtain ⟨later, made, holds⟩ :=
    polled.holds.removeFromPollSet (polled.holds.members_lt currSock member)
  exact ⟨later, made, holds, Finset.mem_erase.mpr ⟨different.symm, polled.listening⟩,
    fun other isMember => polled.known other (Finset.mem_of_mem_erase isMember),
    polled.distinct, polled.own⟩

end Polled

namespace World

variable {Name : Type} {sockets : Sockets Name} {world : World Name}

/-- The server waits in `pollCall`, or it is at a socket of its poll set, or at standard input
because of the condition of that. -/
def Waits (sockets : Sockets Name) (world : World Name) : Prop :=
  ∃ members limit, Polled sockets world.pollSet world.accepted members limit ∧
    (world.phase = .polling ∨ ∃ currSock, world.phase = .serving currSock ∧
      (currSock ∈ members ∨ currSock = stdinFileno ∧ world.hungUp = true))

/-- The socket that the server is at is no connection, or one that is lost. -/
def AtLost (sockets : Sockets Name) (world : World Name) : Prop :=
  ∃ currSock, world.phase = .serving currSock ∧ currSock ≠ sockets.serverSocket ∧
    (currSock = stdinFileno ∨ ∃ name, (currSock, name) ∈ world.accepted ∧
      (world.clients name).toServer.ending = .failed)

theorem start_waits (sockets : Sockets Name) : Waits sockets (start sockets) := by
  obtain ⟨pollSet, made, polled⟩ := polled_start sockets
  rw [start, made]
  exact ⟨_, _, polled, .inl rfl⟩

theorem Waits.serverPoll (waits : Waits sockets world)
    (reported : world.pollSet.pollCall (world.descriptors sockets) ≠ .ok (-1)) :
    Waits sockets (world.serverPoll sockets) := by
  obtain ⟨members, limit, polled, -⟩ := waits
  have answered : ∀ currSock : Nat,
      world.pollSet.pollCall (world.descriptors sockets) = .ok (currSock : Int) →
        (currSock ∈ members ∨ currSock = stdinFileno ∧ world.hungUp = true) →
          Waits sockets (world.serverPoll sockets) := by
    intro currSock answer reason
    have positive : ¬(currSock : Int) < 0 := by omega
    simp only [World.serverPoll, answer, if_neg positive, Int.toNat_natCast]
    exact ⟨members, limit, polled, .inr ⟨currSock, rfl, reason⟩⟩
  by_cases hungUp : world.hungUp = true
  · have broken : (world.descriptors sockets 0).condition = true := hungUp
    exact answered 0 (polled.holds.pollCall_broken broken polled.limit_pos) (.inr ⟨rfl, hungUp⟩)
  · have goodOrder : (world.descriptors sockets 0).condition = false :=
      Bool.eq_false_iff.mpr hungUp
    rcases polled.holds.pollCall_goodOrder goodOrder with ⟨currSock, member, -, -, answer⟩ |
      ⟨-, answer⟩
    · exact answered currSock answer (.inl member)
    · exact absurd answer reported

theorem Waits.addNewSocket (waits : Waits sockets world) {newSocket : Nat}
    (waiting : world.backlog ≠ []) (fresh : FreshSocket sockets world newSocket) :
    Waits sockets (world.addNewSocket newSocket) := by
  obtain ⟨members, limit, polled, -⟩ := waits
  obtain ⟨name, others, isBacklog⟩ := List.exists_cons_of_ne_nil waiting
  obtain ⟨pollSet, made, -, later⟩ := polled.add fresh.1 fresh.2.1 fresh.2.2 name
  simp only [World.addNewSocket, isBacklog, made, withPollSet]
  exact ⟨_, _, later, .inl rfl⟩

variable [DecidableEq Name]

/-- The server ends on a descriptor without a connection and on a lost one; otherwise it goes on
to its next pass. -/
theorem processClient_of_lost (clients : ClientsInv world) {members : Finset Nat} {limit : Nat}
    (polled : Polled sockets world.pollSet world.accepted members limit) {currSock : Nat}
    (lost : currSock = stdinFileno ∨ ∃ name, (currSock, name) ∈ world.accepted ∧
      (world.clients name).toServer.ending = .failed) :
    (world.processClient currSock).phase = .exited := by
  have exited : (world.recvFrom currSock).result = .exited := by
    rcases lost with rfl | ⟨name, found, failed⟩
    · have absent : world.accepted.lookup stdinFileno = none := by
        rw [List.lookup_eq_none_iff]
        intro entry found
        exact bne_iff_ne.mpr (polled.own entry found).1.symm
      simp only [recvFrom, connectionAt, sendAt, absent]
      rfl
    · simp only [recvFrom, connectionAt, sendAt, polled.lookup found]
      rcases (clients name).connection with ⟨_, _, _, _, carries⟩ | isLost
      · exact absurd failed carries.unfailed
      · obtain ⟨forth, sized, pieces⟩ := isLost.pieces
        have connection : (world.clients name).toServer.connection =
            ⟨(world.clients name).toServer.arrived, .failed⟩ := by
          rw [Stream.connection, if_pos isLost.noneToServer, isLost.toServer]
        rw [connection]
        exact recvFromClient_lost (Stream.send_failed isLost.toClient) sized pieces
  simp only [World.processClient, exited]
  rfl

theorem processClient_of_intact (clients : ClientsInv world) {members : Finset Nat} {limit : Nat}
    (polled : Polled sockets world.pollSet world.accepted members limit) {currSock : Nat}
    (member : currSock ∈ members) (different : currSock ≠ sockets.serverSocket)
    (returns : (world.recvFrom currSock).result ≠ .waiting)
    (intact : ∀ name, (currSock, name) ∈ world.accepted →
      (world.clients name).toServer.ending ≠ .failed) :
    Waits sockets (world.processClient currSock) := by
  obtain ⟨name, found⟩ := polled.known currSock member different
  have lookup := polled.lookup found
  obtain ⟨value, returned⟩ : ∃ value, (world.recvFrom currSock).result = .returned value := by
    rcases (clients name).connection with ⟨_, _, _, carriesBack, carries⟩ | lost
    · simp only [recvFrom, connectionAt, sendAt, lookup] at returns ⊢
      cases carries.receives with
      | waits _ result => exact absurd (recvFromClient_waiting result) returns
      | closed _ _ received => exact ⟨_, by rw [recvFromClient_closed received]⟩
      | message first others isFirst later received _ _ =>
          subst isFirst
          exact ⟨0, by rw [recvFromClient_message (Stream.send_unfailed carriesBack.unfailed)
            (carries.sized first List.mem_cons_self) received]⟩
    · exact absurd lost.toServer (intact name found)
  have served : ∀ call, (world.echoed currSock call).pollSet = world.pollSet ∧
      (world.echoed currSock call).accepted = world.accepted := by
    intro call
    simp only [World.echoed, lookup, World.modify, and_self]
  simp only [World.processClient, returned, served]
  split
  · obtain ⟨pollSet, made, later⟩ := polled.remove member different
    simp only [made, withPollSet]
    exact ⟨_, _, later, .inl rfl⟩
  · exact ⟨members, limit, polled, .inl rfl⟩

def EndsServer (sockets : Sockets Name) (world : World Name) (action : Action Name) : Prop :=
  action = .killServer ∨ ∃ newSocket, action = .serverServe newSocket ∧ AtLost sockets world

theorem Waits.ends (waits : Waits sockets world) (clients : ClientsInv world)
    {action : Action Name} (ends : EndsServer sockets world action) :
    (world.step sockets action).phase = .exited := by
  obtain ⟨members, limit, polled, -⟩ := waits
  rcases ends with rfl | ⟨newSocket, rfl, currSock, isServing, different, lost⟩
  · rfl
  · change (world.serverServe sockets newSocket).phase = .exited
    simp only [World.serverServe, isServing, if_neg different]
    exact processClient_of_lost clients polled lost

theorem Waits.serverServe (waits : Waits sockets world) (clients : ClientsInv world)
    {newSocket : Nat} (returns : ServerReturns sockets world newSocket world.phase)
    (notLost : ¬AtLost sockets world) : Waits sockets (world.serverServe sockets newSocket) := by
  obtain ⟨members, limit, polled, isPolling | ⟨currSock, isServing, reason⟩⟩ := waits
  · rw [isPolling] at returns
    exact returns.elim
  · rw [isServing, ServerReturns] at returns
    simp only [World.serverServe, isServing]
    by_cases isListening : currSock = sockets.serverSocket
    · rw [if_pos isListening] at returns ⊢
      exact Waits.addNewSocket ⟨members, limit, polled, .inr ⟨currSock, isServing, reason⟩⟩
        returns.1 returns.2
    · rw [if_neg isListening] at returns ⊢
      have member : currSock ∈ members := by
        refine reason.resolve_right fun both => notLost ?_
        exact ⟨currSock, isServing, isListening, .inl both.1⟩
      refine processClient_of_intact clients polled member isListening returns.1 ?_
      intro name found failed
      exact notLost ⟨currSock, isServing, isListening, .inr ⟨name, found, failed⟩⟩

theorem Waits.step (waits : Waits sockets world) (clients : ClientsInv world)
    {action : Action Name} (enabled : Enabled sockets world action)
    (goesOn : ¬EndsServer sockets world action) : Waits sockets (world.step sockets action) := by
  unfold World.step
  cases action with
  | connect | enter | endInput | killClient | reset | arriveAtServer | arriveAtClient | clientPoll
  | clientServe => exact waits
  | killServer => exact absurd (.inl rfl) goesOn
  | hangUp =>
      obtain ⟨members, limit, polled, place⟩ := waits
      refine ⟨members, limit, polled, place.imp_right fun ⟨currSock, isServing, reason⟩ => ?_⟩
      exact ⟨currSock, isServing, reason.imp_right fun both => ⟨both.1, rfl⟩⟩
  | serverPoll => exact waits.serverPoll enabled.2
  | serverServe newSocket =>
      exact waits.serverServe clients enabled fun lost => goesOn (.inr ⟨newSocket, rfl, lost⟩)

theorem exited_stays {action : Action Name} (ended : world.phase = .exited)
    (enabled : Enabled sockets world action) : (world.step sockets action).phase = .exited := by
  cases action with
  | connect => exact absurd ended enabled.1
  | enter | endInput | killClient | hangUp | reset | arriveAtServer | arriveAtClient | clientPoll
  | clientServe => exact ended
  | killServer => rfl
  | serverPoll =>
      have polling := enabled.1
      rw [ended] at polling
      cases polling
  | serverServe newSocket =>
      rw [Enabled, ended] at enabled
      exact enabled.elim

theorem run_waits {actions : List (Action Name)}
    (enabled : EveryStep (step sockets) (Enabled sockets) (start sockets) actions) :
    (run (step sockets) (start sockets) actions).phase = .exited ∨
      Waits sockets (run (step sockets) (start sockets) actions) := by
  refine (run_invariant (fun world : World Name =>
    ClientsInv world ∧ (world.phase = .exited ∨ Waits sockets world)) ?_
    ⟨start_inv sockets, .inr (start_waits sockets)⟩ enabled).2
  rintro world action ⟨clients, ended | waits⟩ permitted
  · exact ⟨clients.step permitted, .inl (exited_stays ended permitted)⟩
  · refine ⟨clients.step permitted, ?_⟩
    by_cases ends : EndsServer sockets world action
    · exact .inl (waits.ends clients ends)
    · exact .inr (waits.step clients permitted ends)

/-- The connection of the only client is lost behind its message. -/
def lostBehindMessage : List (Action Bool) :=
  [.connect false, .enter false ⟨104, [10]⟩, .serverPoll, .serverServe 4, .clientPoll false,
    .clientServe false [], .arriveAtServer false 9, .reset false, .serverPoll]

end World

end CPE464.P2
