/-
The sessions that the server starts.

`waitFileName` and `processFileName` look at nothing but the checksum and at whether the
file can be opened.  The flag and the ranges of the two sizes are checked by rcopy alone, so
a session can be run when the datagram that started it was a filename packet of rcopy, and
any other datagram with a good checksum starts one as well.
-/

import CPE464.Project3.MainServer
import CPE464.Project3.SendLoop

namespace CPE464.Project3.MainServer

open General Server

def enterSession (child : Main) (file : List UInt8) : Child :=
  { Server.start child.client.windowSize child.client.bufferSize file with
    seqNum := child.seqNum }

/-- What a session must not do: divide by a window size of zero, copy more than a packet
holds, or read on for ever. -/
structure SessionSound (session : Child) : Prop where
  divides : ∀ inputs, (run step session inputs).window.windowSize ≠ 0
  builds : ∀ inputs, (nextData (run step session inputs)).length ≤ payloadMax
  copies : ∀ inputs index, let window := (run step session inputs).window
    (window.elements index).packet.length = windowElementPacketSsize window.bufferSize ∧
      windowElementPacketSsize window.bufferSize ≤ dataPacketSsize payloadMax
  ends : ∀ inputs, AllAcknowledged (trajectory step session inputs) inputs →
    ∃ time, (trajectory step session inputs time).atEof = true

/-- A packet as rcopy requests a file, with the sizes that its `checkArgs` lets through. -/
structure InRange (packet : Packet) : Prop where
  flag_eq : packet.flag = FlagType.filename.code
  windowMin : 1 ≤ packet.windowSize
  windowMax : packet.windowSize ≤ 2 ^ 30
  bufferMin : payloadMin ≤ packet.bufferSize
  bufferMax : packet.bufferSize ≤ payloadMax

/-- If a session is started for the datagram, then it was asked for with a filename packet
in range, and it is sound. -/
def OnlyRunnable (files : List UInt8 → Option (List UInt8)) (main : Main)
    (datagram : Datagram) : Prop :=
  ∀ child ∈ forked files main datagram, child.state = .sendReceiveData →
    child.currPacket.flag = FlagType.filename.code ∧
      1 ≤ child.client.windowSize ∧ child.client.windowSize ≤ 2 ^ 30 ∧
      payloadMin ≤ child.client.bufferSize ∧ child.client.bufferSize ≤ payloadMax ∧
      ∀ file ∈ child.client.file, SessionSound (enterSession child file)

theorem sessionSound_of_range {windowSize bufferSize : Nat} (windowMin : 1 ≤ windowSize)
    (windowMax : windowSize ≤ 2 ^ 30) (bufferMin : payloadMin ≤ bufferSize)
    (bufferMax : bufferSize ≤ payloadMax) (file : List UInt8) :
    SessionSound (Server.start windowSize bufferSize file) where
  divides := by
    intro inputs
    rw [(run_history windowSize bufferMax file inputs).windowSize_eq]
    exact Nat.ne_of_gt windowMin
  builds := by
    intro inputs
    apply nextData_length_le
    rw [(run_history windowSize bufferMax file inputs).bufferSize_eq]
    exact bufferMax
  copies := by
    intro inputs index window
    have history := run_history windowSize bufferMax file inputs
    rw [history.block_length, history.windowBuffer_eq]
    exact ⟨rfl, Nat.add_le_add_left bufferMax _⟩
  ends := by
    intro inputs acked
    obtain ⟨time, _, ended⟩ := send_loop_ends windowMin
      (Nat.lt_of_le_of_lt windowMax (by decide)) bufferMin bufferMax file acked
    exact ⟨time, ended⟩

def request (datagram : Datagram) : Packet :=
  Packet.zero.memcpy 0 (datagram.take filenameMaxSsize)

/-- What is forked for a datagram depends on it alone. -/
theorem forked_eq {files : List UInt8 → Option (List UInt8)} {main : Main}
    (waiting : Waiting main) (datagram : Datagram) :
    forked files main datagram =
      if inCksum (datagram.take filenameMaxSsize) = 0 then
        some
          { client :=
              { windowSize := (request datagram).windowSize
                bufferSize := (request datagram).bufferSize
                file := files (request datagram).fileName }
            currPacket := request datagram
            seqNum := seqNumStart
            sent := main.sent ++
              [(buildFileNameRespPacket 0
                (files (request datagram).fileName).isSome).bytes.take filenameRespPacketSsize]
            state := if (files (request datagram).fileName).isSome then .sendReceiveData
              else .kill }
      else none := by
  rw [forked, stateMachine_receives waiting]
  by_cases valid : inCksum (datagram.take filenameMaxSsize) = 0
  · simp only [valid, beq_self_eq_true, if_true, processFileName, request, waiting.seqNum_eq]
    rfl
  · have rejected : (inCksum (datagram.take filenameMaxSsize) == 0) = false :=
      beq_eq_false_iff_ne.mpr valid
    simp [valid, rejected]

/-- The server starts an unsound session exactly for the datagrams that have a good checksum
and name a file it can open, without being a filename packet in range. -/
theorem sessions_runnable_iff (files : List UInt8 → Option (List UInt8))
    (history : List Datagram) (datagram : Datagram) :
    OnlyRunnable files (history.foldl (serve files) start) datagram ↔
      inCksum (datagram.take filenameMaxSsize) ≠ 0 ∨
        files (request datagram).fileName = none ∨ InRange (request datagram) := by
  rw [OnlyRunnable, forked_eq (waiting_after files history)]
  by_cases valid : inCksum (datagram.take filenameMaxSsize) = 0
  · rw [if_pos valid]
    generalize request datagram = packet
    cases files packet.fileName with
    | none => simp
    | some file =>
        simp only [Option.mem_some_iff, forall_eq', Option.isSome_some, if_true, forall_const,
          valid, ne_eq, not_true_eq_false, false_or, reduceCtorEq]
        constructor
        · rintro ⟨flag, windowMin, windowMax, bufferMin, bufferMax, _⟩
          exact ⟨flag, windowMin, windowMax, bufferMin, bufferMax⟩
        · intro inRange
          exact ⟨inRange.flag_eq, inRange.windowMin, inRange.windowMax, inRange.bufferMin,
            inRange.bufferMax, sessionSound_of_range inRange.windowMin inRange.windowMax
              inRange.bufferMin inRange.bufferMax file⟩
  · simp [valid]

/-- A data packet whose payload is six zeros and a name starts a session of window size 0. -/
theorem data_packet_starts_session :
    ¬∀ (files : List UInt8 → Option (List UInt8)) (history : List Datagram)
      (datagram : Datagram), OnlyRunnable files (history.foldl (serve files) start) datagram := by
  intro claim
  have started := claim (fun _ => some []) []
    ((buildDataPacket 0 [0, 0, 0, 0, 0, 0, 65]).bytes.take 14)
  rw [OnlyRunnable, forked_eq (waiting_after _ []), if_pos (by decide +kernel)] at started
  have flagged := (started _ rfl rfl).1
  revert flagged
  decide +kernel

end CPE464.Project3.MainServer
