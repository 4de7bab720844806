/-
rcopy while it asks for the file.

Up to the answer to its request rcopy sends nothing but requests, each of them once on a socket
of its own, and nothing but the answer of a child that has the file takes it on.
-/

import CPE464.Project3.Network
import CPE464.Project3.RcopyAnyInput

namespace CPE464.Project3.Rcopy

open General

def isAsking : State → Bool
  | .sendFilename | .sendFilenameTimeout | .waitForFilenameAck => true
  | _ => false

/-- rcopy has received nothing of the file, and it still has its settings. -/
structure Fresh (transfer : Transfer) (fromFileName : List UInt8) (process : Process) :
    Prop where
  session : SessionInv transfer seqNumStart process
  fromFileName_eq : process.statics.fromFileName = fromFileName
  windowSize_eq : process.statics.windowSize = transfer.windowSize

/-- The ways through one pass while rcopy asks. -/
inductive AskingPass (process : Process) (input : Input) : Process → Prop
  | sends (atState : process.state = .sendFilename) (under : process.timeout < timeoutMax) :
      AskingPass process input
        { process with
          statics := sendFileName { process.statics with seqNum := 0 }
          state := .waitForFilenameAck }
  | reopens (atState : process.state = .sendFilenameTimeout)
      (under : process.timeout < timeoutMax) :
      AskingPass process input
        { process with timeout := process.timeout + 1, state := .sendFilename }
  | ends (expired : process.state = .kill ∨ timeoutMax ≤ process.timeout) :
      AskingPass process input { process with state := .kill }
  | refused (atState : process.state = .waitForFilenameAck) (packet : Packet) (state : State)
      (next : state = .sendFilenameTimeout ∨ state = .kill) :
      AskingPass process input { process with currPacket := packet, state }
  | accepted (atState : process.state = .waitForFilenameAck) (datagram : Datagram)
      (polled : input.poll = some datagram) (accepts : ¬RejectsResponse datagram)
      (found : filenameRespPacketSsize ≤ datagram.length →
        datagram.getD packetHeaderSsize 0 = 1)
      (packet : Packet) :
      AskingPass process input
        { process with
          statics := { process.statics with highest := wrap32 (process.statics.highest + 1) }
          currPacket := packet
          state := .receiveFirstData }

theorem memcpy_getD (packet : Packet) (datagram : Datagram) {size index : Nat}
    (fits : size ≤ packetMaxSsize) (copied : index < size) (present : index < datagram.length) :
    (packet.memcpy 0 (datagram.take size)).bytes.getD index 0 = datagram.getD index 0 := by
  have small : (datagram.take size).length ≤ packetMaxSsize :=
    Nat.le_trans (List.length_take_le _ _) fits
  have inside : index < (datagram.take size).length := by
    rw [List.length_take]
    omega
  rw [packet.memcpy_zero_bytes small, List.getD_append _ _ _ _ inside,
    List.getD_eq_getElem?_getD, List.getD_eq_getElem?_getD, List.getElem?_take_of_lt copied]

theorem ControlInv.modes {transfer : Transfer} {arrival : Arrival} {process : Process}
    (control : ControlInv transfer arrival process) : Modes process where
  fresh := control.fresh
  direct := by
    intro atState
    obtain ⟨_, _, _, mode⟩ := control.pending (.inl atState)
    rw [← Bool.not_eq_true, ← mode, atState]
    decide
  buffered := by
    intro atState
    obtain ⟨_, _, _, mode⟩ := control.pending (.inr atState)
    exact mode.mp atState

section Pass

variable {transfer : Transfer} {fromFileName : List UInt8} {process : Process} (input : Input)

theorem waitForFileNameAck_pass (atState : process.state = .waitForFilenameAck) :
    AskingPass process input (waitForFileNameAck process input.poll) := by
  cases polled : input.poll with
  | none => exact .refused atState process.currPacket _ (.inl rfl)
  | some datagram =>
      have valid := receive_valid_iff process.currPacket datagram
        (show filenameRespPacketSsize ≤ packetMaxSsize by decide)
      have copied : (receiveAndValidateData process.currPacket datagram
          filenameRespPacketSsize).2.1 =
            process.currPacket.memcpy 0 (datagram.take filenameRespPacketSsize) := rfl
      simp only [waitForFileNameAck]
      generalize receiveAndValidateData process.currPacket datagram filenameRespPacketSsize =
        result at valid copied ⊢
      obtain ⟨good, packet, size⟩ := result
      have isPacket : packet = _ := copied
      cases good with
      | false => exact .refused atState packet _ (.inl rfl)
      | true =>
          by_cases isResponse : packet.flag = FlagType.filenameResp.code
          · by_cases found : packet.payload.getD 0 0 = 1
            · simp only [isResponse, found, Bool.not_true, Bool.false_eq_true, if_false, ne_eq,
                not_true_eq_false]
              refine .accepted atState datagram polled ?_ (fun whole => ?_) packet
              · rintro (damaged | ⟨whole, other⟩)
                · exact damaged (valid.mp rfl)
                · refine other ?_
                  rw [← isResponse, Packet.flag, isPacket]
                  exact (memcpy_getD _ _ (by decide) (by decide) whole).symm
              · have first : packet.payload.getD 0 0 = packet.bytes.getD packetHeaderSsize 0 := by
                  simp only [Packet.payload, payloadOf, List.getD_eq_getElem?_getD,
                    List.getElem?_drop, Nat.add_zero]
                rw [← found, first, isPacket]
                exact (memcpy_getD _ _ (by decide) (by decide) whole).symm
            · simp only [isResponse, found, Bool.not_true, Bool.false_eq_true, if_false, ne_eq,
                not_true_eq_false, not_false_eq_true, if_true]
              exact .refused atState packet _ (.inr rfl)
          · simp only [isResponse, Bool.not_true, Bool.false_eq_true, if_false, ne_eq,
              not_false_eq_true, if_true]
            exact .refused atState packet _ (.inl rfl)

theorem asking_pass (asking : isAsking process.state = true ∨ process.state = .kill) :
    AskingPass process input (stateMachine process input) := by
  have ended : ∀ state, process.state = state → state ≠ .kill → isAsking state = true := by
    rintro state rfl running
    exact asking.resolve_right running
  have running : process.state ≠ .exit :=
    fun atState => by cases ended _ atState (by decide)
  have notLoop : process.state ≠ .lastDataLoop :=
    fun atState => by cases ended _ atState (by decide)
  have notReceiving : process.state ≠ .receiveData :=
    fun atState => by cases ended _ atState (by decide)
  by_cases under : process.timeout < timeoutMax
  · rw [stateMachine_dispatch input running notLoop under, if_neg notReceiving]
    cases atState : process.state with
    | sendFilename =>
        simp only [dispatch, atState]
        exact .sends atState under
    | sendFilenameTimeout =>
        simp only [dispatch, atState]
        exact .reopens atState under
    | waitForFilenameAck =>
        rw [dispatch_ack input atState]
        exact waitForFileNameAck_pass input atState
    | kill =>
        have stays : { process with state := State.kill } = process := by
          rw [← atState]
        have ended : dispatch process input = process := by
          simp only [dispatch, atState]
        have ends : AskingPass process input { process with state := .kill } :=
          .ends (.inl atState)
        rw [stays] at ends
        rwa [ended]
    | receiveFirstData | receiveData | receiveDataTimeout | badData | bufferData | processData |
        lastData | lastDataLoop | exit =>
        cases ended _ atState (by decide)
  · rw [stateMachine_timeout input running notLoop (Nat.not_lt.mp under)]
    exact .ends (.inr (Nat.not_lt.mp under))

/-- Once rcopy waits for data it asks again only when the first poll times out. -/
theorem stateMachine_answered (modes : Modes process)
    (answered : isAsking process.state = false) :
    isAsking (stateMachine process input).state = false ∧
        (stateMachine process input).state ≠ .receiveFirstData ∨
      process.state = .receiveFirstData ∧ input.poll = none ∧
        stateMachine process input =
          { process with
            statics := { process.statics with seqNum := wrap32 (process.statics.seqNum + 1) }
            state := .sendFilenameTimeout } := by
  have pass := stateMachine_pass process input
  generalize stateMachine process input = later at pass ⊢
  cases pass with
  | teardown atLoop =>
      rcases lastData_state input atLoop with next | next | next <;> simp [next, isAsking]
  | ended atExit => exact .inl ⟨answered, by simp [atExit]⟩
  | givesUp => exact .inl ⟨rfl, by simp⟩
  | switched running notTeardown under =>
      cases atState : process.state with
      | receiveFirstData =>
          rw [if_neg (by simp), dispatch_firstData input atState]
          cases polled : input.poll with
          | none => exact .inr ⟨rfl, rfl, rfl⟩
          | some datagram =>
              left
              simp only [recvData]
              split
              · simp [isAsking]
              · simp [isAsking]
      | receiveData =>
          left
          simp only [if_true, dispatch]
          cases input.poll with
          | none => simp [recvData, isAsking]
          | some datagram =>
              simp only [recvData]
              split
              · simp [isAsking]
              · split <;> simp [isAsking]
      | processData | bufferData =>
          have waits : Waits process := by simp [Waits, atState]
          rw [if_neg (by simp)]
          rcases handled_next modes waits input with next | next | next <;>
            simp [next, isAsking]
      | sendFilename | sendFilenameTimeout | waitForFilenameAck =>
          rw [atState] at answered
          cases answered
      | receiveDataTimeout | badData | lastData | lastDataLoop | kill | exit =>
          simp [dispatch, atState, isAsking]

theorem Fresh.asks (fresh : Fresh transfer fromFileName process)
    (asking : isAsking process.state = true ∨ process.state = .kill) :
    Fresh transfer fromFileName (stateMachine process input) := by
  have session : SessionInv transfer seqNumStart (stateMachine process input) := by
    refine (session_step fresh.session ?_).1
    intro polling datagram polled
    cases atState : process.state with
    | waitForFilenameAck => exact .inl atState
    | _ => simp_all [polls, isAsking]
  have pass := asking_pass input asking
  generalize stateMachine process input = later at pass session ⊢
  cases pass with
  | sends | reopens | ends | refused | accepted =>
      exact ⟨session, fresh.fromFileName_eq, fresh.windowSize_eq⟩

theorem Fresh.asks_again (fresh : Fresh transfer fromFileName process)
    (waiting : process.state = .receiveFirstData) (timedOut : input.poll = none)
    (again : isAsking (stateMachine process input).state = true) :
    Fresh transfer fromFileName (stateMachine process input) := by
  have handshaking : System.Handshaking process input :=
    ⟨by rw [waiting]; rfl, fun _ => timedOut⟩
  have session := System.session_of_handshake fresh.session handshaking
  have answered := stateMachine_answered input fresh.session.holds.control.modes
    (by rw [waiting]; rfl)
  rw [again] at answered
  rcases answered with ⟨no, _⟩ | ⟨_, _, moved⟩
  · cases no
  · rw [moved] at session ⊢
    exact ⟨session, fresh.fromFileName_eq, fresh.windowSize_eq⟩

end Pass

theorem start_fresh (transfer : Transfer) (fromFileName : List UInt8) :
    Fresh transfer fromFileName
      (start transfer.windowSize transfer.bufferSize fromFileName) where
  session := start_session transfer fromFileName
  fromFileName_eq := rfl
  windowSize_eq := rfl

/-- Nothing a child sends but its answer is taken for one. -/
theorem rejectsResponse_of_isSent {transfer : Transfer} {bound : Nat} {datagram : Datagram}
    (isSent : Server.IsSent transfer bound datagram) : RejectsResponse datagram := by
  rcases isSent with rfl | ⟨seqNum, flag, _, _, flagged, rfl⟩
  · exact .inl (by decide)
  · refine .inr ⟨?_, ?_⟩
    · rw [transfer.datagram_length]
      exact Nat.le_add_right _ _
    · rw [transfer.datagram_flag]
      rcases flagged.2 with rfl | rfl | rfl | rfl <;> decide

end CPE464.Project3.Rcopy
