/-
What the keyboard makes of the service.

`poll` sees what is left of descriptor 0, not what is left in the buffer of stdio.  Lines that
come one at a time, as from a terminal, leave nothing there, and all of them are echoed.  Behind
the end of the input the descriptor is ready for ever, and the client does nothing but send.
-/

import CPE464.P2.AllEchoed

namespace CPE464.P2

open General

namespace Keyboard

/-- A line that a call of `processStdin` can read to its end, without its newline. -/
def IsLineText (text : List UInt8) : Prop := newline ∉ text ∧ text.length < maxBuf - 1

def IsLine (chunk : Chunk) : Prop := ∃ text, chunk.bytes = text ++ [newline] ∧ IsLineText text

/-- Nothing has been read ahead, and lines come one at a time. -/
structure LineByLine (keyboard : Keyboard) : Prop where
  buffered : keyboard.buffered = []
  lines : ∀ chunk ∈ keyboard.chunks, IsLine chunk

theorem readChars_line {text rest : List UInt8} (noNewline : newline ∉ text) {space : Nat}
    (fits : text.length < space) (chunks : List Chunk) (closed : Bool) :
    readChars space ⟨text ++ newline :: rest, chunks, closed⟩ =
      some (text, ⟨rest, chunks, closed⟩) := by
  induction text generalizing space with
  | nil =>
      obtain ⟨space, rfl⟩ := Nat.exists_eq_succ_of_ne_zero (Nat.ne_zero_of_lt fits)
      simp [readChars, getchar]
  | cons first others ih =>
      obtain ⟨space, rfl⟩ := Nat.exists_eq_succ_of_ne_zero (Nat.ne_zero_of_lt fits)
      rw [List.mem_cons, not_or] at noNewline
      have goesOn := ih noNewline.2 (Nat.lt_of_succ_lt_succ fits)
      simp [readChars, getchar, Ne.symm noNewline.1, goesOn]

theorem LineByLine.processStdin {keyboard later : Keyboard} (lineByLine : LineByLine keyboard)
    (opened : keyboard.closed = false) {sendBuf : List UInt8}
    (read : keyboard.processStdin = some (sendBuf, later)) :
    LineByLine later ∧ ∃ text, IsLineText text ∧ sendBuf = text ++ [0] ∧
      keyboard.stream = text ++ [newline] ++ later.stream := by
  obtain ⟨buffered, chunks, closed⟩ := keyboard
  obtain ⟨rfl, lines⟩ := lineByLine
  cases opened
  cases chunks with
  | nil => cases read
  | cons chunk others =>
      obtain ⟨text, bytes, isText⟩ := lines chunk List.mem_cons_self
      -- the first character is read from the descriptor, the others from the buffer
      have taken : readChars (maxBuf - 1) ⟨[], chunk :: others, false⟩ =
          readChars (maxBuf - 1) ⟨chunk.bytes, others, false⟩ := rfl
      have line : readChars (maxBuf - 1) ⟨text ++ [newline], others, false⟩ =
          some (text, ⟨[], others, false⟩) := readChars_line isText.1 isText.2 others false
      rw [Keyboard.processStdin, taken, bytes, line] at read
      cases read
      refine ⟨⟨rfl, fun other member => lines other (List.mem_cons_of_mem _ member)⟩,
        text, isText, rfl, ?_⟩
      simp only [stream, List.flatMap_cons, bytes, List.nil_append]

theorem LineByLine.chunks_nil {keyboard : Keyboard} (lineByLine : LineByLine keyboard)
    (noNewline : newline ∉ keyboard.stream) : keyboard.chunks = [] := by
  cases isChunks : keyboard.chunks with
  | nil => rfl
  | cons chunk others =>
      obtain ⟨text, bytes, -⟩ := lineByLine.lines chunk (by simp [isChunks])
      refine absurd ?_ noNewline
      simp [Keyboard.stream, isChunks, bytes]

theorem readChars_ended (space : Nat) :
    readChars space ⟨[], [], true⟩ = some (List.replicate space endOfFile, ⟨[], [], true⟩) := by
  induction space with
  | zero => rfl
  | succ space ih =>
      have notNewline : endOfFile ≠ newline := by decide
      rw [readChars]
      simp only [getchar, if_true, Option.bind_some, if_neg notNewline, ih, Option.map_some]
      rfl

end Keyboard

/-! ### What the server does not touch -/

namespace Client

structure SameProcess (client later : Client) : Prop where
  phase : later.phase = client.phase
  keyboard : later.keyboard = client.keyboard
  typed : later.typed = client.typed
  entered : later.entered = client.entered
  printed : later.printed = client.printed

theorem SameProcess.refl (client : Client) : SameProcess client client :=
  ⟨rfl, rfl, rfl, rfl, rfl⟩

end Client

namespace World

variable {Name : Type} {sockets : Sockets Name} {world : World Name} {members : Finset Nat}
  {limit : Nat}

/-- A step of the server changes no more than the streams of the clients. -/
def ServersStep (world later : World Name) : Prop :=
  ∀ name, (world.clients name).SameProcess (later.clients name)

theorem exit_serversStep (world : World Name) : ServersStep world world.exit :=
  fun _ => ⟨rfl, rfl, rfl, rfl, rfl⟩

theorem ServersStep.withPollSet {later : World Name} (serversStep : ServersStep world later)
    (made : Except Fault PollSet) : ServersStep world (later.withPollSet made) := by
  cases made with
  | ok pollSet => exact serversStep
  | error fault =>
      intro name
      obtain ⟨phase, keyboard, typed, entered, printed⟩ := serversStep name
      exact ⟨phase, keyboard, typed, entered, printed⟩

theorem serverPoll_serversStep (sockets : Sockets Name) (world : World Name) :
    ServersStep world (world.serverPoll sockets) := by
  unfold World.serverPoll
  split
  · split
    · exact exit_serversStep world
    · exact fun _ => .refl _
  · exact exit_serversStep world

section

variable [DecidableEq Name]

theorem modify_serversStep {name : Name} {change : Client → Client}
    (same : (world.clients name).SameProcess (change (world.clients name))) :
    ServersStep world (world.modify name change) := by
  intro other
  by_cases isName : other = name
  · subst isName
    simpa only [World.modify, Function.update_self] using same
  · simpa only [World.modify, Function.update_of_ne isName] using Client.SameProcess.refl _

theorem serverServe_serversStep (sockets : Sockets Name) (world : World Name) (newSocket : Nat) :
    ServersStep world (world.serverServe sockets newSocket) := by
  have unchanged : ServersStep world world := fun _ => .refl _
  unfold World.serverServe
  split
  · split
    · unfold World.addNewSocket
      split
      · refine ServersStep.withPollSet ?_ _
        exact unchanged
      · exact unchanged
    · rename_i currSock _ _
      unfold World.processClient
      dsimp only
      split
      · exact exit_serversStep world
      · exact unchanged
      · have served : ServersStep world (world.echoed currSock (world.recvFrom currSock)) := by
          unfold World.echoed
          split
          · exact modify_serversStep ⟨rfl, rfl, rfl, rfl, rfl⟩
          · exact unchanged
        split
        · refine ServersStep.withPollSet ?_ _
          exact served
        · exact served
  all_goals exact unchanged

end

/-! ### Lines from a terminal -/

structure ReadsLines (client : Client) : Prop where
  lineByLine : client.keyboard.LineByLine
  waiting : client.phase = .serving stdinFileno → client.keyboard.chunks ≠ []
  texts : ∃ texts : List (List UInt8), (∀ text ∈ texts, Keyboard.IsLineText text) ∧
    client.typed = texts.flatMap (fun text => text ++ [newline]) ++ client.keyboard.stream ∧
    client.entered = texts.map fun text => text ++ [0]

theorem ReadsLines.poll {client : Client} {socketNum : Nat} (reads : ReadsLines client)
    (orderly : client.Orderly socketNum) (socketNum_ne : socketNum ≠ stdinFileno)
    (opened : client.keyboard.closed = false) (polling : client.phase = .polling)
    (reported : client.pollCall socketNum ≠ .ok (-1)) : ReadsLines (client.poll socketNum) := by
  obtain ⟨currSock, isLater, -⟩ := orderly.poll socketNum_ne polling reported
  have answer := Client.pollCall_eq orderly socketNum_ne
  simp only [opened, Bool.false_eq_true, or_false] at answer
  by_cases keys : client.keyboard.chunks ≠ []
  · rw [isLater]
    exact ⟨reads.lineByLine, fun _ => keys, reads.texts⟩
  · -- only the socket has been reported
    rw [if_neg keys] at answer
    have arrived : client.toClient.arrived ≠ [] := by
      intro none
      rw [if_neg (not_not.mpr none)] at answer
      exact reported answer
    rw [if_pos arrived] at answer
    refine ⟨isLater ▸ reads.lineByLine, fun isServing => ?_, isLater ▸ reads.texts⟩
    have notNegative : ¬(socketNum : Int) < 0 := by omega
    simp only [Client.poll, answer, if_neg notNegative, Int.toNat_natCast,
      Phase.serving.injEq] at isServing
    exact absurd isServing socketNum_ne

theorem ReadsLines.served {client later : Client} (reads : ReadsLines client)
    (opened : client.keyboard.closed = false) (served : client.Served later) :
    ReadsLines later := by
  obtain ⟨lineByLine, -, texts, areTexts, typed, entered⟩ := reads
  cases served with
  | entered sendBuf keyboard read isLater =>
      obtain ⟨stillLines, text, isText, isMessage, stream⟩ :=
        lineByLine.processStdin opened read
      rw [isLater]
      refine ⟨stillLines, (fun isServing => by cases isServing), texts ++ [text], ?_, ?_, ?_⟩
      · simpa [or_imp, forall_and] using ⟨areTexts, isText⟩
      · simp [typed, stream]
      · simp [entered, isMessage]
  | printed _ _ _ _ isLater =>
      rw [isLater]
      exact ⟨lineByLine, (fun isServing => by cases isServing), texts, areTexts, typed,
        entered⟩

/-- What is typed comes line by line, and no keyboard is at its end. -/
def Action.TypesLines : Action Name → Prop
  | .enter _ chunk => Keyboard.IsLine chunk
  | .endInput _ => False
  | .connect _ | .killClient _ | .killServer | .hangUp | .reset _ | .arriveAtServer _ _
  | .arriveAtClient _ _ | .serverPoll | .serverServe _ | .clientPoll _ | .clientServe _ _ => True

def AllReadLines (world : World Name) : Prop := ∀ name, ReadsLines (world.clients name)

theorem start_readLines (sockets : Sockets Name) : AllReadLines (start sockets) := by
  obtain ⟨pollSet, made, -⟩ := PollSet.setupPollSet_holds.addToPollSet sockets.serverSocket
  rw [start, made]
  refine fun _ => ⟨⟨rfl, List.forall_mem_nil _⟩, (fun isServing => by cases isServing), [],
    List.forall_mem_nil _, rfl, rfl⟩

theorem AllReadLines.serversStep (readLines : AllReadLines world) {later : World Name}
    (serversStep : ServersStep world later) : AllReadLines later := by
  intro name
  obtain ⟨lineByLine, waiting, texts, areTexts, typed, entered⟩ := readLines name
  have same := serversStep name
  refine ⟨same.keyboard ▸ lineByLine, fun isServing => ?_, texts, areTexts, ?_, ?_⟩
  · exact same.keyboard ▸ waiting (same.phase ▸ isServing)
  · rw [same.typed, same.keyboard, typed]
  · rw [same.entered, entered]

variable [DecidableEq Name]

theorem AllReadLines.modify (readLines : AllReadLines world) {name : Name}
    {change : Client → Client} (kept : ReadsLines (change (world.clients name))) :
    AllReadLines (world.modify name change) := by
  intro other
  by_cases same : other = name
  · subst same
    simpa only [World.modify, Function.update_self] using kept
  · simpa only [World.modify, Function.update_of_ne same] using readLines other

theorem AllReadLines.step (readLines : AllReadLines world)
    (orderly : Orderly sockets world members limit) (opened : KeyboardsOpen world)
    {action : Action Name} (enabled : Enabled sockets world action) (harmless : action.Harmless)
    (types : action.TypesLines) : AllReadLines (world.step sockets action) := by
  unfold World.step
  cases action with
  | connect name =>
      have kept : AllReadLines (world.modify name Client.connect) := by
        refine readLines.modify
          ⟨(readLines name).lineByLine, fun isServing => ?_, (readLines name).texts⟩
        cases isServing
      exact kept
  | enter name chunk =>
      obtain ⟨lineByLine, -, texts, areTexts, typed, entered⟩ := readLines name
      refine readLines.modify
        ⟨⟨lineByLine.buffered, ?_⟩, fun _ => ?_, texts, areTexts, ?_, entered⟩
      · intro other member
        rcases List.mem_append.mp member with old | new
        · exact lineByLine.lines other old
        · exact List.mem_singleton.mp new ▸ types
      · simp [Client.enter]
      · simp [Client.enter, Keyboard.stream, typed]
  | endInput => exact types.elim
  | killClient name =>
      refine readLines.modify
        ⟨(readLines name).lineByLine, fun isServing => ?_, (readLines name).texts⟩
      cases isServing
  | arriveAtServer name count =>
      exact readLines.modify
        ⟨(readLines name).lineByLine, (readLines name).waiting, (readLines name).texts⟩
  | arriveAtClient name count =>
      exact readLines.modify
        ⟨(readLines name).lineByLine, (readLines name).waiting, (readLines name).texts⟩
  | serverPoll => exact readLines.serversStep (serverPoll_serversStep sockets world)
  | serverServe newSocket =>
      exact readLines.serversStep (serverServe_serversStep sockets world newSocket)
  | clientPoll name =>
      exact readLines.modify ((readLines name).poll (orderly.clients name)
        (sockets.socketNum_ne name) (opened name) enabled.1 enabled.2)
  | clientServe name stack =>
      obtain ⟨-, served⟩ :=
        (orderly.clients name).finishPass (sockets.socketNum_ne name) enabled stack
      exact readLines.modify ((readLines name).served (opened name) served)
  | killServer | hangUp | reset => exact harmless.elim

/-- While the server is left alone, no connection is lost, the keyboards hand over line by line,
and no more than a connection holds is entered at any of them: when the programs and the network
have come to rest, every client that is still there waits at its poll set, and it has printed each
line that was typed, up to its first NUL, once and in order. -/
theorem lines_echoed (sockets : Sockets Name) (actions : List (Action Name)) (name : Name)
    (enabled : EveryStep (step sockets) (Enabled sockets) (start sockets) actions)
    (lineByLine : ∀ action ∈ actions, action.Harmless ∧ action.TypesLines)
    (stuck : ∀ action : Action Name, action.Internal →
      ¬Enabled sockets (run (step sockets) (start sockets) actions) action)
    (fits : ∀ other, ((run (step sockets) (start sockets) actions).clients other).enteredBytes ≤
      sockets.capacity) :
    let client := (run (step sockets) (start sockets) actions).clients name
    client.phase ≠ .notStarted → client.phase ≠ .exited →
      client.phase = .polling ∧ ∃ texts : List (List UInt8),
        (∀ text ∈ texts, newline ∉ text ∧ text.length < maxBuf - 1) ∧
          client.typed = texts.flatMap (fun text => text ++ [newline]) ∧
          client.printed = texts.map fun text => ((text.length : Int) + 1, cString text) := by
  intro client begun running
  have reached : Lively sockets (run (step sockets) (start sockets) actions) ∧
      AllReadLines (run (step sockets) (start sockets) actions) := by
    refine run_invariant (fun world => Lively sockets world ∧ AllReadLines world) ?_ ⟨?_, ?_⟩
      (enabled.and (everyStep_of_inputs lineByLine))
    · rintro world action ⟨lively, readLines⟩ ⟨permitted, harmless, types⟩
      obtain ⟨⟨_, _, orderly⟩, opened⟩ := id lively
      refine ⟨lively.step permitted harmless ?_,
        readLines.step orderly opened permitted harmless types⟩
      rintro other rfl
      exact types
    · exact start_lively sockets
    · exact start_readLines sockets
  obtain ⟨⟨⟨_, _, orderly⟩, opened⟩, readLines⟩ := reached
  obtain ⟨lines, waiting, texts, areTexts, typed, entered⟩ := readLines name
  have noKeys : client.keyboard.chunks = [] → client.keyboard.stream = [] := by
    intro none
    rw [Keyboard.stream, lines.buffered, none]
    rfl
  have noneHeldUp : ¬∃ other, HeldUp sockets
      (run (step sockets) (start sockets) actions) other := by
    rintro ⟨other, heldUp⟩
    exact absurd heldUp.tooMuch (Nat.not_lt.mpr (fits other))
  have polling := (Stuck.polling_or_heldUp orderly stuck).resolve_right noneHeldUp
  cases Stuck.atRest orderly stuck polling begun with
  | polling isPolling none printed =>
      refine ⟨isPolling, texts, areTexts, ?_, ?_⟩
      · rw [typed, noKeys none, List.append_nil]
      · rw [printed, entered, List.map_map]
        exact List.map_congr_left fun text _ => shownAs_terminated text
  | inLine isServing noNewline =>
      exact absurd (lines.chunks_nil noNewline) (waiting isServing)
  | ended isEnded => exact absurd isEnded running

def oneLine : List (Action Bool) :=
  [.connect false, .enter false ⟨104, [105, 10]⟩, .serverPoll, .serverServe 4, .clientPoll false,
    .clientServe false [], .arriveAtServer false 9, .serverPoll, .serverServe 5,
    .arriveAtClient false 9, .clientPoll false, .clientServe false []]

theorem lines_echoed_one_line :
    let client := (run (step usualSockets) (start usualSockets) oneLine).clients false
    client.phase = .polling ∧ client.printed = [(3, [104, 105])] := by
  refine ⟨?_, by decide +kernel⟩
  refine (lines_echoed usualSockets oneLine false (by decide +kernel) ?_ ?_ (by decide +kernel)
    (by decide +kernel) (by decide +kernel)).1
  · have isLine : Keyboard.IsLine ⟨104, [105, 10]⟩ := ⟨[104, 105], rfl, by decide, by decide⟩
    simp [oneLine, Action.Harmless, Action.TypesLines, isLine]
  · have polling : (run (step usualSockets) (start usualSockets) oneLine).phase = .polling := by
      decide +kernel
    intro action internal
    cases action with
    | arriveAtServer name count => cases name <;> exact fun both => both.2 (by decide +kernel)
    | arriveAtClient name count => cases name <;> exact fun both => both.2 (by decide +kernel)
    | serverPoll => decide +kernel
    | serverServe newSocket =>
        rw [Enabled, polling]
        exact id
    | clientPoll name => cases name <;> decide +kernel
    | clientServe name stack =>
        -- what is in memory does not matter
        change ¬Enabled usualSockets _ (.clientServe name [])
        cases name <;> decide +kernel
    | connect | enter | endInput | killClient | killServer | hangUp | reset => exact internal.elim

/-! ### Behind the end of the input -/

def endOfInput : List UInt8 := List.replicate (maxBuf - 1) endOfFile ++ [0]

/-- The client is in its loop, and its input has been read to the end. -/
structure InputOver (client : Client) : Prop where
  keyboard : client.keyboard = ⟨[], [], true⟩
  looping : client.phase = .polling ∨ client.phase = .serving stdinFileno

/-- Since then it has made so many messages of the end of the input, and nothing else. -/
structure Flooded (client : Client) (count : Nat) (later : Client) : Prop where
  keyboard : later.keyboard = ⟨[], [], true⟩
  phase : later.phase = .polling ∨ later.phase = .serving stdinFileno ∨ later.phase = .exited
  printed : later.printed = client.printed
  entered : later.entered = client.entered ++ List.replicate count endOfInput

section Flooded

variable {client later : Client} {count : Nat}

theorem Flooded.same (flooded : Flooded client count later) {next : Client}
    (same : later.SameProcess next) : Flooded client count next where
  keyboard := same.keyboard.trans flooded.keyboard
  phase := same.phase ▸ flooded.phase
  printed := same.printed.trans flooded.printed
  entered := same.entered.trans flooded.entered

theorem Flooded.processStdin (flooded : Flooded client count later) :
    later.keyboard.processStdin = some (endOfInput, ⟨[], [], true⟩) := by
  rw [flooded.keyboard, Keyboard.processStdin, Keyboard.readChars_ended]
  rfl

theorem Flooded.pollCall (flooded : Flooded client count later) (socketNum : Nat) :
    later.pollCall socketNum = .ok 0 :=
  Client.pollCall_closed (by rw [flooded.keyboard]) socketNum

theorem Flooded.finishPass (flooded : Flooded client count later)
    (isServing : later.phase = .serving stdinFileno) (socketNum : Nat) (stack : List UInt8) :
    Flooded client (count + 1) (later.finishPass socketNum stack) := by
  have entered : later.entered ++ [endOfInput] =
      client.entered ++ List.replicate (count + 1) endOfInput := by
    rw [flooded.entered, List.append_assoc, ← List.replicate_succ']
  simp only [Client.finishPass_serving isServing, Client.serve, flooded.processStdin, if_true]
  split
  · exact ⟨rfl, .inl rfl, flooded.printed, entered⟩
  · exact ⟨rfl, .inr (.inr rfl), flooded.printed, entered⟩

end Flooded

def Action.finishes : Action Name → Option Name
  | .clientServe name _ => some name
  | .connect _ | .enter _ _ | .endInput _ | .killClient _ | .killServer | .hangUp | .reset _
  | .arriveAtServer _ _ | .arriveAtClient _ _ | .serverPoll | .serverServe _ | .clientPoll _ => none

theorem Flooded.step {client : Client} {count : Nat} {name : Name}
    (flooded : Flooded client count (world.clients name)) {action : Action Name}
    (enabled : Enabled sockets world action) :
    Flooded client (count + if action.finishes = some name then 1 else 0)
      ((world.step sockets action).clients name) := by
  have modified : ∀ {other : Name} {change : Client → Client},
      (other = name → Flooded client count (change (world.clients name))) →
        Flooded client count ((world.modify other change).clients name) := by
    intro other change kept
    by_cases same : name = other
    · subst same
      simpa only [World.modify, Function.update_self] using kept rfl
    · simpa only [World.modify, Function.update_of_ne same] using flooded
  unfold World.step
  cases action with
  | connect other =>
      refine modified ?_
      rintro rfl
      have begun := flooded.phase
      rw [enabled.2] at begun
      simp at begun
  | enter other chunk =>
      refine modified ?_
      rintro rfl
      have opened : (world.clients other).keyboard.closed = false := enabled
      rw [flooded.keyboard] at opened
      cases opened
  | endInput other =>
      refine modified fun _ => ⟨?_, flooded.phase, flooded.printed, flooded.entered⟩
      simp only [Client.endInput, flooded.keyboard]
  | killClient other =>
      exact modified fun _ =>
        ⟨flooded.keyboard, .inr (.inr rfl), flooded.printed, flooded.entered⟩
  | killServer => exact flooded.same (exit_serversStep world name)
  | hangUp => exact flooded
  | reset | arriveAtServer | arriveAtClient =>
      exact modified fun _ => flooded.same ⟨rfl, rfl, rfl, rfl, rfl⟩
  | serverPoll => exact flooded.same (serverPoll_serversStep sockets world name)
  | serverServe newSocket =>
      exact flooded.same (serverServe_serversStep sockets world newSocket name)
  | clientPoll other =>
      refine modified ?_
      rintro rfl
      simp only [Client.poll, flooded.pollCall]
      exact ⟨flooded.keyboard, .inr (.inl rfl), flooded.printed, flooded.entered⟩
  | clientServe other stack =>
      by_cases same : other = name
      · subst same
        obtain ⟨currSock, isServing⟩ := Client.serving_of_returns enabled
        have isStdin : currSock = stdinFileno := by
          have looping := flooded.phase
          rw [isServing] at looping
          simpa using looping
        subst isStdin
        simpa [World.modify, Action.finishes] using flooded.finishPass isServing _ stack
      · simp only [Action.finishes, Option.some.injEq, if_neg same, Nat.add_zero]
        exact modified fun isName => absurd isName same

/-- One line, and then the end of the input; the echo arrives too late. -/
def lineAndEnd : List (Action Bool) :=
  [.connect false, .enter false ⟨104, [10]⟩, .serverPoll, .serverServe 4, .clientPoll false,
    .clientServe false [], .endInput false]

def echoTooLate : List (Action Bool) :=
  [.arriveAtServer false 9, .serverPoll, .clientPoll false, .serverServe 5, .clientServe false [],
    .arriveAtClient false 9, .clientPoll false, .clientServe false []]

end World

end CPE464.P2
