/-
What becomes of the datagrams that a process sends through the error library, whatever the
environment is and however the process sets the library up.
-/

import CPE464.Project3.SettingsManager
import Mathlib.Data.List.TakeWhile

namespace CPE464.Project3

open General PacketManager

/-! ### A list of message numbers -/

def commaSeparated (numbers : List Nat) : List Char :=
  [','].intercalate (numbers.map (Nat.toDigits 10))

theorem digitsValue_append (digits : List Char) (digit : Char) :
    digitsValue (digits ++ [digit]) = 10 * digitsValue digits + (digit.toNat - '0'.toNat) := by
  simp only [digitsValue, List.foldl_append, List.foldl_cons, List.foldl_nil]

theorem digitChar_value {digit : Nat} (small : digit < 10) :
    (Nat.digitChar digit).toNat - '0'.toNat = digit := by
  revert digit
  decide

theorem digitsValue_toDigits (number : Nat) :
    digitsValue (Nat.toDigits 10 number) = number := by
  induction number using Nat.strongRecOn with
  | ind number inductionHypothesis =>
      rw [Nat.toDigits_eq_if (by decide)]
      split
      · next small =>
          have last := digitsValue_append [] (Nat.digitChar number)
          rw [List.nil_append, digitChar_value small] at last
          exact last.trans (Nat.zero_add _)
      · next large =>
          rw [digitsValue_append, inductionHypothesis _ (by omega),
            digitChar_value (Nat.mod_lt _ (by decide))]
          exact Nat.div_add_mod number 10

theorem strtol_toDigits {number : Nat} (small : number < 2 ^ 63) :
    strtol (Nat.toDigits 10 number) = some (number : Int) := by
  have isDigit : ∀ c ∈ Nat.toDigits 10 number, c.isDigit = true :=
    fun _ member => Nat.isDigit_of_mem_toDigits (by decide) (by decide) member
  have value := digitsValue_toDigits number
  have written : Nat.toDigits 10 number ≠ [] := Nat.toDigits_ne_nil
  generalize Nat.toDigits 10 number = digits at isDigit value written
  obtain ⟨first, rest, rfl⟩ := List.exists_cons_of_ne_nil written
  have firstDigit := isDigit first List.mem_cons_self
  have notSpace : isSpace first = false := by
    simp only [isSpace, Char.isDigit, Bool.and_eq_true, decide_eq_true_eq, Bool.or_eq_false_iff,
      decide_eq_false_iff_not, Bool.and_eq_false_iff] at *
    refine ⟨?_, .inr ?_⟩
    · rintro rfl
      exact absurd firstDigit.1 (by decide)
    · intro below
      exact absurd (UInt32.le_trans firstDigit.1 below) (by decide)
  have unsigned : ∀ sign : Char, sign.isDigit = false → (first :: rest).head? ≠ some sign := by
    rintro sign noDigit ⟨rfl⟩
    exact Bool.false_ne_true (noDigit.symm.trans firstDigit)
  have noMinus := unsigned '-' (by decide)
  have noPlus := unsigned '+' (by decide)
  have whole : (first :: rest).takeWhile Char.isDigit = first :: rest :=
    List.takeWhile_eq_self_iff.mpr isDigit
  have bounded : max (-2 ^ 63) (min (number : Int) (2 ^ 63 - 1)) = number := by omega
  simp only [strtol, List.dropWhile_cons, notSpace, Bool.false_eq_true, if_false, noMinus, noPlus,
    or_self, List.takeWhile_eq_self_iff.mpr isDigit, reduceCtorEq, value, bounded]

theorem parser2ListLong_commaSeparated {numbers : List Nat} (some : numbers ≠ [])
    (small : ∀ number ∈ numbers, number < 2 ^ 63) :
    parser2ListLong (commaSeparated numbers) = numbers.map Int.ofNat := by
  have noComma : ∀ token ∈ numbers.map (Nat.toDigits 10), ',' ∉ token := by
    intro token member comma
    obtain ⟨number, _, rfl⟩ := List.mem_map.mp member
    have isDigit := Nat.isDigit_of_mem_toDigits (by decide) (by decide) comma
    exact absurd isDigit (by decide)
  have written : ∀ token ∈ numbers.map (Nat.toDigits 10), token ≠ [] := by
    intro token member
    obtain ⟨number, _, rfl⟩ := List.mem_map.mp member
    exact Nat.toDigits_ne_nil
  have split : tokens (commaSeparated numbers) = numbers.map (Nat.toDigits 10) := by
    rw [tokens, commaSeparated, List.splitOn_intercalate ',' noComma (by simpa using some)]
    exact List.filter_eq_self.mpr fun token member => by simpa using written token member
  have read : (numbers.map (Nat.toDigits 10)).map strtol =
      numbers.map fun number => Option.some (Int.ofNat number) := by
    rw [List.map_map]
    exact List.map_congr_left fun number member => strtol_toDigits (small number member)
  rw [parser2ListLong, split, read, List.takeWhile_eq_self_iff.mpr]
  · change List.filterMap id _ = _
    rw [List.filterMap_map]
    exact congrFun List.filterMap_eq_map' numbers
  · intro value member
    obtain ⟨number, _, rfl⟩ := List.mem_map.mp member
    rfl

theorem parserLong2Uint32_naturals {numbers : List Nat}
    (small : ∀ number ∈ numbers, number < 2 ^ 32) :
    parserLong2Uint32 (numbers.map Int.ofNat) = numbers := by
  have all : (numbers.map Int.ofNat).filter (0 ≤ ·) = numbers.map Int.ofNat := by
    refine List.filter_eq_self.mpr fun value member => ?_
    obtain ⟨number, _, rfl⟩ := List.mem_map.mp member
    exact decide_eq_true (Int.natCast_nonneg number)
  rw [parserLong2Uint32, all, List.map_map]
  exact (List.map_congr_left fun number member =>
    Nat.mod_eq_of_lt (small number member)).trans (List.map_id _)

namespace Library

variable {library later : Library} {environment : Environment} {action : Call}

/-! ### One call -/

def Call.datagram? : Call → Option Datagram
  | .sendtoErr datagram => some datagram
  | .sendErr_init _ _ _ _ _ | .forkMod _ => none

/-- The events that `sendErr_init` may put on the chance list. -/
def ByChance (settings : SettingsManager) (event : MsgEvent) : Prop :=
  event = .errorFlipBits ∨ event = .errorDrop true [] ∧ settings.errDrop = none

structure Configured (library later : Library) : Prop where
  settings : later.settings = library.settings
  exited : later.exited = library.exited
  log : later.log = library.log
  msgNo : later.manager.msgNo = library.manager.msgNo
  constant : ∃ added, later.manager.constant = library.manager.constant ++ added ∧
    ∀ event ∈ added, event = .infoSeqNo
  chance : ∃ added, later.manager.chance = library.manager.chance ++ added ∧
    ∀ event ∈ added, ByChance library.settings event

inductive Called (library : Library) : Call → Library → Prop
  | ended (action : Call) (exited : library.exited = true) : Called library action library
  | configured {action : Call} {later : Library} (running : library.exited = false)
      (silent : action.datagram? = none) (configured : Configured library later) :
      Called library action later
  | exits (running : library.exited = false) :
      Called library (.sendtoErr []) { library with exited := true }
  | sends (running : library.exited = false) {datagram : Datagram} (nonempty : datagram ≠ [])
      {manager : PacketManager} {wire : Option Datagram}
      (sends : Sends library.manager datagram manager wire) :
      Called library (.sendtoErr datagram)
        { library with manager, log := library.log ++ [(datagram, wire)] }

section Settings

variable (settings : SettingsManager) (manager : PacketManager)

def SameEvents (manager later : PacketManager) : Prop :=
  later.msgNo = manager.msgNo ∧ later.constant = manager.constant ∧
    later.chance = manager.chance

theorem setUserMode_ErrRate_same (rate : Rat) :
    SameEvents manager (settings.setUserMode_ErrRate manager rate) := by
  unfold SettingsManager.setUserMode_ErrRate
  split <;> exact ⟨rfl, rfl, rfl⟩

theorem setUserMode_SeedRand_same (seed : Int) :
    SameEvents manager (settings.setUserMode_SeedRand manager seed) := by
  unfold SettingsManager.setUserMode_SeedRand
  split <;> exact ⟨rfl, rfl, rfl⟩

def MoreChance (manager later : PacketManager) : Prop :=
  later.msgNo = manager.msgNo ∧ later.constant = manager.constant ∧
    ∃ added, later.chance = manager.chance ++ added ∧ ∀ event ∈ added, ByChance settings event

theorem moreChance_refl : MoreChance settings manager manager :=
  ⟨rfl, rfl, [], (List.append_nil _).symm, fun _ absent => by cases absent⟩

theorem setUserMode_ErrDrop_more (isEnabled : Bool) :
    MoreChance settings manager (settings.setUserMode_ErrDrop manager isEnabled) := by
  unfold SettingsManager.setUserMode_ErrDrop
  split
  · exact moreChance_refl settings manager
  · next unset =>
      split
      · refine ⟨rfl, rfl, [_], rfl, fun event member => .inr ⟨List.mem_singleton.mp member, ?_⟩⟩
        exact Option.not_isSome_iff_eq_none.mp unset
      · exact moreChance_refl settings manager

theorem setUserMode_ErrFlip_more (isEnabled : Bool) :
    MoreChance settings manager (settings.setUserMode_ErrFlip manager isEnabled) := by
  unfold SettingsManager.setUserMode_ErrFlip
  split
  · exact moreChance_refl settings manager
  · split
    · exact ⟨rfl, rfl, [_], rfl, fun event member => .inl (List.mem_singleton.mp member)⟩
    · exact moreChance_refl settings manager

end Settings

theorem sendErr_init_configured (library : Library) (errorRate : Rat)
    (dropFlag flipFlag randomFlag : Bool) (now : Int) :
    Configured library (library.sendErr_init errorRate dropFlag flipFlag randomFlag now) := by
  simp only [sendErr_init]
  have rated := setUserMode_ErrRate_same library.settings
    (library.manager.addMsgEvent_Standard .infoSeqNo) errorRate
  generalize library.settings.setUserMode_ErrRate _ errorRate = first at rated ⊢
  have dropped := setUserMode_ErrDrop_more library.settings first dropFlag
  generalize library.settings.setUserMode_ErrDrop first dropFlag = second at dropped ⊢
  have flipped := setUserMode_ErrFlip_more library.settings second flipFlag
  generalize library.settings.setUserMode_ErrFlip second flipFlag = third at flipped ⊢
  have seeded := setUserMode_SeedRand_same library.settings third
    (if randomFlag then now else library.nextSeed)
  generalize library.settings.setUserMode_SeedRand third _ = fourth at seeded ⊢
  obtain ⟨drops, dropsAdded, isDrop⟩ := dropped.2.2
  obtain ⟨flips, flipsAdded, isFlip⟩ := flipped.2.2
  refine ⟨rfl, rfl, rfl, ?_, ⟨[.infoSeqNo], ?_, ?_⟩, ⟨drops ++ flips, ?_, ?_⟩⟩
  · exact seeded.1.trans (flipped.1.trans (dropped.1.trans rated.1))
  · exact seeded.2.1.trans (flipped.2.1.trans (dropped.2.1.trans rated.2.1))
  · exact fun event member => List.mem_singleton.mp member
  · rw [seeded.2.2, flipsAdded, dropsAdded, rated.2.2, List.append_assoc]
    rfl
  · exact fun event member => (List.mem_append.mp member).elim (isDrop event) (isFlip event)

theorem forkMod_configured (library : Library) (isChild : Bool) :
    Configured library (library.forkMod isChild) := by
  have same : SameEvents library.manager (library.forkMod isChild).manager := by
    cases isChild with
    | false => exact ⟨rfl, rfl, rfl⟩
    | true => exact setUserMode_SeedRand_same _ _ _
  exact ⟨rfl, rfl, rfl, same.1, ⟨[], by rw [same.2.1, List.append_nil], fun _ no => by cases no⟩,
    ⟨[], by rw [same.2.2, List.append_nil], fun _ no => by cases no⟩⟩

theorem call_called (noFlips : NoFlips library.manager.constant) (action : Call) :
    Called library action (library.call action) := by
  cases exited : library.exited with
  | true =>
      simp only [call, exited, if_true]
      exact .ended action exited
  | false =>
      simp only [call, exited, Bool.false_eq_true, if_false]
      cases action with
      | sendErr_init errorRate dropFlag flipFlag randomFlag now =>
          exact .configured exited rfl (sendErr_init_configured ..)
      | forkMod isChild => exact .configured exited rfl (forkMod_configured ..)
      | sendtoErr datagram =>
          by_cases nonempty : datagram = []
          · subst nonempty
            exact .exits exited
          · obtain ⟨manager, wire, sent, sends⟩ := sendto_Err_sends noFlips nonempty
            simp only [sendtoErr, sent]
            exact .sends exited nonempty sends

/-! ### Any settings -/

/-- The constant list never changes a message, and each datagram has passed or has been lost. -/
structure LibraryInv (library : Library) : Prop where
  noFlips : NoFlips library.manager.constant
  nonempty : ∀ entry ∈ library.log, entry.1 ≠ []
  passes : ∀ entry ∈ library.log, Passes entry.1 entry.2

theorem noFlips_append {first second : List MsgEvent} (before : NoFlips first)
    (added : NoFlips second) : NoFlips (first ++ second) :=
  fun member => (List.mem_append.mp member).elim before added

theorem Configured.noFlips (configured : Configured library later)
    (noFlips : NoFlips library.manager.constant) : NoFlips later.manager.constant := by
  obtain ⟨added, isAdded, infos⟩ := configured.constant
  rw [isAdded]
  exact noFlips_append noFlips fun member => by cases infos _ member

theorem Called.inv (called : Called library action later) (inv : LibraryInv library) :
    LibraryInv later := by
  cases called with
  | ended => exact inv
  | configured _ _ configured =>
      exact ⟨configured.noFlips inv.noFlips, configured.log ▸ inv.nonempty,
        configured.log ▸ inv.passes⟩
  | exits => exact ⟨inv.noFlips, inv.nonempty, inv.passes⟩
  | sends _ nonempty sends =>
      refine ⟨sends.constant ▸ inv.noFlips, ?_, ?_⟩ <;> intro entry member <;>
        rcases List.mem_append.mp member with old | new
      · exact inv.nonempty entry old
      · rw [List.mem_singleton.mp new]
        exact nonempty
      · exact inv.passes entry old
      · rw [List.mem_singleton.mp new]
        exact sends.passes

theorem load_noFlips (environment : Environment) (now : Int) :
    NoFlips (load environment now).manager.constant := by
  have seeded : (SettingsManager.loadEnvData_ErrRate (loadEnvData environment)
      (SettingsManager.loadEnvData_SeedRand (loadEnvData environment)
        (PacketManager.init now))).constant = [] := by
    unfold SettingsManager.loadEnvData_ErrRate SettingsManager.loadEnvData_SeedRand
    cases (loadEnvData environment).errRate <;> cases (loadEnvData environment).seedRand <;> rfl
  simp only [load]
  generalize SettingsManager.loadEnvData_ErrRate _ _ = first at seeded ⊢
  have dropped : NoFlips
      (SettingsManager.loadEnvData_ErrDrop (loadEnvData environment) first).constant := by
    unfold SettingsManager.loadEnvData_ErrDrop
    cases (loadEnvData environment).errDrop with
    | none =>
        simp only [seeded]
        exact List.not_mem_nil
    | some list =>
        simp only
        split
        · simp only [PacketManager.addMsgEvent_Random, seeded]
          exact List.not_mem_nil
        · simp only [PacketManager.addMsgEvent_Standard, seeded, List.nil_append]
          exact fun member => by cases List.mem_singleton.mp member
  generalize SettingsManager.loadEnvData_ErrDrop _ first = second at dropped ⊢
  unfold SettingsManager.loadEnvData_ErrFlip
  cases (loadEnvData environment).errFlip with
  | none => exact dropped
  | some list =>
      simp only
      split
      · exact dropped
      · exact dropped

theorem load_inv (environment : Environment) (now : Int) :
    LibraryInv (load environment now) :=
  ⟨load_noFlips environment now, fun _ absent => (by cases absent),
    fun _ absent => by cases absent⟩

theorem run_inv (inv : LibraryInv library) (calls : List Call) :
    LibraryInv (run call library calls) :=
  run_invariant LibraryInv (fun _ action inv _ => (call_called inv.noFlips action).inv inv) inv
    (everyStep_true library calls)

/-- The datagrams sent before the first that is empty. -/
def attempts (calls : List Call) : List Datagram :=
  (calls.filterMap Call.datagram?).takeWhile (· ≠ [])

theorem run_ended (exited : library.exited = true) (calls : List Call) :
    run call library calls = library := by
  induction calls with
  | nil => rfl
  | cons action rest inductionHypothesis =>
      have stays : library.call action = library := by
        simp only [call, exited, if_true]
      rw [run_cons, stays, inductionHypothesis]

theorem run_log (inv : LibraryInv library) (running : library.exited = false)
    (calls : List Call) :
    (run call library calls).log.map Prod.fst = library.log.map Prod.fst ++ attempts calls ∧
      ((run call library calls).exited = true ↔ Call.sendtoErr [] ∈ calls) := by
  induction calls generalizing library with
  | nil => simp [attempts, running]
  | cons action rest inductionHypothesis =>
      have called := call_called inv.noFlips action
      have next := called.inv inv
      rw [run_cons]
      generalize library.call action = later at called next ⊢
      cases called with
      | ended _ exited => cases running.symm.trans exited
      | configured _ silent configured =>
          obtain ⟨log, exits⟩ := inductionHypothesis next (configured.exited.trans running)
          have other : action ≠ .sendtoErr [] := by
            rintro rfl
            cases silent
          have attempts_eq : attempts (action :: rest) = attempts rest := by
            simp only [attempts, List.filterMap_cons_none silent]
          refine ⟨by rw [log, configured.log, attempts_eq], ?_⟩
          rw [exits, List.mem_cons, or_iff_right other.symm]
      | exits =>
          rw [run_ended rfl]
          refine ⟨?_, iff_of_true rfl List.mem_cons_self⟩
          simp only [attempts, List.filterMap_cons, Call.datagram?, List.takeWhile_cons, ne_eq,
            not_true_eq_false, decide_false, Bool.false_eq_true, if_false, List.append_nil]
      | @sends _ datagram nonempty manager wire sends =>
          obtain ⟨log, exits⟩ := inductionHypothesis next running
          refine ⟨?_, ?_⟩
          · rw [log]
            simp only [attempts, List.filterMap_cons, Call.datagram?, List.takeWhile_cons, ne_eq,
              nonempty, not_false_eq_true, decide_true, if_true, List.map_append, List.map_cons,
              List.map_nil, List.append_assoc, List.singleton_append]
          · rw [exits, List.mem_cons, or_iff_right]
            exact fun same => nonempty (Call.sendtoErr.inj same).symm

/-- Whatever the environment and the settings are, every datagram is accounted for: it goes out
as it is, it goes out with one byte complemented and no longer verifies, or it is lost.  The
process ends on the first one that is empty. -/
theorem sent_or_rejected (environment : Environment) (now : Int) (calls : List Call) :
    let library := run call (load environment now) calls
    library.log.map Prod.fst = attempts calls ∧
      (library.exited = true ↔ Call.sendtoErr [] ∈ calls) ∧
      ∀ datagram wire, (datagram, wire) ∈ library.log →
        wire = none ∨ wire = some datagram ∨
          ∃ index damaged, index < datagram.length ∧ damaged = complementByte datagram index ∧
            wire = some damaged ∧ damaged.length = datagram.length ∧ damaged ≠ datagram ∧
            (datagram.length ≤ 65535 → inCksum datagram = 0 → inCksum damaged ≠ 0) := by
  intro library
  have inv : LibraryInv library := run_inv (load_inv environment now) calls
  obtain ⟨log, exits⟩ := run_log (load_inv environment now) rfl calls
  refine ⟨log, exits, fun datagram wire member => ?_⟩
  have passes : Passes datagram wire := inv.passes _ member
  cases passes with
  | lost => exact .inl rfl
  | whole => exact .inr (.inl rfl)
  | flipped isFlipped =>
      have changed := isFlipped
      obtain ⟨index, inside⟩ := isFlipped
      exact .inr (.inr ⟨index, _, inside, rfl, rfl, changed.length_eq, changed.ne,
        changed.rejected⟩)

/-! ### A list of messages to drop -/

structure ListInv (numbers : List Nat) (library : Library) : Prop where
  runs : LibraryInv library
  set : library.settings.errDrop ≠ none
  constant : ∀ msgNo, Drops msgNo library.manager.constant ↔ msgNo ∈ numbers
  chance : ∀ msgNo, ¬Drops msgNo library.manager.chance
  msgNo : library.manager.msgNo = wrap32 library.log.length
  log : ∀ index datagram wire, library.log[index]? = some (datagram, wire) →
    (wire = none ↔ wrap32 (index + 1) ∈ numbers)

variable {numbers : List Nat}

theorem drops_append {first second : List MsgEvent} {msgNo : Nat} :
    Drops msgNo (first ++ second) ↔ Drops msgNo first ∨ Drops msgNo second := by
  simp only [Drops, List.mem_append, or_and_right, exists_or]

theorem Called.list_inv (called : Called library action later) (inv : ListInv numbers library) :
    ListInv numbers later := by
  have next := called.inv inv.runs
  cases called with
  | ended => exact inv
  | configured _ _ configured =>
      obtain ⟨infos, constant, isInfo⟩ := configured.constant
      obtain ⟨events, chance, byChance⟩ := configured.chance
      refine ⟨next, configured.settings ▸ inv.set, fun msgNo => ?_, fun msgNo => ?_, ?_,
        configured.log ▸ inv.log⟩
      · have none : ¬Drops msgNo infos := by
          rintro ⟨dropAll, dropList, member, _⟩
          cases isInfo _ member
        rw [constant, drops_append, or_iff_left none]
        exact inv.constant msgNo
      · rw [chance, drops_append, or_iff_right (inv.chance msgNo)]
        rintro ⟨dropAll, dropList, member, _⟩
        rcases byChance _ member with flips | ⟨_, unset⟩
        · cases flips
        · exact inv.set unset
      · rw [configured.msgNo, configured.log]
        exact inv.msgNo
  | exits => exact ⟨next, inv.set, inv.constant, inv.chance, inv.msgNo, inv.log⟩
  | @sends _ datagram nonempty manager wire sends =>
      have numbered : manager.msgNo = wrap32 (library.log.length + 1) := by
        rw [sends.msgNo, inv.msgNo, wrap32, wrap32, wrap32, Nat.mod_add_mod]
      refine ⟨next, inv.set, ?_, ?_, ?_, ?_⟩
      · rw [sends.constant]
        exact inv.constant
      · rw [sends.chance]
        exact inv.chance
      · simpa using numbered
      · intro index other passed found
        by_cases old : index < library.log.length
        · rw [List.getElem?_append_left old] at found
          exact inv.log index other passed found
        · have last : index = library.log.length := by
            have inside := (List.getElem?_eq_some_iff.mp found).1
            rw [List.length_append, List.length_singleton] at inside
            omega
          subst last
          rw [List.getElem?_concat_length, Option.some.injEq, Prod.mk.injEq] at found
          obtain ⟨rfl, rfl⟩ := found
          rw [← numbered, ← inv.constant]
          exact ⟨fun lost => (sends.lost lost).resolve_right (inv.chance _), sends.listed⟩

theorem load_list_inv {environment : Environment}
    (listed : environment.errDrop = some (commaSeparated numbers)) (nonempty : numbers ≠ [])
    (small : ∀ number ∈ numbers, number < 2 ^ 32) (now : Int) :
    ListInv numbers (load environment now) := by
  have set : (loadEnvData environment).errDrop = some (numbers.map Int.ofNat) := by
    simp only [loadEnvData, listed, Option.map_some]
    rw [parser2ListLong_commaSeparated nonempty fun number member =>
      Nat.lt_trans (small number member) (by decide)]
  have start : ∀ manager : PacketManager, manager.constant = [] → manager.chance = [] →
      manager.msgNo = 0 →
      let later := SettingsManager.loadEnvData_ErrFlip (loadEnvData environment)
        (SettingsManager.loadEnvData_ErrDrop (loadEnvData environment) manager)
      later.constant = [.errorDrop false numbers] ∧ later.msgNo = 0 ∧
        ∀ msgNo, ¬Drops msgNo later.chance := by
    intro manager constant chance msgNo
    simp only [SettingsManager.loadEnvData_ErrDrop, set, parserLong2Uint32_naturals small,
      if_neg nonempty, PacketManager.addMsgEvent_Standard, constant, List.nil_append]
    unfold SettingsManager.loadEnvData_ErrFlip
    cases (loadEnvData environment).errFlip with
    | none =>
        refine ⟨rfl, msgNo, fun number drops => ?_⟩
        simp [Drops, chance] at drops
    | some list =>
        simp only
        split
        · refine ⟨rfl, msgNo, fun number drops => ?_⟩
          simp [Drops, PacketManager.addMsgEvent_Random, chance] at drops
        · refine ⟨rfl, msgNo, fun number drops => ?_⟩
          simp [Drops, chance] at drops
  have seeded : ∀ manager : PacketManager, manager.constant = [] → manager.chance = [] →
      manager.msgNo = 0 →
      let later := SettingsManager.loadEnvData_ErrRate (loadEnvData environment)
        (SettingsManager.loadEnvData_SeedRand (loadEnvData environment) manager)
      later.constant = [] ∧ later.chance = [] ∧ later.msgNo = 0 := by
    intro manager constant chance msgNo
    unfold SettingsManager.loadEnvData_ErrRate SettingsManager.loadEnvData_SeedRand
    cases (loadEnvData environment).errRate <;> cases (loadEnvData environment).seedRand <;>
      exact ⟨constant, chance, msgNo⟩
  obtain ⟨constant, chance, msgNo⟩ := seeded (PacketManager.init now) rfl rfl rfl
  obtain ⟨drops, counted, noDrops⟩ := start _ constant chance msgNo
  refine ⟨load_inv environment now, ?_, fun msgNo => ?_, noDrops, counted,
    fun _ _ _ absent => by cases absent⟩
  · simp only [load, set]
    exact Option.some_ne_none _
  · simp only [load, drops]
    simp [Drops]

/-- With a list of message numbers in CPE464_OVERRIDE_ERR_DROP a process loses just the messages
of these numbers, whatever it asks of the library itself. -/
theorem listed_are_dropped (environment : Environment) (numbers : List Nat) (now : Int)
    (calls : List Call) (listed : environment.errDrop = some (commaSeparated numbers))
    (nonempty : numbers ≠ []) (small : ∀ number ∈ numbers, number < 2 ^ 32) :
    let library := run call (load environment now) calls
    ∀ index datagram wire, library.log[index]? = some (datagram, wire) →
      (wire = none ↔ wrap32 (index + 1) ∈ numbers) :=
  (run_invariant (ListInv numbers)
    (fun _ action inv _ => (call_called inv.runs.noFlips action).list_inv inv)
    (load_list_inv listed nonempty small now) (everyStep_true _ calls)).log

/-- Three messages, with every chance event switched on. -/
def threeSends : List Call :=
  [.sendErr_init 1 true true false 0, .sendtoErr [1, 2, 3, 4, 5, 6, 7],
    .sendtoErr [1, 2, 3, 4, 5, 6, 7], .sendtoErr [7, 6, 5, 4, 3, 2, 1]]

theorem listed_are_dropped_second :
    ∃ datagram, (run call (load ⟨none, none, some ['2'], none⟩ 0) threeSends).log[1]? =
      some (datagram, none) := by
  obtain ⟨⟨datagram, wire⟩, found⟩ := Option.isSome_iff_exists.mp
    (show (run call (load ⟨none, none, some ['2'], none⟩ 0) threeSends).log[1]?.isSome = true by
      decide +kernel)
  have lost := (listed_are_dropped ⟨none, none, some ['2'], none⟩ [2] 0 threeSends rfl (by decide)
    (by decide) 1 datagram wire found).mpr (by decide)
  exact ⟨datagram, lost ▸ found⟩

end Library

end CPE464.Project3
