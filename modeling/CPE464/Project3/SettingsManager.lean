/-
The settings of the error library: SettingsManager.cpp, and `sendErr_init` and `forkMod` of
network-hooks.c.

An environment variable takes precedence over the settings of the program.  A list of message
numbers drops just these messages; a list without one makes the error a chance event.  The
number that `strtof` reads in CPE464_OVERRIDE_ERR_RATE is taken as it is, and the variables for
the port and for the output are left out.
-/

import CPE464.General.GuardedRun
import CPE464.Project3.PacketManager

namespace CPE464.Project3

open General

/-! ### The environment -/

/-- The variables that are set, by the ends of their names. -/
structure Environment where
  seedRand : Option (List Char)
  errRate : Option Rat
  errDrop : Option (List Char)
  errFlip : Option (List Char)

def isSpace (c : Char) : Bool :=
  c = ' ' || '\t' ≤ c && c ≤ '\r'

def digitsValue (digits : List Char) : Nat :=
  digits.foldl (fun value digit => 10 * value + (digit.toNat - '0'.toNat)) 0

/-- `strtol` with base 10 and a `long` of 64 bits, or nothing if it converts nothing. -/
def strtol (str : List Char) : Option Int :=
  let text := str.dropWhile isSpace
  let negative := text.head? = some '-'
  let text := if negative ∨ text.head? = some '+' then text.tail else text
  let digits := text.takeWhile Char.isDigit
  if digits = [] then none
  else
    let value : Int := if negative then -digitsValue digits else digitsValue digits
    some (max (-2 ^ 63) (min value (2 ^ 63 - 1)))

def tokens (str : List Char) : List (List Char) :=
  (str.splitOn ',').filter (· ≠ [])

/-- `parser2ListLong` stops at the first token that is no number. -/
def parser2ListLong (str : List Char) : List Int :=
  (((tokens str).map strtol).takeWhile Option.isSome).reduceOption

def parserLong2Uint32 (list : List Int) : List Nat :=
  (list.filter (0 ≤ ·)).map fun value => wrap32 value.toNat

/-- `m_EnvData`.  A list is set whatever the text is. -/
structure SettingsManager where
  seedRand : Option Int
  errRate : Option Rat
  errDrop : Option (List Int)
  errFlip : Option (List Int)

def loadEnvData (environment : Environment) : SettingsManager where
  seedRand := environment.seedRand.bind strtol
  errRate := environment.errRate
  errDrop := environment.errDrop.map parser2ListLong
  errFlip := environment.errFlip.map parser2ListLong

/-! ### The library of one process -/

/-- The static objects of the library, whether a send has ended the process, and what has come of
the datagrams sent. -/
structure Library where
  manager : PacketManager
  settings : SettingsManager
  nextSeed : Int
  exited : Bool
  log : List (Datagram × Option Datagram)

namespace PacketManager

def setRandSeed (manager : PacketManager) (seed : Int) : PacketManager :=
  { manager with generator := srand48 seed }

def setErrorRate (manager : PacketManager) (rate : Rat) : PacketManager :=
  { manager with errorRate := rate }

def addMsgEvent_Standard (manager : PacketManager) (event : MsgEvent) : PacketManager :=
  { manager with constant := manager.constant ++ [event] }

def addMsgEvent_Random (manager : PacketManager) (event : MsgEvent) : PacketManager :=
  { manager with chance := manager.chance ++ [event] }

end PacketManager

namespace SettingsManager

def loadEnvData_SeedRand (settings : SettingsManager) (manager : PacketManager) :
    PacketManager :=
  match settings.seedRand with
  | some seed => manager.setRandSeed seed
  | none => manager

def loadEnvData_ErrRate (settings : SettingsManager) (manager : PacketManager) :
    PacketManager :=
  match settings.errRate with
  | some rate => manager.setErrorRate rate
  | none => manager

def loadEnvData_ErrDrop (settings : SettingsManager) (manager : PacketManager) :
    PacketManager :=
  match settings.errDrop with
  | some list =>
      let dropList := parserLong2Uint32 list
      if dropList = [] then manager.addMsgEvent_Random (.errorDrop true [])
      else manager.addMsgEvent_Standard (.errorDrop false dropList)
  | none => manager

/-- A list of messages to flip is not implemented. -/
def loadEnvData_ErrFlip (settings : SettingsManager) (manager : PacketManager) :
    PacketManager :=
  match settings.errFlip with
  | some list =>
      if parserLong2Uint32 list = [] then manager.addMsgEvent_Random .errorFlipBits else manager
  | none => manager

def setUserMode_SeedRand (settings : SettingsManager) (manager : PacketManager) (seed : Int) :
    PacketManager :=
  if settings.seedRand.isSome then manager else manager.setRandSeed seed

def setUserMode_ErrRate (settings : SettingsManager) (manager : PacketManager) (rate : Rat) :
    PacketManager :=
  if settings.errRate.isSome then manager else manager.setErrorRate rate

def setUserMode_ErrDrop (settings : SettingsManager) (manager : PacketManager)
    (isEnabled : Bool) : PacketManager :=
  if settings.errDrop.isSome then manager
  else if isEnabled then manager.addMsgEvent_Random (.errorDrop true []) else manager

def setUserMode_ErrFlip (settings : SettingsManager) (manager : PacketManager)
    (isEnabled : Bool) : PacketManager :=
  if settings.errFlip.isSome then manager
  else if isEnabled then manager.addMsgEvent_Random .errorFlipBits else manager

end SettingsManager

namespace Library

/-- The constructors of the static objects, which run before `main`. -/
def load (environment : Environment) (now : Int) : Library :=
  let settings := loadEnvData environment
  let manager := settings.loadEnvData_SeedRand (PacketManager.init now)
  let manager := settings.loadEnvData_ErrRate manager
  let manager := settings.loadEnvData_ErrDrop manager
  let manager := settings.loadEnvData_ErrFlip manager
  { manager, settings, nextSeed := 10, exited := false, log := [] }

def sendErr_init (library : Library) (errorRate : Rat) (dropFlag flipFlag randomFlag : Bool)
    (now : Int) : Library :=
  let settings := library.settings
  let manager := library.manager.addMsgEvent_Standard .infoSeqNo
  let manager := settings.setUserMode_ErrRate manager errorRate
  let manager := settings.setUserMode_ErrDrop manager dropFlag
  let manager := settings.setUserMode_ErrFlip manager flipFlag
  let seed := if randomFlag then now else library.nextSeed
  { library with
    manager := settings.setUserMode_SeedRand manager seed
    nextSeed := if randomFlag then now else library.nextSeed + 1 }

def forkMod (library : Library) (isChild : Bool) : Library :=
  { library with
    manager :=
      if isChild then library.settings.setUserMode_SeedRand library.manager library.nextSeed
      else library.manager
    nextSeed := library.nextSeed + 1 }

def sendtoErr (library : Library) (datagram : Datagram) : Library :=
  match library.manager.sendto_Err datagram with
  | none => { library with exited := true }
  | some (manager, wire, _) =>
      { library with manager, log := library.log ++ [(datagram, wire)] }

/-- What a process may do with its library, in any order. -/
inductive Call where
  | sendErr_init (errorRate : Rat) (dropFlag flipFlag randomFlag : Bool) (now : Int)
  | forkMod (isChild : Bool)
  | sendtoErr (datagram : Datagram)

def call (library : Library) (action : Call) : Library :=
  if library.exited then library
  else
    match action with
    | .sendErr_init errorRate dropFlag flipFlag randomFlag now =>
        library.sendErr_init errorRate dropFlag flipFlag randomFlag now
    | .forkMod isChild => library.forkMod isChild
    | .sendtoErr datagram => library.sendtoErr datagram

end Library

end CPE464.Project3
