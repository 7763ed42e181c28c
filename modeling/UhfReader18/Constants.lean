import Mathlib.Data.Int.Bitwise
import UhfReader18.Python

/-!
# Protocol constants and enums

`constants.py`. Each `IntEnum` is an inductive type with its codes; an `IntFlag` is
the set of bits it carries, unnamed bits included, since Python builds those too.
`PyValue` is an argument as an untyped caller may pass it.
-/

namespace UhfReader18

/-! ## Command and status codes -/

/-- Command bytes. -/
inductive Command
  | tagReport
  | inventory
  | readData
  | writeData
  | writeEpc
  | killTag
  | lock
  | blockErase
  | readProtect
  | readProtectWithoutEpc
  | resetReadProtect
  | checkReadProtect
  | easAlarm
  | checkEasAlarm
  | blockLock
  | inventorySingle
  | blockWrite
  | inventorySignal6b
  | inventoryMultiple6b
  | readData6b
  | writeData6b
  | checkLock6b
  | lock6b
  | getReaderInfo
  | setRegion
  | setAddress
  | setScanTime
  | setBaudRate
  | setPower
  | acoustoOpticControl
  | setWiegand
  | setWorkMode
  | getWorkMode
  | setEasAccuracy
  | syrisResponseOffset
  | triggerOffset
  deriving DecidableEq, Repr

def Command.members : List Command :=
  [tagReport, inventory, readData, writeData, writeEpc, killTag, lock, blockErase, readProtect,
   readProtectWithoutEpc, resetReadProtect, checkReadProtect, easAlarm, checkEasAlarm, blockLock,
   inventorySingle, blockWrite, inventorySignal6b, inventoryMultiple6b, readData6b, writeData6b,
   checkLock6b, lock6b, getReaderInfo, setRegion, setAddress, setScanTime, setBaudRate, setPower,
   acoustoOpticControl, setWiegand, setWorkMode, getWorkMode, setEasAccuracy,
   syrisResponseOffset, triggerOffset]

def Command.value : Command → ℤ
  | tagReport => 0xEE
  | inventory => 0x01
  | readData => 0x02
  | writeData => 0x03
  | writeEpc => 0x04
  | killTag => 0x05
  | lock => 0x06
  | blockErase => 0x07
  | readProtect => 0x08
  | readProtectWithoutEpc => 0x09
  | resetReadProtect => 0x0A
  | checkReadProtect => 0x0B
  | easAlarm => 0x0C
  | checkEasAlarm => 0x0D
  | blockLock => 0x0E
  | inventorySingle => 0x0F
  | blockWrite => 0x10
  | inventorySignal6b => 0x50
  | inventoryMultiple6b => 0x51
  | readData6b => 0x52
  | writeData6b => 0x53
  | checkLock6b => 0x54
  | lock6b => 0x55
  | getReaderInfo => 0x21
  | setRegion => 0x22
  | setAddress => 0x24
  | setScanTime => 0x25
  | setBaudRate => 0x28
  | setPower => 0x2F
  | acoustoOpticControl => 0x33
  | setWiegand => 0x34
  | setWorkMode => 0x35
  | getWorkMode => 0x36
  | setEasAccuracy => 0x37
  | syrisResponseOffset => 0x38
  | triggerOffset => 0x3B

def Command.name : Command → String
  | tagReport => "TAG_REPORT"
  | inventory => "INVENTORY"
  | readData => "READ_DATA"
  | writeData => "WRITE_DATA"
  | writeEpc => "WRITE_EPC"
  | killTag => "KILL_TAG"
  | lock => "LOCK"
  | blockErase => "BLOCK_ERASE"
  | readProtect => "READ_PROTECT"
  | readProtectWithoutEpc => "READ_PROTECT_WITHOUT_EPC"
  | resetReadProtect => "RESET_READ_PROTECT"
  | checkReadProtect => "CHECK_READ_PROTECT"
  | easAlarm => "EAS_ALARM"
  | checkEasAlarm => "CHECK_EAS_ALARM"
  | blockLock => "BLOCK_LOCK"
  | inventorySingle => "INVENTORY_SINGLE"
  | blockWrite => "BLOCK_WRITE"
  | inventorySignal6b => "INVENTORY_SIGNAL_6B"
  | inventoryMultiple6b => "INVENTORY_MULTIPLE_6B"
  | readData6b => "READ_DATA_6B"
  | writeData6b => "WRITE_DATA_6B"
  | checkLock6b => "CHECK_LOCK_6B"
  | lock6b => "LOCK_6B"
  | getReaderInfo => "GET_READER_INFO"
  | setRegion => "SET_REGION"
  | setAddress => "SET_ADDRESS"
  | setScanTime => "SET_SCAN_TIME"
  | setBaudRate => "SET_BAUD_RATE"
  | setPower => "SET_POWER"
  | acoustoOpticControl => "ACOUSTO_OPTIC_CONTROL"
  | setWiegand => "SET_WIEGAND"
  | setWorkMode => "SET_WORK_MODE"
  | getWorkMode => "GET_WORK_MODE"
  | setEasAccuracy => "SET_EAS_ACCURACY"
  | syrisResponseOffset => "SYRIS_RESPONSE_OFFSET"
  | triggerOffset => "TRIGGER_OFFSET"

/-- A command byte is a byte, and never the 0 an unreadable command is answered
with. -/
theorem Command.value_bounds (c : Command) : 1 ≤ c.value ∧ c.value ≤ 255 := by
  cases c <;> decide

/-- Response status bytes. -/
inductive Status
  | success
  | inventoryDonePartial
  | inventoryTimeout
  | inventoryMoreData
  | readerModuleFull
  | accessPasswordError
  | killTagError
  | killPasswordZero
  | tagNotSupportCommand
  | accessPasswordCantBeZero
  | tagAlreadyProtected
  | tagNotProtected
  | writeFailLockedBytes6b
  | lockFail6b
  | alreadyLocked6b
  | saveFail
  | cannotAdjustPower
  | inventoryDonePartial6b
  | inventoryTimeout6b
  | inventoryMoreData6b
  | readerModuleFull6b
  | notSupportOrAccessPwd
  | commandExecuteError
  | poorCommunication
  | noTag
  | tagReturnErrorCode
  | commandLengthWrong
  | illegalCommandOrCrcError
  | parameterError
  deriving DecidableEq, Repr

def Status.members : List Status :=
  [success, inventoryDonePartial, inventoryTimeout, inventoryMoreData, readerModuleFull,
   accessPasswordError, killTagError, killPasswordZero, tagNotSupportCommand,
   accessPasswordCantBeZero, tagAlreadyProtected, tagNotProtected, writeFailLockedBytes6b,
   lockFail6b, alreadyLocked6b, saveFail, cannotAdjustPower, inventoryDonePartial6b,
   inventoryTimeout6b, inventoryMoreData6b, readerModuleFull6b, notSupportOrAccessPwd,
   commandExecuteError, poorCommunication, noTag, tagReturnErrorCode, commandLengthWrong,
   illegalCommandOrCrcError, parameterError]

def Status.value : Status → ℤ
  | success => 0x00
  | inventoryDonePartial => 0x01
  | inventoryTimeout => 0x02
  | inventoryMoreData => 0x03
  | readerModuleFull => 0x04
  | accessPasswordError => 0x05
  | killTagError => 0x09
  | killPasswordZero => 0x0A
  | tagNotSupportCommand => 0x0B
  | accessPasswordCantBeZero => 0x0C
  | tagAlreadyProtected => 0x0D
  | tagNotProtected => 0x0E
  | writeFailLockedBytes6b => 0x10
  | lockFail6b => 0x11
  | alreadyLocked6b => 0x12
  | saveFail => 0x13
  | cannotAdjustPower => 0x14
  | inventoryDonePartial6b => 0x15
  | inventoryTimeout6b => 0x16
  | inventoryMoreData6b => 0x17
  | readerModuleFull6b => 0x18
  | notSupportOrAccessPwd => 0x19
  | commandExecuteError => 0xF9
  | poorCommunication => 0xFA
  | noTag => 0xFB
  | tagReturnErrorCode => 0xFC
  | commandLengthWrong => 0xFD
  | illegalCommandOrCrcError => 0xFE
  | parameterError => 0xFF

def Status.name : Status → String
  | success => "SUCCESS"
  | inventoryDonePartial => "INVENTORY_DONE_PARTIAL"
  | inventoryTimeout => "INVENTORY_TIMEOUT"
  | inventoryMoreData => "INVENTORY_MORE_DATA"
  | readerModuleFull => "READER_MODULE_FULL"
  | accessPasswordError => "ACCESS_PASSWORD_ERROR"
  | killTagError => "KILL_TAG_ERROR"
  | killPasswordZero => "KILL_PASSWORD_ZERO"
  | tagNotSupportCommand => "TAG_NOT_SUPPORT_COMMAND"
  | accessPasswordCantBeZero => "ACCESS_PASSWORD_CANT_BE_ZERO"
  | tagAlreadyProtected => "TAG_ALREADY_PROTECTED"
  | tagNotProtected => "TAG_NOT_PROTECTED"
  | writeFailLockedBytes6b => "WRITE_FAIL_LOCKED_BYTES_6B"
  | lockFail6b => "LOCK_FAIL_6B"
  | alreadyLocked6b => "ALREADY_LOCKED_6B"
  | saveFail => "SAVE_FAIL"
  | cannotAdjustPower => "CANNOT_ADJUST_POWER"
  | inventoryDonePartial6b => "INVENTORY_DONE_PARTIAL_6B"
  | inventoryTimeout6b => "INVENTORY_TIMEOUT_6B"
  | inventoryMoreData6b => "INVENTORY_MORE_DATA_6B"
  | readerModuleFull6b => "READER_MODULE_FULL_6B"
  | notSupportOrAccessPwd => "NOT_SUPPORT_OR_ACCESS_PWD"
  | commandExecuteError => "COMMAND_EXECUTE_ERROR"
  | poorCommunication => "POOR_COMMUNICATION"
  | noTag => "NO_TAG"
  | tagReturnErrorCode => "TAG_RETURN_ERROR_CODE"
  | commandLengthWrong => "COMMAND_LENGTH_WRONG"
  | illegalCommandOrCrcError => "ILLEGAL_COMMAND_OR_CRC_ERROR"
  | parameterError => "PARAMETER_ERROR"

/-! ## Enums of parameters -/

/-- `_enum_or_none`: the member with a received code, if there is one. -/
def enumOrNone {α : Type} (members : List α) (value : α → ℤ) (code : ℤ) : Option α :=
  members.find? fun member => value member = code

/-- Calling an enum class with a code. -/
def enumOf {α : Type} (kind : String) (members : List α) (value : α → ℤ) (code : ℤ) :
    Except PyError α :=
  match enumOrNone members value code with
  | some member => .ok member
  | none => .error ⟨.valueError, s!"{code} is not a valid {kind}"⟩

/-- A code is decoded to its member where no two members share one. -/
theorem enumOrNone_value {α : Type} {members : List α} {value : α → ℤ}
    (hinj : Function.Injective value) {member : α} (h : member ∈ members) :
    enumOrNone members value (value member) = some member := by
  unfold enumOrNone
  cases hfind : members.find? fun m => value m = value member with
  | none =>
    rw [List.find?_eq_none] at hfind
    exact absurd (decide_eq_true rfl) (hfind member h)
  | some found =>
    have hvalue := List.find?_some hfind
    rw [decide_eq_true_iff] at hvalue
    rw [hinj hvalue]

theorem enumOrNone_eq_some {α : Type} {members : List α} {value : α → ℤ} {code : ℤ} {member : α}
    (h : enumOrNone members value code = some member) : member ∈ members ∧ value member = code := by
  have hvalue := List.find?_some h
  exact ⟨List.mem_of_find?_eq_some h, of_decide_eq_true hvalue⟩

theorem Command.decode_value (c : Command) :
    enumOrNone Command.members Command.value c.value = some c := by
  cases c <;> decide

/-- Reader model. -/
inductive ReaderType
  | uhfReader18
  deriving DecidableEq, Repr

def ReaderType.members : List ReaderType := [uhfReader18]

def ReaderType.value : ReaderType → ℤ
  | uhfReader18 => 0x09

/-- Frequency band. -/
inductive FreqBand
  | user
  | chinese2
  | us
  | korean
  deriving DecidableEq, Repr

def FreqBand.members : List FreqBand := [user, chinese2, us, korean]

def FreqBand.value : FreqBand → ℤ
  | user => 0b00
  | chinese2 => 0b01
  | us => 0b10
  | korean => 0b11

/-- Highest valid channel index of a band. -/
def FreqBand.maxIndex : FreqBand → ℤ
  | user => 62
  | chinese2 => 19
  | us => 49
  | korean => 31

/-- The band is split over the two top bits of both bytes. -/
def FreqBand.pack (self : FreqBand) (maxIndex minIndex : ℤ) : Except PyError Bytes :=
  let hi := self.value >>> 2
  let lo := Int.land self.value 0b11
  bytesOf [Int.lor (hi <<< 6) maxIndex, Int.lor (lo <<< 6) minIndex]

def FreqBand.unpack (maxFre minFre : ℤ) : Option FreqBand × ℤ × ℤ :=
  let code := Int.lor ((maxFre >>> 6) <<< 2) (minFre >>> 6)
  (enumOrNone members value code, Int.land maxFre 0b111111, Int.land minFre 0b111111)

/-- Reader work mode. -/
inductive WorkMode
  | answer
  | scan
  | triggerLow
  | triggerHigh
  deriving DecidableEq, Repr

def WorkMode.members : List WorkMode := [answer, scan, triggerLow, triggerHigh]

def WorkMode.value : WorkMode → ℤ
  | answer => 0b00
  | scan => 0b01
  | triggerLow => 0b10
  | triggerHigh => 0b11

/-- Serial baud rate of the reader. -/
inductive ReaderBaudRate
  | baud9600
  | baud19200
  | baud38400
  | baud57600
  | baud115200
  deriving DecidableEq, Repr

def ReaderBaudRate.value : ReaderBaudRate → ℤ
  | baud9600 => 0
  | baud19200 => 1
  | baud38400 => 2
  | baud57600 => 5
  | baud115200 => 6

/-- Memory or inventory target of scan and trigger mode. -/
inductive MemInven
  | password
  | epc
  | tid
  | user
  | inventoryMultiple
  | inventorySingle
  | easAlarm
  deriving DecidableEq, Repr

def MemInven.members : List MemInven :=
  [password, epc, tid, user, inventoryMultiple, inventorySingle, easAlarm]

def MemInven.value : MemInven → ℤ
  | password => 0x00
  | epc => 0x01
  | tid => 0x02
  | user => 0x03
  | inventoryMultiple => 0x04
  | inventorySingle => 0x05
  | easAlarm => 0x06

theorem FreqBand.value_injective : Function.Injective FreqBand.value := by
  intro a b h
  cases a <;> cases b <;> first | rfl | exact absurd h (by decide)

theorem FreqBand.mem_members (b : FreqBand) : b ∈ members := by
  cases b <;> decide

theorem WorkMode.value_injective : Function.Injective WorkMode.value := by
  intro a b h
  cases a <;> cases b <;> first | rfl | exact absurd h (by decide)

theorem WorkMode.mem_members (m : WorkMode) : m ∈ members := by
  cases m <;> decide

theorem MemInven.value_injective : Function.Injective MemInven.value := by
  intro a b h
  cases a <;> cases b <;> first | rfl | exact absurd h (by decide)

theorem MemInven.mem_members (m : MemInven) : m ∈ members := by
  cases m <;> decide

/-! ## Flags -/

/-- Air-interface protocol flags. -/
structure Protocol where
  value : ℕ
  deriving DecidableEq, Repr

/-- Wiegand output flags. -/
structure WiegandFormat where
  value : ℕ
  deriving DecidableEq, Repr

/-- Work-mode state flags. -/
structure ModeState where
  value : ℕ
  deriving DecidableEq, Repr

def Protocol.mask : ℕ := 0b11

def WiegandFormat.mask : ℕ := 0b11

def ModeState.mask : ℕ := 0b11111

def ModeState.syris485 : ℕ := 0b10000

/-- `ModeState.SYRIS_485 in state`. -/
def ModeState.hasSyris485 (self : ModeState) : Bool :=
  self.value &&& syris485 = syris485

/-! ## Arguments of an untyped caller -/

/-- An instance of one of the enum classes. `otherInt` stands for an instance of any
other subclass of `int`. -/
inductive Member
  | command (c : Command)
  | freqBand (b : FreqBand)
  | workMode (m : WorkMode)
  | memInven (m : MemInven)
  | readerBaudRate (r : ReaderBaudRate)
  | wiegandFormat (f : WiegandFormat)
  | modeState (s : ModeState)
  | otherInt (n : ℤ)
  deriving DecidableEq, Repr

/-- A Python object as the checks on arguments see it. What Python prints for an enum
member differs between its versions, so it comes with the object. -/
inductive PyValue
  | int (n : ℤ)
  | bool (b : Bool)
  | member (m : Member) (str repr : String)
  | other (str repr : String)
  deriving DecidableEq, Repr

def Member.value : Member → ℤ
  | command c => c.value
  | freqBand b => b.value
  | workMode m => m.value
  | memInven m => m.value
  | readerBaudRate r => r.value
  | wiegandFormat f => f.value
  | modeState s => s.value
  | otherInt n => n

/-- The object of a command; nothing prints it. -/
def Command.object (c : Command) : PyValue := .member (.command c) "" ""

namespace PyValue

/-- The number an instance of `int` that is no `bool` stands for. -/
def int? : PyValue → Option ℤ
  | int n => some n
  | member m _ _ => some m.value
  | _ => none

def command? : PyValue → Option Command
  | member (.command c) _ _ => some c
  | _ => none

def freqBand? : PyValue → Option FreqBand
  | member (.freqBand b) _ _ => some b
  | _ => none

def workMode? : PyValue → Option WorkMode
  | member (.workMode m) _ _ => some m
  | _ => none

def memInven? : PyValue → Option MemInven
  | member (.memInven m) _ _ => some m
  | _ => none

def readerBaudRate? : PyValue → Option ReaderBaudRate
  | member (.readerBaudRate r) _ _ => some r
  | _ => none

def wiegandFormat? : PyValue → Option WiegandFormat
  | member (.wiegandFormat f) _ _ => some f
  | _ => none

def modeState? : PyValue → Option ModeState
  | member (.modeState s) _ _ => some s
  | _ => none

/-- What Python prints for an object in a text. -/
def str : PyValue → String
  | int n => toString n
  | bool b => if b then "True" else "False"
  | member _ str _ => str
  | other str _ => str

/-- What Python prints for an object with `!r`. -/
def repr : PyValue → String
  | int n => toString n
  | bool b => if b then "True" else "False"
  | member _ _ repr => repr
  | other _ repr => repr

end PyValue

end UhfReader18
