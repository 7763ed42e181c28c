import UhfReader18.Text

/-!
# Constants of the network module

`hwvx/constants.py`: the module that bridges the serial port of a reader onto the network.
Six settings are one of a few numbered options. A member of such an enum carries the proof
that its class lists it, so that a number outside the class is no member.

Results:
1. `EnumClass.find_value`: a member is found by its number.
-/

namespace UhfReader18.Hwvx

def udpPort : ℕ := 65535

/-- The seconds a receive waits. -/
def recvTimeout : ℕ := 1

/-- The size of the buffer a datagram is received into. -/
def recvBuffer : ℕ := 1024

/-- The `IntEnum` classes. -/
inductive EnumClass
  | netProtocol
  | netWorkMode
  | baudRate
  | parity
  | dataBits
  | toggle
  deriving DecidableEq, Repr

namespace EnumClass

def name : EnumClass → String
  | netProtocol => "NetProtocol"
  | netWorkMode => "NetWorkMode"
  | baudRate => "BaudRate"
  | parity => "Parity"
  | dataBits => "DataBits"
  | toggle => "Toggle"

/-- The names and numbers of the members, in order. -/
def members : EnumClass → List (String × ℤ)
  | netProtocol => [("UDP", 0), ("TCP", 1)]
  | netWorkMode => [("SERVER", 0), ("CLIENT", 1)]
  | baudRate =>
    [("BAUD_1200", 0), ("BAUD_2400", 1), ("BAUD_4800", 2), ("BAUD_9600", 3), ("BAUD_19200", 4),
     ("BAUD_38400", 5), ("BAUD_57600", 6), ("BAUD_115200", 7)]
  | parity => [("NONE", 0), ("EVEN", 1), ("ODD", 2), ("MARK", 3), ("SPACE", 4)]
  | dataBits => [("SEVEN", 0), ("EIGHT", 1)]
  | toggle => [("DISABLED", 0), ("ENABLED", 1)]

end EnumClass

/-- A member of one of the classes. -/
structure EnumMember where
  cls : EnumClass
  name : String
  value : ℤ
  mem : (name, value) ∈ cls.members
  deriving DecidableEq, Repr

namespace EnumClass

/-- `cls(number)`; `none` where it raises `ValueError`. -/
def find (cls : EnumClass) (number : ℤ) : Option EnumMember :=
  (cls.members.attach.find? fun member => member.1.2 = number).map fun member =>
    ⟨cls, member.1.1, member.1.2, member.2⟩

/-- The members of a class have different numbers. -/
theorem eq_of_value (cls : EnumClass) :
    ∀ m ∈ cls.members, ∀ m' ∈ cls.members, m.2 = m'.2 → m = m' := by
  cases cls <;> decide

/-- A member is found by its number. -/
theorem find_value (m : EnumMember) : m.cls.find m.value = some m := by
  unfold find
  cases hfind : m.cls.members.attach.find? fun member => member.1.2 = m.value with
  | none =>
    have hnone := List.find?_eq_none.mp hfind ⟨(m.name, m.value), m.mem⟩ (List.mem_attach _ _)
    simp at hnone
  | some member =>
    have hvalue := List.find?_some hfind
    have hsame : member.1 = (m.name, m.value) :=
      m.cls.eq_of_value _ member.2 _ m.mem (of_decide_eq_true hvalue)
    obtain ⟨⟨name, value⟩, hmem⟩ := member
    cases hsame
    rfl

end EnumClass

end UhfReader18.Hwvx
