import ScriptLint.Text.Basic

set_option autoImplicit false

/-!
How a child process ended, as the system reports it.

The system packs the answer into a 32-bit word. The low seven bits hold the signal that ended the
process, 0 if it exited by itself and 127 if it has only been stopped; bit 7 says that the memory image
was written; the next eight bits hold the exit code or the stopping signal. One word of its own says
that the process was continued. Only the word 0 is a success.
-/

namespace ScriptLint

/-- The word that the system reports when a child process changes state. -/
structure WaitStatus where
  word : UInt32
  deriving DecidableEq, Repr

namespace WaitStatus

/-- The signal bits. -/
def low (s : WaitStatus) : Nat := s.word.toNat % 128

/-- The bits of the exit code or of the stopping signal. -/
def high (s : WaitStatus) : Nat := s.word.toNat / 256 % 256

/-- A process that exited with a code. -/
def exited (code : UInt8) : WaitStatus := ⟨UInt32.ofNat (256 * code.toNat)⟩

/-- A process that a signal ended. -/
def signalled (signal : Nat) : WaitStatus := ⟨UInt32.ofNat (signal % 128)⟩

/-- Whether the process exited by itself with code 0. -/
def success (s : WaitStatus) : Bool := s.word == 0

/-- The exit code, if the process exited by itself. -/
def code? (s : WaitStatus) : Option Nat := if s.low = 0 then some s.high else none

/-- The signal that ended the process, if one did. -/
def signal? (s : WaitStatus) : Option Nat :=
  if s.low ≠ 0 ∧ s.low ≠ 127 then some s.low else none

/-- Whether the memory image was written when a signal ended the process. -/
def dumped (s : WaitStatus) : Bool := s.word.toNat / 128 % 2 == 1

/-- The signal that stopped the process, if it has only been stopped. -/
def stopping? (s : WaitStatus) : Option Nat :=
  if s.word.toNat % 256 = 0x7F then some s.high else none

/-- Whether the process was continued. -/
def continued (s : WaitStatus) : Bool := s.word == 0xFFFF

/-! ## In words -/

/-- The names of the signals from 1 on. -/
def signalNames : List String :=
  ["HUP", "INT", "QUIT", "ILL", "TRAP", "ABRT", "BUS", "FPE", "KILL", "USR1", "SEGV", "USR2",
   "PIPE", "ALRM", "TERM", "STKFLT", "CHLD", "CONT", "STOP", "TSTP", "TTIN", "TTOU", "URG",
   "XCPU", "XFSZ", "VTALRM", "PROF", "WINCH", "IO", "PWR", "SYS"]

/-- A signal by its number, and by its name if it has one. -/
def signalText (n : Nat) : Text :=
  Text.ofNat n ++
    match n with
    | 0 => []
    | k + 1 =>
        match signalNames[k]? with
        | some name => " (SIG".toList ++ name.toList ++ [')']
        | none => []

/-- The status in words. A word of no known form is given in decimal, as a signed number, and in
hexadecimal digits. -/
def text (s : WaitStatus) : Text :=
  match s.code?, s.signal?, s.stopping? with
  | some code, _, _ => "exit status: ".toList ++ Text.ofNat code
  | none, some n, _ =>
      "signal: ".toList ++ signalText n ++ (if s.dumped then " (core dumped)".toList else [])
  | none, none, some n => "stopped (not terminated) by signal: ".toList ++ signalText n
  | none, none, none =>
      if s.continued then "continued (WIFCONTINUED)".toList
      else
        "unrecognised wait status: ".toList ++ (toString s.word.toInt32.toInt).toList ++ " 0x".toList
          ++ Nat.toDigits 16 s.word.toNat

end WaitStatus

end ScriptLint
