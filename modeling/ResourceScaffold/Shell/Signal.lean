import ResourceScaffold.Shell.Bytes

/-!
Contract: the signals that a process can be sent.

Owns:
- names and numbers of signals;
- what a signal does to a process that takes no care of it.

Does not own: who sends signals.
-/

namespace ResourceScaffold.Shell

/-- The names of signals in order. The first one stands for the end of a shell. -/
def signalNames : List Bytes :=
  ["EXIT", "HUP", "INT", "QUIT", "ILL", "TRAP", "ABRT", "BUS", "FPE", "KILL", "USR1", "SEGV",
    "USR2", "PIPE", "ALRM", "TERM", "16", "CHLD", "CONT", "STOP", "TSTP", "TTIN", "TTOU", "URG",
    "XCPU", "XFSZ", "VTALRM", "PROF", "WINCH", "IO", "PWR", "SYS"].map String.toList

def signalName (number : Nat) : Bytes :=
  (signalNames[number]?).getD (Bytes.ofNat number)

def signalLimit : Nat := 65

/-- The number of the signal that a text names or numbers, in any letter case. -/
def signalOf? (text : Bytes) : Option Nat :=
  if !text.isEmpty && text.all Char.isDigit then
    (String.ofList text).toNat?.filter (· < signalLimit)
  else
    signalNames.findIdx? fun name => name = text.map Char.toUpper

def harmlessSignals : List Nat :=
  [17, 18, 19, 20, 21, 22, 23, 28]

/-- Whether a signal ends a process that takes no care of it. -/
def endsProcess (number : Nat) : Bool :=
  0 < number && !harmlessSignals.contains number

def canBeCaught (number : Nat) : Bool :=
  number != 9 && number != 19

end ResourceScaffold.Shell
