import ComposeHarness.Text.Digits

/-!
# Signals

The signals of a machine have numbers, and most of them names. What a shell says of a program that
a signal has ended is the wording of the signal.
-/
namespace ComposeHarness.Machine

/-- A signal, by its number. -/
structure Signal where
  number : Nat
  deriving Repr, DecidableEq

namespace Signal

def interrupt : Signal := ⟨2⟩

def quit : Signal := ⟨3⟩

def arithmetic : Signal := ⟨8⟩

def kill : Signal := ⟨9⟩

def brokenPipe : Signal := ⟨13⟩

def terminate : Signal := ⟨15⟩

def child : Signal := ⟨17⟩

/-- How many signals there are, with the one of the number zero that does nothing. -/
def count : Nat := 65

/-- The first signals, each with its name and its wording. -/
def named : List (String × String) :=
  [("EXIT", ""), ("HUP", "Hangup"), ("INT", "Interrupt"), ("QUIT", "Quit"),
    ("ILL", "Illegal instruction"), ("TRAP", "Trace/breakpoint trap"), ("ABRT", "Aborted"),
    ("BUS", "Bus error"), ("FPE", "Floating point exception"), ("KILL", "Killed"),
    ("USR1", "User defined signal 1"), ("SEGV", "Segmentation fault"),
    ("USR2", "User defined signal 2"), ("PIPE", "Broken pipe"), ("ALRM", "Alarm clock"),
    ("TERM", "Terminated"), ("16", "Stack fault"), ("CHLD", "Child exited"), ("CONT", "Continued"),
    ("STOP", "Stopped (signal)"), ("TSTP", "Stopped"), ("TTIN", "Stopped (tty input)"),
    ("TTOU", "Stopped (tty output)"), ("URG", "Urgent I/O condition"),
    ("XCPU", "CPU time limit exceeded"), ("XFSZ", "File size limit exceeded"),
    ("VTALRM", "Virtual timer expired"), ("PROF", "Profiling timer expired"),
    ("WINCH", "Window changed"), ("IO", "I/O possible"), ("PWR", "Power failure"),
    ("SYS", "Bad system call"), ("32", "Unknown signal 32"), ("33", "Unknown signal 33")]

/-- The first and the last of the signals without a meaning of their own. -/
def realTimeBounds : Nat × Nat := (34, 64)

def name (s : Signal) : String :=
  let (low, high) := realTimeBounds
  match named[s.number]? with
  | some (name, _) => name
  | none =>
    if s.number = low then "RTMIN"
    else if s.number = high then "RTMAX"
    else if s.number < 50 then "RTMIN+" ++ toString (s.number - low)
    else "RTMAX-" ++ toString (high - s.number)

def wording (s : Signal) : String :=
  match named[s.number]? with
  | some (_, wording) => wording
  | none => "Real-time signal " ++ toString (s.number - realTimeBounds.1)

def all : List Signal := (List.range count).map Signal.mk

/-- The signal with a number or a name, in letters of any case, from a least number on. -/
def ofName? (least : Nat) (text : String) : Option Signal :=
  match Text.numeral? 10 text.toList with
  | some n => if n < count then some ⟨n⟩ else none
  | none =>
    (all.drop least).find? fun s => String.map Char.toUpper text = name s

/-- Whether a program that takes no care of a signal is not ended by it. -/
def isHarmless (s : Signal) : Bool := [0, 17, 18, 19, 20, 21, 22, 23, 28].contains s.number

example : (ofName? 1 "term").map Signal.number = some 15 ∧ name ⟨49⟩ = "RTMIN+15" ∧
    name ⟨50⟩ = "RTMAX-14" := by decide +kernel

end Signal
end ComposeHarness.Machine
