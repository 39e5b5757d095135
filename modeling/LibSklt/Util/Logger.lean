import LibSklt.Foundation.Printf
import LibSklt.Util.Encoder

/-!
# The logger (`util/logger.h`)

Every function of the logger formats its arguments by `vsprintf_s` into an
array of `kMaxBufferLength` bytes and hands the text in the array on.  As for
`sprintf_s`, a text that does not fit with its terminator ends the program.
The text that is handed on ends at its first zero byte.
-/

namespace LibSklt.Util.Logger

open LibSklt.Foundation.Printf

def kMaxBufferLength : Nat := 1024

/-- The levels of log4cxx that the functions write at. -/
inductive Level where
  | trace
  | info
  | warn
  | error
  | fatal
deriving DecidableEq

/-- What became of a call. -/
inductive Logged where
  | line (level : Level) (text : List UInt8)
  /-- The invalid parameter handler ended the program. -/
  | ended
  | undefined
deriving DecidableEq

/-- The functions of the logger, at their level. -/
def write (level : Level) (text : String) (arguments : List Argument) :
    Logged :=
  match format text arguments with
  | none => .undefined
  | some (formatted, _) =>
      match Encoder.sprintfS kMaxBufferLength formatted with
      | none => .ended
      | some log => .line level (log.takeWhile (· ≠ 0))

/-- `Logger::Trace`. -/
def trace : String → List Argument → Logged :=
  write .trace

/-- `Logger::Debug`; it writes at the level of `Trace`. -/
def debug : String → List Argument → Logged :=
  write .trace

/-- `Logger::Info`. -/
def info : String → List Argument → Logged :=
  write .info

/-- `Logger::Warn`. -/
def warn : String → List Argument → Logged :=
  write .warn

/-- `Logger::Error`. -/
def error : String → List Argument → Logged :=
  write .error

/-- `Logger::Fatal`. -/
def fatal : String → List Argument → Logged :=
  write .fatal

/-- The zeroes behind the text in the array are not part of it. -/
theorem takeWhile_append_zeroes (text : List UInt8) (count : Nat) :
    (text ++ List.replicate count 0).takeWhile (· ≠ 0) =
      text.takeWhile (· ≠ 0) := by
  induction text with
  | nil => cases count <;> simp [List.replicate_succ]
  | cons byte text inductionHypothesis =>
      rw [List.cons_append, List.takeWhile_cons, List.takeWhile_cons,
        inductionHypothesis]

theorem write_of_format
    {text : String} {arguments left : List Argument}
    {formatted : List UInt8}
    (formats : format text arguments = some (formatted, left))
    (level : Level) :
    write level text arguments =
      if formatted.length < kMaxBufferLength then
        .line level (formatted.takeWhile (· ≠ 0))
      else
        .ended := by
  rw [write, formats]
  simp only [Encoder.sprintfS]
  by_cases fits : formatted.length < kMaxBufferLength
  · rw [if_pos fits, if_pos fits]
    simp only [takeWhile_append_zeroes]
  · rw [if_neg fits, if_neg fits]

theorem write_of_undefined
    {text : String} {arguments : List Argument}
    (formats : format text arguments = none) (level : Level) :
    write level text arguments = .undefined := by
  rw [write, formats]

end LibSklt.Util.Logger
