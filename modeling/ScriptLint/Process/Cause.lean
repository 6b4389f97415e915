import ScriptLint.Text.Basic

set_option autoImplicit false

/-!
Causes: why the system refused an operation.

A cause that the system knows by a number is worded with that number behind it. Three are found before
the system is asked: a NUL inside a path or inside an argument, and contents that are not UTF-8 where
a text is needed.
-/

namespace ScriptLint

/-- Why an operation was refused. -/
inductive Cause where
  | notFound
  | argumentsTooLong
  | notExecutable
  | denied
  | taken
  | notDirectory
  | isDirectory
  | noSpace
  | nameTooLong
  | linkLoop
  | nulInPath
  | nulInArgument
  | notUtf8
  deriving DecidableEq, Repr

namespace Cause

/-- A cause in the system's words, with its number. -/
def numbered (words : String) (n : Nat) : Text :=
  words.toList ++ " (os error ".toList ++ Text.ofNat n ++ [')']

/-- The cause in words. -/
def message : Cause → Text
  | notFound => numbered "No such file or directory" 2
  | argumentsTooLong => numbered "Argument list too long" 7
  | notExecutable => numbered "Exec format error" 8
  | denied => numbered "Permission denied" 13
  | taken => numbered "File exists" 17
  | notDirectory => numbered "Not a directory" 20
  | isDirectory => numbered "Is a directory" 21
  | noSpace => numbered "No space left on device" 28
  | nameTooLong => numbered "File name too long" 36
  | linkLoop => numbered "Too many levels of symbolic links" 40
  | nulInPath => "file name contained an unexpected NUL byte".toList
  | nulInArgument => "nul byte found in provided data".toList
  | notUtf8 => "stream did not contain valid UTF-8".toList

end Cause

end ScriptLint
