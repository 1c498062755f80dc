/-!
Reasons why a file or a program cannot be used, and how messages tell of them.
-/

namespace PolicyGate

inductive AccessFault where
  | missing
  | denied
  | notDirectory
  | isDirectory
  | notUtf8
  | nulByte
  deriving DecidableEq

def AccessFault.message : AccessFault → String
  | .missing => "No such file or directory (os error 2)"
  | .denied => "Permission denied (os error 13)"
  | .notDirectory => "Not a directory (os error 20)"
  | .isDirectory => "Is a directory (os error 21)"
  | .notUtf8 => "stream did not contain valid UTF-8"
  | .nulByte => "nul byte found in provided data"

end PolicyGate
