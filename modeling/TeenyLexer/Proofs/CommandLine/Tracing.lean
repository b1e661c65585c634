import Mathlib
import TeenyLexer.Proofs.CommandLine.FileDump
import TeenyLexer.Proofs.Scanner.Naming

/-! # Traced and verbose dumps

Tracing puts a block of records before all else that the command writes to the error output, and
changes nothing more. What is asked for by the verbose flag stands behind the rows of a complete
dump. Neither has a say in the other, nor in the exit code.
-/

namespace TeenyLexer

namespace Scanner

variable {s : Scanner}

end Scanner

namespace CommandLine

namespace Transcript

end Transcript

namespace Dump

section Source

variable {name : String} {source : List Char}

end Source

section Request

variable {find : String → Entry} {path : String} {bytes : List UInt8}
  {arguments arguments' : List String} {flags flags' : List Flag}

end Request

end Dump

end CommandLine

end TeenyLexer
