import TeenyLexer.Diagnostic.Basic
import TeenyLexer.Token.Basic

/-! # Log records

A scanner records that it was opened, each word that it cannot read and, when tracing is
on, each token that it delivers.
-/

namespace TeenyLexer

inductive Record
  | opened (filename : String) (characters : Nat)
  | delivered (filename : String) (token : Token)
  | failed (fault : Fault) (location : Location)

namespace Record

def message : Record → String
  | opened filename characters =>
    "Scanning " ++ filename ++ " (" ++ toString characters ++ " characters)"
  | delivered filename token => filename ++ ": " ++ token.text
  | failed fault location =>
    "Lexical error (" ++ fault.name ++ ") at " ++ location.text ++ ": " ++ fault.description

def line (r : Record) : String :=
  "DEBUG: " ++ r.message

end Record

end TeenyLexer
