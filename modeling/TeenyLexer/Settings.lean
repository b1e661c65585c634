import TeenyLexer.Text.Blank

/-! # Settings

How a scanner names its input and whether it logs every token. Settings can be taken from
two environment variables.
-/

namespace TeenyLexer

structure Settings where
  filename : String := "<input>"
  trace : Bool := false
  deriving DecidableEq

/-- The values of the environment variables, `none` for a variable that is not set. -/
structure Environment where
  filename : Option String := none
  trace : Option String := none

namespace Settings

def affirmatives : List String :=
  ["1", "true", "yes", "on"]

/-- No character above ASCII has a lower case among the letters of the affirmatives, so
lower case of ASCII is enough. -/
def isAffirmative (value : String) : Bool :=
  affirmatives.contains (String.ofList ((Text.trim value.toList).map Char.toLower))

/-- A file name that is empty counts as not given. -/
def filenameOr (default : String) : Option String → String
  | none => default
  | some filename => if filename = "" then default else filename

def ofEnvironment (env : Environment) : Settings where
  filename := filenameOr ({} : Settings).filename env.filename
  trace := env.trace.any isAffirmative

end Settings

end TeenyLexer
