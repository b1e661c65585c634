import TeenyLexer.Text.Quoted

/-! # Kinds of tokens

A kind is structural, a literal, an identifier, one of the keywords or one of the operators.
Kinds have names and are numbered from one; keywords and operators also have the fixed text
that spells them.
-/

namespace TeenyLexer

inductive Keyword
  | label | goto | print | input | «let» | «if» | «then» | endif | «while» | «repeat» | endwhile
  deriving DecidableEq

namespace Keyword

def all : List Keyword :=
  [label, goto, print, input, «let», «if», «then», endif, «while», «repeat», endwhile]

/-- The spelling of a keyword, which is also its name. -/
def text : Keyword → String
  | label => "LABEL"
  | goto => "GOTO"
  | print => "PRINT"
  | input => "INPUT"
  | «let» => "LET"
  | «if» => "IF"
  | «then» => "THEN"
  | endif => "ENDIF"
  | «while» => "WHILE"
  | «repeat» => "REPEAT"
  | endwhile => "ENDWHILE"

def ofText? (text : String) : Option Keyword :=
  all.find? fun k => k.text == text

end Keyword

inductive Operator
  | assign | plus | minus | asterisk | slash
  | equals | notEquals | less | lessEquals | greater | greaterEquals
  deriving DecidableEq

namespace Operator

def all : List Operator :=
  [assign, plus, minus, asterisk, slash, equals, notEquals, less, lessEquals, greater,
   greaterEquals]

def text : Operator → String
  | assign => "="
  | plus => "+"
  | minus => "-"
  | asterisk => "*"
  | slash => "/"
  | equals => "=="
  | notEquals => "!="
  | less => "<"
  | lessEquals => "<="
  | greater => ">"
  | greaterEquals => ">="

def name : Operator → String
  | assign => "ASSIGN"
  | plus => "PLUS"
  | minus => "MINUS"
  | asterisk => "ASTERISK"
  | slash => "SLASH"
  | equals => "EQUALS"
  | notEquals => "NOT_EQUALS"
  | less => "LESS"
  | lessEquals => "LESS_EQUALS"
  | greater => "GREATER"
  | greaterEquals => "GREATER_EQUALS"

def ofText? (text : String) : Option Operator :=
  all.find? fun o => o.text == text

def isComparison : Operator → Bool
  | equals | notEquals | less | lessEquals | greater | greaterEquals => true
  | assign | plus | minus | asterisk | slash => false

end Operator

inductive Kind
  | endOfInput
  | newline
  | number
  | string
  | identifier
  | keyword (k : Keyword)
  | operator (o : Operator)
  deriving DecidableEq

namespace Kind

def all : List Kind :=
  [endOfInput, newline, number, string, identifier] ++ Keyword.all.map keyword ++
    Operator.all.map operator

def name : Kind → String
  | endOfInput => "END_OF_INPUT"
  | newline => "NEWLINE"
  | number => "NUMBER"
  | string => "STRING"
  | identifier => "IDENTIFIER"
  | keyword k => k.text
  | operator o => o.name

/-- The number of a kind: its place in the order, counted from one. -/
def code (kind : Kind) : Nat :=
  all.idxOf kind + 1

def ofName? (name : String) : Option Kind :=
  all.find? fun kind => kind.name == name

def ofCode? (code : Int) : Option Kind :=
  if code < 1 then none else all[(code - 1).toNat]?

def isKeyword : Kind → Bool
  | keyword _ => true
  | _ => false

def isOperator : Kind → Bool
  | operator _ => true
  | _ => false

def isComparison : Kind → Bool
  | operator o => o.isComparison
  | _ => false

/-- A look-up of a kind that does not exist. -/
inductive Unknown
  | name (name : String)
  | code (code : Int)
  deriving DecidableEq

def Unknown.message : Unknown → String
  | .name s => Text.quote s
  | .code n => toString n ++ " is not a valid TokenKind"

def ofName (name : String) : Except Unknown Kind :=
  match ofName? name with
  | some kind => .ok kind
  | none => .error (.name name)

def ofCode (code : Int) : Except Unknown Kind :=
  match ofCode? code with
  | some kind => .ok kind
  | none => .error (.code code)

end Kind

end TeenyLexer
