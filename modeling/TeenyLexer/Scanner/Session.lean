import TeenyLexer.Scanner.Basic

/-! # Sessions

A session works on one scanner by single steps. Iterators opened in it share the cursor of
the scanner; each is exhausted once it has itself met the end of the input or a failure.
-/

namespace TeenyLexer

structure Session where
  scanner : Scanner
  /-- The keys of the iterators that are not exhausted. -/
  live : List String

namespace Session

inductive Step
  | advance (n : Nat)
  | peek
  | next
  | drain
  | openIterator (key : String)
  | nextOf (key : String)
  | setTrace (trace : Bool)
  | setFilename (filename : String)

inductive Reply
  | done
  | character (c : Char)
  | token (t : Token)
  | tokens (ts : List Token)
  | stopped
  | failure (d : Diagnostic)

/-- What a step answers, what it records, and the session after it. -/
structure Response where
  reply : Reply
  records : List Record
  session : Session

def ofScanner (scanner : Scanner) : Session :=
  ⟨scanner, []⟩

def silent (reply : Reply) (session : Session) : Response :=
  ⟨reply, [], session⟩

def replyOf : Except Diagnostic Token → Reply
  | .ok token => .token token
  | .error d => .failure d

def replyOfAll : Except Diagnostic (List Token) → Reply
  | .ok tokens => .tokens tokens
  | .error d => .failure d

def afterPulls (s : Scanner) (pulls : List Pull) : Scanner :=
  match pulls.getLast? with
  | none => s
  | some p => p.scanner

/-- Pulls one token for the iterator of a key, which may exhaust it. -/
def pullFor (s : Session) (key : String) : Response :=
  let p := s.scanner.pull
  let live := if p.isLast then s.live.erase key else s.live
  ⟨replyOf p.outcome, p.records, ⟨p.scanner, live⟩⟩

def perform (s : Session) : Step → Response
  | .advance n =>
    silent .done { s with scanner.cursor := s.scanner.cursor.advanceBy n }
  | .peek => silent (.character s.scanner.cursor.peek) s
  | .next =>
    let p := s.scanner.pull
    ⟨replyOf p.outcome, p.records, { s with scanner := p.scanner }⟩
  | .drain =>
    let pulls := s.scanner.pulls
    ⟨replyOfAll s.scanner.tokens, Scanner.recorded pulls,
      { s with scanner := afterPulls s.scanner pulls }⟩
  | .openIterator key => silent .done { s with live := s.live.insert key }
  | .nextOf key => if key ∈ s.live then s.pullFor key else silent .stopped s
  | .setTrace trace => silent .done { s with scanner.trace := trace }
  | .setFilename filename => silent .done { s with scanner.filename := filename }

def performAll (s : Session) : List Step → List Response
  | [] => []
  | step :: steps =>
    let response := s.perform step
    response :: response.session.performAll steps

end Session

end TeenyLexer
