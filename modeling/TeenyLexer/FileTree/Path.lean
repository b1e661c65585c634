/-! # Paths

A path is a text whose segments are separated by slashes. The normal form of a path drops
empty segments and single dots, keeps double dots, and writes the root as one slash, or as
two where a path starts with exactly two.
-/

namespace TeenyLexer.Path

/-- The texts between the slashes of a path. -/
def segments : List Char → List (List Char)
  | [] => [[]]
  | c :: rest =>
    if c = '/' then [] :: segments rest
    else
      match segments rest with
      | [] => [[c]]
      | segment :: more => (c :: segment) :: more

/-- A segment that does not lead anywhere. -/
def isIdle (segment : List Char) : Bool :=
  segment == [] || segment == ['.']

/-- The part of the normal form before the first segment. -/
def root (path : List Char) : List Char :=
  match (path.takeWhile (· = '/')).length with
  | 0 => []
  | 2 => ['/', '/']
  | _ => ['/']

def normalizeChars (path : List Char) : List Char :=
  let kept := (segments path).filter fun segment => !isIdle segment
  match root path ++ List.intercalate ['/'] kept with
  | [] => ['.']
  | text => text

def normalize (path : String) : String :=
  String.ofList (normalizeChars path.toList)

end TeenyLexer.Path
