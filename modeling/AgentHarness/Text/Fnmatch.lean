/-!
Shell wildcards as `fnmatch` reads them on a case-sensitive platform: `*`, `?`,
`[seq]` and `[!seq]`, over the whole text.
-/

namespace Text

inductive GlobToken where
  | anyText
  | anyChar
  | literal (char : Char)
  | oneOf (negated : Bool) (ranges : List (Char × Char))

/-- The characters and ranges of a bracket; a hyphen with a neighbour on both
sides makes a range, which is empty when it runs backwards. -/
def bracketRanges : List Char → List (Char × Char)
  | low :: '-' :: high :: rest => (low, high) :: bracketRanges rest
  | char :: rest => (char, char) :: bracketRanges rest
  | [] => []

/-- The text up to the closing bracket, which is an ordinary character right
after the opening one or its `!`. -/
def bracketBody (text : List Char) : Option (List Char × List Char) :=
  let opening := match text with
    | '!' :: ']' :: _ => 2
    | '!' :: _ => 1
    | ']' :: _ => 1
    | _ => 0
  let tail := text.drop opening
  let inside := tail.takeWhile (· ≠ ']')
  match tail.dropWhile (· ≠ ']') with
  | [] => none
  | _ :: rest => some (text.take opening ++ inside, rest)

def bracketToken : List Char → GlobToken
  | '!' :: body => .oneOf true (bracketRanges body)
  | body => .oneOf false (bracketRanges body)

/-- Each round consumes a character, so the length of the pattern is fuel enough. -/
def globTokens : Nat → List Char → List GlobToken
  | 0, _ => []
  | _ + 1, [] => []
  | fuel + 1, '*' :: rest => .anyText :: globTokens fuel rest
  | fuel + 1, '?' :: rest => .anyChar :: globTokens fuel rest
  | fuel + 1, '[' :: rest =>
    match bracketBody rest with
    | none => .literal '[' :: globTokens fuel rest
    | some (body, after) => bracketToken body :: globTokens fuel after
  | fuel + 1, char :: rest => .literal char :: globTokens fuel rest

def GlobToken.accepts (char : Char) : GlobToken → Bool
  | .anyText => false
  | .anyChar => true
  | .literal expected => char = expected
  | .oneOf negated ranges => negated != ranges.any fun range => range.1 ≤ char && char ≤ range.2

def suffixes : List Char → List (List Char)
  | [] => [[]]
  | char :: rest => (char :: rest) :: suffixes rest

def globMatches : List GlobToken → List Char → Bool
  | [], text => text.isEmpty
  | .anyText :: tokens, text => (suffixes text).any (globMatches tokens)
  | _ :: _, [] => false
  | token :: tokens, char :: text => token.accepts char && globMatches tokens text

def fnmatch (text pattern : String) : Bool :=
  globMatches (globTokens pattern.length pattern.toList) text.toList

example : fnmatch "mcp__docs__read" "mcp__*__[r-t]ea?" = true := by decide

end Text
