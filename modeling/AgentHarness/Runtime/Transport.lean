import AgentHarness.Text.Characters
import AgentHarness.Text.JsonDecoder
import AgentHarness.Text.Utf8Decoder
import Mathlib.Data.List.DropRight

/-!
The remote Claude transport's reader: chunks of bytes in, messages out.
-/

namespace AgentHarness.Runtime.DaytonaClaudeTransport

open Text (JsonData decodeUtf8 isSpace)
open Text.JsonDecoder (loads rawDecode)

abbrev Message := List (List Nat × JsonData)

def lstrip (text : List Char) : List Char := text.dropWhile isSpace

def strip (text : List Char) : List Char := (lstrip text).rdropWhile isSpace

def message? : JsonData → Option Message
  | .object members => some members
  | _ => none

def parseLine (line : List Char) : Option Message :=
  if strip line = [] then none else (loads (strip line)).bind message?

/-- The rounds of `_parse_complete_prefixes`. -/
def parsePrefixes : Nat → List Char → List Message × List Char
  | 0, remaining => ([], remaining)
  | rounds + 1, remaining =>
    if lstrip remaining = [] then ([], [])
    else
      match rawDecode (lstrip remaining) with
      | none => ([], remaining)
      | some (value, rest) =>
        let (parsed, last) := parsePrefixes rounds rest
        ((message? value).toList ++ parsed, last)

/-- `_parse_complete_prefixes`; every round takes a character at least. -/
def parseCompletePrefixes (buffer : List Char) : List Message × List Char :=
  parsePrefixes (buffer.length + 1) buffer

/-- The lines that `buffer.split("\n", 1)` takes off, one after another, and the rest. -/
def takeLines : List Char → List (List Char) × List Char
  | [] => ([], [])
  | char :: rest =>
    let (lines, last) := takeLines rest
    if char = '\n' then ([] :: lines, last)
    else
      match lines with
      | [] => ([], char :: last)
      | line :: others => ((char :: line) :: others, last)

def feed (buffer : List Char) (chunk : List UInt8) : List Message × List Char :=
  let (lines, rest) := takeLines (buffer ++ decodeUtf8 chunk)
  let (prefixes, remaining) := parseCompletePrefixes rest
  (lines.filterMap parseLine ++ prefixes, remaining)

def readFrom (buffer : List Char) : List (List UInt8) → List Message
  | [] =>
    let (prefixes, rest) := parseCompletePrefixes buffer
    prefixes ++ (parseLine rest).toList
  | chunk :: chunks =>
    let (yielded, remaining) := feed buffer chunk
    yielded ++ readFrom remaining chunks

/-- `read_messages`: what it yields from the chunks of `read_stdout`, and the error it raises then
for an exit code other than zero. -/
def readMessages (chunks : List (List UInt8)) (exitCode : Int) :
  List Message × Except String Unit :=
  (readFrom [] chunks, if exitCode = 0 then .ok ()
    else .error ("remote Claude CLI exited with code " ++ toString exitCode))

end AgentHarness.Runtime.DaytonaClaudeTransport
