import AgentHarness.Text.JsonDecoder
import AgentHarness.Text.Utf8Decoder

/-!
`recoverInterruptedAguiStream`: the frames of a run's event stream, read over as many connections
as it takes.

Strings are lists of characters, and bodies are lists of bytes.
-/

namespace AgentHarness.Console

open List

open Text (JsonData Utf8Decoder encodeUtf8)

/-- The white space of `String.prototype.trim`. -/
def isJsSpace (char : Char) : Bool :=
  let point := char.toNat
  (0x09 ≤ point && point ≤ 0x0D) || point = 0x20 || point = 0xA0 || point = 0x1680 ||
    (0x2000 ≤ point && point ≤ 0x200A) || point = 0x2028 || point = 0x2029 || point = 0x202F ||
    point = 0x205F || point = 0x3000 || point = 0xFEFF

variable (text : List Char)

def trimStart : List Char := text.dropWhile isJsSpace

def trim : List Char := ((trimStart text).reverse.dropWhile isJsSpace).reverse

/-- The text behind `/\r?\n\r?\n/`, where it matches at the front. -/
def afterBoundary : List Char → Option (List Char)
  | '\r' :: '\n' :: '\r' :: '\n' :: rest => some rest
  | '\r' :: '\n' :: '\n' :: rest => some rest
  | '\n' :: '\r' :: '\n' :: rest => some rest
  | '\n' :: '\n' :: rest => some rest
  | _ => none

def splitFrame : List Char → Option (List Char × List Char)
  | [] => none
  | char :: rest =>
    match afterBoundary (char :: rest) with
    | some behind => some ([], behind)
    | none => (splitFrame rest).map fun parts => (char :: parts.1, parts.2)

def takeFrames : Nat → List Char → List (List Char) × List Char
  | 0, buffer => ([], buffer)
  | rounds + 1, buffer =>
    match splitFrame buffer with
    | none => ([], buffer)
    | some (frame, rest) =>
      let (frames, remaining) := takeFrames rounds rest
      (frame :: frames, remaining)

/-- `split(/\r?\n/)`. -/
def splitLines : List Char → List (List Char)
  | [] => [[]]
  | '\r' :: '\n' :: rest => [] :: splitLines rest
  | '\n' :: rest => [] :: splitLines rest
  | char :: rest =>
    match splitLines rest with
    | line :: lines => (char :: line) :: lines
    | [] => [[char]]

variable (frame : List Char)

def frameId : Option (List Char) :=
  ((splitLines frame).find? fun line => "id:".toList.isPrefixOf line).map fun line =>
    trim (line.drop 3)

def frameData : List Char :=
  List.intercalate ['\n']
    (((splitLines frame).filter fun line => "data:".toList.isPrefixOf line).map fun line =>
      trimStart (line.drop 5))

def outsideStrings : Bool → List Char → List Char
  | _, [] => []
  | false, '"' :: rest => outsideStrings true rest
  | false, char :: rest => char :: outsideStrings false rest
  | true, '\\' :: _ :: rest => outsideStrings true rest
  | true, '"' :: rest => outsideStrings false rest
  | true, _ :: rest => outsideStrings true rest

/-- `JSON.parse`, which knows no `NaN` and no `Infinity`. -/
def parseJson : Option JsonData :=
  let letters := outsideStrings false text
  if letters.contains 'N' || letters.contains 'I' then none else Text.JsonDecoder.loads text

def points (text : String) : List Nat := text.toList.map Char.toNat

/-- `event.type`, where it is a string. -/
def eventType : JsonData → Option (List Nat)
  | .object members =>
    match members.find? fun member => member.1 = points "type" with
    | some (_, .string type) => some type
    | _ => none
  | _ => none

def isTerminal : Bool :=
  let data := frameData frame
  data ≠ [] &&
    match (parseJson data).bind eventType with
    | some type => type = points "RUN_FINISHED" || type = points "RUN_ERROR"
    | none => false

/-- `TextDecoder`, which drops a byte order mark in front. -/
structure TextDecoder where
  utf8 : Utf8Decoder := {}
  begun : Bool := false

def TextDecoder.decode (decoder : TextDecoder) (bytes : List UInt8) : List Char × TextDecoder :=
  let (text, utf8) := decoder.utf8.decode bytes
  match text with
  | [] => ([], { decoder with utf8 })
  | char :: rest =>
    if decoder.begun = false ∧ char = '\uFEFF' then (rest, { utf8, begun := true })
    else (char :: rest, { utf8, begun := true })

structure Recovery where
  decoder : TextDecoder := {}
  buffer : List Char := []
  lastEventId : List Char := []
  terminal : Bool := false
  /-- What the body was given, one entry for each `enqueue`. -/
  body : List (List UInt8) := []

namespace Recovery

variable (recovery : Recovery)

def accept (frame : List Char) : Recovery :=
  { recovery with
    lastEventId :=
      match frameId frame with
      | some id => if id = [] then recovery.lastEventId else id
      | none => recovery.lastEventId
    terminal := recovery.terminal || isTerminal frame
    body := recovery.body ++ [encodeUtf8 (frame ++ ['\n', '\n'])] }

def read (chunk : List UInt8) : Recovery :=
  let (text, decoder) := recovery.decoder.decode chunk
  let buffer := recovery.buffer ++ text
  let (frames, remaining) := takeFrames buffer.length buffer
  { frames.foldl accept recovery with decoder, buffer := remaining }

def connect (chunks : List (List UInt8)) : Recovery :=
  chunks.foldl read { recovery with decoder := {}, buffer := [] }

end Recovery

/-- A connection that is lost after some of its bytes have arrived: its body ends there, or a read
of it fails. -/
structure Loss where
  arrived : Nat
  sizes : List Nat
  readError : Bool

def chunks : List Nat → List UInt8 → List (List UInt8)
  | [], bytes => [bytes]
  | size :: sizes, bytes => bytes.take size :: chunks sizes (bytes.drop size)

inductive Ended where
  | closed
  | failed
  | waiting
  deriving DecidableEq

/-- The connections, until one brings the end or fails; the one after all losses is not lost.
`replay` is the body of a response to a last event id. -/
def recover (replay : List Char → List UInt8) :
    List Loss → List Nat → Recovery → List (List UInt8) × Ended
  | [], sizes, recovery =>
    let later := recovery.connect (chunks sizes (replay recovery.lastEventId))
    (later.body, if later.terminal then .closed else .waiting)
  | loss :: losses, sizes, recovery =>
    let later := recovery.connect
      (chunks loss.sizes ((replay recovery.lastEventId).take loss.arrived))
    if loss.readError then (later.body, .failed)
    else if later.terminal then (later.body, .closed)
    else recover replay losses sizes later

/-- A text without a blank line, and without `\r`. -/
def Compact : List Char → Prop
  | [] => True
  | [char] => char ≠ '\r' ∧ char ≠ '\n'
  | char :: next :: rest => char ≠ '\r' ∧ (char = '\n' → next ≠ '\n') ∧ Compact (next :: rest)

theorem compact_flat {text : List Char} (flat : ∀ char ∈ text, char ≠ '\r' ∧ char ≠ '\n') :
  Compact text := by
  induction text with
  | nil => trivial
  | cons char rest ih =>
    have own := flat char mem_cons_self
    have later := ih fun other member => flat other (mem_cons_of_mem _ member)
    cases rest with
    | nil => exact own
    | cons next others => exact ⟨own.1, fun line => absurd line own.2, later⟩

theorem compact_line {line text : List Char}
  (flat : ∀ char ∈ line, char ≠ '\r' ∧ char ≠ '\n') (visible : text.head? ≠ some '\n')
  (nonempty : text ≠ []) (compact : Compact text) : Compact (line ++ '\n' :: text) := by
  induction line with
  | nil =>
    cases text with
    | nil => exact absurd rfl nonempty
    | cons char rest =>
      refine ⟨by decide, ?_, compact⟩
      rintro _ rfl
      exact visible rfl
  | cons char rest ih =>
    have own := flat char mem_cons_self
    have later := ih fun other member => flat other (mem_cons_of_mem _ member)
    cases rest with
    | nil | cons next others => exact ⟨own.1, fun line => absurd line own.2, later⟩

structure Frame where
  text : List Char
  compact : Compact text
  unmarked : text.head? ≠ some '\uFEFF'

namespace Frame

def bytes (frame : Frame) : List UInt8 := encodeUtf8 (frame.text ++ ['\n', '\n'])

def id (frame : Frame) : List Char := (frameId frame.text).getD []

end Frame

theorem flat_append {text more : List Char} (flat : ∀ char ∈ text, char ≠ '\r' ∧ char ≠ '\n')
  (later : ∀ char ∈ more, char ≠ '\r' ∧ char ≠ '\n') :
  ∀ char ∈ text ++ more, char ≠ '\r' ∧ char ≠ '\n' :=
  forall_mem_append.mpr ⟨flat, later⟩

/-- `_encode_event`, of an id and a JSON text on one line. -/
def encodeEvent (eventId data : List Char) (flatId : ∀ char ∈ eventId, char ≠ '\r' ∧ char ≠ '\n')
  (flatData : ∀ char ∈ data, char ≠ '\r' ∧ char ≠ '\n') : Frame where
  text := "id: ".toList ++ eventId ++ '\n' :: ("data: ".toList ++ data)
  compact := by
    apply compact_line
    · exact flat_append (by simp) flatId
    · nofun
    · exact append_ne_nil_of_left_ne_nil (by simp) _
    exact compact_flat (flat_append (by simp) flatData)
  unmarked := nofun

def streamBytes (frames : List Frame) : List UInt8 := frames.flatMap Frame.bytes

structure EventStream where
  before : List Frame
  last : Frame
  identified : ∀ frame ∈ before ++ [last], frame.id ≠ []
  distinct : ((before ++ [last]).map Frame.id).Nodup
  running : ∀ frame ∈ before, isTerminal frame.text = false
  ends : isTerminal last.text = true

namespace EventStream

variable (stream : EventStream)

def frames : List Frame := stream.before ++ [stream.last]

def after (lastEventId : List Char) : List Frame :=
  if lastEventId = [] then stream.frames
  else (stream.frames.dropWhile fun frame => frame.id ≠ lastEventId).tail

def replay (lastEventId : List Char) : List UInt8 := streamBytes (stream.after lastEventId)

end EventStream

end AgentHarness.Console
