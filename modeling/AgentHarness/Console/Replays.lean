import AgentHarness.Console.Recovery

/-!
The body has every frame of the stream once, however the connections are cut and lost, unless a
read fails.
-/

namespace AgentHarness.Console

open List Recovery

open Text (Utf8Decoder encodeUtf8 encodeUtf8_append)

variable {char : Char} {rest : List Char} {frames done missing : List Frame} {recovery : Recovery}
  {stream : EventStream}

theorem afterBoundary_none {next : Char} (plain : char ≠ '\r')
  (single : char = '\n' → next ≠ '\n' ∧ next ≠ '\r') :
  afterBoundary (char :: next :: rest) = none := by
  unfold afterBoundary
  split
  all_goals simp_all

theorem afterBoundary_plain (plain : char ≠ '\r') (flat : char ≠ '\n') : afterBoundary (char :: rest) = none := by
  unfold afterBoundary
  split
  all_goals simp_all

theorem afterBoundary_single (char : Char) : afterBoundary [char] = none := by
  unfold afterBoundary
  split
  all_goals simp_all

theorem Compact.head (compact : Compact (char :: rest)) : char ≠ '\r' := by
  cases rest with
  | nil | cons next others => exact compact.1

theorem afterBoundary_compact {next : Char} {more : List Char}
  (compact : Compact (char :: next :: rest)) : afterBoundary (char :: next :: more) = none :=
  afterBoundary_none compact.1 fun line => ⟨compact.2.1 line, compact.2.2.head⟩

theorem splitFrame_frame {text : List Char} (compact : Compact text) (rest : List Char) :
  splitFrame (text ++ '\n' :: '\n' :: rest) = some (text, rest) := by
  induction text with
  | nil => rfl
  | cons char tail ih =>
    cases tail with
    | nil =>
      rw [cons_append, splitFrame, afterBoundary_plain compact.1 compact.2]
      rfl
    | cons next others =>
      rw [cons_append, cons_append, splitFrame, afterBoundary_compact compact]
      rw [← cons_append, ih compact.2.2]
      rfl

theorem splitFrame_short {text start missing : List Char} (compact : Compact text)
  (cut : start ++ missing = text ++ ['\n', '\n']) (short : missing ≠ []) :
  splitFrame start = none := by
  induction start generalizing text with
  | nil => rfl
  | cons char rest ih =>
    cases text with
    | nil =>
      obtain ⟨rfl, tail⟩ := List.cons.inj cut
      cases rest with
      | nil => rfl
      | cons next others =>
        obtain ⟨_, nothing⟩ := List.cons.inj tail
        exact absurd (append_eq_nil_iff.mp nothing).2 short
    | cons first tail =>
      obtain ⟨rfl, behind⟩ := List.cons.inj cut
      have boundary : afterBoundary (char :: rest) = none := by
        cases rest with
        | nil => exact afterBoundary_single char
        | cons next others =>
          cases tail with
          | nil => exact afterBoundary_plain compact.1 compact.2
          | cons second more =>
            obtain ⟨rfl, _⟩ := List.cons.inj behind
            exact afterBoundary_compact compact
      have later : Compact tail := by
        cases tail with
        | nil => trivial
        | cons second more => exact compact.2.2
      rw [splitFrame, boundary]
      rw [ih later behind]
      rfl

def arrivals : Nat → List Frame → List Frame × Nat × List Frame
  | count, [] => ([], count, [])
  | count, frame :: rest =>
    if frame.bytes.length ≤ count then
      let (arrived, left, missing) := arrivals (count - frame.bytes.length) rest
      (frame :: arrived, left, missing)
    else ([], count, frame :: rest)

variable (count : Nat)

def arrivedText (frames : List Frame) : List Char :=
  (({} : Utf8Decoder).decode ((streamBytes frames).take count)).1

theorem arrivals_append (frames : List Frame) :
  (arrivals count frames).1 ++ (arrivals count frames).2.2 = frames := by
  induction frames generalizing count with
  | nil => rfl
  | cons frame rest ih =>
    rw [arrivals]
    split
    · exact congrArg (frame :: ·) (ih _)
    rfl

theorem streamBytes_cons (frame : Frame) (frames : List Frame) :
  streamBytes (frame :: frames) = frame.bytes ++ streamBytes frames := flatMap_cons

theorem decode_arrived (count : Nat) (frames : List Frame) : let parts := arrivals count frames
  ({} : Utf8Decoder).decode ((streamBytes frames).take count) =
    ((parts.1.flatMap fun frame => frame.text ++ ['\n', '\n']) ++ arrivedText parts.2.1 parts.2.2,
      (({} : Utf8Decoder).decode ((streamBytes parts.2.2).take parts.2.1)).2) := by
  induction frames generalizing count with
  | nil => rfl
  | cons frame rest ih =>
    rw [arrivals]
    by_cases whole : frame.bytes.length ≤ count
    · rw [if_pos whole, streamBytes_cons, take_append, take_of_length_le whole,
        Frame.bytes, Utf8Decoder.decode_text, ← Frame.bytes, ih]
      simp
    rw [if_neg whole]
    rfl

theorem takeFrames_arrived (frames : List Frame) {rounds : Nat}
  (enough : (arrivedText count frames).length ≤ rounds) :
  takeFrames rounds (arrivedText count frames) = ((arrivals count frames).1.map Frame.text,
    arrivedText (arrivals count frames).2.1 (arrivals count frames).2.2) := by
  induction frames generalizing count rounds with
  | nil =>
    have nothing : arrivedText count [] = [] := by
      rw [arrivedText, streamBytes, flatMap_nil, take_nil]
      rfl
    rw [arrivals, nothing]
    cases rounds with
    | zero | succ rounds => rfl
  | cons frame rest ih =>
    rw [arrivals]
    by_cases whole : frame.bytes.length ≤ count
    · have text : arrivedText count (frame :: rest) =
        frame.text ++ '\n' :: '\n' :: arrivedText (count - frame.bytes.length) rest := by
        rw [arrivedText, streamBytes_cons, take_append, take_of_length_le whole,
          Frame.bytes, Utf8Decoder.decode_text, ← Frame.bytes]
        rw [append_assoc]
        rfl
      rw [if_pos whole]
      rw [text, length_append, length_cons, length_cons] at enough
      cases rounds with
      | zero => omega
      | succ rounds =>
        have shorter : (arrivedText (count - frame.bytes.length) rest).length ≤ rounds := by
          omega
        rw [text, takeFrames, splitFrame_frame frame.compact]
        dsimp only
        rw [ih _ shorter]
        rfl
    rw [if_neg whole]
    have cut : (streamBytes (frame :: rest)).take count = frame.bytes.take count := by
      rw [streamBytes_cons]
      exact take_append_of_le_length (by omega)
    obtain ⟨missing, short, shape⟩ := Utf8Decoder.decode_short
      (frame.text ++ ['\n', '\n']) count (by rw [Frame.bytes] at whole; omega)
    have text : arrivedText count (frame :: rest) ++ missing = frame.text ++ ['\n', '\n'] := by
      rw [arrivedText, cut]
      exact shape
    have none := splitFrame_short frame.compact text short
    cases rounds with
    | zero => rfl
    | succ rounds =>
      rw [takeFrames, none]
      rfl

theorem decode_unmarked (decoder : TextDecoder) (bytes : List UInt8)
  (unmarked : decoder.begun = false → (decoder.utf8.decode bytes).1.head? ≠ some '\uFEFF') :
  decoder.decode bytes = ((decoder.utf8.decode bytes).1,
      { utf8 := (decoder.utf8.decode bytes).2
        begun := decoder.begun || !(decoder.utf8.decode bytes).1.isEmpty }) := by
  unfold TextDecoder.decode
  dsimp only
  cases text : (decoder.utf8.decode bytes).1 with
  | nil => simp
  | cons char rest =>
    have plain : ¬(decoder.begun = false ∧ char = '\uFEFF') := by
      rintro ⟨fresh, rfl⟩
      rw [text] at unmarked
      exact unmarked fresh rfl
    dsimp only
    rw [if_neg plain]
    simp

variable (start : Recovery)

theorem arrivals_all (frames : List Frame) :
  arrivals (streamBytes frames).length frames = (frames, 0, []) := by
  induction frames with
  | nil => rfl
  | cons frame rest ih =>
    have total : (streamBytes (frame :: rest)).length =
      frame.bytes.length + (streamBytes rest).length := by
      rw [streamBytes_cons, length_append]
    have others : (streamBytes (frame :: rest)).length - frame.bytes.length =
      (streamBytes rest).length := by omega
    rw [arrivals, if_pos (by omega), others, ih]

theorem head_of_append (more : List Char) {start : List Char}
  (head : start.head? = some char) : (start ++ more).head? = some char := by
  cases start with
  | nil => cases head
  | cons first rest => exact head

theorem frame_unmarked (frame : Frame) (rest : List Char) :
  (frame.text ++ '\n' :: '\n' :: rest).head? ≠ some '\uFEFF' := by
  have unmarked := frame.unmarked
  cases shape : frame.text with
  | nil => exact show some '\n' ≠ some '\uFEFF' by decide
  | cons char tail =>
    rw [shape] at unmarked
    exact unmarked

theorem arrivedText_unmarked (frames : List Frame) :
  (arrivedText count frames).head? ≠ some '\uFEFF' := by
  intro marked
  have shape := congrArg Prod.fst (decode_arrived count frames)
  have decoded : arrivedText count frames = _ := shape
  cases frames with
  | nil =>
    rw [arrivedText, streamBytes, flatMap_nil, take_nil] at marked
    cases marked
  | cons frame rest =>
    by_cases whole : frame.bytes.length ≤ count
    · rw [decoded, arrivals, if_pos whole] at marked
      rw [flatMap_cons, append_assoc, append_assoc] at marked
      exact frame_unmarked frame _ marked
    obtain ⟨missing, _, text⟩ := Utf8Decoder.decode_short
      (frame.text ++ ['\n', '\n']) count (by rw [Frame.bytes] at whole; omega)
    have cut : (streamBytes (frame :: rest)).take count = frame.bytes.take count := by
      rw [streamBytes_cons]
      exact take_append_of_le_length (by omega)
    rw [arrivedText, cut] at marked
    have whole := head_of_append missing marked
    rw [Frame.bytes, text] at whole
    exact frame_unmarked frame [] whole

theorem accepts_with (frames : List (List Char)) (start : Recovery)
  (decoder : TextDecoder) (buffer : List Char) :
  frames.foldl Recovery.accept { start with decoder, buffer } =
    { frames.foldl Recovery.accept start with decoder, buffer } := by
  induction frames generalizing start with
  | nil => rfl
  | cons frame rest ih => exact ih (start.accept frame)

theorem chunks_flatten (sizes : List Nat) (bytes : List UInt8) :
  (chunks sizes bytes).flatten = bytes := by
  induction sizes generalizing bytes with
  | nil => exact append_nil bytes
  | cons size rest ih =>
    rw [chunks, flatten_cons, ih]
    exact take_append_drop size bytes

section

variable {text behind frame : List Char} (more : List Char)

theorem afterBoundary_append (found : afterBoundary text = some behind) :
  afterBoundary (text ++ more) = some (behind ++ more) := by
  unfold afterBoundary at found
  split at found
  all_goals cases found
  all_goals rfl

theorem afterBoundary_before (absent : afterBoundary (char :: rest) = none)
  (later : splitFrame rest = some (frame, behind)) :
  afterBoundary (char :: (rest ++ more)) = none := by
  unfold afterBoundary
  split
  all_goals rcases rest with _ | ⟨first, _ | ⟨second, _ | ⟨third, tail⟩⟩⟩
  all_goals simp_all [splitFrame, afterBoundary]

theorem splitFrame_append (found : splitFrame text = some (frame, behind)) :
  splitFrame (text ++ more) = some (frame, behind ++ more) ∧ behind.length < text.length := by
  induction text generalizing frame with
  | nil => cases found
  | cons char rest ih =>
    rw [splitFrame] at found
    cases boundary : afterBoundary (char :: rest) with
    | some after =>
      rw [boundary] at found
      cases found
      have whole := afterBoundary_append more boundary
      rw [cons_append] at whole ⊢
      rw [splitFrame, whole]
      refine ⟨rfl, ?_⟩
      unfold afterBoundary at boundary
      split at boundary
      all_goals simp_all
      all_goals omega
    | none =>
      rw [boundary] at found
      obtain ⟨⟨start, after⟩, later, shape⟩ := Option.map_eq_some_iff.mp found
      cases shape
      obtain ⟨whole, shorter⟩ := ih later
      rw [cons_append, splitFrame, afterBoundary_before more boundary later, whole]
      exact ⟨rfl, Nat.lt_succ_of_lt shorter⟩

theorem takeFrames_rounds {rounds other : Nat} (enough : text.length ≤ rounds)
  (also : text.length ≤ other) : takeFrames rounds text = takeFrames other text := by
  induction rounds generalizing text other with
  | zero =>
    rw [eq_nil_of_length_eq_zero (Nat.le_zero.mp enough)]
    cases other with
    | zero | succ other => rfl
  | succ rounds ih =>
    cases other with
    | zero =>
      rw [eq_nil_of_length_eq_zero (Nat.le_zero.mp also)]
      rfl
    | succ other =>
      rw [takeFrames, takeFrames]
      cases found : splitFrame text with
      | none => rfl
      | some parts =>
        have shorter := (splitFrame_append [] found).2
        have next := @ih parts.2 other (by omega) (by omega)
        dsimp only
        rw [next]

theorem takeFrames_append {rounds whole later : Nat} (enough : text.length ≤ rounds)
  (all : (text ++ more).length ≤ whole)
  (last : ((takeFrames rounds text).2 ++ more).length ≤ later) :
  takeFrames whole (text ++ more) =
    ((takeFrames rounds text).1 ++ (takeFrames later ((takeFrames rounds text).2 ++ more)).1,
      (takeFrames later ((takeFrames rounds text).2 ++ more)).2) := by
  induction rounds generalizing text whole with
  | zero => exact takeFrames_rounds all last
  | succ rounds ih =>
    cases found : splitFrame text with
    | none =>
      have kept : takeFrames (rounds + 1) text = ([], text) := by rw [takeFrames, found]
      rw [kept] at last ⊢
      exact takeFrames_rounds all last
    | some parts =>
      obtain ⟨later, shorter⟩ := splitFrame_append more found
      have taken : takeFrames (rounds + 1) text =
        (parts.1 :: (takeFrames rounds parts.2).1, (takeFrames rounds parts.2).2) := by
        rw [takeFrames, found]
      rw [taken] at last ⊢
      rw [length_append] at all
      cases whole with
      | zero => omega
      | succ whole =>
        have next := @ih parts.2 whole (by omega) (by rw [length_append]; omega) last
        rw [takeFrames, later]
        dsimp only
        rw [next]
        rfl

end

theorem TextDecoder.decode_append (decoder : TextDecoder) (bytes more : List UInt8) :
  decoder.decode (bytes ++ more) =
    ((decoder.decode bytes).1 ++ ((decoder.decode bytes).2.decode more).1,
      ((decoder.decode bytes).2.decode more).2) := by
  have whole := Utf8Decoder.decode_append decoder.utf8 bytes more
  unfold TextDecoder.decode
  rw [whole]
  obtain ⟨text, utf8⟩ := decoder.utf8.decode bytes
  dsimp only
  cases text with
  | nil => rfl
  | cons char rest =>
    dsimp only [cons_append]
    by_cases marked : decoder.begun = false ∧ char = '\uFEFF'
    all_goals
      simp only [marked, and_self, if_true, if_false]
      cases text : (utf8.decode more).1 with
      | nil => simp
      | cons next others => simp

theorem read_append (bytes more : List UInt8) :
  (start.read bytes).read more = start.read (bytes ++ more) := by
  unfold Recovery.read
  rw [TextDecoder.decode_append]
  dsimp only
  rw [← append_assoc]
  generalize start.buffer ++ (start.decoder.decode bytes).1 = buffer
  rw [takeFrames_append _ (Nat.le_refl buffer.length) (Nat.le_refl _) (Nat.le_refl _)]
  dsimp only
  rw [foldl_append, accepts_with]

theorem reads_flatten (piece : List UInt8) (pieces : List (List UInt8)) :
  (piece :: pieces).foldl Recovery.read start = start.read (piece :: pieces).flatten := by
  induction pieces generalizing start piece with
  | nil => exact congrArg start.read (append_nil piece).symm
  | cons next pieces ih =>
    have later := ih (start.read piece) next
    rw [foldl_cons, later, read_append]
    rfl

theorem connect_uncut (sizes : List Nat) (bytes : List UInt8) :
  start.connect (chunks sizes bytes) = start.connect (chunks [] bytes) := by
  have whole := chunks_flatten sizes bytes
  unfold Recovery.connect
  cases sizes with
  | nil => rfl
  | cons size sizes =>
    rw [chunks] at whole ⊢
    rw [reads_flatten, whole]
    rfl

structure Delivered (start later : Recovery) (arrived : List Frame) : Prop where
  lastEventId : later.lastEventId = ((arrived.map Frame.text).foldl accept start).lastEventId
  terminal : later.terminal = ((arrived.map Frame.text).foldl accept start).terminal
  body : later.body = ((arrived.map Frame.text).foldl accept start).body

theorem connect_delivers (frames : List Frame) (count : Nat) (sizes : List Nat) :
  Delivered start (start.connect (chunks sizes ((streamBytes frames).take count)))
    (arrivals count frames).1 := by
  have decoded := decode_unmarked {} ((streamBytes frames).take count)
    fun _ => arrivedText_unmarked count frames
  have taken := takeFrames_arrived count frames (Nat.le_refl _)
  rw [connect_uncut]
  unfold Recovery.connect
  rw [chunks, foldl_cons, foldl_nil]
  unfold Recovery.read
  rw [decoded]
  dsimp only
  rw [nil_append]
  rw [arrivedText] at taken
  rw [taken, accepts_with, accepts_with]
  exact ⟨rfl, rfl, rfl⟩

theorem accept_frame {frame : Frame} (identified : frame.id ≠ []) : start.accept frame.text =
  { start with
    lastEventId := frame.id, terminal := start.terminal || isTerminal frame.text
    body := start.body ++ [frame.bytes] } := by
  unfold Recovery.accept
  cases found : frameId frame.text with
  | none =>
    rw [Frame.id, found] at identified
    exact absurd rfl identified
  | some id =>
    have same : frame.id = id := by
      rw [Frame.id, found]
      rfl
    rw [same] at identified ⊢
    dsimp only
    rw [if_neg identified, Frame.bytes]

theorem accepts_frames (start : Recovery) (identified : ∀ frame ∈ frames, frame.id ≠ []) :
  let later := (frames.map Frame.text).foldl Recovery.accept start
  later.lastEventId = (frames.getLast?.map Frame.id).getD start.lastEventId ∧
    later.terminal = (start.terminal || frames.any fun frame => isTerminal frame.text) ∧
    later.body = start.body ++ frames.map Frame.bytes := by
  induction frames generalizing start with
  | nil => exact ⟨rfl, (Bool.or_false _).symm, (append_nil _).symm⟩
  | cons frame rest ih =>
    have later := ih (start.accept frame.text)
      (fun other member => identified other (mem_cons_of_mem _ member))
    rw [accept_frame start (identified frame mem_cons_self)] at later
    obtain ⟨lastEventId, terminal, body⟩ := later
    intro last
    have shape : last = (rest.map Frame.text).foldl Recovery.accept
        { start with
          lastEventId := frame.id, terminal := start.terminal || isTerminal frame.text
          body := start.body ++ [frame.bytes] } := by
      rw [← accept_frame start (identified frame mem_cons_self)]
      rfl
    rw [shape, lastEventId, terminal, body]
    refine ⟨?_, ?_, ?_⟩
    · rw [getLast?_cons]
      cases rest.getLast? <;> rfl
    · rw [any_cons, Bool.or_assoc]
    rw [append_assoc]
    rfl

structure Brought (stream : EventStream) (recovery : Recovery) (done missing : List Frame) :
    Prop where
  split : done ++ missing = stream.frames
  lastEventId : recovery.lastEventId = (done.getLast?.map Frame.id).getD []
  terminal : recovery.terminal = false
  body : recovery.body = done.map Frame.bytes

theorem Brought.after (brought : Brought stream recovery done missing) :
  stream.after recovery.lastEventId = missing := by
  have split := brought.split
  unfold EventStream.after
  rw [brought.lastEventId, ← split]
  cases done.eq_nil_or_concat with
  | inl empty =>
    rw [empty]
    rfl
  | inr filled =>
    obtain ⟨earlier, last, shape⟩ := filled
    rw [concat_eq_append] at shape
    subst shape
    have identified : last.id ≠ [] := by
      apply stream.identified last
      change last ∈ stream.frames
      rw [← split]
      simp
    have distinct : (stream.frames.map Frame.id).Nodup := stream.distinct
    rw [← split, map_append, map_append, append_assoc] at distinct
    have others : ∀ frame ∈ earlier, decide (frame.id ≠ last.id) = true := by
      intro frame member
      apply decide_eq_true
      intro same
      have apart := (nodup_append.mp distinct).2.2 frame.id (mem_map_of_mem member)
        last.id (by simp)
      exact apart same
    rw [getLast?_concat]
    dsimp only [Option.map, Option.getD]
    rw [if_neg identified, append_assoc, dropWhile_append_of_pos others]
    simp

theorem Brought.connects (brought : Brought stream recovery done missing)
  (waiting : missing ≠ []) (count : Nat) (sizes : List Nat) :
  let parts := arrivals count missing
  let later := recovery.connect (chunks sizes ((stream.replay recovery.lastEventId).take count))
  later.lastEventId = ((done ++ parts.1).getLast?.map Frame.id).getD [] ∧
    later.terminal = decide (parts.2.2 = []) ∧ later.body = (done ++ parts.1).map Frame.bytes := by
  intro parts later
  have replayed : stream.replay recovery.lastEventId = streamBytes missing := by
    rw [EventStream.replay, brought.after]
  have delivered : Delivered recovery later parts.1 := by
    dsimp only [later]
    rw [replayed]
    exact connect_delivers recovery missing count sizes
  have joined : parts.1 ++ parts.2.2 = missing := arrivals_append count missing
  have whole : done ++ (parts.1 ++ parts.2.2) = stream.before ++ [stream.last] := by
    rw [joined]
    exact brought.split
  have identified : ∀ frame ∈ parts.1, frame.id ≠ [] := by
    intro frame member
    apply stream.identified frame
    rw [← whole]
    simp [member]
  obtain ⟨lastEventId, terminal, body⟩ := accepts_frames recovery identified
  refine ⟨?_, ?_, ?_⟩
  · rw [delivered.lastEventId, lastEventId, brought.lastEventId, getLast?_append]
    cases parts.1.getLast? <;> rfl
  · rw [delivered.terminal, terminal, brought.terminal, Bool.false_or]
    by_cases ended : parts.2.2 = []
    · rw [decide_eq_true ended, any_eq_true]
      rw [ended, append_nil] at joined
      have last : stream.last ∈ missing := by
        have final := congrArg List.getLast? brought.split
        rw [EventStream.frames, getLast?_concat, getLast?_append_of_ne_nil _ waiting]
          at final
        exact mem_of_getLast? final
      rw [← joined] at last
      exact ⟨stream.last, last, stream.ends⟩
    rw [decide_eq_false ended, any_eq_false]
    intro frame member terminal
    have before : done ++ (parts.1 ++ parts.2.2.dropLast) = stream.before := by
      have shorter := congrArg List.dropLast whole
      rw [dropLast_concat, dropLast_append_of_ne_nil (by simp [ended]),
        dropLast_append_of_ne_nil ended] at shorter
      exact shorter
    have runs := stream.running frame (by rw [← before]; simp [member])
    rw [runs] at terminal
    cases terminal
  rw [delivered.body, body, brought.body, map_append]

theorem Brought.next (brought : Brought stream recovery done missing) (waiting : missing ≠ [])
  {count : Nat} (unfinished : (arrivals count missing).2.2 ≠ []) (sizes : List Nat) :
  Brought stream
    (recovery.connect (chunks sizes ((stream.replay recovery.lastEventId).take count)))
    (done ++ (arrivals count missing).1) (arrivals count missing).2.2 := by
  obtain ⟨lastEventId, terminal, body⟩ := brought.connects waiting count sizes
  refine ⟨?_, lastEventId, ?_, body⟩
  · rw [append_assoc, arrivals_append]
    exact brought.split
  rw [terminal, decide_eq_false unfinished]

def Clean : List Frame → List Loss → Prop
  | _, [] => True
  | missing, loss :: losses =>
    loss.readError = false ∧
      ((arrivals loss.arrived missing).2.2 = [] ∨ Clean (arrivals loss.arrived missing).2.2 losses)

theorem recover_brought (losses : List Loss) (sizes : List Nat)
  (brought : Brought stream recovery done missing) (waiting : missing ≠ []) :
  recover stream.replay losses sizes recovery = (stream.frames.map Frame.bytes, .closed) ↔
    Clean missing losses := by
  induction losses generalizing recovery done missing with
  | nil =>
    have all : (stream.replay recovery.lastEventId).take (streamBytes missing).length =
      stream.replay recovery.lastEventId := by
      rw [EventStream.replay, brought.after, take_length]
    have connects := brought.connects waiting (streamBytes missing).length sizes
    rw [all] at connects
    obtain ⟨_, terminal, body⟩ := connects
    rw [recover, terminal, body, arrivals_all, brought.split]
    exact ⟨fun _ => trivial, fun _ => rfl⟩
  | cons loss losses ih =>
    obtain ⟨_, terminal, body⟩ := brought.connects waiting loss.arrived loss.sizes
    rw [recover, Clean]
    by_cases failed : loss.readError = true
    · rw [if_pos failed, failed]
      constructor
      · intro impossible
        cases (Prod.mk.inj impossible).2
      exact fun clean => (nomatch clean.1)
    rw [if_neg failed, terminal]
    have clean : loss.readError = false := Bool.eq_false_iff.mpr failed
    have joined := arrivals_append loss.arrived missing
    by_cases ended : (arrivals loss.arrived missing).2.2 = []
    · rw [if_pos (decide_eq_true ended), body]
      rw [ended, append_nil] at joined
      rw [joined, brought.split]
      exact ⟨fun _ => ⟨clean, .inl ended⟩, fun _ => rfl⟩
    have undecided : ¬decide ((arrivals loss.arrived missing).2.2 = []) = true := by
      rw [decide_eq_true_eq]
      exact ended
    rw [if_neg undecided]
    rw [ih (brought.next waiting ended loss.sizes) ended]
    constructor
    · exact fun rest => ⟨clean, .inr rest⟩
    rintro ⟨_, finished | rest⟩
    · exact absurd finished ended
    exact rest

/-- The body has the frames of the stream, each once and in order, and then ends: exactly if the
connections that are read all end without a read error, wherever they are cut. -/
theorem frames_recovered (stream : EventStream) (losses : List Loss) (sizes : List Nat) :
  recover stream.replay losses sizes {} = (stream.frames.map Frame.bytes, .closed) ↔
    Clean stream.frames losses := by
  apply recover_brought
  · exact ⟨nil_append _, rfl, rfl, rfl⟩
  exact append_ne_nil_of_right_ne_nil _ (cons_ne_nil _ _)

section

def started : Frame :=
  encodeEvent "1".toList "\x7b\"type\":\"RUN_STARTED\"\x7d".toList (by simp) (by simp)

def finished : Frame :=
  encodeEvent "2".toList "\x7b\"type\":\"RUN_FINISHED\"\x7d".toList (by simp) (by simp)

def twoEvents : EventStream where
  before := [started]
  last := finished
  identified := by decide +kernel
  distinct := by decide +kernel
  running := by decide +kernel
  ends := by decide +kernel

/-- A read of the first connection fails in the middle of the second frame. -/
theorem read_error_ends : ¬∀ (stream : EventStream) (losses : List Loss) (sizes : List Nat),
  recover stream.replay losses sizes {} = (stream.frames.map Frame.bytes, .closed) := by
  intro recovers
  have lost := recovers twoEvents [{ arrived := 50, sizes := [7], readError := true }] []
  exact absurd lost (by decide +kernel)

end

theorem recover_within (losses : List Loss) (sizes : List Nat)
  (brought : Brought stream recovery done missing) (waiting : missing ≠ []) :
  let result := recover stream.replay losses sizes recovery
  result.1 <+: stream.frames.map Frame.bytes ∧
    (result.2 = .closed → result.1 = stream.frames.map Frame.bytes) ∧ result.2 ≠ .waiting := by
  induction losses generalizing recovery done missing with
  | nil =>
    rw [(recover_brought [] sizes brought waiting).mpr trivial]
    exact ⟨prefix_rfl, fun _ => rfl, (by decide : Ended.closed ≠ .waiting)⟩
  | cons loss losses ih =>
    obtain ⟨_, terminal, body⟩ := brought.connects waiting loss.arrived loss.sizes
    have whole : (done ++ (arrivals loss.arrived missing).1).map Frame.bytes ++
      (arrivals loss.arrived missing).2.2.map Frame.bytes = stream.frames.map Frame.bytes := by
      rw [← map_append, append_assoc, arrivals_append, brought.split]
    rw [recover]
    by_cases failed : loss.readError = true
    · rw [if_pos failed, body]
      have unclosed : Ended.failed ≠ .closed := by decide
      have ends : Ended.failed ≠ .waiting := by decide
      exact ⟨⟨_, whole⟩, fun closed => absurd closed unclosed, ends⟩
    rw [if_neg failed, terminal]
    by_cases ended : (arrivals loss.arrived missing).2.2 = []
    · rw [if_pos (decide_eq_true ended), body]
      rw [ended, map_nil, append_nil] at whole
      rw [whole]
      exact ⟨prefix_rfl, fun _ => rfl, (by decide : Ended.closed ≠ .waiting)⟩
    rw [if_neg (by rw [decide_eq_false ended]; decide)]
    exact ih (brought.next waiting ended loss.sizes) ended

/-- Whatever is lost or fails, the body has the first frames of the stream, each once; it ends, and
without an error only if it has all of them. -/
theorem recover_prefix (stream : EventStream) (losses : List Loss) (sizes : List Nat) :
  let result := recover stream.replay losses sizes {}
  result.1 <+: stream.frames.map Frame.bytes ∧
    (result.2 = .closed → result.1 = stream.frames.map Frame.bytes) ∧ result.2 ≠ .waiting := by
  apply recover_within
  · exact ⟨nil_append _, rfl, rfl, rfl⟩
  exact append_ne_nil_of_right_ne_nil _ (cons_ne_nil _ _)

/-- How the network cuts the bytes makes no difference, whatever they are. -/
theorem recover_uncut (replay : List Char → List UInt8) (losses : List Loss) (sizes : List Nat)
  (recovery : Recovery) : recover replay losses sizes recovery =
    recover replay (losses.map fun loss => { loss with sizes := [] }) [] recovery := by
  induction losses generalizing recovery with
  | nil =>
    rw [map_nil, recover, recover, connect_uncut]
  | cons loss losses ih =>
    rw [map_cons, recover, recover, connect_uncut, ih]

end AgentHarness.Console
