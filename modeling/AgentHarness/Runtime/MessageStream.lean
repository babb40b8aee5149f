import AgentHarness.Runtime.Transport

/-!
The reader yields the objects of a stream, however the stream is cut, as long as no cut falls
inside a character.
-/

namespace AgentHarness.Runtime.DaytonaClaudeTransport

open List

open Text (JsonData decodeUtf8 decodeUtf8_encode encodeUtf8 encodeUtf8_append encodeUtf8_inj isSpace)
open Text.JsonDecoder (isBlank loads rawDecode rawDecode_append rawDecode_cut)

structure ObjectText where
  text : List Char
  members : Message
  decodes : rawDecode text = some (.object members, [])
  bare : strip text = text
  flat : '\n' ∉ text

structure Line where
  before : List Char
  object : Option ObjectText
  after : List Char
  blankBefore : ∀ char ∈ before, isSpace char = true ∧ char ≠ '\n'
  blankAfter : ∀ char ∈ after, isSpace char = true ∧ char ≠ '\n'

namespace Line

def content (line : Line) : List Char := (line.object.map ObjectText.text).getD []

def text (line : Line) : List Char := line.before ++ (line.content ++ line.after)

def message? (line : Line) : Option Message := line.object.map ObjectText.members

end Line

def moreLines (lines : List Line) : List Char := lines.flatMap fun line => '\n' :: line.text

def streamText (first : Line) (others : List Line) : List Char := first.text ++ moreLines others

def messages (lines : List Line) : List Message := lines.filterMap Line.message?

theorem messages_cons (line : Line) (lines : List Line) :
  messages (line :: lines) = line.message?.toList ++ messages lines := by
  rw [messages, filterMap_cons]
  cases line.message? <;> rfl

def Blank (text : List Char) : Prop := ∀ char ∈ text, isSpace char = true

variable {text blank : List Char}

theorem lstrip_eq_nil : lstrip text = [] ↔ Blank text := dropWhile_eq_nil_iff

theorem lstrip_append_of_blank (isBlank : Blank blank) (text : List Char) :
  lstrip (blank ++ text) = lstrip text := by
  unfold lstrip
  rw [dropWhile_append, dropWhile_eq_nil_iff.mpr isBlank]
  rfl

variable {other : List Char}

theorem lstrip_append_congr (same : lstrip text = lstrip other)
  (more : List Char) : lstrip (text ++ more) = lstrip (other ++ more) := by
  unfold lstrip at same ⊢
  rw [dropWhile_append, dropWhile_append, same]

theorem strip_congr (same : lstrip text = lstrip other) : strip text = strip other := by
  rw [strip, strip, same]

theorem rdropWhile_append_blank (text : List Char) (isBlank : Blank blank) :
  (text ++ blank).rdropWhile isSpace = text.rdropWhile isSpace := by
  have behind : blank.reverse.dropWhile isSpace = [] :=
    dropWhile_eq_nil_iff.mpr fun char member => isBlank char (mem_reverse.mp member)
  rw [List.rdropWhile, List.rdropWhile, reverse_append, dropWhile_append, behind]
  rfl

namespace ObjectText

variable (object : ObjectText)

theorem ne_nil : object.text ≠ [] := by
  intro empty
  have decodes := object.decodes
  rw [empty] at decodes
  cases decodes

theorem lstrip_text : lstrip object.text = object.text := by
  have short : (strip object.text).length ≤ (lstrip object.text).length :=
    ( rdropWhile_prefix isSpace _).length_le
  rw [object.bare] at short
  exact (dropWhile_suffix isSpace).eq_of_length_le short

theorem head_visible {char : Char} {rest : List Char} (shape : object.text = char :: rest) :
  isSpace char = false := by
  have stripped := object.lstrip_text
  rw [shape, lstrip, dropWhile_cons] at stripped
  split at stripped
  case isTrue blank =>
    have shorter := (dropWhile_suffix (l := rest) isSpace).length_le
    rw [stripped, length_cons] at shorter
    omega
  case isFalse visible => exact Bool.eq_false_iff.mpr visible

theorem lstrip_start {start rest more : List Char} (shape : object.text = start ++ rest)
  (started : start ≠ []) : lstrip (start ++ more) = start ++ more := by
  cases start with
  | nil => exact absurd rfl started
  | cons char tail =>
    have visible : isSpace char = false := object.head_visible shape
    rw [lstrip, cons_append, dropWhile_cons, visible]
    rfl

theorem strip_append {blank : List Char} (isBlank : Blank blank) :
  strip (object.text ++ blank) = object.text := by
  rw [strip, object.lstrip_start (append_nil _).symm object.ne_nil,
    rdropWhile_append_blank _ isBlank]
  have bare := object.bare
  rw [strip, object.lstrip_text] at bare
  exact bare

theorem loads_text : loads object.text = some (.object object.members) := by
  have unblanked : object.text.dropWhile isBlank = object.text := by
    cases shape : object.text with
    | nil => rfl
    | cons char rest =>
      have visible := object.head_visible shape
      have unblank : isBlank char = false := by
        rw [Bool.eq_false_iff]
        intro blank
        simp only [isBlank, Bool.or_eq_true, decide_eq_true_eq] at blank
        rcases blank with ((rfl | rfl) | rfl) | rfl <;> revert visible <;> decide
      rw [dropWhile_cons, unblank]
      rfl
  rw [loads, unblanked, object.decodes]
  rfl

end ObjectText

theorem parseLine_of_blank (blank : lstrip text = []) : parseLine text = none := by
  have stripped : strip text = [] := by
    rw [strip, blank, rdropWhile_nil]
  rw [parseLine, if_pos stripped]

theorem parseLine_of_line {line : Line} (same : lstrip text = lstrip line.text) : parseLine text = line.message? := by
  have before : Blank line.before := fun char member => (line.blankBefore char member).1
  have after : Blank line.after := fun char member => (line.blankAfter char member).1
  rw [Line.text, lstrip_append_of_blank before] at same
  cases held : line.object with
  | none =>
    rw [Line.content, held] at same
    rw [Line.message?, held]
    exact parseLine_of_blank (same.trans (lstrip_eq_nil.mpr after))
  | some object =>
    rw [Line.content, held] at same
    have stripped : strip text = object.text := (strip_congr same).trans (object.strip_append after)
    rw [parseLine, stripped, if_neg object.ne_nil, object.loads_text, Line.message?, held]
    rfl

theorem takeLines_plain (flat : '\n' ∉ text) : takeLines text = ([], text) := by
  induction text with
  | nil => rfl
  | cons char rest ih =>
    rw [mem_cons, not_or] at flat
    rw [takeLines, ih flat.2]
    exact if_neg (Ne.symm flat.1)

theorem takeLines_line {line : List Char} (flat : '\n' ∉ line) (rest : List Char) :
  takeLines (line ++ '\n' :: rest) = (line :: (takeLines rest).1, (takeLines rest).2) := by
  induction line with
  | nil =>
    rw [nil_append, takeLines]
    exact if_pos rfl
  | cons char tail ih =>
    rw [mem_cons, not_or] at flat
    rw [cons_append, takeLines, ih flat.2]
    exact if_neg (Ne.symm flat.1)

theorem Line.flat (line : Line) : '\n' ∉ line.text := by
  intro member
  rw [Line.text, mem_append, mem_append] at member
  rcases member with before | content | after
  · exact (line.blankBefore _ before).2 rfl
  · cases held : line.object with
    | none =>
      rw [Line.content, held] at content
      cases content
    | some object =>
      rw [Line.content, held] at content
      exact object.flat content
  exact (line.blankAfter _ after).2 rfl

theorem parseCompletePrefixes_of_blank (blank : lstrip text = []) :
  parseCompletePrefixes text = ([], []) := by
  rw [parseCompletePrefixes, parsePrefixes, if_pos blank]

theorem parseCompletePrefixes_of_cut {start : List Char} (stripped : lstrip text = start)
  (started : start ≠ []) (cut : rawDecode start = none) :
  parseCompletePrefixes text = ([], text) := by
  rw [parseCompletePrefixes, parsePrefixes, stripped, if_neg started, cut]

theorem parseCompletePrefixes_of_object {object : ObjectText}
  (stripped : lstrip text = object.text ++ blank) (isBlank : Blank blank) :
  parseCompletePrefixes text = ([object.members], []) := by
  have started : object.text ++ blank ≠ [] := fun empty =>
    object.ne_nil (append_eq_nil_iff.mp empty).1
  have long : 0 < text.length := by
    have shorter : (lstrip text).length ≤ text.length := (dropWhile_suffix isSpace).length_le
    rw [stripped] at shorter
    exact Nat.lt_of_lt_of_le (length_pos_iff.mpr started) shorter
  have decodes := rawDecode_append object.decodes blank
  rw [nil_append] at decodes
  obtain ⟨rounds, count⟩ : ∃ rounds, text.length = rounds + 1 :=
    Nat.exists_eq_succ_of_ne_zero (Nat.pos_iff_ne_zero.mp long)
  rw [parseCompletePrefixes, count, parsePrefixes, stripped, if_neg started, decodes]
  dsimp only
  rw [parsePrefixes, if_pos (lstrip_eq_nil.mpr isBlank)]
  rfl

/-- What the buffer holds of the line of which `consumed` was read, and what is still due. -/
inductive Pending (line : Line) : List Char → List Char → List Message → Prop
  | waiting {consumed buffer : List Char} (same : lstrip buffer = lstrip consumed)
      (incomplete : ∀ object ∈ line.object, ¬ (line.before ++ object.text) <+: consumed) :
      Pending line consumed buffer line.message?.toList
  | past {consumed buffer rest : List Char} {object : ObjectText}
      (held : line.object = some object)
      (complete : consumed = line.before ++ (object.text ++ rest)) (blank : lstrip buffer = []) :
      Pending line consumed buffer []

section

variable {line : Line} {consumed buffer rest : List Char} {due : List Message}

theorem Pending.begin (line : Line) : Pending line [] [] line.message?.toList := by
  apply Pending.waiting rfl
  intro object _ begun
  have empty := append_eq_nil_iff.mp (prefix_nil.mp begun)
  exact object.ne_nil empty.2

variable {more : List Char}

theorem past_rest {object : ObjectText} (held : line.object = some object)
  (whole : line.text = line.before ++ (object.text ++ rest) ++ more) :
  line.after = rest ++ more := by
  rw [Line.text, Line.content, held, append_assoc, append_assoc] at whole
  exact append_cancel_left (append_cancel_left whole)

theorem parseLine_pending (pending : Pending line consumed buffer due)
  (whole : line.text = consumed ++ rest) : (parseLine (buffer ++ rest)).toList = due := by
  cases pending with
  | waiting same incomplete =>
    have read : lstrip (buffer ++ rest) = lstrip line.text := by
      rw [whole]
      exact lstrip_append_congr same rest
    rw [parseLine_of_line read]
  | past held complete blank =>
    rw [complete] at whole
    have after := past_rest held whole
    have restBlank : Blank rest := by
      intro char member
      apply (line.blankAfter char _).1
      rw [after]
      exact mem_append_right _ member
    rw [parseLine_of_blank]
    · rfl
    rw [lstrip_append_congr (blank.trans rfl : lstrip buffer = lstrip []) rest]
    exact lstrip_eq_nil.mpr restBlank

theorem consumed_cases (whole : line.text = consumed ++ rest) : (lstrip consumed = [] ∧
  ∀ object ∈ line.object, ¬ (line.before ++ object.text) <+: consumed) ∨
  (∃ object start cut, line.object = some object ∧ consumed = line.before ++ start ∧
  object.text = start ++ cut ∧ start ≠ [] ∧ cut ≠ []) ∨
  ∃ object blank, line.object = some object ∧
  consumed = line.before ++ (object.text ++ blank) ∧ line.after = blank ++ rest := by
  have before : Blank line.before := fun char member => (line.blankBefore char member).1
  have after : Blank line.after := fun char member => (line.blankAfter char member).1
  cases held : line.object with
  | none =>
    refine .inl ⟨lstrip_eq_nil.mpr ?_, fun object same => (nomatch same)⟩
    intro char member
    have inLine : char ∈ line.text := by
      rw [whole]
      exact mem_append_left _ member
    rw [Line.text, Line.content, held] at inLine
    rcases mem_append.mp inLine with front | back
    · exact before char front
    exact after char back
  | some object =>
    rw [Line.text, Line.content, held] at whole
    have positive := length_pos_iff.mpr object.ne_nil
    rcases append_eq_append_iff.mp whole with ⟨start, read, tail⟩ | ⟨left, front, _⟩
    · -- the text before the object is read
      rcases append_eq_append_iff.mp tail with ⟨blank, all, behind⟩ | ⟨cut, part, last⟩
      · refine .inr (.inr ⟨object, blank, rfl, ?_, behind⟩)
        rw [read, all]
        rfl
      by_cases unread : start = []
      · subst unread
        rw [append_nil] at read
        refine .inl ⟨?_, ?_⟩
        · rw [read]
          exact lstrip_eq_nil.mpr before
        intro other same begun
        cases same
        have short := begun.length_le
        rw [read, length_append] at short
        omega
      by_cases uncut : cut = []
      · subst uncut
        refine .inr (.inr ⟨object, [], rfl, ?_, ?_⟩)
        · rw [read]
          rw [append_nil] at part
          rw [append_nil, ← part]
          rfl
        exact last.symm
      exact .inr (.inl ⟨object, start, cut, rfl, read, part, unread, uncut⟩)
    -- there is more before the object
    refine .inl ⟨lstrip_eq_nil.mpr ?_, ?_⟩
    · intro char member
      apply before char
      rw [front]
      exact mem_append_left _ member
    intro other same begun
    cases same
    have short := begun.length_le
    rw [front, length_append, length_append] at short
    omega

theorem prefixes_pending (pending : Pending line consumed buffer due)
  (whole : line.text = consumed ++ more ++ rest) :
  ∃ parsed remaining later, parseCompletePrefixes (buffer ++ more) = (parsed, remaining) ∧
    (remaining = [] ∨ remaining = buffer ++ more) ∧
    Pending line (consumed ++ more) remaining later ∧ due = parsed ++ later := by
  cases pending with
  | @past passed object held complete blank =>
    rw [complete, append_assoc] at whole
    have after := past_rest held whole
    have moreBlank : Blank more := by
      intro char member
      apply (line.blankAfter char _).1
      rw [after]
      exact mem_append_right _ (mem_append_left _ member)
    have stripped : lstrip (buffer ++ more) = [] :=
      (lstrip_append_congr (blank.trans rfl : lstrip buffer = lstrip []) more).trans
        (lstrip_eq_nil.mpr moreBlank)
    have read : consumed ++ more = line.before ++ (object.text ++ (passed ++ more)) := by
      rw [complete, append_assoc, append_assoc]
    exact ⟨[], [], [], parseCompletePrefixes_of_blank stripped, .inl rfl,
      Pending.past held read rfl, rfl⟩
  | waiting same incomplete =>
    have stripped : lstrip (buffer ++ more) = lstrip (consumed ++ more) :=
      lstrip_append_congr same more
    rcases consumed_cases whole with ⟨blank, still⟩ |
      ⟨object, start, cut, held, read, part, started, cutShort⟩ |
      ⟨object, blank, held, read, after⟩
    · rw [blank] at stripped
      exact ⟨[], [], _, parseCompletePrefixes_of_blank stripped, .inl rfl,
        Pending.waiting blank.symm still, rfl⟩
    · have before : Blank line.before := fun char member => (line.blankBefore char member).1
      have visible : lstrip (consumed ++ more) = start := by
        rw [read, lstrip_append_of_blank before]
        have bare : lstrip (start ++ []) = start ++ [] := object.lstrip_start part started
        rwa [append_nil] at bare
      have undecoded : rawDecode start = none := by
        have decodes := object.decodes
        rw [part] at decodes
        exact rawDecode_cut decodes cutShort started
      refine ⟨[], buffer ++ more, _,
        parseCompletePrefixes_of_cut (stripped.trans visible) started undecoded, .inr rfl,
        Pending.waiting stripped ?_, rfl⟩
      intro other same' begun
      rw [held] at same'
      cases same'
      have short := begun.length_le
      have positive := length_pos_iff.mpr cutShort
      rw [read, part, length_append, length_append, length_append] at short
      omega
    have before : Blank line.before := fun char member => (line.blankBefore char member).1
    have restBlank : Blank blank := by
      intro char member
      apply (line.blankAfter char _).1
      rw [after]
      exact mem_append_left _ member
    have visible : lstrip (consumed ++ more) = object.text ++ blank := by
      rw [read, lstrip_append_of_blank before]
      exact object.lstrip_start (append_nil _).symm object.ne_nil
    refine ⟨[object.members], [], [],
      parseCompletePrefixes_of_object (stripped.trans visible) restBlank, .inl rfl,
      Pending.past held read rfl, ?_⟩
    rw [Line.message?, held]
    rfl

end

theorem takeLines_pending (others : List Line) :
  ∀ (line : Line) (consumed rest buffer : List Char) (due : List Message)
    (chunk later : List Char),
    Pending line consumed buffer due → '\n' ∉ buffer → line.text = consumed ++ rest →
    chunk ++ later = rest ++ moreLines others →
    ∃ lines line' consumed' buffer' more rest' due' others',
    takeLines (buffer ++ chunk) = (lines, buffer' ++ more) ∧
    Pending line' consumed' buffer' due' ∧ '\n' ∉ buffer' ++ more ∧
    line'.text = consumed' ++ more ++ rest' ∧ later = rest' ++ moreLines others' ∧
    due ++ messages others =
    lines.filterMap parseLine ++ (due' ++ messages others') := by
  induction others with
  | nil =>
    intro line consumed rest buffer due chunk later pending flat whole split
    rw [moreLines, flatMap_nil, append_nil] at split
    rw [← split, ← append_assoc] at whole
    have flatAll : '\n' ∉ buffer ++ chunk := by
      intro member
      cases mem_append.mp member with
      | inl old => exact flat old
      | inr new =>
        apply line.flat
        rw [whole]
        exact mem_append_left _ (mem_append_right _ new)
    exact ⟨[], line, consumed, buffer, chunk, later, due, [], takeLines_plain flatAll, pending,
      flatAll, whole, (append_nil _).symm, rfl⟩
  | cons next others ih =>
    intro line consumed rest buffer due chunk later pending flat whole split
    have within : ∀ part : List Char, part <+: rest → '\n' ∉ buffer ++ part := by
      intro part front member
      cases mem_append.mp member with
      | inl old => exact flat old
      | inr new =>
        apply line.flat
        rw [whole]
        exact mem_append_right _ (front.subset new)
    cases append_eq_append_iff.mp split with
    | inl inside =>
      -- the chunk ends in this line
      obtain ⟨cut, part, tail⟩ := inside
      have flatAll := within chunk ⟨cut, part.symm⟩
      refine ⟨[], line, consumed, buffer, chunk, cut, due, next :: others,
        takeLines_plain flatAll, pending, flatAll, ?_, tail, rfl⟩
      rw [whole, part, append_assoc]
    | inr beyond =>
      obtain ⟨cut, read, tail⟩ := beyond
      cases cut with
      | nil =>
        rw [append_nil] at read
        have flatAll := within chunk ⟨[], by rw [append_nil, read]⟩
        refine ⟨[], line, consumed, buffer, chunk, [], due, next :: others,
          takeLines_plain flatAll, pending, flatAll, ?_, tail.symm, rfl⟩
        rw [whole, read, append_nil]
      | cons char cut =>
        rw [moreLines, flatMap_cons, cons_append, cons_append, List.cons.injEq] at tail
        obtain ⟨newline, tail⟩ := tail
        obtain ⟨lines, line', consumed', buffer', more, rest', due', others', taken, pending',
          flat', whole', later', yields⟩ :=
          ih next [] next.text [] next.message?.toList cut later (Pending.begin next)
            not_mem_nil (nil_append _).symm tail.symm
        rw [nil_append] at taken
        refine ⟨(buffer ++ rest) :: lines, line', consumed', buffer', more, rest', due',
          others', ?_, pending', flat', whole', later', ?_⟩
        · rw [read, ← newline, ← append_assoc,
            takeLines_line (within rest (prefix_refl rest)), taken]
        have ended := parseLine_pending pending whole
        rw [messages_cons, yields, ← ended, filterMap_cons]
        cases parseLine (buffer ++ rest) <;> rfl

theorem feed_pending {line : Line} {consumed rest buffer : List Char} {due : List Message}
  {chunk later : List Char} {others : List Line} (pending : Pending line consumed buffer due)
  (flat : '\n' ∉ buffer) (whole : line.text = consumed ++ rest)
  (split : chunk ++ later = rest ++ moreLines others) :
  ∃ line' consumed' rest' due' others',
    Pending line' consumed' (feed buffer (encodeUtf8 chunk)).2 due' ∧
    '\n' ∉ (feed buffer (encodeUtf8 chunk)).2 ∧ line'.text = consumed' ++ rest' ∧
    later = rest' ++ moreLines others' ∧ due ++ messages others =
    (feed buffer (encodeUtf8 chunk)).1 ++ (due' ++ messages others') := by
  obtain ⟨lines, line', consumed', buffer', more, rest', due', others', taken, pending', flat',
    whole', later', yields⟩ :=
    takeLines_pending others line consumed rest buffer due chunk later pending flat whole split
  obtain ⟨parsed, remaining, last, prefixes, kept, pending'', rest''⟩ :=
    prefixes_pending pending' whole'
  have fed : feed buffer (encodeUtf8 chunk) = (lines.filterMap parseLine ++ parsed, remaining) := by
    rw [feed, decodeUtf8_encode, taken]
    dsimp only
    rw [prefixes]
  rw [fed]
  refine ⟨line', consumed' ++ more, rest', last, others', pending'', ?_, whole', later', ?_⟩
  · cases kept with
    | inl empty =>
      rw [empty]
      exact not_mem_nil
    | inr same =>
      rw [same]
      exact flat'
  rw [yields, rest'', append_assoc, append_assoc]

theorem readFrom_pending (chunks : List (List Char)) :
  ∀ (line : Line) (consumed rest buffer : List Char) (due : List Message) (others : List Line),
    Pending line consumed buffer due → '\n' ∉ buffer → line.text = consumed ++ rest →
    chunks.flatten = rest ++ moreLines others →
    readFrom buffer (chunks.map encodeUtf8) = due ++ messages others := by
  induction chunks with
  | nil =>
    intro line consumed rest buffer due others pending flat whole ended
    obtain ⟨noRest, noLines⟩ := append_eq_nil_iff.mp (flatten_nil ▸ ended.symm)
    have last : others = [] := by
      cases others with
      | nil => rfl
      | cons next others => cases noLines
    subst noRest last
    have whole' : line.text = consumed ++ [] ++ [] := whole.trans (append_nil _).symm
    obtain ⟨parsed, remaining, later, prefixes, _, pending', rest'⟩ :=
      prefixes_pending pending whole'
    have final := parseLine_pending pending' whole'
    rw [append_nil] at prefixes final
    rw [map_nil, readFrom, prefixes]
    dsimp only
    rw [final, rest']
    exact (append_nil _).symm
  | cons chunk chunks ih =>
    intro line consumed rest buffer due others pending flat whole split
    obtain ⟨line', consumed', rest', due', others', pending', flat', whole', later', yields⟩ :=
      feed_pending pending flat whole split
    rw [map_cons, readFrom, yields]
    exact congrArg _ (ih line' consumed' rest' _ due' others' pending' flat' whole' later')

def Unbroken (chunks : List (List UInt8)) : Prop := ∀ chunk ∈ chunks, ∃ text, chunk = encodeUtf8 text

theorem unbroken_texts {chunks : List (List UInt8)} (unbroken : Unbroken chunks) :
  ∃ texts : List (List Char), chunks = texts.map encodeUtf8 := by
  induction chunks with
  | nil => exact ⟨[], rfl⟩
  | cons chunk chunks ih =>
    obtain ⟨text, encoded⟩ := unbroken chunk mem_cons_self
    obtain ⟨texts, others⟩ := ih fun other member => unbroken other (mem_cons_of_mem _ member)
    exact ⟨text :: texts, by rw [map_cons, encoded, others]⟩

theorem flatten_encode (texts : List (List Char)) :
  (texts.map encodeUtf8).flatten = encodeUtf8 texts.flatten := by
  induction texts with
  | nil => rfl
  | cons text texts ih => rw [map_cons, flatten_cons, ih, flatten_cons, encodeUtf8_append]

/-- A stream whose chunks end between characters yields exactly its objects, in order, however it
is cut. -/
theorem readMessages_unbroken (first : Line) (others : List Line) (chunks : List (List UInt8))
  (exitCode : Int) (whole : chunks.flatten = encodeUtf8 (streamText first others))
  (unbroken : Unbroken chunks) : (readMessages chunks exitCode).1 = messages (first :: others) := by
  obtain ⟨texts, encoded⟩ := unbroken_texts unbroken
  rw [encoded, flatten_encode] at whole
  have text : texts.flatten = first.text ++ moreLines others := encodeUtf8_inj whole
  have yields := readFrom_pending texts first [] first.text [] first.message?.toList others
    (Pending.begin first) not_mem_nil (nil_append _).symm text
  rw [readMessages, encoded, yields, messages_cons]

def accented : ObjectText where
  text := "\x7b\"a\":\"é\"\x7d".toList
  members := [([0x61], .string [0xE9])]
  decodes := rfl
  bare := by decide
  flat := by decide

def accentedLine : Line where
  before := []
  object := some accented
  after := []
  blankBefore := fun _ member => (nomatch member)
  blankAfter := fun _ member => (nomatch member)

def emptyLine : Line where
  before := []
  object := none
  after := []
  blankBefore := fun _ member => (nomatch member)
  blankAfter := fun _ member => (nomatch member)

def characterwise : List (List UInt8) :=
  (streamText accentedLine [emptyLine]).map fun char => encodeUtf8 [char]

theorem readMessages_characterwise :
  (readMessages characterwise 0).1 = messages [accentedLine, emptyLine] := by
  apply readMessages_unbroken
  · decide +kernel
  intro chunk member
  obtain ⟨char, _, encoded⟩ := mem_map.mp member
  exact ⟨[char], encoded.symm⟩

def cutInside : List (List UInt8) :=
  [encodeUtf8 "\x7b\"a\":\"".toList ++ [0xC3], 0xA9 :: encodeUtf8 "\"\x7d\n".toList]

def points (yielded : List Message) : List (List Nat) :=
  yielded.flatMap fun message => message.filterMap fun member =>
    match member.2 with
    | .string points => some points
    | _ => none

theorem cut_character_changes_message :
  ¬ ∀ (first : Line) (others : List Line) (chunks : List (List UInt8)) (exitCode : Int),
    chunks.flatten = encodeUtf8 (streamText first others) →
    (readMessages chunks exitCode).1 = messages (first :: others) := by
  intro always
  have same := always accentedLine [emptyLine] cutInside 0 (by decide +kernel)
  have texts := congrArg points same
  revert texts
  decide +kernel

end AgentHarness.Runtime.DaytonaClaudeTransport
