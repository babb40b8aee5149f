import AgentHarness.Text.Replacing
import AgentHarness.Text.Json

/-!
The file tools that run inside the sandbox. A UTF-8 file is the text that its bytes spell.
-/

namespace AgentHarness.Runtime.RemoteFiles

open List Text

def maxArgumentChars : Nat := 512 * 1024

def maxOutputChars : Nat := 256 * 1024

/-- `print("\n".join(lines))`. -/
def printed (lines : List (List Char)) : List Char := ['\n'].intercalate lines ++ ['\n']

inductive Operation where
  | read (offset limit : Option Int)
  | write (content : List Char)
  | edit (oldString newString : List Char) (all : Bool)

inductive Reply where
  | shown (output : List Char)
  | written (bytes : Nat)
  | edited (replacements : Nat)

def read (file : List Char) (offset limit : Option Int) : List Char :=
  let first := (max 0 (offset.getD 0)).toNat
  let most := (max 1 (min 10000 (limit.getD 2000))).toNat
  printed (((splitlines (translate file)).drop first).take most)

def edit (file oldString newString : List Char) (all : Bool) : Except String (Nat × List Char) :=
  let content := translate file
  let count := occurrences oldString content
  if count = 0 then .error "old_string was not found"
  else if 1 < count ∧ all = false then .error "old_string is not unique; set replace_all=true"
  else if all then .ok (count, replaceAll oldString newString content)
  else .ok (1, replaceFirst oldString newString content)

def run (file : List Char) : Operation → Except String Reply × List Char
  | .read offset limit => (.ok (.shown (read file offset limit)), file)
  | .write content => (.ok (.written (String.ofList content).utf8ByteSize), content)
  | .edit oldString newString all =>
    match edit file oldString newString all with
    | .error error => (.error error, file)
    | .ok (count, updated) => (.ok (.edited count), updated)

def handler (encoded : List Char) (operation : Operation) (file : List Char) :
  Except String Reply × List Char :=
  if maxArgumentChars < encoded.length then
    (.error "tool arguments exceed the sandbox proxy limit", file)
  else run file operation

def report (path key : String) (count : Nat) : List Char :=
  "\x7b\"path\": ".toList ++ quote path ++ ", ".toList ++ quote key ++ ": ".toList ++
    (toString count).toList ++ "\x7d\n".toList

def Reply.text (path : String) : Reply → List Char
  | .shown output => output.take maxOutputChars
  | .written bytes => (report path "bytes" bytes).take maxOutputChars
  | .edited replacements => (report path "replacements" replacements).take maxOutputChars

/-- An edit fails and leaves the file, or replaces what occurs in it and nothing else. -/
def EditsExactly (encoded file oldString newString : List Char) (all : Bool) : Prop :=
  match handler encoded (.edit oldString newString all) file with
  | (.error _, after) => after = file
  | (.ok reply, after) => reply = .edited (occurrences oldString file) ∧
    after = replaceAll oldString newString file

/-- A read with room for every line shows the lines of what was written. -/
def ReadsBack (path : String) (encoded file content : List Char) : Prop :=
  match handler encoded (.write content) file with
  | (.error _, after) => after = file
  | (.ok _, after) => ∀ limit : Nat, (splitlines content).length ≤ limit →
    (Reply.shown (read after none (some limit))).text path = printed (splitlines content)

variable {file oldString newString encoded content : List Char} {all : Bool}

theorem edit_accepted (found : occurrences oldString (translate file) ≠ 0)
  (allowed : ¬ (1 < occurrences oldString (translate file) ∧ all = false)) :
  edit file oldString newString all = .ok (occurrences oldString (translate file),
    replaceAll oldString newString (translate file)) := by
  cases all with
  | true => simp [edit, found]
  | false =>
    have once : occurrences oldString (translate file) = 1 := by
      have few : ¬ 1 < occurrences oldString (translate file) := fun many => allowed ⟨many, rfl⟩
      omega
    simp [edit, once, replaceFirst_once once]

theorem returns_none (found : occurrences oldString (translate file) ≠ 0)
  (counted : occurrences oldString (translate file) = occurrences oldString file)
  (same : replaceAll oldString newString (translate file) = replaceAll oldString newString file) :
  '\r' ∉ file := by
  have none : (translate file).countP (· == '\r') = 0 := by
    rw [← count_eq_countP]
    exact count_eq_zero.mpr (not_mem_translate file)
  have removed := countP_replaceAll (· == '\r') oldString [] (translate file)
  have read := countP_replaceAll (· == '\r') oldString newString (translate file)
  have kept := countP_replaceAll (· == '\r') oldString newString file
  rw [none, countP_nil, Nat.mul_zero] at removed
  have absent : oldString.countP (· == '\r') = 0 :=
    (Nat.mul_eq_zero.mp (by omega)).resolve_left found
  rw [← same, ← counted, absent] at kept
  have plain : file.countP (· == '\r') = 0 := by omega
  exact count_eq_zero.mp plain

theorem printed_take_lt {lines : List (List Char)} {most : Nat} (some : 0 < most)
  (many : most < lines.length) : (printed (lines.take most)).length < (printed lines).length := by
  have length := countP_intercalate (fun _ => true) ['\n']
  simp only [countP_true, length_singleton, Nat.mul_one] at length
  have parts := congrArg sum (congrArg (map List.length) (take_append_drop most lines))
  rw [map_append, sum_append] at parts
  simp only [printed, length_append, length, length_take]
  have shorter : min most lines.length = most := Nat.min_eq_left (Nat.le_of_lt many)
  omega

theorem editsExactly_iff : EditsExactly encoded file oldString newString all ↔
  maxArgumentChars < encoded.length ∨ occurrences oldString (translate file) = 0 ∨
    (1 < occurrences oldString (translate file) ∧ all = false) ∨ '\r' ∉ file := by
  unfold EditsExactly handler
  by_cases long : maxArgumentChars < encoded.length
  · simp [long]
  by_cases found : occurrences oldString (translate file) = 0
  · simp [long, run, edit, found]
  by_cases unclear : 1 < occurrences oldString (translate file) ∧ all = false
  · simp [long, run, edit, found, unclear]
  simp only [long, found, unclear, if_false, run, edit_accepted found unclear, false_or]
  constructor
  · rintro ⟨counted, same⟩
    exact returns_none found (Reply.edited.inj counted) same
  intro plain
  rw [translate_plain plain]
  exact ⟨rfl, rfl⟩

theorem readsBack_iff (path : String) : ReadsBack path encoded file content ↔
  maxArgumentChars < encoded.length ∨ (splitlines content).length ≤ 10000 ∧
    (printed (splitlines content)).length ≤ maxOutputChars := by
  unfold ReadsBack handler
  by_cases long : maxArgumentChars < encoded.length
  · simp [long]
  simp only [long, if_false, run, Reply.text, read, false_or, splitlines_translate, drop_zero,
    Option.getD_none, Option.getD_some, Int.max_self, Int.toNat_zero]
  constructor
  · intro shows
    have whole := congrArg List.length (shows _ (Nat.le_refl _))
    rw [length_take] at whole
    have fits : (splitlines content).length ≤ 10000 := by
      by_contra many
      have shorter := printed_take_lt (by decide : 0 < 10000) (Nat.lt_of_not_le many)
      rw [show (max 1 (min 10000 ((splitlines content).length : Int))).toNat = 10000 by omega]
        at whole
      omega
    rw [show (splitlines content).take _ = splitlines content from take_of_length_le (by omega)]
      at whole
    exact ⟨fits, by omega⟩
  rintro ⟨fits, short⟩ limit room
  rw [show (splitlines content).take _ = splitlines content from take_of_length_le (by omega),
    take_of_length_le short]

/-- An edit is exact in a file without carriage returns, and a text is read back for which a
reply has room. -/
theorem files_exact_iff (path : String) (encoded file oldString newString content : List Char)
  (all : Bool) :
  (EditsExactly encoded file oldString newString all ↔
    maxArgumentChars < encoded.length ∨ occurrences oldString (translate file) = 0 ∨
      (1 < occurrences oldString (translate file) ∧ all = false) ∨ '\r' ∉ file) ∧
  (ReadsBack path encoded file content ↔
    maxArgumentChars < encoded.length ∨ (splitlines content).length ≤ 10000 ∧
      (printed (splitlines content)).length ≤ maxOutputChars) :=
  ⟨editsExactly_iff, readsBack_iff path⟩

def editing : List Char :=
  "\x7b\"file_path\":\"a.txt\",\"old_string\":\"two\",\"new_string\":\"2\"\x7d".toList

theorem windows_lines_lost : ¬ EditsExactly editing "one\r\ntwo\r\n".toList "two".toList
  "2".toList false ∧ (handler editing (.edit "two".toList "2".toList false)
    "one\r\ntwo\r\n".toList).2 = "one\n2\n".toList := by
  have written : handler editing (.edit "two".toList "2".toList false) "one\r\ntwo\r\n".toList =
    (.ok (.edited 1), "one\n2\n".toList) := rfl
  rw [written]
  exact ⟨fun exactly => absurd exactly.2 (by decide), rfl⟩

end AgentHarness.Runtime.RemoteFiles
