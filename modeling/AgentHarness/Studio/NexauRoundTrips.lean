import AgentHarness.Studio.NexauExport
import Mathlib.Logic.Function.Iterate

/-!
The function of a custom Python tool, through NexAU exports and imports.
-/

namespace AgentHarness.Studio.NexauRoundTrips

open Function Option
open NexauExport (rstrip strip)

/-- The names of `_NEXAU_BUILTINS`. -/
def nexauBuiltins : List String :=
  ["read_file", "read_visual_file", "write_file", "list_directory", "search_file_content",
    "replace", "run_shell_command"]

def pythonKeywords : List String :=
  ["and", "as", "assert", "async", "await", "break", "class", "continue", "def", "del", "elif",
    "else", "except", "finally", "for", "from", "global", "if", "import", "in", "is", "lambda",
    "nonlocal", "not", "or", "pass", "raise", "return", "try", "while", "with", "yield"]

def isNameChar (char : Char) : Bool := char.isLower || char.isDigit

/-- `^[a-z][a-z0-9_]*$`. -/
def namePattern : List Char → Bool
  | [] => false
  | first :: rest => first.isLower && rest.all fun char => isNameChar char || char = '_'

/-- A tool as it was written: its text up to trailing white space, and what the text binds when it
is executed. -/
structure PythonTool (Object : Type) where
  (name code : String)
  globals : String → Option Object
  named : namePattern name.toList = true

/-- `target = source`, and a function that hands its arguments to its callee: with `keywords`
`def function(**arguments): return callee(arguments)`, else the other way round. -/
inductive Statement
  | assign (target source : String)
  | define (function : String) (keywords : Bool) (callee : String)

def Statement.text : Statement → String
  | .assign target source => "\n\n" ++ target ++ " = " ++ source
  | .define function keywords callee =>
    let (parameter, argument) :=
      if keywords then ("**arguments", "arguments") else ("arguments", "**arguments")
    "\n\ndef " ++ function ++ "(" ++ parameter ++ "):\n    return " ++ callee ++ "(" ++
      argument ++ ")"

structure Stage where
  name : String
  appended : List Statement

/-- `re.sub(r"[^a-z0-9]+", "_", text)`, in such a run or not. -/
def collapse : Bool → List Char → List Char
  | _, [] => []
  | inRun, char :: rest =>
    if isNameChar char then char :: collapse false rest
    else if inRun then collapse true rest
    else '_' :: collapse true rest

/-- `_safe_name(value, separator="_")`. -/
def safeName (value : String) : String :=
  let normalized := strip (collapse false value.toLower.toList)
  String.ofList <|
    if normalized.head?.any Char.isAlpha then normalized
    else rstrip ("imported_".toList ++ normalized)

def studioRun : String := "_NEXAU_STUDIO_RUN"

def boundTool : String := "_NEXAU_BOUND_TOOL"

/-- `_python_module`, and the wrapper of the import. -/
def convert (stage : Stage) : Stage where
  name := safeName stage.name
  appended := stage.appended ++ [.assign studioRun "run", .define stage.name true studioRun,
      .assign boundTool stage.name, .define "run" false boundTool]

def Stage.text (code : String) (stage : Stage) : String :=
  stage.appended.foldl (fun text statement => text ++ statement.text) code ++ "\n"

def maxCodeLength : Nat := 1024 * 1024

def roundTrip (code : String) (stage : Stage) : Option Stage :=
  if stage.name ∈ nexauBuiltins ∨ maxCodeLength < ((convert stage).text code).length then none
  else some (convert stage)

def roundTrips (code : String) : Nat → Stage → Option Stage
  | 0, stage => some stage
  | n + 1, stage => (roundTrip code stage).bind (roundTrips code n)

inductive Binding (Object : Type)
  | own (object : Object)
  | wrapper (keywords : Bool) (callee : String)

abbrev Globals (Object : Type) := String → Option (Binding Object)

inductive Call (Value : Type)
  | positional (members : List (String × Value))
  | keywords (members : List (String × Value))

variable {Object Value : Type} {globals : Globals Object} {stage : Stage} {n : Nat}
  {members : List (String × Value)} {value : Value}

def exec (globals : Globals Object) : Statement → Option (Globals Object)
  | .assign target source => (globals source).map fun bound => update globals target (some bound)
  | .define function keywords callee =>
    if function ∈ pythonKeywords then none
    else some (update globals function (some (.wrapper keywords callee)))

def moduleOf (tool : PythonTool Object) (stage : Stage) : Option (Globals Object) :=
  stage.appended.foldlM exec fun name => (tool.globals name).map .own

-- `execute` is what an object of the tool's code returns, in a module that binds these globals.
variable (execute : Globals Object → Object → Call Value → Option Value)

def call (globals : Globals Object) : Nat → Binding Object → Call Value → Option Value
  | _, .own object, passed => execute globals object passed
  | fuel + 1, .wrapper true callee, .keywords members =>
    (globals callee).bind fun function => call globals fuel function (.positional members)
  | fuel + 1, .wrapper false callee, .positional members =>
    (globals callee).bind fun function => call globals fuel function (.keywords members)
  | _, _, _ => none

variable (tool : PythonTool Object)

def Returns (stage : Stage) (members : List (String × Value)) (value : Value) : Prop :=
  ∃ globals run fuel, moduleOf tool stage = some globals ∧ globals "run" = some run ∧
    call execute globals fuel run (.positional members) = some value

def PythonTool.start : Stage := ⟨tool.name, []⟩

def Keeps (n : Nat) : Prop := ∃ after, roundTrips tool.code n tool.start = some after ∧
  ∀ members value,
    Returns execute tool after members value ↔ Returns execute tool tool.start members value

def Accepted (code : String) : Nat → Stage → Prop
  | 0, _ => True
  | n + 1, stage => stage.name ∉ nexauBuiltins ∧
      ((convert stage).text code).length ≤ maxCodeLength ∧ Accepted code n (convert stage)

def rebind (name : String) (globals : Globals Object) (run : Binding Object) : Globals Object :=
  update (update (update (update globals studioRun (some run)) name
    (some (.wrapper true studioRun))) boundTool (some (.wrapper true studioRun)))
    "run" (some (.wrapper false boundTool))

def PythonTool.own : Globals Object := fun name => (tool.globals name).map .own

/-- The tool's `run` does not depend on what the wrappers bind anew. -/
def Unaffected : Prop := ∀ run, tool.globals "run" = some run → ∀ members : List (String × Value),
    execute (rebind tool.name tool.own (.own run)) run (.positional members) =
      execute tool.own run (.positional members)

def Silent : Prop := ∀ (members : List (String × Value)) value,
  ¬ Returns execute tool tool.start members value

variable {execute tool}

theorem roundTrips_eq_some {code : String} {after : Stage} :
  roundTrips code n stage = some after ↔ Accepted code n stage ∧ after = convert^[n] stage := by
  induction n generalizing stage with
  | zero => simp [roundTrips, Accepted, eq_comm]
  | succ n ih =>
    rw [roundTrips, roundTrip, Accepted, iterate_succ_apply]
    split
    case isTrue refused =>
      refine ⟨by rintro ⟨⟩, ?_⟩
      rintro ⟨⟨other, short, _⟩, _⟩
      obtain builtin | long := refused
      · exact absurd builtin other
      exact absurd long (Nat.not_lt.mpr short)
    case isFalse passed =>
      rw [not_or, Nat.not_lt] at passed
      simp [ih, passed]

theorem moduleOf_convert {after : Globals Object} :
  moduleOf tool (convert stage) = some after ↔ ∃ before, moduleOf tool stage = some before ∧
    ∃ run, stage.name ∉ pythonKeywords ∧ before "run" = some run ∧
    after = rebind stage.name before run := by
  have free : "run" ∉ pythonKeywords := by decide
  have wrapped (before : Globals Object) :
    ([.assign studioRun "run", .define stage.name true studioRun,
      .assign boundTool stage.name, .define "run" false boundTool]).foldlM exec before =
        some after ↔ ∃ run, stage.name ∉ pythonKeywords ∧ before "run" = some run ∧
      after = rebind stage.name before run := by
    cases found : before "run" with
    | none => simp [exec, found]
    | some run =>
      by_cases word : stage.name ∈ pythonKeywords
      · simp [exec, found, word]
      simp [exec, found, word, free, rebind, eq_comm]
  simp only [moduleOf, convert, List.foldlM_append, bind_eq_bind, bind_eq_some_iff, wrapped]

section Rebound

variable {name : String} {before : Globals Object} {run : Binding Object} {fuel : Nat}

theorem rebind_run : rebind name before run "run" = some (.wrapper false boundTool) :=
  update_self ..

theorem rebind_studioRun : rebind name before run studioRun =
  if name = studioRun then some (.wrapper true studioRun) else some run := by
  rw [rebind, update_of_ne (by decide), update_of_ne (by decide)]
  split
  case isTrue same => rw [same, update_self]
  case isFalse other => rw [update_of_ne (Ne.symm other), update_self]

theorem call_run : call execute (rebind name before run) (fuel + 1)
    (.wrapper false boundTool) (.positional members) =
  call execute (rebind name before run) fuel (.wrapper true studioRun) (.keywords members) := by
  rw [call, rebind, update_of_ne (by decide), update_self]
  rfl

theorem call_stuck : ∀ fuel, call execute (rebind name before (.wrapper false boundTool))
      fuel (.wrapper false boundTool) (.positional members) = none
  | 0 | 1 => rfl
  | fuel + 2 => by
    rw [call_run, call, rebind_studioRun]
    split
    · cases fuel <;> rfl
    exact call_stuck fuel

theorem call_own {run : Object} {value : Value} (other : name ≠ studioRun) :
  (∃ fuel, call execute (rebind name before (.own run)) fuel
    (.wrapper false boundTool) (.positional members) = some value) ↔
    execute (rebind name before (.own run)) run (.positional members) = some value := by
  have step (fuel : Nat) : call execute (rebind name before (.own run)) (fuel + 2)
    (.wrapper false boundTool) (.positional members) =
      execute (rebind name before (.own run)) run (.positional members) := by
    rw [call_run, call, rebind_studioRun, if_neg other, bind_some, call]
  constructor
  · rintro ⟨_ | _ | fuel, returned⟩
    · cases returned
    · rw [call_run] at returned
      cases returned
    exact (step fuel).symm.trans returned
  exact fun returned => ⟨2, (step 0).trans returned⟩

end Rebound

theorem converted_twice_silent :
  ¬ Returns execute tool (convert (convert stage)) members value := by
  rintro ⟨after, run, fuel, ran, bound, returned⟩
  obtain ⟨before, once, inner, _, found, rfl⟩ := moduleOf_convert.mp ran
  obtain ⟨_, _, _, _, _, rfl⟩ := moduleOf_convert.mp once
  cases rebind_run.symm.trans found
  cases rebind_run.symm.trans bound
  rw [call_stuck] at returned
  cases returned

theorem returns_start : Returns execute tool tool.start members value ↔
  ∃ run, tool.globals "run" = some run ∧
    execute tool.own run (.positional members) = some value := by
  constructor
  · rintro ⟨globals, run, fuel, ran, bound, returned⟩
    cases ran
    obtain ⟨own, found, rfl⟩ := map_eq_some_iff.mp bound
    rw [call] at returned
    exact ⟨own, found, returned⟩
  rintro ⟨run, found, returned⟩
  refine ⟨tool.own, .own run, 0, rfl, map_eq_some_iff.mpr ⟨run, found, rfl⟩, ?_⟩
  rw [call]
  exact returned

theorem returns_converted : Returns execute tool (convert tool.start) members value ↔
  tool.name ∉ pythonKeywords ∧ ∃ run, tool.globals "run" = some run ∧
    execute (rebind tool.name tool.own (.own run)) run (.positional members) = some value := by
  have other : tool.name ≠ studioRun := by
    intro same
    have named := tool.named
    rw [same] at named
    cases named
  constructor
  · rintro ⟨after, run, fuel, ran, bound, returned⟩
    obtain ⟨before, start, inner, plain, found, rfl⟩ := moduleOf_convert.mp ran
    cases start
    obtain ⟨own, here, rfl⟩ := map_eq_some_iff.mp found
    cases rebind_run.symm.trans bound
    exact ⟨plain, own, here, (call_own other).mp ⟨fuel, returned⟩⟩
  rintro ⟨plain, run, found, returned⟩
  obtain ⟨fuel, returned⟩ := (call_own other).mpr returned
  exact ⟨_, _, fuel, moduleOf_convert.mpr ⟨tool.own, rfl, .own run, plain,
    map_eq_some_iff.mpr ⟨run, found, rfl⟩, rfl⟩, rebind_run, returned⟩

theorem keeps_once (plain : tool.name ∉ pythonKeywords) :
  (∀ members value, Returns execute tool (convert tool.start) members value ↔
    Returns execute tool tool.start members value) ↔ Unaffected execute tool := by
  simp only [returns_converted, returns_start, plain, not_false_eq_true, true_and]
  constructor
  · intro same run found members
    apply Option.ext
    intro value
    simpa [found] using same members value
  intro same members value
  exact exists_congr fun run => and_congr_right fun found => by rw [same run found members]

/-- One round trip keeps the function unless it depends on a name that the wrappers bind anew; from
the second one on it calls itself without end. -/
theorem keeps_iff (execute : Globals Object → Object → Call Value → Option Value)
  (tool : PythonTool Object) (n : Nat) : Keeps execute tool n ↔
    n = 0 ∨ Accepted tool.code n tool.start ∧
      if n = 1 ∧ tool.name ∉ pythonKeywords then Unaffected execute tool
      else Silent execute tool := by
  have kept : Keeps execute tool n ↔ Accepted tool.code n tool.start ∧
    ∀ members value, Returns execute tool (convert^[n] tool.start) members value ↔
      Returns execute tool tool.start members value := by
    simp only [Keeps, roundTrips_eq_some]
    constructor
    · rintro ⟨_, ⟨accepted, rfl⟩, same⟩
      exact ⟨accepted, same⟩
    exact fun ⟨accepted, same⟩ => ⟨_, ⟨accepted, rfl⟩, same⟩
  rw [kept]
  match n with
  | 0 => simp [Accepted]
  | 1 =>
    by_cases plain : tool.name ∈ pythonKeywords
    · simp [plain, returns_converted, Silent]
    simp [plain, keeps_once]
  | n + 2 => simp [iterate_succ_apply', converted_twice_silent, Silent]

def counter : PythonTool Unit where
  name := "count"
  code := "def run(arguments):\n    return len(arguments)"
  globals name := if name = "run" then some () else none
  named := by decide

/-- What `counter` returns. -/
def length (_ : Globals Unit) (_ : Unit) : Call Nat → Option Nat
  | .positional members | .keywords members => some members.length

theorem counter_not_kept : ¬ Keeps length counter 2 := by
  rintro ⟨after, trips, same⟩
  rw [(roundTrips_eq_some.mp trips).2] at same
  exact converted_twice_silent ((same [] 0).mpr (returns_start.mpr ⟨(), rfl, rfl⟩))

end AgentHarness.Studio.NexauRoundTrips
