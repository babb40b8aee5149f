import AgentHarness.Policy.Rules
import AgentHarness.Text.Characters

/-!
The files a run has created itself, as the tool gate records them.

Symbolic links and the files on disk are the environment's: a `FileSystem` is
what the gate sees of them at one moment.
-/

namespace AgentHarness.Runtime

open Collections Policy

/-- A POSIX path: its root (`""`, `"/"` or `"//"`) and the names below it. -/
structure PurePath where
  root : String
  names : List String
  deriving DecidableEq

namespace PurePath

/-- Empty and `.` components disappear; exactly two leading slashes are kept apart. -/
def parse (text : String) : PurePath :=
  let names := (text.toList.splitOn '/').map String.ofList
  let root := match text.toList with
    | '/' :: '/' :: '/' :: _ => "/"
    | '/' :: '/' :: _ => "//"
    | '/' :: _ => "/"
    | _ => ""
  { root, names := names.filter (fun name => name ≠ "" ∧ name ≠ ".") }

variable (path : PurePath)

def isAbsolute : Bool := path.root ≠ ""

def parts : List String := if path.root = "" then path.names else path.root :: path.names

def join (names : List String) : PurePath := { path with names := path.names ++ names }

/-- `base / path`: an absolute path replaces the base. -/
def under (base path : PurePath) : PurePath :=
  if path.isAbsolute then path else base.join path.names

/-- `relative_to`, when the path lies below the base. -/
def relativeTo? (base : PurePath) : Option (List String) :=
  if path.root = base.root ∧ base.names.isPrefixOf path.names then
    some (path.names.drop base.names.length)
  else
    none

def asPosix : String := path.root ++ "/".intercalate path.names

end PurePath

structure FileSystem where
  /-- `resolve(strict=False)`; `none` when it raises. -/
  resolve : PurePath → Option PurePath
  (isFile fileExists : PurePath → Bool)
  /-- The directories that `.claude/skills/*/references` finds. -/
  referenceRoots : List PurePath

structure Workspace where
  root : PurePath
  remote : Option PurePath := none
  inputFiles : List String := []
  processedInputPaths : List String := []

namespace Workspace

variable (workspace : Workspace)

/-- `_normalize`: a file strictly inside the workspace, or nothing. -/
def normalize (files : FileSystem) (value : String) : Option PurePath :=
  if value.toList.all Text.isSpace then none
  else
    let pure := PurePath.parse value
    let candidate := match pure.names, workspace.remote.bind pure.relativeTo? with
      | "workspace" :: rest, below =>
        if pure.isAbsolute then workspace.root.join rest
        else match below with
          | some names => workspace.root.join names
          | none => workspace.root.under pure
      | _, some names =>
        if pure.isAbsolute then workspace.root.join names else workspace.root.under pure
      | _, none => workspace.root.under pure
    match files.resolve candidate with
    | none => none
    | some resolved =>
      match resolved.relativeTo? workspace.root with
      | none | some [] => none
      | some _ => some resolved

/-- `target`: the file that the arguments of a write name. -/
def target (files : FileSystem) (arguments : ToolArguments) : Option PurePath :=
  let value := match arguments.get? "file_path" with
    | some value => some value
    | none => arguments.get? "path"
  match value with
  | some (.text path) => workspace.normalize files path
  | _ => none

def skillsRoot : PurePath := workspace.root.join [".claude", "skills"]

/-- The first `.claude/skills` in a path and everything after it; two more parts
have to follow the first one. -/
def skillReference : List String → Option (List String)
  | first :: second :: third :: rest =>
    if first = ".claude" ∧ second = "skills" then some (first :: second :: third :: rest)
    else skillReference (second :: third :: rest)
  | _ => none

def skillCandidates (files : FileSystem) (parts : List String) : List PurePath :=
  match skillReference parts with
  | some names => [workspace.root.join names]
  | none =>
    let names := (parts.dropWhile (· ≠ "references")).drop 1
    if names.isEmpty ∨ names.contains ".." then []
    else files.referenceRoots.map fun directory => directory.join names

def skillMatches (files : FileSystem) (parts : List String) : List PurePath :=
  ((workspace.skillCandidates files parts).filterMap files.resolve
    |>.filter (fun resolved =>
      (resolved.relativeTo? workspace.skillsRoot).isSome && files.isFile resolved)).dedup

/-- `normalize_skill_read`: arguments that name one immutable workspace file. -/
def normalizeSkillRead (files : FileSystem) (arguments : ToolArguments) : Option ToolArguments :=
  match arguments.get? "file_path" with
  | some (.text value) =>
    if value.toList.all Text.isSpace then none
    else
      let pure := PurePath.parse value
      let renamed (path : String) := some (arguments.set "file_path" (.text path))
      match workspace.normalize files value with
      | some current =>
        if files.isFile current then
          if pure.isAbsolute ∧ pure.names.head? = some "workspace" then
            renamed current.asPosix
          else
            none
        else
          fallback pure renamed
      | none => fallback pure renamed
  | _ => none
where
  /-- A staged input first, then a Skill file. -/
  fallback (pure : PurePath) (renamed : String → Option ToolArguments) : Option ToolArguments :=
    let input := if pure.isAbsolute ∧ pure.names.contains "inputs" then
        files.resolve (workspace.root.join (pure.names.dropWhile (· ≠ "inputs")))
      else
        none
    match input.filter (fun resolved =>
        (resolved.relativeTo? workspace.root).isSome && files.isFile resolved) with
    | some resolved => renamed resolved.asPosix
    | none =>
      match workspace.skillMatches files pure.parts with
      | [found] =>
        match found.relativeTo? workspace.root with
        | some names => renamed ("/".intercalate names)
        | none => none
      | _ => none

/-- `_protected`: the inputs of the run. -/
def protectedFiles (files : FileSystem) : List PurePath :=
  (workspace.inputFiles ++ workspace.processedInputPaths).filterMap (workspace.normalize files)

end Workspace

structure RunFileCapabilities where
  initialExists : Dict PurePath Bool := Dict.empty
  generated : List PurePath := []
  pendingWrites : Dict String PurePath := Dict.empty
  protectedFiles : List PurePath := []

namespace RunFileCapabilities

variable (capabilities : RunFileCapabilities)

def isGenerated (target : PurePath) : Bool := capabilities.generated.contains target

def generatedPythonFiles (workspace : Workspace) : List String :=
  capabilities.generated.flatMap (fun target =>
    match target.relativeTo? workspace.root with
    | none => []
    | some names =>
      if pythonSuffix (names.getLastD "") then
        let relative := "/".intercalate names
        [relative, "./" ++ relative, target.asPosix, "/workspace/" ++ relative] ++
          (workspace.remote.map fun remote => (remote.join names).asPosix).toList
      else
        [])
where
  /-- `suffix.lower() == ".py"`; a name that is all suffix has none. -/
  pythonSuffix (name : String) : Bool :=
    let chars := name.toList.map Char.toLower
    [ 'y', 'p', '.' ].isPrefixOf chars.reverse && decide (3 < chars.length)

def observe (target : PurePath) (found : Bool) : RunFileCapabilities :=
  { capabilities with initialExists := capabilities.initialExists.setDefault target found }

def noteAuthorizedWrite (workspace : Workspace) (toolCallId : String) (target : PurePath) :
  RunFileCapabilities :=
  let existed := (capabilities.initialExists.get? target).getD true
  let guarded := capabilities.protectedFiles.contains target ||
    ((target.relativeTo? workspace.root).bind List.head? = some "inputs")
  if existed || guarded then capabilities
  else
    { capabilities with
      pendingWrites := capabilities.pendingWrites.set toolCallId target }

/-- `note_success`, for the canonical name of the tool. -/
def noteSuccess (toolUseId toolName : String) : RunFileCapabilities :=
  let written := if toolName = "Write" then (capabilities.pendingWrites.get? toolUseId).toList
    else []
  { capabilities with
    pendingWrites := capabilities.pendingWrites.erase toolUseId
    generated := (written ++ capabilities.generated).dedup }

def noteFailure (toolUseId : String) : RunFileCapabilities :=
  { capabilities with pendingWrites := capabilities.pendingWrites.erase toolUseId }

end RunFileCapabilities

end AgentHarness.Runtime
