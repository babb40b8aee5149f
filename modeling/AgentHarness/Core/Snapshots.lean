import AgentHarness.Core.Manifest
import AgentHarness.Hashing.Sha256
import AgentHarness.Text.Characters
import Mathlib.Data.List.Sort

/-!
Loading one Agent directory into an immutable snapshot.

What YAML and the Python parser read out of a file is a parameter; what is resolved, rejected,
recorded and fed to the digests is the loader's.
-/

namespace AgentHarness.Core

open List ToolSpec

open Hashing (encode sha256)
open Text (Json)

inductive LoadError
  | manifestValidation (message : String)
  | validation (field : String)

inductive Environment
  | local
  | test
  | production

/-- What `(root / relative).resolve()` leads to; the path is relative to the root. -/
inductive Resolved (Content : Type)
  | outside
  | missing
  | file (path : String) (content : Content)

structure SkillEntry where
  path : String
  symlink : Bool := false
  content : List UInt8

/-- A directory with the files and links below it as `sorted(rglob("*"))` lists them. -/
structure SkillDirectory where
  name : String
  symlink : Bool := false
  entries : List SkillEntry

inductive SkillPath
  | missing
  | irregular
  | directory (contents : SkillDirectory)

structure ToolDirectoryEntry where
  (name source logicalReference description risk resultTrust : String)

def ToolDirectoryEntry.dump (entry : ToolDirectoryEntry) : Json :=
  .object [("description", .string entry.description),
    ("logicalReference", .string entry.logicalReference), ("name", .string entry.name),
    ("resultTrust", .string entry.resultTrust), ("risk", .string entry.risk),
    ("source", .string entry.source)]

def toolDirectoryDigest (catalogRevision : Nat) (exposureMode : ToolExposureMode)
  (entries : List ToolDirectoryEntry) : String :=
  sha256 (encode (Json.object [("catalogRevision", dumpNat catalogRevision),
    ("entries", .array (entries.map ToolDirectoryEntry.dump)),
    ("exposureMode", .string exposureMode.value),
    ("schemaVersion", .string "harness.tool-directory/v1")]).dumps)

structure ToolDirectorySnapshot where
  catalogRevision : Nat
  exposureMode : ToolExposureMode
  entries : List ToolDirectoryEntry
  contentHash : String
  uniqueNames : (entries.map ToolDirectoryEntry.name).Nodup
  digested : contentHash = toolDirectoryDigest catalogRevision exposureMode entries

inductive ToolDirectoryFile
  | missing
  | irregular
  | tooLarge
  | invalid (error : String)
  | valid (directory : ToolDirectorySnapshot)

/-- An Agent directory around a manifest that passed `model_validate`. -/
structure AgentDirectory where
  manifest : AgentManifest
  accepted : manifest.accepted = true
  prompt : String → Resolved String
  skill : String → SkillPath
  pythonTool : String → Resolved (List UInt8)
  toolDirectory : ToolDirectoryFile

structure SkillFileSnapshot where
  path : String
  content : List UInt8
  sha256 : String
  sizeBytes : Nat

structure SkillSnapshot where
  (name description source : String)
  files : List SkillFileSnapshot
  contentHash : String

structure PythonToolMetadata where
  (name description : String)
  inputSchema : Json

structure PythonToolSnapshot where
  (reference path : String)
  metadata : PythonToolMetadata
  content : List UInt8
  sha256 : String
  sizeBytes : Nat

structure AgentManifestSnapshot where
  manifest : AgentManifest
  systemPrompt : String
  skillSnapshots : List SkillSnapshot
  pythonToolSnapshots : List PythonToolSnapshot
  toolDirectory : Option ToolDirectorySnapshot
  contentHash : String

structure Frontmatter where
  (name description : Option String)

structure Parsers where
  frontmatter : List UInt8 → Except String Frontmatter
  pythonTool : String → List UInt8 → Except String PythonToolMetadata

def maxSkillFileBytes : Nat := 64 * 1024 * 1024

def maxSkillTotalBytes : Nat := 256 * 1024 * 1024

def maxPythonToolBytes : Nat := 1024 * 1024

def toolDirectoryFilename : String := "tool-directory.json"

def invalid {Value : Type} (message : String) : Except LoadError Value :=
  .error (.manifestValidation message)

def strip (text : String) : String :=
  String.ofList (((text.toList.dropWhile Text.isSpace).reverse.dropWhile Text.isSpace).reverse)

def loadEach {Snapshot : Type} (load : String → Except LoadError Snapshot) :
    List String → Except LoadError (List Snapshot)
  | [] => .ok []
  | reference :: references =>
    match load reference with
    | .error error => .error error
    | .ok snapshot => (loadEach load references).map (snapshot :: ·)

def resolveFile {Content : Type} (label relative : String) :
    Resolved Content → Except LoadError (String × Content)
  | .outside => invalid (label ++ " must stay inside the Agent directory")
  | .missing => invalid (label ++ " file does not exist: " ++ relative)
  | .file path content => .ok (path, content)

variable (parsers : Parsers)

def parseSkillFrontmatter (content : List UInt8) : Except LoadError (String × String) :=
  match parsers.frontmatter content with
  | .error error => invalid error
  | .ok frontmatter =>
    match frontmatter.name.filter isKebab with
    | none => invalid "Skill name must be lowercase kebab-case"
    | some name =>
      match (frontmatter.description.map strip).filter (· ≠ "") with
      | none => invalid "Skill description must be a non-empty string"
      | some description => .ok (name, description)

def skillFeed (files : List SkillFileSnapshot) : List UInt8 :=
  files.flatMap fun file => encode file.path ++ file.content

def snapshotFiles (relative : String) (totalBytes : Nat) :
    List SkillEntry → Except LoadError (List SkillFileSnapshot)
  | [] => .ok []
  | entry :: entries =>
    if entry.content.length > maxSkillFileBytes then
      invalid ("Skill file exceeds " ++ toString maxSkillFileBytes ++ " bytes: " ++ entry.path)
    else if totalBytes + entry.content.length > maxSkillTotalBytes then
      invalid ("Skill exceeds " ++ toString maxSkillTotalBytes ++ " total bytes: " ++ relative)
    else if entry.content = [] then .error (.validation "content_base64")
    else
      (snapshotFiles relative (totalBytes + entry.content.length) entries).map
        ({ path := entry.path, content := entry.content, sha256 := sha256 entry.content
           sizeBytes := entry.content.length } :: ·)

def snapshotEntries (relative : String) (directory : SkillDirectory) :
  Except LoadError SkillSnapshot :=
  match directory.entries.find? (·.symlink) with
  | some entry => invalid ("Skill files cannot be symlinks: " ++ entry.path)
  | none =>
    match directory.entries.find? (·.path = "SKILL.md") with
    | none => invalid ("Skill directory must contain SKILL.md: " ++ relative)
    | some skillMd =>
      match parseSkillFrontmatter parsers skillMd.content with
      | .error error => .error error
      | .ok (name, description) =>
        if directory.name ≠ name then
          invalid ("Skill directory name must match frontmatter name: " ++ directory.name ++
            " != " ++ name)
        else
          match snapshotFiles relative 0 directory.entries with
          | .error error => .error error
          | .ok files =>
            if relative = "" then .error (.validation "source")
            else
              .ok { name, description, source := relative, files
                    contentHash := sha256 (skillFeed files) }

def snapshotSkill (skill : String → SkillPath) (relative : String) :
  Except LoadError SkillSnapshot :=
  match skill relative with
  | .missing => invalid ("skill path does not exist: " ++ relative)
  | .irregular => invalid ("skill path must be a directory: " ++ relative)
  | .directory directory =>
    if directory.symlink = true then invalid ("Skill path cannot be a symlink: " ++ relative)
    else if directory.entries = [] then invalid ("Skill directory is empty: " ++ relative)
    else snapshotEntries parsers relative directory

/-- `PurePosixPath(text).parts` of a relative path. -/
def pathParts (text : String) : List String :=
  (text.splitOn "/").filter fun part => part != "" && part != "."

/-- A Bundle path the loader takes: relative, below the root, of a file named `*.py`. -/
def isBundlePath (text : String) : Bool :=
  !text.toList.contains '\\' && text.toList.head? != some '/' &&
    (pathParts text).all (· != "..") &&
    (pathParts text).getLast?.any fun name => ".py".toList.isSuffixOf name.toList && 3 < name.length

def bundlePrefix : String := "bundle:"

def isBundleReference (reference : String) : Bool := bundlePrefix.toList.isPrefixOf reference.toList

def snapshotPythonTool (pythonTool : String → Resolved (List UInt8)) (reference : String) :
  Except LoadError PythonToolSnapshot :=
  let relativeText := String.ofList (reference.toList.drop bundlePrefix.length)
  let relative := "/".intercalate (pathParts relativeText)
  if isBundlePath relativeText = false then
    invalid ("unsafe Bundle Python tool path: " ++ relativeText)
  else
    match resolveFile "Bundle Python tool" relative (pythonTool relative) with
    | .error error => .error error
    | .ok (_, content) =>
      if content = [] ∨ content.length > maxPythonToolBytes then
        invalid ("Bundle Python tool must be 1-" ++ toString maxPythonToolBytes ++ " bytes: " ++
          relativeText)
      else
        match parsers.pythonTool relativeText content with
        | .error error => invalid error
        | .ok metadata =>
          .ok { reference, path := relative, metadata, content
                sha256 := sha256 content, sizeBytes := content.length }

def sameSet (expected actual : List String) : Bool :=
  expected.all actual.contains && actual.all expected.contains

def ToolDirectorySnapshot.references (directory : ToolDirectorySnapshot) (source : String) :
  List String :=
  (directory.entries.filter (·.source = source)).map ToolDirectoryEntry.logicalReference

def loadToolDirectory (file : ToolDirectoryFile) (manifest : AgentManifest) :
  Except LoadError (Option ToolDirectorySnapshot) :=
  match file with
  | .missing =>
    if manifest.spec.toolExposureMode = .onDemand then
      invalid "on-demand tool exposure requires tool-directory.json"
    else .ok none
  | .irregular => invalid "tool-directory.json must be a regular file"
  | .tooLarge => invalid "tool-directory.json exceeds 2097152 bytes"
  | .invalid error => invalid ("invalid tool-directory.json: " ++ error)
  | .valid directory =>
    if directory.exposureMode ≠ manifest.spec.toolExposureMode then
      invalid "tool directory exposure mode does not match the Agent Manifest"
    else if (sameSet (manifest.spec.tools.filterMap builtin?) (directory.references "builtin") &&
        sameSet (manifest.spec.tools.filterMap mcp?) (directory.references "mcp") &&
        sameSet (manifest.spec.tools.filterMap pythonEntry?)
          (directory.references "python")) = false then
      invalid "tool directory references do not exactly match the Agent Manifest"
    else .ok (some directory)

def checkSubagents (environment : Environment) (subagents : List SubagentSpec) :
  Except LoadError Unit :=
  match environment, subagents.find? fun subagent =>
      "@latest".toList.isSuffixOf subagent.ref.toList || !subagent.ref.toList.contains '@' with
  | .production, some subagent =>
    invalid ("production subagent references require an explicit version, not latest: " ++
      subagent.ref)
  | _, _ => .ok ()

def sortedTexts (texts : List String) : List String := texts.insertionSort (· ≤ ·)

def bundleReferences (manifest : AgentManifest) : List String :=
  sortedTexts ((manifest.spec.tools.filterMap pythonEntry?).filter isBundleReference)

def contentFields (manifest : AgentManifest) (promptPath systemPrompt : String)
  (skills : List SkillSnapshot) (tools : List PythonToolSnapshot)
  (directory : Option ToolDirectorySnapshot) : List String :=
  manifest.canonical :: promptPath :: systemPrompt ::
    (skills.flatMap fun skill => [skill.source, skill.contentHash]) ++
    (tools.flatMap fun tool => [tool.reference, tool.sha256]) ++
    (directory.toList.flatMap fun directory => [toolDirectoryFilename, directory.contentHash])

def duplicateNames (skills : List SkillSnapshot) : List String :=
  sortedTexts ((skills.map SkillSnapshot.name).filter fun name =>
    1 < (skills.map SkillSnapshot.name).count name).dedup

def loadManifest (environment : Environment) (directory : AgentDirectory) :
  Except LoadError AgentManifestSnapshot := do
  let manifest := directory.manifest
  checkSubagents environment manifest.spec.subagents
  let (promptPath, systemPrompt) ←
    resolveFile "system prompt" manifest.spec.prompt.system
      (directory.prompt manifest.spec.prompt.system)
  let toolDirectory ← loadToolDirectory directory.toolDirectory manifest
  let skills ← loadEach (snapshotSkill parsers directory.skill) (sortedTexts manifest.spec.skills)
  if duplicateNames skills ≠ [] then
    invalid ("duplicate Skill name: " ++ ", ".intercalate (duplicateNames skills))
  else
    let tools ← loadEach (snapshotPythonTool parsers directory.pythonTool)
      (bundleReferences manifest)
    .ok
      { manifest, systemPrompt, skillSnapshots := skills
        pythonToolSnapshots := tools, toolDirectory
        contentHash := sha256 ((contentFields manifest promptPath systemPrompt skills tools
          toolDirectory).flatMap encode) }

def AgentDirectory.promptPath (directory : AgentDirectory) : String :=
  match directory.prompt directory.manifest.spec.prompt.system with
  | .file path _ => path
  | _ => ""

def contentFeed (promptPath : String) (snapshot : AgentManifestSnapshot) : List UInt8 :=
  (contentFields snapshot.manifest promptPath snapshot.systemPrompt snapshot.skillSnapshots
    snapshot.pythonToolSnapshots snapshot.toolDirectory).flatMap encode

structure Loaded (directory : AgentDirectory) (snapshot : AgentManifestSnapshot) : Prop where
  manifest : snapshot.manifest = directory.manifest
  sources : snapshot.skillSnapshots.map SkillSnapshot.source =
    sortedTexts snapshot.manifest.spec.skills
  skillHashes : ∀ skill ∈ snapshot.skillSnapshots,
    skill.contentHash = sha256 (skillFeed skill.files)
  references : snapshot.pythonToolSnapshots.map PythonToolSnapshot.reference =
    bundleReferences snapshot.manifest
  toolHashes : ∀ tool ∈ snapshot.pythonToolSnapshots, tool.sha256 = sha256 tool.content
  contentHash : snapshot.contentHash = sha256 (contentFeed directory.promptPath snapshot)

variable {references : List String} {Snapshot : Type}

theorem loadEach_ok {load : String → Except LoadError Snapshot} {snapshots : List Snapshot}
  (loaded : loadEach load references = .ok snapshots) :
  List.Forall₂ (fun reference snapshot => load reference = .ok snapshot) references
    snapshots := by
  induction references generalizing snapshots with
  | nil =>
    cases loaded
    exact .nil
  | cons reference references ih =>
    rw [loadEach] at loaded
    split at loaded
    · cases loaded
    case h_2 snapshot first =>
        cases rest : loadEach load references with
        | error error => rw [rest] at loaded; cases loaded
        | ok others =>
          rw [rest] at loaded
          cases loaded
          exact .cons first (ih rest)

theorem loadEach_references {load : String → Except LoadError Snapshot}
  {reference : Snapshot → String} {Holds : Snapshot → Prop}
  {snapshots : List Snapshot} (loaded : loadEach load references = .ok snapshots)
  (each : ∀ {name snapshot}, load name = .ok snapshot →
    reference snapshot = name ∧ Holds snapshot) :
  snapshots.map reference = references ∧ ∀ snapshot ∈ snapshots, Holds snapshot := by
  have pairs := loadEach_ok loaded
  clear loaded
  induction pairs with
  | nil => exact ⟨rfl, fun _ member => absurd member not_mem_nil⟩
  | cons first _ ih =>
    obtain ⟨kept, holds⟩ := each first
    rw [map_cons, kept, ih.1]
    exact ⟨rfl, forall_mem_cons.mpr ⟨holds, ih.2⟩⟩

theorem snapshotSkill_ok {parsers : Parsers} {skill : String → SkillPath} {relative : String}
  {snapshot : SkillSnapshot} (loaded : snapshotSkill parsers skill relative = .ok snapshot) :
  snapshot.source = relative ∧ snapshot.contentHash = sha256 (skillFeed snapshot.files) := by
  unfold snapshotSkill at loaded
  split at loaded
  · cases loaded
  · cases loaded
  split at loaded
  · cases loaded
  split at loaded
  · cases loaded
  unfold snapshotEntries at loaded
  repeat' split at loaded
  all_goals first
    | cases loaded; exact ⟨rfl, rfl⟩
    | cases loaded

theorem snapshotPythonTool_ok {parsers : Parsers} {pythonTool : String → Resolved (List UInt8)}
  {reference : String} {snapshot : PythonToolSnapshot}
  (loaded : snapshotPythonTool parsers pythonTool reference = .ok snapshot) :
  snapshot.reference = reference ∧ snapshot.sha256 = sha256 snapshot.content := by
  unfold snapshotPythonTool at loaded
  dsimp only at loaded
  repeat' split at loaded
  all_goals first
    | cases loaded; exact ⟨rfl, rfl⟩
    | cases loaded

theorem resolveFile_ok {Content : Type} {label relative path : String} {resolved : Resolved Content}
  {content : Content} (found : resolveFile label relative resolved = .ok (path, content)) :
  resolved = .file path content := by
  cases resolved with
  | file path content => cases found; rfl
  | _ => cases found

theorem loadManifest_ok {parsers : Parsers} {environment : Environment}
  {directory : AgentDirectory} {snapshot : AgentManifestSnapshot}
  (loaded : loadManifest parsers environment directory = .ok snapshot) :
  Loaded directory snapshot := by
  simp only [loadManifest, bind, Except.bind] at loaded
  split at loaded
  · cases loaded
  split at loaded
  · cases loaded
  case h_2 prompt found =>
  split at loaded
  · cases loaded
  split at loaded
  · cases loaded
  case h_2 skills skillsLoaded =>
  split at loaded
  · cases loaded
  split at loaded
  · cases loaded
  case h_2 tools toolsLoaded =>
  cases loaded
  obtain ⟨sources, skillHashes⟩ := loadEach_references skillsLoaded snapshotSkill_ok
  obtain ⟨references, toolHashes⟩ := loadEach_references toolsLoaded snapshotPythonTool_ok
  have path : directory.promptPath = prompt.1 := by
    simp [AgentDirectory.promptPath, resolveFile_ok found]
  exact
    { manifest := rfl, sources, skillHashes, references
      toolHashes, contentHash := by rw [path]; rfl }

end AgentHarness.Core
