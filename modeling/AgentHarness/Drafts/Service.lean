import AgentHarness.Application.Agents
import AgentHarness.Drafts.Versions
import AgentHarness.Interaction.Pool

/-!
Agent drafts, and how an edit becomes the next specification of a draft.
-/

namespace AgentHarness.Drafts

open Hashing (encode sha256)

structure DraftSkillFile where
  path : String
  content : Option String := none
  contentBase64 : Option String := none
  retained : Bool := false
  sizeBytes : Option Nat := none
  contentSha256 : Option String := none
  binary : Bool := false
  deriving DecidableEq

structure DraftSkill where
  (name description instructions : String)
  files : List DraftSkillFile := []
  fileCount : Option Nat := none
  filesTruncated : Bool := false
  deriving DecidableEq

/-- A specification; `settings` are the fields that drafts only keep, compare and compile. -/
structure AgentDraftSpec (Settings : Type) where
  name : String
  version : String := "0.1.0"
  skills : List DraftSkill
  settings : Settings
  deriving DecidableEq

structure AgentDraft (Settings : Type) where
  (draftId tenantId : String)
  revision : Nat
  spec : AgentDraftSpec Settings
  (createdBy updatedBy : String)
  (createdAt updatedAt : Int)
  publishedVersion : Option String := none
  publishedHash : Option String := none
  publishedPackageHash : Option String := none
  deriving DecidableEq

structure DraftKey where
  (tenantId ownerUserId draftId : String)
  deriving DecidableEq

def AgentDraft.key {Settings : Type} (draft : AgentDraft Settings) : DraftKey :=
  ⟨draft.tenantId, draft.createdBy, draft.draftId⟩

inductive DraftError
  | conflict (message : String)
  | notFound (message : String)
  | value (message : String)
  | compilation (issues : List String)
  | publicationConflict (message : String)
  | bundle (message : String)

/-- `{file.path: file for file in files}.get(path)`. -/
def fileAt (files : List DraftSkillFile) (path : String) : Option DraftSkillFile :=
  files.reverse.find? fun file => file.path = path

/-- `_skill_file_bytes`; `decode` is `base64.b64decode`. -/
def skillFileBytes (decode : String → Except DraftError (List UInt8)) (file : DraftSkillFile) :
  Except DraftError (List UInt8) :=
  match file.content, file.contentBase64 with
  | some content, _ => .ok (encode content)
  | none, some contentBase64 => decode contentBase64
  | none, none => .error (.value ("Retained Skill file has no inline content: " ++ file.path))

def restoreFile (decode : String → Except DraftError (List UInt8)) (current : Option DraftSkill)
  (skillName : String) (file : DraftSkillFile) : Except DraftError DraftSkillFile :=
  if file.retained then
    match fileAt ((current.map DraftSkill.files).getD []) file.path with
    | none =>
      .error (.conflict ("Retained Skill file no longer exists: " ++ skillName ++ "/" ++ file.path))
    | some stored =>
      match skillFileBytes decode stored with
      | .error error => .error error
      | .ok payload =>
        if some payload.length ≠ file.sizeBytes ∨ some (sha256 payload) ≠ file.contentSha256 then
          .error (.conflict ("Retained Skill file changed: " ++ skillName ++ "/" ++ file.path))
        else .ok stored
  else .ok file

def mergeEditorSkill (decode : String → Except DraftError (List UInt8))
  (current : Option DraftSkill) (incoming : DraftSkill) : Except DraftError DraftSkill :=
  match incoming.files.mapM (restoreFile decode current incoming.name) with
  | .error error => .error error
  | .ok restored =>
    if incoming.filesTruncated then
      match current with
      | none => .error (.conflict ("Truncated Skill has no stored source: " ++ incoming.name))
      | some stored =>
        .ok { incoming with
          files := stored.files.map fun file => (fileAt restored file.path).getD file
          fileCount := none, filesTruncated := false }
    else
      .ok { incoming with
        files := incoming.files.map fun file => (fileAt restored file.path).getD file
        fileCount := none, filesTruncated := false }

/-- `{skill.name: skill for skill in skills}.get(name)`. -/
def skillNamed (skills : List DraftSkill) (name : String) : Option DraftSkill :=
  skills.reverse.find? fun skill => skill.name = name

/-- The skills of `install_skill`: the imported one in the place of its namesake, or behind. -/
def installSkill (skills : List DraftSkill) (imported : DraftSkill) : List DraftSkill :=
  let replaced := skills.map fun skill => if skill.name = imported.name then imported else skill
  if skills.all fun skill => skill.name ≠ imported.name then replaced ++ [imported] else replaced

section

variable {Settings : Type} [DecidableEq Settings] (digits : DecimalDigits)

def autoVersionModifiedRelease (current : AgentDraft Settings)
  (candidate : AgentDraftSpec Settings) : AgentDraftSpec Settings :=
  if current.publishedVersion = some candidate.version ∧ candidate ≠ current.spec then
    { candidate with version := digits.nextPatchVersion candidate.version }
  else candidate

theorem autoVersionModifiedRelease_unchanged (current : AgentDraft Settings) :
  autoVersionModifiedRelease digits current current.spec = current.spec :=
  if_neg fun changed => changed.2 rfl

theorem autoVersionModifiedRelease_version {digits : DecimalDigits} {current : AgentDraft Settings}
  {candidate : AgentDraftSpec Settings} (changed : candidate ≠ current.spec)
  (released : ∀ version, current.publishedVersion = some version → (digits.semver version).isSome) :
  current.publishedVersion ≠
    some (autoVersionModifiedRelease digits current candidate).version := by
  unfold autoVersionModifiedRelease
  by_cases same : current.publishedVersion = some candidate.version
  · rw [if_pos ⟨same, changed⟩, same]
    intro again
    exact DecimalDigits.nextPatchVersion_ne (released candidate.version same)
      (Option.some.inj again).symm
  rw [if_neg fun both => same both.1]
  exact same

end

/-!
The Studio service calls that create, edit and publish drafts.

The repository replaces a draft in one step, under the revision that the caller expects. A
publication registers the compiled draft in one step and stamps the draft in a later one.
-/

open Collections Interaction
open Application (AgentRegistry AgentVersion AgentVersionStatus Publication
  RegistryError VersionKey publishSnapshot)
open Core (AgentManifestSnapshot)

structure CompiledAgentDraft where
  snapshot : AgentManifestSnapshot
  packageHash : String

/-- `AgentDraftCompiler` over the capability catalog of a user. It writes the name and the
version of the specification into the manifest, and packs none whose version is not semantic. -/
structure AgentDraftCompiler (Settings Catalog : Type) where
  digits : DecimalDigits
  compile : Catalog → AgentDraftSpec Settings → Except (List String) CompiledAgentDraft
  names : ∀ {catalog spec compiled}, compile catalog spec = .ok compiled →
    compiled.snapshot.manifest.metadata.name = spec.name ∧
      compiled.snapshot.manifest.metadata.version = spec.version
  packs : ∀ {catalog spec compiled}, compile catalog spec = .ok compiled →
    (digits.semver spec.version).isSome
  decode : String → Except DraftError (List UInt8)

section

variable {Settings : Type}

def CompiledAgentDraft.publication (compiled : CompiledAgentDraft) (tenantId ownerUserId : String)
  (now : Nat) : Publication where
  tenantId
  ownerUserId
  snapshot := compiled.snapshot
  packageHash := some compiled.packageHash
  now

def AgentDraft.versionKey (draft : AgentDraft Settings) : VersionKey :=
  ⟨draft.tenantId, draft.createdBy, draft.spec.name, draft.spec.version⟩

def AgentDraft.isStamped (draft : AgentDraft Settings) (compiled : CompiledAgentDraft) : Prop :=
  draft.publishedVersion = some draft.spec.version ∧
    draft.publishedHash = some compiled.snapshot.contentHash ∧
      draft.publishedPackageHash = some compiled.packageHash

instance (draft : AgentDraft Settings) (compiled : CompiledAgentDraft) :
  Decidable (draft.isStamped compiled) :=
  inferInstanceAs (Decidable (_ ∧ _))

end

/-- What `replace` is asked to put in the place of a draft that was read before. -/
inductive Change (Settings : Type)
  | edit (current : AgentDraft Settings) (candidate : AgentDraftSpec Settings) (userId : String)
      (now : Int)
  | stamp (current : AgentDraft Settings) (version : AgentVersion) (userId : String) (now : Int)

def Change.current {Settings : Type} : Change Settings → AgentDraft Settings
  | edit current _ _ _ | stamp current _ _ _ => current

def Change.draft {Settings : Type} [DecidableEq Settings] (digits : DecimalDigits) :
    Change Settings → AgentDraft Settings
  | edit current candidate userId now =>
    { current with
      revision := current.revision + 1, spec := autoVersionModifiedRelease digits current candidate
      updatedBy := userId, updatedAt := now }
  | stamp current version userId now =>
    { current with
      revision := current.revision + 1, updatedBy := userId, updatedAt := now
      publishedVersion := some version.version, publishedHash := some version.manifestHash
      publishedPackageHash := version.packageHash }

inductive DraftOp (Settings Catalog : Type)
  | clock
  | generateId
  | compilerFor (tenantId userId : String)
  | dependencyIssues (draft : AgentDraft Settings)
  | add (draft : AgentDraft Settings)
  | get (key : DraftKey)
  | replace (expectedRevision : Nat) (change : Change Settings)
  | getVersion (key : VersionKey)
  | publishBundle (draft : AgentDraft Settings) (compiled : CompiledAgentDraft)
  | publishElsewhere (publication : Publication)
  | record (draft : AgentDraft Settings) (outcome : String)

namespace DraftOp

variable {Settings Catalog : Type}

abbrev Answer : DraftOp Settings Catalog → Type
  | clock => Int
  | generateId => String
  | compilerFor _ _ => Catalog
  | dependencyIssues _ => List String
  | add _ => Unit
  | get _ => AgentDraft Settings
  | replace _ _ => Unit
  | getVersion _ | publishBundle _ _ | publishElsewhere _ => AgentVersion
  | record _ _ => Unit

end DraftOp

abbrev DraftProgram (Settings Catalog α : Type) :=
  Program (DraftOp Settings Catalog) DraftOp.Answer DraftError α

namespace DraftOp

variable {Settings Catalog α : Type}

abbrev ask (op : DraftOp Settings Catalog) : DraftProgram Settings Catalog op.Answer :=
  Program.perform op fun answer => answer

def ensure (outcome : Except DraftError α) : DraftProgram Settings Catalog α :=
  match outcome with
  | .ok value => .done value
  | .error error => .raised error

def refuse (refused : Prop) [Decidable refused] (error : DraftError) :
  DraftProgram Settings Catalog Unit :=
  if refused then .raised error else .done ()

end DraftOp

structure ReplaceAgentDraftRequest (Settings : Type) where
  expectedRevision : Nat
  spec : AgentDraftSpec Settings

namespace AgentStudioService

open Program DraftOp

variable {Settings Catalog : Type} [DecidableEq Settings]
  (compiler : AgentDraftCompiler Settings Catalog) (tenantId : String)

/-- `create`, with the specification that `create_draft_spec` builds. -/
def create (userId : String) (spec : AgentDraftSpec Settings) :
  DraftProgram Settings Catalog (AgentDraft Settings) := do
  let now ← ask .clock
  let draftId ← ask .generateId
  let draft : AgentDraft Settings :=
    { draftId, tenantId, revision := 1, spec, createdBy := userId, updatedBy := userId,
      createdAt := now, updatedAt := now }
  ask (.add draft)
  done draft

def store (expectedRevision : Nat) (change : Change Settings) :
  DraftProgram Settings Catalog (AgentDraft Settings) := do
  ask (.replace expectedRevision change)
  done (change.draft compiler.digits)

def mergedSpec (current : AgentDraft Settings) (spec : AgentDraftSpec Settings) :
  Except DraftError (AgentDraftSpec Settings) :=
  match spec.skills.mapM fun skill =>
      mergeEditorSkill compiler.decode (skillNamed current.spec.skills skill.name) skill with
  | .error error => .error error
  | .ok skills => .ok { spec with skills }

def replace (userId draftId : String) (request : ReplaceAgentDraftRequest Settings) :
  DraftProgram Settings Catalog (AgentDraft Settings) := do
  let current ← ask (.get ⟨tenantId, userId, draftId⟩)
  let candidate ← ensure (mergedSpec compiler current request.spec)
  let now ← ask .clock
  store compiler request.expectedRevision (.edit current candidate userId now)

def installSkill (tenantId userId draftId : String) (expectedRevision : Nat)
  (imported : DraftSkill) : DraftProgram Settings Catalog (AgentDraft Settings) := do
  let current ← ask (.get ⟨tenantId, userId, draftId⟩)
  let candidate := { current.spec with skills := Drafts.installSkill current.spec.skills imported }
  let now ← ask .clock
  store compiler expectedRevision (.edit current candidate userId now)

def idempotentVersion (draft : AgentDraft Settings) (compiled : CompiledAgentDraft) :
  DraftProgram Settings Catalog (Option AgentVersion) :=
  if draft.isStamped compiled then do
    let existing ← (ask (.getVersion draft.versionKey)).catching fun _ =>
      raised (.publicationConflict "Draft publication metadata points to a missing Agent version")
    refuse (existing.status ≠ .published ∨ existing.manifestHash ≠ compiled.snapshot.contentHash ∨
          existing.packageHash ≠ some compiled.packageHash)
      (.publicationConflict "Draft publication metadata differs from the immutable Agent version")
    done (some existing)
  else done none

def publicationConflict (draft : AgentDraft Settings) (error : DraftError) :
  DraftProgram Settings Catalog AgentVersion :=
  match error with
  | .conflict _ =>
    raised (.publicationConflict
      ("Agent version content conflicts with existing immutable release: " ++ draft.spec.name ++
        "@" ++ draft.spec.version))
  | error => raised error

def ensureCompiled (outcome : Except (List String) CompiledAgentDraft) :
  DraftProgram Settings Catalog CompiledAgentDraft :=
  match outcome with
  | .ok compiled => done compiled
  | .error issues => raised (.compilation issues)

/-- The part of `publish` whose failures are recorded: the version, and whether it was there. -/
def release (catalog : Catalog) (draft : AgentDraft Settings) (expectedRevision : Option Nat) :
  DraftProgram Settings Catalog (AgentVersion × Bool) := do
  refuse (expectedRevision.any (· ≠ draft.revision))
    (.conflict ("Agent draft revision changed before publish: expected=" ++
      toString (expectedRevision.getD 0) ++ " actual=" ++ toString draft.revision))
  let compiled ← ensureCompiled (compiler.compile catalog draft.spec)
  let issues ← ask (.dependencyIssues draft)
  refuse (issues ≠ []) (.compilation issues)
  match ← idempotentVersion draft compiled with
  | some existing => done (existing, true)
  | none =>
    let version ← (ask (.publishBundle draft compiled)).catching (publicationConflict draft)
    done (version, false)

def recordFailure {α : Type} (draft : AgentDraft Settings) (error : DraftError) :
  DraftProgram Settings Catalog α := do
  ask (.record draft "failure")
  raised error

def publish (userId draftId : String) (expectedRevision : Option Nat) :
  DraftProgram Settings Catalog AgentVersion := do
  let draft ← ask (.get ⟨tenantId, userId, draftId⟩)
  let catalog ← ask (.compilerFor tenantId userId)
  let (version, idempotent) ←
    (release compiler catalog draft expectedRevision).catching (recordFailure draft)
  if idempotent then do
    ask (.record draft "success")
    done version
  else do
    let now ← ask .clock
    let published ← (store compiler draft.revision (.stamp draft version userId now)).catching
      (recordFailure draft)
    ask (.record published "success")
    done version

end AgentStudioService

inductive DraftRequest (Settings : Type)
  | create (tenantId userId : String) (spec : AgentDraftSpec Settings)
  | replace (tenantId userId draftId : String) (request : ReplaceAgentDraftRequest Settings)
  | installSkill (tenantId userId draftId : String) (expectedRevision : Nat)
      (imported : DraftSkill)
  | publish (tenantId userId draftId : String) (expectedRevision : Option Nat)
  | publishElsewhere (publication : Publication)

structure Studio (Settings : Type) where
  drafts : Dict DraftKey (AgentDraft Settings) := Dict.empty
  registry : AgentRegistry := Dict.empty
  /-- The drafts from which a bundle was published: history that no operation reads. -/
  released : List DraftKey := []

/-- What a step draws from outside: the clock, a fresh identifier, the catalog of the user, the
issues of the dependencies, and a fault of the archive or the audit log. -/
structure StudioInput (Catalog : Type) where
  catalog : Catalog
  now : Nat := 0
  draftId : String := ""
  issues : List String := []
  fault : Option DraftError := none

section

variable {Settings Catalog : Type} [DecidableEq Settings]
  (compiler : AgentDraftCompiler Settings Catalog)

def notFoundDraft (draftId : String) : DraftError :=
  .notFound ("Agent draft not found: " ++ draftId)

def registryError : RegistryError → DraftError
  | .conflict message => .conflict message
  | .notFound message => .notFound message

namespace Studio

variable (studio : Studio Settings)

def add (draft : AgentDraft Settings) : Except DraftError Unit × Studio Settings :=
  match studio.drafts.get? draft.key with
  | some _ => (.error (.conflict ("Agent draft already exists: " ++ draft.draftId)), studio)
  | none => (.ok (), { studio with drafts := studio.drafts.set draft.key draft })

def get (studio : Studio Settings) (key : DraftKey) : Except DraftError (AgentDraft Settings) :=
  match studio.drafts.get? key with
  | some draft => .ok draft
  | none => .error (notFoundDraft key.draftId)

def replace (expectedRevision : Nat) (draft : AgentDraft Settings) :
  Except DraftError Unit × Studio Settings :=
  match studio.drafts.get? draft.key with
  | none => (.error (notFoundDraft draft.draftId), studio)
  | some current =>
    if current.revision ≠ expectedRevision then
      (.error (.conflict ("Agent draft revision changed: expected=" ++
        toString expectedRevision ++ " actual=" ++ toString current.revision)), studio)
    else if draft.revision ≠ expectedRevision + 1 then
      (.error (.conflict "Agent draft replacement must increment revision once"), studio)
    else (.ok (), { studio with drafts := studio.drafts.set draft.key draft })

def publish (publication : Publication) : Except DraftError AgentVersion × Studio Settings :=
  let reply := publishSnapshot studio.registry publication
  (match reply.1 with
    | .ok version => .ok version
    | .error error => .error (registryError error),
    { studio with registry := reply.2 })

def publishBundle (draft : AgentDraft Settings) (publication : Publication) :
  Except DraftError AgentVersion × Studio Settings :=
  match studio.publish publication with
  | (.ok version, later) => (.ok version, { later with released := draft.key :: later.released })
  | (.error error, later) => (.error error, later)

end Studio

def faulty {α : Type} (input : StudioInput Catalog) (value : α) : Except DraftError α :=
  match input.fault with
  | some error => .error error
  | none => .ok value

def respond (_ : Nat) (input : StudioInput Catalog) (studio : Studio Settings) :
    (op : DraftOp Settings Catalog) → Except DraftError op.Answer × Studio Settings
  | .clock => (.ok input.now, studio)
  | .generateId => (.ok input.draftId, studio)
  | .compilerFor _ _ => (faulty input input.catalog, studio)
  | .dependencyIssues _ => (.ok input.issues, studio)
  | .add draft => studio.add draft
  | .get key => (studio.get key, studio)
  | .replace expectedRevision change =>
    studio.replace expectedRevision (change.draft compiler.digits)
  | .getVersion key =>
    (match studio.registry.get key with
      | .ok version => .ok version
      | .error error => .error (registryError error), studio)
  | .publishBundle draft compiled =>
    match input.fault with
    | some error => (.error error, studio)
    | none =>
      studio.publishBundle draft
        (compiled.publication draft.tenantId draft.createdBy input.now)
  | .publishElsewhere publication => studio.publish publication
  | .record _ _ => (faulty input (), studio)

def component : Component (DraftOp Settings Catalog) DraftOp.Answer DraftError Nat
  (Studio Settings) (StudioInput Catalog) where
  respond := respond compiler

abbrev StudioPool (Settings Catalog : Type) :=
  Pool (DraftOp Settings Catalog) DraftOp.Answer DraftError Nat (Studio Settings) Unit

def serve : DraftRequest Settings → DraftProgram Settings Catalog Unit
  | .create tenantId userId spec => do
      let _ ← AgentStudioService.create tenantId userId spec
  | .replace tenantId userId draftId request => do
      let _ ← AgentStudioService.replace compiler tenantId userId draftId request
  | .installSkill tenantId userId draftId expectedRevision imported => do
      let _ ← AgentStudioService.installSkill compiler tenantId userId draftId expectedRevision
        imported
  | .publish tenantId userId draftId expectedRevision => do
      let _ ← AgentStudioService.publish compiler tenantId userId draftId expectedRevision
  | .publishElsewhere publication => do
      let _ ← DraftOp.ask (.publishElsewhere publication)

def studioPool (requests : Nat → DraftRequest Settings) : StudioPool Settings Catalog where
  state := {}
  thread actor := serve compiler (requests actor)

end

end AgentHarness.Drafts
