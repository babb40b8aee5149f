import AgentHarness.Collections.Dict
import AgentHarness.Packages.PackageHash
import AgentHarness.Packages.PurePath
import AgentHarness.Text.Json
import Mathlib.Data.List.Sort

/-!
Packing an agent directory into a release archive and extracting an uploaded one.

The ZIP reader and writer, the JSON reader and the two scans for secrets are parameters. An
extraction writes below a destination that nobody else uses, so its tree holds the extracted files
and no links.
-/

namespace AgentHarness.Packages

open Collections PurePosixPath
open Hashing (encode sha256)
open Text (Json NumberToken)

/-- `raise failure` under a condition. -/
def refuseIf {Failure : Type} (condition : Prop) [Decidable condition] (failure : Failure) :
  Except Failure Unit :=
  if condition then .error failure else .ok ()

def excludedParts : List String :=
  ["__pycache__", ".pytest_cache", ".mypy_cache", ".ruff_cache", ".venv"]

def textFileSuffixes : List String := [".json", ".md", ".py", ".txt", ".toml", ".yaml", ".yml"]

def maxPackageFileBytes : Nat := 64 * 1024 * 1024

def maxPackageTotalBytes : Nat := 256 * 1024 * 1024

def maxBundleFiles : Nat := 20000

def maxBundlePathChars : Nat := 512

def maxBundlePathComponentChars : Nat := 255

def maxAgentBundleUploadBytes : Nat := maxPackageTotalBytes

def pathIsTooLong (parts : List String) : Bool :=
  (asPosix parts).toList.length > maxBundlePathChars ||
    parts.any fun part => part.toList.length > maxBundlePathComponentChars

inductive EntryKind
  | directory
  | symlink
  | file (content : List UInt8)
  | special
  deriving DecidableEq

structure DirectoryEntry where
  path : PackagePath
  kind : EntryKind

structure SourceFile where
  path : PackagePath
  content : List UInt8
  deriving DecidableEq

/-- `_SECRET_FILE` and `_contains_secret_content`. -/
structure Scans where
  secretFile : String → Bool
  secretContent : List UInt8 → Bool

/-- `Path.suffix`. -/
def suffix (name : String) : String :=
  match name.toList.reverse.span (· != '.') with
  | (extension, '.' :: stem) =>
    if stem = [] ∨ extension = [] then "" else String.ofList ('.' :: extension.reverse)
  | _ => ""

def continues (byte : UInt8) : Bool := 0x80 ≤ byte && byte ≤ 0xBF

/-- Whether `content.decode("utf-8")` succeeds. -/
def isUtf8 : List UInt8 → Bool
  | [] => true
  | first :: rest =>
    if first ≤ 0x7F then isUtf8 rest
    else
      match rest with
      | second :: rest =>
        if 0xC2 ≤ first && first ≤ 0xDF && continues second then isUtf8 rest
        else
          match rest with
          | third :: rest =>
            if (first == 0xE0 && 0xA0 ≤ second && second ≤ 0xBF ||
                0xE1 ≤ first && first ≤ 0xEC && continues second ||
                first == 0xED && 0x80 ≤ second && second ≤ 0x9F ||
                0xEE ≤ first && first ≤ 0xEF && continues second) && continues third then
              isUtf8 rest
            else
              match rest with
              | fourth :: rest =>
                (first == 0xF0 && 0x90 ≤ second && second ≤ 0xBF ||
                  0xF1 ≤ first && first ≤ 0xF3 && continues second ||
                  first == 0xF4 && 0x80 ≤ second && second ≤ 0x8F) &&
                  continues third && continues fourth && isUtf8 rest
              | [] => false
          | [] => false
      | [] => false

/-- The checks of one file; `total` is the size of the files before it. -/
def checkFile (scans : Scans) (total : Nat) (path : PackagePath) (content : List UInt8) :
  Except (List String) Unit := do
  refuseIf (scans.secretFile path.posix) ["package contains a secret-like file: " ++ path.posix]
  refuseIf (content.length > maxPackageFileBytes)
    ["package file exceeds " ++ toString maxPackageFileBytes ++ " bytes: " ++ path.posix]
  refuseIf (total + content.length > maxPackageTotalBytes)
    ["package exceeds " ++ toString maxPackageTotalBytes ++ " total bytes"]
  refuseIf ((suffix path.name).toLower ∈ textFileSuffixes ∧ isUtf8 content = false)
    ["text package file is not UTF-8: " ++ path.posix]
  refuseIf (scans.secretContent content)
    ["package contains secret-like content: " ++ path.posix]

def DirectoryEntry.packaged? (entry : DirectoryEntry) : Option (List UInt8) :=
  match entry.kind with
  | .file content => if entry.path.name = ".DS_Store" then none else some content
  | _ => none

def DirectoryEntry.excluded (entry : DirectoryEntry) : Bool :=
  entry.path.parts.any fun part => excludedParts.contains part

/-- `_package_files` over the entries still to visit, after `count` files of `total` bytes. -/
def packageFiles (scans : Scans) (count total : Nat) :
    List DirectoryEntry → Except (List String) (List SourceFile)
  | [] => .ok []
  | entry :: entries =>
    if entry.excluded then packageFiles scans count total entries
    else do
      refuseIf (pathIsTooLong entry.path.parts)
        ["package path exceeds the length limit: " ++ entry.path.posix]
      refuseIf (entry.path.posix = "bundle.json") ["bundle.json is a reserved release path"]
      refuseIf (entry.kind = .symlink) ["package contains symlink: " ++ entry.path.posix]
      match entry.packaged? with
      | none => packageFiles scans count total entries
      | some content =>
        checkFile scans total entry.path content
        refuseIf (count + 1 ≥ maxBundleFiles)
          ["package must contain fewer than " ++ toString maxBundleFiles ++ " files"]
        let files ← packageFiles scans (count + 1) (total + content.length) entries
        return ⟨entry.path, content⟩ :: files

/-- `_package_hash`: the files of a tree, sorted by the parts of their paths. -/
def packageHashOf (files : List (List String × List UInt8)) : String :=
  sha256 ((files.insertionSort fun file other => file.1 ≤ other.1).flatMap fun file =>
    fileFeed (asPosix file.1) file.2)

def isDigest (text : String) : Bool :=
  text.toList.length == 64 &&
    text.toList.all fun char => '0' ≤ char && char ≤ '9' || 'a' ≤ char && char ≤ 'f'

structure ManifestReport where
  (agent version contentHash : String)
  issues : List String
  contentHash_digest : isDigest contentHash = true

/-- `sorted(root.rglob("*"))` and the manifest in that directory. -/
structure PackageSource where
  entries : List DirectoryEntry
  manifest : ManifestReport
  sorted : entries.Pairwise fun entry later => entry.path.parts < later.path.parts
  parents : ∀ entry ∈ entries, ∀ parent : List String, parent ≠ [] →
    parent <+: entry.path.parts → parent ≠ entry.path.parts →
      ∃ directory ∈ entries, directory.path.parts = parent ∧ directory.kind = .directory

structure AgentPackageReport where
  (agent version contentHash packageHash : String)

def SourceFile.pair (file : SourceFile) : List String × List UInt8 :=
  (file.path.parts, file.content)

def checkAgentPackage (scans : Scans) (source : PackageSource) :
  Except (List String) AgentPackageReport :=
  match packageFiles scans 0 0 source.entries with
  | .error issues => .error (source.manifest.issues ++ issues)
  | .ok files =>
    if source.manifest.issues = [] then
      .ok { agent := source.manifest.agent, version := source.manifest.version
            contentHash := source.manifest.contentHash
            packageHash := packageHashOf (files.map SourceFile.pair) }
    else .error source.manifest.issues

def SourceFile.record (file : SourceFile) : Json :=
  .object
    [("path", .string file.path.posix), ("sha256", .string (sha256 file.content)),
      ("size_bytes", .number (.ofNat file.content.length))]

variable (report : AgentPackageReport)

/-- The members of `bundle.json`, sorted by their names. -/
def provenanceMembers (files : List SourceFile) : List (String × Json) :=
  [("agent", .string report.agent), ("apiVersion", .string "harness/v1alpha1"),
    ("files", .array (files.map SourceFile.record)),
    ("kind", .string "AgentBundle"),
    ("manifestContentHash", .string report.contentHash),
    ("packageContentHash", .string report.packageHash),
    ("version", .string report.version)]

def provenanceText (files : List SourceFile) : List UInt8 :=
  encode (Json.dumps (.object (provenanceMembers report files)))

structure ZipEntry where
  filename : String
  content : List UInt8

structure ZipInfo where
  filename : String
  (externalAttr fileSize : Nat)
  /-- What `archive.read(info)` returns, unless it raises. -/
  data : Option (List UInt8)

/-- `zipfile` and `json.loads`. -/
structure BundleCodec where
  writestr : List ZipEntry → List UInt8
  infolist : List UInt8 → Option (List ZipInfo)
  loads : List UInt8 → Option Json

/-- The entry of a regular file as it is listed: `external_attr = 0o100644 << 16`. -/
def ZipEntry.stored (entry : ZipEntry) : ZipInfo where
  filename := entry.filename
  externalAttr := 0o100644 <<< 16
  fileSize := entry.content.length
  data := some entry.content

def bundleEntries (files : List SourceFile) : List ZipEntry :=
  files.map (fun file => ⟨file.path.posix, file.content⟩) ++
    [⟨"bundle.json", provenanceText report files⟩]

structure PackedBundle where
  archiveName : String
  archive : List UInt8
  report : AgentPackageReport

variable (codec : BundleCodec)

def packAgentPackage (scans : Scans) (source : PackageSource) :
  Except (List String) PackedBundle := do
  let report ← checkAgentPackage scans source
  let files ← packageFiles scans 0 0 source.entries
  return { archiveName := report.agent ++ "-" ++ report.version ++ "-" ++
             String.ofList (report.packageHash.toList.take 12) ++ ".zip"
           archive := codec.writestr (bundleEntries report files)
           report }

inductive ExtractError
  | validation (message : String)
  | badZipFile
  | os

def invalid (message : String) : ExtractError := .validation message

abbrev Disk := Dict (List String) (List UInt8)

def blocked (disk : Disk) (output : List String) : Bool :=
  disk.entries.any fun entry =>
    entry.1 ≠ output && (entry.1.isPrefixOf output || output.isPrefixOf entry.1)

/-- `output.parent.mkdir(parents=True, exist_ok=True)` and `output.write_bytes(data)`. -/
def writeBytes (disk : Disk) (output : List String) (data : List UInt8) :
  Except ExtractError Disk := do
  refuseIf (blocked disk output) .os
  return disk.set output data

/-- `output.resolve()` where there are no links. -/
def resolve (output : List String) : List String :=
  output.foldl (fun walked part => if part = ".." then walked.dropLast else walked ++ [part]) []

structure Extraction where
  seen : List String := []
  extractedFiles : List String := []
  total : Nat := 0
  disk : Disk := Dict.empty

variable (info : ZipInfo)

def ZipInfo.isDir : Bool := info.filename.toList.getLast? == some '/'

/-- `stat.S_ISLNK(info.external_attr >> 16)`. -/
def ZipInfo.isLink : Bool := (info.externalAttr >>> 16) &&& 0o170000 == 0o120000

def ZipInfo.parts : List String := (ofString info.filename).parts

def ZipInfo.normalized : String := asPosix info.parts

def checkPath (seen : List String) (info : ZipInfo) : Except ExtractError Unit := do
  refuseIf ('\\' ∈ info.filename.toList ∨ '\x00' ∈ info.filename.toList)
    (invalid "Agent bundle contains an unsafe path")
  refuseIf ((ofString info.filename).isAbsolute ∨ info.parts = [] ∨
      info.parts.any fun part => ["", ".", ".."].contains part)
    (invalid ("Agent bundle contains an unsafe path: " ++ info.filename))
  refuseIf (pathIsTooLong info.parts)
    (invalid ("Agent bundle path exceeds the length limit: " ++ info.normalized))
  refuseIf (info.normalized ∈ seen)
    (invalid ("Agent bundle contains a duplicate path: " ++ info.normalized))
  refuseIf info.isLink (invalid ("Agent bundle contains a symlink: " ++ info.normalized))

/-- `archive.read(info)` between the size checks. -/
def readEntry (total : Nat) (info : ZipInfo) : Except ExtractError (List UInt8) := do
  refuseIf (info.fileSize > maxPackageFileBytes)
    (invalid ("Agent bundle file exceeds the size limit: " ++ info.normalized))
  refuseIf (total + info.fileSize > maxPackageTotalBytes)
    (invalid "Agent bundle exceeds the uncompressed size limit")
  match info.data with
  | none => .error .badZipFile
  | some data =>
    refuseIf (data.length ≠ info.fileSize)
      (invalid ("Agent bundle file size is inconsistent: " ++ info.normalized))
    return data

variable (root : List String)

def extractEntry (extraction : Extraction) (info : ZipInfo) : Except ExtractError Extraction := do
  checkPath extraction.seen info
  if info.isDir then return { extraction with seen := info.normalized :: extraction.seen }
  else
    let data ← readEntry extraction.total info
    refuseIf (¬ root <+: resolve (root ++ info.parts))
      (invalid ("Agent bundle path escaped the extraction root: " ++ info.normalized))
    let disk ← writeBytes extraction.disk (root ++ info.parts) data
    return { seen := info.normalized :: extraction.seen
             extractedFiles := info.normalized :: extraction.extractedFiles
             total := extraction.total + info.fileSize, disk }

def extractEntries (root : List String) (extraction : Extraction) :
    List ZipInfo → Except ExtractError Extraction
  | [] => .ok extraction
  | info :: infos => do
      let next ← extractEntry root extraction info
      extractEntries root next infos

/-- `provenance.get(name)`; of equal names the last one counts. -/
def member? (members : List (String × Json)) (name : String) : Option Json :=
  (members.reverse.find? fun entry => entry.1 = name).map Prod.snd

def natural? (token : NumberToken) : Option Nat :=
  match token.head with
  | '-' => if token.tail ≠ [] ∧ token.tail.all (· == '0') then some 0 else none
  | _ => if token.text.all Char.isDigit then some (Nat.ofDigitChars 10 token.text 0) else none

structure FileRecord where
  (path sha256 : String)
  sizeBytes : Nat

def fileRecord? : Json → Option FileRecord
  | .object members =>
    match member? members "path", member? members "sha256", member? members "size_bytes" with
    | some (.string path), some (.string digest), some (.number size) =>
      if path ≠ "bundle.json" ∧ isDigest digest then
        (natural? size).map fun sizeBytes => ⟨path, digest, sizeBytes⟩
      else none
    | _, _, _ => none
  | _ => none

def FileRecord.location (record : FileRecord) : List String := root ++ (ofString record.path).parts

def checkRecord (extraction : Extraction) (expected : List String) (record : FileRecord) :
  Except ExtractError Unit := do
  refuseIf (record.path ∈ expected)
    (invalid "Agent bundle provenance contains an invalid file record")
  refuseIf (record.path ∉ extraction.extractedFiles)
    (invalid ("Agent bundle provenance references a missing file: " ++ record.path))
  match extraction.disk.get? (record.location root) with
  | none => .error (invalid ("Agent bundle provenance references a missing file: " ++ record.path))
  | some data =>
    refuseIf (data.length ≠ record.sizeBytes ∨ Hashing.sha256 data ≠ record.sha256)
      (invalid ("Agent bundle file does not match provenance: " ++ record.path))

def checkRecords (root : List String) (extraction : Extraction) (expected : List String) :
    List Json → Except ExtractError (List FileRecord)
  | [] => .ok []
  | item :: items =>
    match fileRecord? item with
    | none => .error (invalid "Agent bundle provenance contains an invalid file record")
    | some record => do
        checkRecord root extraction expected record
        let records ← checkRecords root extraction (record.path :: expected) items
        return record :: records

def digestMember (members : List (String × Json)) (name message : String) :
  Except ExtractError String :=
  match member? members name with
  | some (.string digest) => if isDigest digest then .ok digest else .error (invalid message)
  | _ => .error (invalid message)

def sortedTexts (texts : List String) : List String := texts.insertionSort (· ≤ ·)

def checkInventory (actual expected : List String) : Except ExtractError Unit :=
  let unexpected := sortedTexts (actual.filter (· ∉ expected))
  let missing := sortedTexts (expected.filter (· ∉ actual))
  refuseIf (unexpected ≠ [] ∨ missing ≠ [])
    (invalid ("Agent bundle file inventory does not match provenance: " ++ ", ".intercalate
      (unexpected.map ("unexpected " ++ ·) ++ missing.map ("missing " ++ ·))))

def readFiles (disk : Disk) (paths : List String) : List (List String × List UInt8) :=
  paths.filterMap fun path =>
    let parts := (ofString path).parts
    (disk.get? (root ++ parts)).map fun data => (parts, data)

structure ExtractedBundle where
  manifest : List String
  (manifestHash packageHash : String)
  disk : Disk

def readProvenance (root : List String) (disk : Disk) :
  Except ExtractError (List (String × Json)) :=
  match disk.get? (root ++ ["agent.yaml"]), disk.get? (root ++ ["bundle.json"]) with
  | some _, some text =>
    match codec.loads text with
    | none => .error (invalid "Agent bundle provenance is invalid")
    | some (.object members) => .ok members
    | some _ => .error (invalid "Agent bundle provenance must be an object")
  | _, _ => .error (invalid "Agent bundle must contain agent.yaml and bundle.json at its root")

def verifyBundle (root : List String) (extraction : Extraction) :
  Except ExtractError ExtractedBundle := do
  let members ← readProvenance codec root extraction.disk
  let manifestHash ← digestMember members "manifestContentHash"
    "Agent bundle provenance has an invalid hash"
  let packageHash ← digestMember members "packageContentHash"
    "Agent bundle provenance has an invalid package hash"
  match member? members "files" with
  | some (.array items) =>
    let records ← checkRecords root extraction [] items
    let actual := extraction.extractedFiles.filter (· ≠ "bundle.json")
    checkInventory actual (records.map FileRecord.path)
    refuseIf (packageHashOf (readFiles root extraction.disk (sortedTexts actual)) ≠ packageHash)
      (invalid "Agent bundle package hash does not match its file inventory")
    return { manifest := root ++ ["agent.yaml"], manifestHash, packageHash
             disk := extraction.disk.erase (root ++ ["bundle.json"]) }
  | _ => .error (invalid "Agent bundle provenance has no file inventory")

def extractAgentBundle (destination : List String) (content : List UInt8) :
  Except ExtractError ExtractedBundle := do
  refuseIf (content.length > maxAgentBundleUploadBytes)
    (invalid "Agent bundle exceeds the upload size limit")
  match codec.infolist content with
  | none => .error (invalid "Agent bundle is not a valid ZIP archive")
  | some infos =>
    refuseIf (infos.length > maxBundleFiles) (invalid "Agent bundle contains too many files")
    let extraction ← extractEntries (resolve destination) {} infos
    verifyBundle codec (resolve destination) extraction

end AgentHarness.Packages
