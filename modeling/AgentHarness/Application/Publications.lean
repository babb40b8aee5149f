import AgentHarness.Application.Agents
import AgentHarness.Packages.PackageHash

/-!
What two published versions with one hash have in common.
-/

namespace AgentHarness.Application

open Core List
open Hashing (encode encode_append encode_inj sha256 CollisionFree)
open Packages (PackageFile packageFeed packageHash packageHash_inj)

structure Contents where
  manifest : AgentManifest
  (promptPath systemPrompt : String)
  skills : List (List (String × List UInt8))

variable (directory : AgentDirectory)

def contents (snapshot : AgentManifestSnapshot) : Contents where
  manifest := snapshot.manifest
  promptPath := directory.promptPath
  systemPrompt := snapshot.systemPrompt
  skills := snapshot.skillSnapshots.map fun skill =>
    skill.files.map fun file => (file.path, file.content)

/-- Where the fields end: the prompt's path and text, and each skill file's path and bytes. -/
structure Cuts where
  (promptPath systemPrompt : Nat)
  skills : List (List (Nat × Nat))
  deriving DecidableEq

def Contents.cuts (contents : Contents) : Cuts where
  promptPath := contents.promptPath.length
  systemPrompt := contents.systemPrompt.length
  skills := contents.skills.map fun files =>
    files.map fun file => ((encode file.1).length, file.2.length)

/-- How a version reads without any cuts: the manifest, then everything behind it as one text. -/
structure Reading where
  manifest : AgentManifest
  text : List Char

def reading (snapshot : AgentManifestSnapshot) : Reading where
  manifest := snapshot.manifest
  text := (contentFields snapshot.manifest directory.promptPath snapshot.systemPrompt
    snapshot.skillSnapshots snapshot.pythonToolSnapshots snapshot.toolDirectory).tail.flatMap
      String.toList

def hashed (snapshot : AgentManifestSnapshot) : List (List UInt8) :=
  contentFeed directory.promptPath snapshot ::
    snapshot.skillSnapshots.map fun skill => skillFeed skill.files

theorem flatMap_encode (fields : List String) :
  fields.flatMap encode = encode (String.ofList (fields.flatMap String.toList)) := by
  induction fields with
  | nil => rfl
  | cons field fields ih =>
    rw [flatMap_cons, flatMap_cons, ih, ← encode_append, String.ofList_append, String.ofList_toList]

theorem flatMap_encode_inj {fields others : List String} :
  fields.flatMap encode = others.flatMap encode ↔
    fields.flatMap String.toList = others.flatMap String.toList := by
  rw [flatMap_encode, flatMap_encode]
  constructor
  · intro same
    exact String.ofList_inj.mp (encode_inj same)
  intro same
  rw [same]

theorem contentFeed_eq_iff (a b : AgentDirectory) (sa sb : AgentManifestSnapshot) :
  contentFeed a.promptPath sa = contentFeed b.promptPath sb ↔ reading a sa = reading b sb := by
  rw [contentFeed, contentFeed, flatMap_encode_inj, Reading.mk.injEq]
  constructor
  · exact AgentManifest.canonical_inj
  rintro ⟨manifest, text⟩
  have canonical := congrArg (fun manifest => manifest.canonical.toList) manifest
  exact congrArg₂ (· ++ ·) canonical text

theorem referenced_inj {fields others : List (String × String)} {rest rest' : List Char}
  (references : fields.map Prod.fst = others.map Prod.fst)
  (lengths : ∀ field ∈ fields ++ others, field.2.toList.length = 64)
  (same : (fields.flatMap fun field => [field.1, field.2]).flatMap String.toList ++ rest =
    (others.flatMap fun field => [field.1, field.2]).flatMap String.toList ++ rest') :
  fields = others := by
  induction fields generalizing others with
  | nil => exact (map_eq_nil_iff.mp references.symm).symm
  | cons field fields ih =>
    cases others with
    | nil => cases references
    | cons other others =>
      obtain ⟨reference, digest⟩ := field
      obtain ⟨reference', digest'⟩ := other
      obtain ⟨rfl, laterReferences⟩ := List.cons.inj references
      simp only [flatMap_cons, cons_append, nil_append, append_assoc]
        at same
      obtain ⟨digests, rest⟩ := append_inj (append_cancel_left same)
        ((lengths (reference, digest) (by simp)).trans
          (lengths (reference, digest') (by simp)).symm)
      have lengths' : ∀ field ∈ fields ++ others, field.2.toList.length = 64 := by
        intro field member
        apply lengths
        rcases mem_append.mp member with left | right
        · exact mem_append_left _ (mem_cons_of_mem _ left)
        exact mem_append_right _ (mem_cons_of_mem _ right)
      rw [String.toList_inj.mp digests, ih laterReferences lengths' rest]

theorem cut_inj {files others : List SkillFileSnapshot} (feeds : skillFeed files = skillFeed others)
  (cuts : files.map (fun file => ((encode file.path).length, file.content.length)) =
    others.map fun file => ((encode file.path).length, file.content.length)) :
  files.map (fun file => (file.path, file.content)) =
    others.map (fun file => (file.path, file.content)) := by
  induction files generalizing others with
  | nil => rw [map_eq_nil_iff.mp cuts.symm]
  | cons file files ih =>
    cases others with
    | nil => cases cuts
    | cons other others =>
      obtain ⟨cut, cuts⟩ := List.cons.inj cuts
      obtain ⟨pathCut, contentCut⟩ := Prod.mk.inj cut
      simp only [skillFeed, flatMap_cons, append_assoc] at feeds
      obtain ⟨paths, remaining⟩ := append_inj feeds pathCut
      obtain ⟨contents, rest⟩ := append_inj remaining contentCut
      rw [map_cons, map_cons, encode_inj paths, contents, ih rest cuts]

def digestField (skill : SkillSnapshot) : String × String := (skill.source, skill.contentHash)

theorem reading_text (snapshot : AgentManifestSnapshot) :
  ∃ rest, (reading directory snapshot).text =
    directory.promptPath.toList ++ (snapshot.systemPrompt.toList ++
    (((snapshot.skillSnapshots.map digestField).flatMap fun field =>
    [field.1, field.2]).flatMap String.toList ++ rest)) := by
  exists (snapshot.pythonToolSnapshots.flatMap fun tool => [tool.reference, tool.sha256]).flatMap
    String.toList ++
    (snapshot.toolDirectory.toList.flatMap fun directory =>
      [toolDirectoryFilename, directory.contentHash]).flatMap String.toList
  simp only [reading, contentFields, cons_append, tail_cons, flatMap_cons,
    flatMap_append, append_assoc, flatMap_map, digestField]

variable {skills others : List SkillSnapshot}

theorem feeds_of_digests
  (recorded : ∀ skill ∈ skills, skill.contentHash = sha256 (skillFeed skill.files))
  (recorded' : ∀ skill ∈ others, skill.contentHash = sha256 (skillFeed skill.files))
  (collisionFree : CollisionFree ((skills ++ others).map fun skill => skillFeed skill.files))
  (same : skills.map SkillSnapshot.contentHash = others.map SkillSnapshot.contentHash) :
  skills.map (fun skill => skillFeed skill.files) =
    others.map (fun skill => skillFeed skill.files) := by
  induction skills generalizing others with
  | nil => rw [map_eq_nil_iff.mp same.symm]
  | cons skill skills ih =>
    cases others with
    | nil => cases same
    | cons other others =>
      obtain ⟨digests, same⟩ := List.cons.inj same
      have feeds : skillFeed skill.files = skillFeed other.files := by
        apply collisionFree
        · exact mem_map_of_mem (by simp)
        · exact mem_map_of_mem (by simp)
        rw [← recorded skill mem_cons_self, ← recorded' other mem_cons_self, digests]
      have smaller : CollisionFree ((skills ++ others).map fun skill => skillFeed skill.files) := by
        intro message member message' member'
        apply collisionFree message _ message'
        · exact map_subset _ (by intro skill; simp; tauto) member'
        exact map_subset _ (by intro skill; simp; tauto) member
      rw [map_cons, map_cons, feeds,
        ih (fun skill member => recorded skill (mem_cons_of_mem _ member))
          (fun skill member => recorded' skill (mem_cons_of_mem _ member)) smaller same]

theorem files_of_cuts (feeds : skills.map (fun skill => skillFeed skill.files) =
    others.map fun skill => skillFeed skill.files)
  (cuts : skills.map (fun skill => skill.files.map fun file =>
    ((encode file.path).length, file.content.length)) =
    others.map (fun skill => skill.files.map fun file =>
    ((encode file.path).length, file.content.length))) :
  skills.map (fun skill => skill.files.map fun file => (file.path, file.content)) =
    others.map (fun skill => skill.files.map fun file => (file.path, file.content)) := by
  induction skills generalizing others with
  | nil => rw [map_eq_nil_iff.mp feeds.symm]
  | cons skill skills ih =>
    cases others with
    | nil => cases feeds
    | cons other others =>
      obtain ⟨feed, feeds⟩ := List.cons.inj feeds
      obtain ⟨cut, cuts⟩ := List.cons.inj cuts
      rw [map_cons, map_cons, cut_inj feed cut, ih feeds cuts]

section

variable {a b : AgentDirectory} {sa sb : AgentManifestSnapshot}

theorem reading_of_hash (loadedA : Loaded a sa) (loadedB : Loaded b sb)
  (collisionFree : CollisionFree (hashed a sa ++ hashed b sb))
  (same : sa.contentHash = sb.contentHash) : reading a sa = reading b sb := by
  rw [loadedA.contentHash, loadedB.contentHash] at same
  exact (contentFeed_eq_iff a b sa sb).mp (collisionFree _ (by simp [hashed]) _ (by simp [hashed])
    same)

theorem hash_of_reading (loadedA : Loaded a sa) (loadedB : Loaded b sb)
  (alike : reading a sa = reading b sb) : sa.contentHash = sb.contentHash := by
  rw [loadedA.contentHash, loadedB.contentHash, (contentFeed_eq_iff a b sa sb).mpr alike]

theorem contents_of_hash (loadedA : Loaded a sa) (loadedB : Loaded b sb)
  (collisionFree : CollisionFree (hashed a sa ++ hashed b sb))
  (cut : reading a sa = reading b sb → (contents a sa).cuts = (contents b sb).cuts)
  (same : sa.contentHash = sb.contentHash) : contents a sa = contents b sb := by
  have alike := reading_of_hash loadedA loadedB collisionFree same
  have manifest : sa.manifest = sb.manifest := congrArg Reading.manifest alike
  obtain ⟨rest, text⟩ := reading_text a sa
  obtain ⟨rest', text'⟩ := reading_text b sb
  obtain ⟨pathCut, promptCut, skillCuts⟩ := Cuts.mk.inj (cut alike)
  have texts := congrArg Reading.text alike
  rw [text, text'] at texts
  obtain ⟨paths, texts⟩ := append_inj texts
    (by rw [String.length_toList, String.length_toList]; exact pathCut)
  obtain ⟨prompts, texts⟩ := append_inj texts
    (by rw [String.length_toList, String.length_toList]; exact promptCut)
  have sources : (sa.skillSnapshots.map digestField).map Prod.fst =
    (sb.skillSnapshots.map digestField).map Prod.fst := by
    rw [map_map, map_map]
    exact loadedA.sources.trans (manifest ▸ loadedB.sources.symm)
  have lengths : ∀ field ∈ sa.skillSnapshots.map digestField ++
    sb.skillSnapshots.map digestField, field.2.toList.length = 64 := by
    rw [← map_append, forall_mem_map]
    intro skill member
    rcases mem_append.mp member with left | right
    · rw [digestField, loadedA.skillHashes skill left, Hashing.length_sha256]
    rw [digestField, loadedB.skillHashes skill right, Hashing.length_sha256]
  have digests := congrArg (List.map Prod.snd) (referenced_inj sources lengths texts)
  rw [map_map, map_map] at digests
  have feeds := feeds_of_digests loadedA.skillHashes loadedB.skillHashes
    (by
      rw [map_append]
      intro message member message' member'
      apply collisionFree message _ message'
      · rcases mem_append.mp member' with left | right
        · exact mem_append_left _ (mem_cons_of_mem _ left)
        exact mem_append_right _ (mem_cons_of_mem _ right)
      rcases mem_append.mp member with left | right
      · exact mem_append_left _ (mem_cons_of_mem _ left)
      exact mem_append_right _ (mem_cons_of_mem _ right)) digests
  simp only [contents, map_map, Function.comp_def] at skillCuts
  rw [contents, contents, manifest, String.toList_inj.mp paths, String.toList_inj.mp prompts,
    files_of_cuts feeds skillCuts]

end

/-- Publishing `later` over an accepted `earlier` of the same name and version, with any other
publications in between, is refused as a conflict. -/
def Refused (earlier later : Publication) : Prop :=
  ∀ (registry : AgentRegistry) (version : AgentVersion) (between : List Publication),
    (publishSnapshot registry earlier).1 = .ok version →
      (publishSnapshot (publishAll (publishSnapshot registry earlier).2 between) later).1 =
        .error later.conflict

structure Identifying (a b : AgentDirectory) (sa sb : AgentManifestSnapshot) : Prop where
  contentHash : sa.contentHash = sb.contentHash → contents a sa = contents b sb
  packageHash : ∀ files others : List PackageFile,
    CollisionFree [packageFeed files, packageFeed others] →
      packageHash files = packageHash others → files = others
  contentsRefused : ∀ earlier later : Publication, earlier.snapshot = sa → later.snapshot = sb →
    earlier.agentVersion.key = later.agentVersion.key → contents a sa ≠ contents b sb →
      Refused earlier later
  packagesRefused : ∀ (earlier later : Publication) (files others : List PackageFile),
    CollisionFree [packageFeed files, packageFeed others] →
      earlier.packageHash = some (Packages.packageHash files) →
        later.packageHash = some (Packages.packageHash others) →
          earlier.agentVersion.key = later.agentVersion.key → files ≠ others → Refused earlier later

theorem refused_of_hashes {earlier later : Publication}
  (key : earlier.agentVersion.key = later.agentVersion.key)
  (differ : earlier.snapshot.contentHash ≠ later.snapshot.contentHash ∨
    (earlier.packageHash ≠ none ∧ later.packageHash ≠ none ∧
    earlier.packageHash ≠ later.packageHash)) : Refused earlier later := by
  intro registry version between accepted
  obtain ⟨stored, manifestHash, packageHash⟩ := publishSnapshot_stores accepted
  rw [key] at stored
  rw [publishSnapshot_taken (publishAll_keeps between stored), manifestHash]
  apply if_pos
  rcases differ with contents | ⟨given, given', packages⟩
  · exact .inl contents
  exact .inr ⟨given', by rwa [packageHash given]⟩

/-- The hashes identify a pair of versions exactly where fields that read alike are cut alike. -/
theorem identifying_iff (parsers : Parsers) (environment environment' : Environment)
  (a b : AgentDirectory) (sa sb : AgentManifestSnapshot)
  (loaded : loadManifest parsers environment a = .ok sa)
  (loaded' : loadManifest parsers environment' b = .ok sb)
  (collisionFree : CollisionFree (hashed a sa ++ hashed b sb)) :
  Identifying a b sa sb ↔
    (reading a sa = reading b sb → (contents a sa).cuts = (contents b sb).cuts) := by
  have loadedA := loadManifest_ok loaded
  have loadedB := loadManifest_ok loaded'
  constructor
  · intro identifying alike
    rw [identifying.contentHash (hash_of_reading loadedA loadedB alike)]
  intro cut
  have identified := contents_of_hash loadedA loadedB collisionFree cut
  exact
    { contentHash := identified
      packageHash := fun _ _ packagesFree same => packageHash_inj packagesFree same
      contentsRefused := by
        rintro earlier later rfl rfl key differ
        exact refused_of_hashes key (.inl fun same => differ (identified same))
      packagesRefused := by
        intro earlier later files others packagesFree given given' key differ
        apply refused_of_hashes key (.inr _)
        rw [given, given']
        refine ⟨nofun, nofun, fun same => differ ?_⟩
        exact packageHash_inj packagesFree (Option.some.inj same) }

def notesManifest (skills : List String) : AgentManifest where
  metadata := { name := "notes", version := "1.0.0" }
  spec :=
    { model := { route := "default", model := "small" }, prompt := { system := "prompt.md" }
      skills, permissions := { policy := "standard" } }

def skillMd : List UInt8 := encode "---\nname: memo\ndescription: Memos.\n---\n"

def notesParsers : Parsers where
  frontmatter := fun content =>
    if content = skillMd then .ok ⟨some "memo", some "Memos."⟩
    else .error "SKILL.md must start with YAML frontmatter"
  pythonTool := fun path _ => .error ("Bundle Python tool must define run(arguments): " ++ path)

def promptFile (text path : String) : Resolved String :=
  if path = "prompt.md" then .file "prompt.md" text else .missing

variable (path : String)

/-- An agent whose one skill has a file besides its `SKILL.md`. -/
def withFile (content : String) : AgentDirectory where
  manifest := notesManifest ["skills/memo"]
  accepted := by decide
  prompt := promptFile "Take notes."
  skill := fun relative =>
    if relative = "skills/memo" then
      .directory
        { name := "memo", entries := [⟨"SKILL.md", false, skillMd⟩, ⟨path, false, encode content⟩] }
    else .missing
  pythonTool := fun _ => .missing
  toolDirectory := .missing

def fileSnapshot (content : List UInt8) : SkillFileSnapshot :=
  ⟨path, content, sha256 content, content.length⟩

def withFileFiles (content : String) : List SkillFileSnapshot :=
  [fileSnapshot "SKILL.md" skillMd, fileSnapshot path (encode content)]

def withFileSkill (content : String) : SkillSnapshot :=
  ⟨"memo", "Memos.", "skills/memo", withFileFiles path content,
    sha256 (skillFeed (withFileFiles path content))⟩

def withFileSnapshot (content : String) : AgentManifestSnapshot where
  manifest := notesManifest ["skills/memo"]
  systemPrompt := "Take notes."
  skillSnapshots := [withFileSkill path content]
  pythonToolSnapshots := []
  toolDirectory := none
  contentHash := sha256 ((contentFields (notesManifest ["skills/memo"]) "prompt.md" "Take notes."
    [withFileSkill path content] [] none).flatMap encode)

theorem withFile_loaded (content : String)
  (loads : snapshotSkill notesParsers (withFile path content).skill "skills/memo" =
    .ok (withFileSkill path content)) :
  loadManifest notesParsers .production (withFile path content) =
    .ok (withFileSnapshot path content) := by
  have skills : loadEach (snapshotSkill notesParsers (withFile path content).skill)
    (sortedTexts ["skills/memo"]) = .ok [withFileSkill path content] := by
    show loadEach _ ["skills/memo"] = _
    simp only [loadEach, loads, Except.map]
  show (loadEach (snapshotSkill notesParsers (withFile path content).skill)
    (sortedTexts ["skills/memo"])).bind _ = _
  rw [skills]
  rfl

theorem feeds_shared : skillFeed (withFileFiles "x" "yz") = skillFeed (withFileFiles "xy" "z") := by
  decide +kernel

theorem contentFeeds_shared : contentFeed "prompt.md" (withFileSnapshot "x" "yz") =
  contentFeed "prompt.md" (withFileSnapshot "xy" "z") :=
  congrArg (fun feed => ((notesManifest ["skills/memo"]).canonical :: "prompt.md" ::
    "Take notes." :: ["skills/memo", sha256 feed]).flatMap encode) feeds_shared

/-- Two versions of one agent with one content hash: nothing but equal messages was hashed for
them, and a file of their skill has another name and other bytes. -/
theorem shifted_file_shares_hash : loadManifest notesParsers .production (withFile "x" "yz") =
  .ok (withFileSnapshot "x" "yz") ∧
  loadManifest notesParsers .production (withFile "xy" "z") = .ok (withFileSnapshot "xy" "z") ∧
  hashed (withFile "x" "yz") (withFileSnapshot "x" "yz") =
  hashed (withFile "xy" "z") (withFileSnapshot "xy" "z") ∧
  (withFileSnapshot "x" "yz").contentHash = (withFileSnapshot "xy" "z").contentHash ∧
  ¬ Identifying (withFile "x" "yz") (withFile "xy" "z") (withFileSnapshot "x" "yz")
  (withFileSnapshot "xy" "z") := by
  have hash : (withFileSnapshot "x" "yz").contentHash =
    (withFileSnapshot "xy" "z").contentHash := congrArg sha256 contentFeeds_shared
  refine ⟨withFile_loaded _ _ rfl, withFile_loaded _ _ rfl, ?_, hash, fun identifying => ?_⟩
  · exact congrArg₂ (fun content skill => [content, skill]) contentFeeds_shared feeds_shared
  have skills := congrArg Contents.skills (identifying.contentHash hash)
  revert skills
  decide +kernel

def linked (text : String) : AgentDirectory where
  manifest := notesManifest []
  accepted := by decide
  prompt := fun relative => if relative = "prompt.md" then .file path text else .missing
  skill := fun _ => .missing
  pythonTool := fun _ => .missing
  toolDirectory := .missing

def linkedSnapshot (text : String) : AgentManifestSnapshot where
  manifest := notesManifest []
  systemPrompt := text
  skillSnapshots := []
  pythonToolSnapshots := []
  toolDirectory := none
  contentHash := sha256 ((contentFields (notesManifest []) path text [] [] none).flatMap encode)

theorem linked_alike : reading (linked "p" "qr") (linkedSnapshot "p" "qr") =
  reading (linked "pq" "r") (linkedSnapshot "pq" "r") := by
  have texts : (reading (linked "p" "qr") (linkedSnapshot "p" "qr")).text =
    (reading (linked "pq" "r") (linkedSnapshot "pq" "r")).text := by decide +kernel
  exact congrArg (Reading.mk (notesManifest [])) texts

/-- A prompt behind a link shares its hash with another link's longer path and shorter text. -/
theorem identifying_iff_linked :
  ¬ Identifying (linked "p" "qr") (linked "pq" "r") (linkedSnapshot "p" "qr")
    (linkedSnapshot "pq" "r") := by
  have messages : hashed (linked "p" "qr") (linkedSnapshot "p" "qr") =
    hashed (linked "pq" "r") (linkedSnapshot "pq" "r") :=
    congrArg (fun feed => [feed]) ((contentFeed_eq_iff _ _ _ _).mpr linked_alike)
  have collisionFree : CollisionFree (hashed (linked "p" "qr") (linkedSnapshot "p" "qr") ++
    hashed (linked "pq" "r") (linkedSnapshot "pq" "r")) := by
    rw [messages]
    intro message member message' member' _
    simp only [hashed, mem_append, mem_cons, linkedSnapshot, map_nil,
      not_mem_nil, or_false, or_self] at member member'
    rw [member, member']
  intro identifying
  have cuts := (identifying_iff notesParsers .production .production _ _ _ _ rfl rfl
    collisionFree).mp identifying linked_alike
  revert cuts
  decide +kernel

end AgentHarness.Application
