import AgentHarness.Packages.Extraction

/-!
Which packed sources the extraction takes back.
-/

namespace AgentHarness.Packages

open Collections Dict List ZipEntry PackagePath
open Hashing (encode sha256)
open Text (Json NumberToken)

def DirectoryEntry.file? (entry : DirectoryEntry) : Option SourceFile :=
  if entry.excluded then none else entry.packaged?.map fun content => ⟨entry.path, content⟩

def PackageSource.files (source : PackageSource) : List SourceFile :=
  source.entries.filterMap DirectoryEntry.file?

def PackageSource.report (source : PackageSource) : AgentPackageReport where
  agent := source.manifest.agent
  version := source.manifest.version
  contentHash := source.manifest.contentHash
  packageHash := packageHashOf (source.files.map SourceFile.pair)

def totalSize (files : List (List String × List UInt8)) : Nat :=
  (files.map fun file => file.2.length).sum

/-- The limits that packing checks, from `count` files of `total` bytes on. -/
structure WithinLimits (count total : Nat) (files : List SourceFile) : Prop where
  short : ∀ file ∈ files, pathIsTooLong file.path.parts = false
  small : ∀ file ∈ files, file.content.length ≤ maxPackageFileBytes
  total : total ≤ maxPackageTotalBytes →
    total + totalSize (files.map SourceFile.pair) ≤ maxPackageTotalBytes
  count : count < maxBundleFiles → count + files.length < maxBundleFiles

theorem withinLimits_nil (count total : Nat) : WithinLimits count total [] where
  short _ member := nomatch member
  small _ member := nomatch member
  total fits := fits
  count fits := fits

variable {scans : Scans} {codec : BundleCodec} {packed : PackedBundle} {source : PackageSource}
  {entry : DirectoryEntry} {parts destination root : List String} {file : List String × List UInt8}
  {done : List (List String × List UInt8)} {extraction : Extraction}

theorem checkFile_ok {total : Nat} {path : PackagePath} {content : List UInt8}
  (checked : checkFile scans total path content = .ok ()) :
  content.length ≤ maxPackageFileBytes ∧ total + content.length ≤ maxPackageTotalBytes := by
  simp only [checkFile, refuseIf_bind, gt_iff_lt, Nat.not_lt] at checked
  exact ⟨checked.2.1, checked.2.2.1⟩

theorem packageFiles_ok {count total : Nat} {entries : List DirectoryEntry}
  {files : List SourceFile} (packed : packageFiles scans count total entries = .ok files) :
  files = entries.filterMap DirectoryEntry.file? ∧ WithinLimits count total files ∧
    ∀ entry ∈ entries, entry.excluded = false → entry.path.posix ≠ "bundle.json" := by
  induction entries generalizing count total files with
  | nil =>
    cases packed
    exact ⟨rfl, withinLimits_nil count total, fun _ member => nomatch member⟩
  | cons entry entries ih =>
    rw [packageFiles] at packed
    split at packed
    case isTrue excluded =>
      obtain ⟨same, limits, unreserved⟩ := ih packed
      refine ⟨?_, limits, ?_⟩
      · rw [filterMap_cons, DirectoryEntry.file?, if_pos excluded, same]
      intro other member kept
      obtain rfl | member := mem_cons.mp member
      · rw [excluded] at kept
        cases kept
      exact unreserved other member kept
    case isFalse kept =>
      simp only [refuseIf_bind, Bool.not_eq_true] at packed
      obtain ⟨short, unreserved, _, packed⟩ := packed
      have reserved : ∀ other ∈ entry :: entries,
        (∀ later ∈ entries, later.excluded = false → later.path.posix ≠ "bundle.json") →
        other.excluded = false → other.path.posix ≠ "bundle.json" := by
        intro other member later
        obtain rfl | member := mem_cons.mp member
        · exact fun _ => unreserved
        exact later other member
      split at packed
      case h_1 skipped =>
        obtain ⟨same, limits, later⟩ := ih packed
        refine ⟨?_, limits, fun other member => reserved other member later⟩
        rw [filterMap_cons, DirectoryEntry.file?, if_neg kept, skipped, same]
        rfl
      case h_2 content found =>
        simp only [except_bind_ok, refuseIf_ok, ge_iff_le, Nat.not_le] at packed
        obtain ⟨_, checked, _, room, rest, packed, same⟩ := packed
        cases same
        obtain ⟨small, within⟩ := checkFile_ok checked
        obtain ⟨same, limits, later⟩ := ih packed
        refine ⟨?_, ?_, fun other member => reserved other member later⟩
        · rw [filterMap_cons, DirectoryEntry.file?, if_neg kept, found, same]
          rfl
        refine
          { short := ?_, small := ?_, total := fun _ => ?_
            count := fun _ => ?_ }
        · intro file member
          obtain rfl | member := mem_cons.mp member
          · exact short
          exact limits.short file member
        · intro file member
          obtain rfl | member := mem_cons.mp member
          · exact small
          exact limits.small file member
        · have sum := limits.total within
          simp only [totalSize, map_cons, sum_cons, SourceFile.pair] at sum ⊢
          omega
        have length := limits.count room
        simp only [length_cons]
        omega

theorem packAgentPackage_ok (accepted : packAgentPackage codec scans source = .ok packed) :
  packageFiles scans 0 0 source.entries = .ok source.files ∧ packed.report = source.report ∧
    packed.archive = codec.writestr (bundleEntries source.report source.files) := by
  simp only [packAgentPackage, except_bind_ok, checkAgentPackage] at accepted
  obtain ⟨report, checked, files, listed, same⟩ := accepted
  have shape : files = source.files := (packageFiles_ok listed).1
  subst shape
  simp only [listed] at checked
  cases same
  split at checked
  · cases checked
    exact ⟨listed, rfl, rfl⟩
  cases checked

def Apart (file other : List String × List UInt8) : Prop :=
  ¬ file.1 <+: other.1 ∧ ¬ other.1 <+: file.1

theorem file?_eq_some {file : SourceFile} (found : entry.file? = some file) :
  entry.excluded = false ∧ entry.path = file.path ∧ entry.kind = .file file.content := by
  unfold DirectoryEntry.file? at found
  split at found
  · cases found
  case isFalse kept =>
    obtain ⟨content, packaged, rfl⟩ := Option.map_eq_some_iff.mp found
    refine ⟨Bool.not_eq_true _ ▸ kept, rfl, ?_⟩
    unfold DirectoryEntry.packaged? at packaged
    split at packaged
    case h_1 kind =>
      split at packaged
      · cases packaged
      cases packaged
      exact kind
    · cases packaged

theorem entries_distinct (source : PackageSource) {other : DirectoryEntry}
  (entry_mem : entry ∈ source.entries) (other_mem : other ∈ source.entries)
  (same : entry.path.parts = other.path.parts) : entry = other := by
  have distinct : (source.entries.map fun entry => entry.path.parts).Nodup :=
    pairwise_map.mpr (source.sorted.imp fun before => ne_of_lt before)
  exact inj_on_of_nodup_map distinct entry_mem other_mem same

theorem mem_files {file : SourceFile} (member : file ∈ source.files) :
  ∃ entry ∈ source.entries, entry.excluded = false ∧ entry.path = file.path ∧
    entry.kind = .file file.content := by
  obtain ⟨entry, entry_mem, found⟩ := mem_filterMap.mp member
  exact ⟨entry, entry_mem, file?_eq_some found⟩

theorem files_sorted (source : PackageSource) :
  source.files.Pairwise fun file later => file.path.parts < later.path.parts := by
  apply pairwise_filterMap.mpr
  apply source.sorted.imp
  intro entry later before file found other found'
  rw [← (file?_eq_some found).2.1, ← (file?_eq_some found').2.1]
  exact before

theorem file_leaf {file : SourceFile} (file_mem : file ∈ source.files)
  (entry_mem : entry ∈ source.entries) (above : file.path.parts <+: entry.path.parts) : file.path.parts = entry.path.parts := by
  by_contra differ
  obtain ⟨directory, listed, same, kind⟩ :=
    source.parents entry entry_mem file.path.parts file.path.nonempty above differ
  obtain ⟨owner, owner_mem, _, path, isFile⟩ := mem_files file_mem
  have here : directory = owner := entries_distinct source listed owner_mem (by rw [same, path])
  rw [here, isFile] at kind
  cases kind

theorem unreserved_prefix {file : SourceFile}
  (unreserved : ∀ entry ∈ source.entries, entry.excluded = false →
    entry.path.posix ≠ "bundle.json") (member : file ∈ source.files) : ¬ ["bundle.json"] <+: file.path.parts := by
  intro below
  obtain ⟨owner, owner_mem, kept, path, _⟩ := mem_files member
  by_cases same : ["bundle.json"] = file.path.parts
  · apply unreserved owner owner_mem kept
    rw [PackagePath.posix, path, ← same]
    decide
  rw [← path] at below same
  obtain ⟨directory, listed, named, _⟩ :=
    source.parents owner owner_mem ["bundle.json"] (by decide) below same
  apply unreserved directory listed
  · rw [DirectoryEntry.excluded, named]
    decide
  rw [PackagePath.posix, named]
  decide

def bundleFiles (source : PackageSource) : List (List String × List UInt8) :=
  source.files.map SourceFile.pair ++ [(["bundle.json"], provenanceText source.report source.files)]

theorem prefix_singleton {part : String} (nonempty : parts ≠ [])
  (above : parts <+: [part]) : parts = [part] := by
  cases parts with
  | nil => exact absurd rfl nonempty
  | cons first rest =>
    obtain ⟨same, rest_prefix⟩ := cons_prefix_cons.mp above
    rw [same, prefix_nil.mp rest_prefix]

theorem bundleFiles_apart (unreserved : ∀ entry ∈ source.entries, entry.excluded = false →
  entry.path.posix ≠ "bundle.json") : (bundleFiles source).Pairwise Apart := by
  rw [bundleFiles, pairwise_append]
  refine ⟨?_, pairwise_singleton _ _, ?_⟩
  · apply pairwise_map.mpr
    apply (files_sorted source).imp_of_mem
    intro file other file_mem other_mem before
    obtain ⟨owner, owner_mem, _, owns, _⟩ := mem_files file_mem
    obtain ⟨owner', owner_mem', _, owns', _⟩ := mem_files other_mem
    constructor
    · intro above
      have same := file_leaf file_mem owner_mem' (owns' ▸ above)
      rw [owns'] at same
      exact ne_of_lt before same
    intro above
    have same := file_leaf other_mem owner_mem (owns ▸ above)
    rw [owns] at same
    exact ne_of_gt before same
  intro pair pair_mem descriptor descriptor_mem
  obtain ⟨file, file_mem, rfl⟩ := mem_map.mp pair_mem
  obtain rfl := mem_singleton.mp descriptor_mem
  have outside := unreserved_prefix unreserved file_mem
  constructor
  · intro above
    exact outside
      ⟨[], (append_nil _).trans (prefix_singleton file.path.nonempty above).symm⟩
  exact outside

def storedInfo (file : List String × List UInt8) : ZipInfo :=
  ZipEntry.stored ⟨asPosix file.1, file.2⟩

theorem bundleEntries_stored (source : PackageSource) :
  (bundleEntries source.report source.files).map ZipEntry.stored =
    (bundleFiles source).map storedInfo := by
  simp only [bundleEntries, bundleFiles, map_append, map_map, map_cons, map_nil]
  rfl

structure Named (file : List String × List UInt8) : Prop where
  nonempty : file.1 ≠ []
  proper : ∀ part ∈ file.1, ProperPart part
  short : pathIsTooLong file.1 = false

theorem parts_storedInfo (named : Named file) : (storedInfo file).parts = file.1 :=
  parts_ofString_posix named.nonempty named.proper

theorem normalized_storedInfo (named : Named file) :
  (storedInfo file).normalized = asPosix file.1 := by
  rw [ZipInfo.normalized, parts_storedInfo named]

theorem isDir_storedInfo (named : Named file) : (storedInfo file).isDir = false :=
  beq_eq_false_iff_ne.mpr (getLast_posix named.nonempty named.proper)

theorem regular_storedInfo (file : List String × List UInt8) :
  (storedInfo file).isLink = false := by
  have mode : ((0o100644 <<< 16 >>> 16 &&& 0o170000 : Nat) == 0o120000) = false := by decide
  exact mode

theorem stored_admitted {seen : List String} (named : Named file) :
  AdmittedPath seen (storedInfo file) ↔ '\\' ∉ (asPosix file.1).toList ∧ asPosix file.1 ∉ seen := by
  constructor
  · intro admitted
    have fresh := admitted.fresh
    rw [normalized_storedInfo named] at fresh
    exact ⟨admitted.noBackslash, fresh⟩
  rintro ⟨noBackslash, fresh⟩
  refine
    { noBackslash, nonempty := ?_, proper := ?_
      relative := isAbsolute_ofString_posix named.proper, noNull := ?_, short := ?_, fresh := ?_
      regular := regular_storedInfo file }
  · rw [parts_storedInfo named]
    exact named.nonempty
  · rw [parts_storedInfo named]
    exact named.proper
  · intro inside
    obtain slash | ⟨part, member, inside⟩ := mem_posix inside
    · cases slash
    exact (named.proper part member).noNull inside
  · rw [parts_storedInfo named]
    exact named.short
  rw [normalized_storedInfo named]
  exact fresh

variable {walked : List String}

theorem walk_plain (plain : ∀ part ∈ parts, part ≠ "..") :
  parts.foldl (fun walked part => if part = ".." then walked.dropLast else walked ++ [part])
    walked = walked ++ parts := by
  induction parts generalizing walked with
  | nil => rw [foldl_nil, append_nil]
  | cons part parts ih =>
    rw [foldl_cons, if_neg (plain part mem_cons_self),
      ih fun later member => plain later (mem_cons_of_mem _ member), append_assoc,
      singleton_append]

theorem walk_upless (plain : ".." ∉ walked) : ".." ∉ parts.foldl
  (fun walked part => if part = ".." then walked.dropLast else walked ++ [part]) walked := by
  induction parts generalizing walked with
  | nil => exact plain
  | cons part parts ih =>
    rw [foldl_cons]
    apply ih
    split
    · exact fun up => plain (dropLast_subset _ up)
    case isFalse named =>
      intro up
      obtain up | up := mem_append.mp up
      · exact plain up
      exact named (mem_singleton.mp up).symm

theorem resolve_below (plain : ∀ part ∈ parts, part ≠ "..") :
  resolve destination <+: resolve (resolve destination ++ parts) := by
  have upless : ".." ∉ resolve destination := walk_upless not_mem_nil
  have whole : ∀ part ∈ resolve destination ++ parts, part ≠ ".." := by
    intro part member
    obtain above | below := mem_append.mp member
    · rintro rfl
      exact upless above
    exact plain part below
  rw [show resolve (resolve destination ++ parts) = [] ++ (resolve destination ++ parts) from
    walk_plain whole]
  exact prefix_append _ _

structure Holding (root : List String) (done : List (List String × List UInt8))
    (extraction : Extraction) : Prop where
  seen : ∀ path, path ∈ extraction.seen ↔ ∃ file ∈ done, path = asPosix file.1
  extracted : ∀ path, path ∈ extraction.extractedFiles ↔ ∃ file ∈ done, path = asPosix file.1
  total : extraction.total = totalSize done
  disk : ∀ location data, extraction.disk.get? location = some data ↔
    ∃ file ∈ done, location = root ++ file.1 ∧ data = file.2

theorem holding_start (root : List String) : Holding root [] {} where
  seen _ := ⟨fun listed => (nomatch listed), fun ⟨_, member, _⟩ => nomatch member⟩
  extracted _ := ⟨fun listed => (nomatch listed), fun ⟨_, member, _⟩ => nomatch member⟩
  total := rfl
  disk _ _ := ⟨fun found => (nomatch found), fun ⟨_, member, _⟩ => nomatch member⟩

theorem Holding.free (holding : Holding root done extraction)
  (apart : ∀ earlier ∈ done, Apart earlier file) :
  blocked extraction.disk (root ++ file.1) = false := by
  rw [blocked, any_eq_false]
  rintro ⟨location, data⟩ member
  obtain ⟨earlier, earlier_mem, rfl, _⟩ := (holding.disk location data).mp (get?_eq_some.mpr member)
  obtain ⟨notAbove, notBelow⟩ := apart earlier earlier_mem
  simp only [Bool.and_eq_true, Bool.or_eq_true, isPrefixOf_iff_prefix,
    prefix_append_right_inj, not_and, not_or]
  exact fun _ => ⟨notAbove, notBelow⟩

theorem Holding.withFile (holding : Holding root done extraction) (named : Named file)
  (apart : ∀ earlier ∈ done, Apart earlier file) :
  Holding root (done ++ [file]) (extraction.withFile root (storedInfo file) file.2) where
  seen path := by
    simp only [Extraction.withFile, mem_cons, holding.seen, normalized_storedInfo named,
      mem_append, not_mem_nil, or_false, or_and_right, exists_or, exists_eq_left]
    exact or_comm
  extracted path := by
    simp only [Extraction.withFile, mem_cons, holding.extracted, normalized_storedInfo named,
      mem_append, not_mem_nil, or_false, or_and_right, exists_or, exists_eq_left]
    exact or_comm
  total := by
    simp only [Extraction.withFile, holding.total, totalSize, map_append, sum_append,
      map_cons, map_nil, sum_cons, sum_nil]
    rfl
  disk location data := by
    simp only [Extraction.withFile, get?_set, parts_storedInfo named, mem_append,
      mem_cons, not_mem_nil, or_false, or_and_right, exists_or, exists_eq_left]
    split
    case isTrue here =>
      subst here
      constructor
      · exact fun same => .inr ⟨rfl, (Option.some.inj same).symm⟩
      rintro (⟨earlier, member, same, _⟩ | ⟨_, rfl⟩)
      · have below := (apart earlier member).1
        rw [← append_cancel_left same] at below
        exact absurd prefix_rfl below
      rfl
    case isFalse elsewhere =>
      rw [holding.disk]
      constructor
      · exact .inl
      rintro (found | ⟨here, _⟩)
      · exact found
      exact absurd here elsewhere

theorem named_inj {other : List String × List UInt8} (named : Named file)
  (named' : Named other) (same : asPosix file.1 = asPosix other.1) : file.1 = other.1 :=
  asPosix_inj named.nonempty named'.nonempty named.proper named'.proper same

theorem extractEntry_stored (holding : Holding (resolve destination) done extraction)
  (named : Named file) (doneNamed : ∀ earlier ∈ done, Named earlier)
  (apart : ∀ earlier ∈ done, Apart earlier file) (noBackslash : '\\' ∉ (asPosix file.1).toList)
  (small : file.2.length ≤ maxPackageFileBytes)
  (within : totalSize (done ++ [file]) ≤ maxPackageTotalBytes) :
  ∃ next, extractEntry (resolve destination) extraction (storedInfo file) = .ok next ∧
    Holding (resolve destination) (done ++ [file]) next := by
  have fresh : asPosix file.1 ∉ extraction.seen := by
    intro known
    obtain ⟨earlier, member, same⟩ := (holding.seen _).mp known
    have equal := named_inj named (doneNamed earlier member) same
    exact (apart earlier member).1 ⟨[], (append_nil _).trans equal.symm⟩
  have read : readEntry extraction.total (storedInfo file) = .ok file.2 := by
    refine readEntry_ok.mpr ⟨small, ?_, rfl, rfl⟩
    have sum : totalSize (done ++ [file]) = totalSize done + file.2.length := by
      simp only [totalSize, map_append, sum_append, map_cons, map_nil, sum_cons, sum_nil]
      omega
    rw [holding.total]
    exact sum ▸ within
  refine ⟨_, extractEntry_ok.mpr ⟨(stored_admitted named).mpr ⟨noBackslash, fresh⟩,
    .inr ⟨isDir_storedInfo named, file.2, read, ?_, ?_, rfl⟩⟩, holding.withFile named apart⟩
  · rw [parts_storedInfo named]
    exact resolve_below fun part member => (named.proper part member).notUp
  rw [parts_storedInfo named]
  exact holding.free apart

variable {files : List (List String × List UInt8)}

theorem extractEntries_stored (holding : Holding (resolve destination) done extraction)
  (named : ∀ file ∈ done ++ files, Named file) (apart : (done ++ files).Pairwise Apart)
  (noBackslash : ∀ file ∈ files, '\\' ∉ (asPosix file.1).toList)
  (small : ∀ file ∈ files, file.2.length ≤ maxPackageFileBytes)
  (within : totalSize (done ++ files) ≤ maxPackageTotalBytes) :
  ∃ final, extractEntries (resolve destination) extraction (files.map storedInfo) = .ok final ∧
    Holding (resolve destination) (done ++ files) final := by
  induction files generalizing done extraction with
  | nil => exact ⟨extraction, rfl, (append_nil done).symm ▸ holding⟩
  | cons file files ih =>
    have regroup : done ++ file :: files = (done ++ [file]) ++ files := by
      rw [append_assoc, singleton_append]
    rw [regroup] at named apart within ⊢
    have upTo : totalSize (done ++ [file]) ≤ maxPackageTotalBytes := by
      simp only [totalSize, map_append, sum_append] at within ⊢
      omega
    obtain ⟨next, step, holds⟩ := extractEntry_stored holding
      (named file (mem_append_left _ (mem_append_right _ mem_cons_self)))
      (fun earlier member => named earlier (mem_append_left _ (mem_append_left _ member)))
      (fun earlier member => (pairwise_append.mp (pairwise_append.mp apart).1).2.2
        earlier member file mem_cons_self)
      (noBackslash file mem_cons_self) (small file mem_cons_self) upTo
    obtain ⟨final, rest, holds⟩ := ih holds named apart
      (fun later member => noBackslash later (mem_cons_of_mem _ member))
      (fun later member => small later (mem_cons_of_mem _ member)) within
    exact ⟨final, extractEntries_cons.mpr ⟨next, step, rest⟩, holds⟩

theorem extractEntries_checked {final : Extraction}
  (named : ∀ file ∈ files, Named file) (start : extraction.total ≤ maxPackageTotalBytes)
  (extracted : extractEntries root extraction (files.map storedInfo) = .ok final) :
  (∀ file ∈ files, '\\' ∉ (asPosix file.1).toList ∧ file.2.length ≤ maxPackageFileBytes) ∧
    extraction.total + totalSize files ≤ maxPackageTotalBytes := by
  induction files generalizing extraction with
  | nil => exact ⟨fun _ member => (nomatch member), start⟩
  | cons file files ih =>
    obtain ⟨next, step, rest⟩ := extractEntries_cons.mp extracted
    have here := named file mem_cons_self
    obtain ⟨admitted, ⟨directory, _⟩ | ⟨_, data, read, _, _, rfl⟩⟩ := extractEntry_ok.mp step
    · rw [isDir_storedInfo here] at directory
      cases directory
    obtain ⟨small, within, _, _⟩ := readEntry_ok.mp read
    obtain ⟨later, sum⟩ := ih
      (fun later member => named later (mem_cons_of_mem _ member)) within rest
    constructor
    · intro other member
      obtain rfl | member := mem_cons.mp member
      · exact ⟨((stored_admitted here).mp admitted).1, small⟩
      exact later other member
    have size : (storedInfo file).fileSize = file.2.length := rfl
    simp only [Extraction.withFile, totalSize, map_cons, sum_cons, size] at sum ⊢
    omega

theorem isDigest_sha256 (message : List UInt8) : isDigest (sha256 message) = true := by
  have hex : ∀ digit < 16, (fun char : Char => '0' ≤ char && char ≤ '9' ||
    'a' ≤ char && char ≤ 'f') (Nat.digitChar digit) = true := by
    decide
  rw [isDigest, Bool.and_eq_true, beq_iff_eq, all_eq_true]
  refine ⟨Hashing.length_sha256 message, ?_⟩
  intro char member
  rw [sha256, String.toList_ofList] at member
  obtain ⟨word, _, member⟩ := mem_flatMap.mp member
  obtain ⟨shift, _, rfl⟩ := mem_map.mp member
  exact hex _ (Nat.mod_lt _ (by decide))

theorem natural?_ofNat (number : Nat) : natural? (.ofNat number) = some number := by
  have digits : ∀ char ∈ (NumberToken.ofNat number).text, char.isDigit = true := by
    rw [NumberToken.text_ofNat]
    exact fun _ member => Nat.isDigit_of_mem_toDigits (by decide) (by decide) member
  unfold natural?
  split
  case h_1 negative =>
    have digit := digits _ mem_cons_self
    rw [negative] at digit
    exact absurd digit (by decide)
  · rw [if_pos (all_eq_true.mpr digits), NumberToken.text_ofNat,
      Nat.ofDigitChars_toDigits (by decide) (by decide)]

def SourceFile.fileRecord (file : SourceFile) : FileRecord where
  path := file.path.posix
  sha256 := Hashing.sha256 file.content
  sizeBytes := file.content.length

theorem fileRecord?_record {file : SourceFile} (other : file.path.posix ≠ "bundle.json") :
  fileRecord? file.record = some file.fileRecord := by
  have path : member? [("path", .string file.path.posix), ("sha256", .string (sha256 file.content)),
    ("size_bytes", .number (.ofNat file.content.length))] "path" =
      some (.string file.path.posix) := rfl
  have digest : member? [("path", .string file.path.posix),
    ("sha256", .string (sha256 file.content)),
    ("size_bytes", .number (.ofNat file.content.length))] "sha256" =
      some (.string (sha256 file.content)) := rfl
  have size : member? [("path", .string file.path.posix), ("sha256", .string (sha256 file.content)),
    ("size_bytes", .number (.ofNat file.content.length))] "size_bytes" =
      some (.number (.ofNat file.content.length)) := rfl
  simp only [fileRecord?, SourceFile.record, path, digest, size]
  rw [if_pos ⟨other, isDigest_sha256 _⟩, natural?_ofNat]
  rfl

structure Fits (codec : BundleCodec) (source : PackageSource) : Prop where
  archive : (codec.writestr (bundleEntries source.report source.files)).length ≤
    maxAgentBundleUploadBytes
  descriptor : (provenanceText source.report source.files).length ≤ maxPackageFileBytes
  total : totalSize (bundleFiles source) ≤ maxPackageTotalBytes
  noBackslash : ∀ file ∈ source.files, '\\' ∉ file.path.posix.toList
  manifest : ∃ file ∈ source.files, file.path.parts = ["agent.yaml"]

structure BundleCodec.RoundTrips (codec : BundleCodec) (source : PackageSource) : Prop where
  listed : codec.infolist (codec.writestr (bundleEntries source.report source.files)) =
    some ((bundleEntries source.report source.files).map stored)
  parsed : codec.loads (provenanceText source.report source.files) =
    some (.object (provenanceMembers source.report source.files))

structure Returned (destination : List String) (source : PackageSource) (packed : PackedBundle)
    (bundle : ExtractedBundle) : Prop where
  files : ∀ location data, bundle.disk.get? location = some data ↔
    ∃ file ∈ source.files, location = resolve destination ++ file.path.parts ∧ data = file.content
  hash : bundle.packageHash = packed.report.packageHash

section

variable {scans : Scans} {source : PackageSource}
  (listed : packageFiles scans 0 0 source.entries = .ok source.files)

include listed

theorem bundleFiles_named : ∀ file ∈ bundleFiles source, Named file := by
  obtain ⟨_, limits, _⟩ := packageFiles_ok listed
  intro pair member
  obtain member | member := mem_append.mp member
  · obtain ⟨file, file_mem, rfl⟩ := mem_map.mp member
    exact ⟨file.path.nonempty, file.path.proper, limits.short file file_mem⟩
  obtain rfl := mem_singleton.mp member
  exact ⟨show ["bundle.json"] ≠ [] by decide,
    show ∀ part ∈ ["bundle.json"], ProperPart part by decide,
    show pathIsTooLong ["bundle.json"] = false by decide⟩

theorem files_small : ∀ file ∈ source.files, file.content.length ≤ maxPackageFileBytes :=
  (packageFiles_ok listed).2.1.small

theorem bundleFiles_count : (bundleFiles source).length ≤ maxBundleFiles := by
  have room := (packageFiles_ok listed).2.1.count (by decide)
  simp only [bundleFiles, length_append, length_map, length_singleton]
  omega

theorem files_unreserved {file : SourceFile} (member : file ∈ source.files) :
  file.path.posix ≠ "bundle.json" := by
  obtain ⟨entry, entry_mem, kept, path, _⟩ := mem_files member
  rw [← path]
  exact (packageFiles_ok listed).2.2 entry entry_mem kept

omit listed in
theorem mem_bundleFiles {pair : List String × List UInt8} :
  pair ∈ bundleFiles source ↔ (∃ file ∈ source.files, pair = file.pair) ∨
    pair = (["bundle.json"], provenanceText source.report source.files) := by
  simp [bundleFiles, eq_comm]

omit listed in
theorem files_distinct : ((source.files.map SourceFile.pair).map Prod.fst).Nodup := by
  rw [map_map]
  exact pairwise_map.mpr ((files_sorted source).imp fun before => ne_of_lt before)

section

variable {root : List String} {final : Extraction}

omit listed in
theorem written_files (holding : Holding root (bundleFiles source) final) :
  ∀ file ∈ source.files, final.disk.get? (root ++ file.path.parts) = some file.content :=
  fun file member =>
    (holding.disk _ _).mpr ⟨file.pair, mem_bundleFiles.mpr (.inl ⟨file, member, rfl⟩), rfl, rfl⟩

omit listed in
theorem written_parts : ∀ file ∈ source.files,
  (PurePosixPath.ofString file.path.posix).parts = file.path.parts :=
  fun file _ => parts_ofString_posix file.path.nonempty file.path.proper

theorem written_paths (holding : Holding root (bundleFiles source) final) :
  ∀ path, path ∈ final.extractedFiles.filter (· ≠ "bundle.json") ↔
    ∃ file ∈ source.files, path = file.path.posix := by
  intro path
  rw [mem_filter, holding.extracted, decide_eq_true_eq]
  constructor
  · rintro ⟨⟨pair, member, rfl⟩, other⟩
    obtain ⟨file, file_mem, rfl⟩ | rfl := mem_bundleFiles.mp member
    · exact ⟨file, file_mem, rfl⟩
    exact absurd (show asPosix ["bundle.json"] = "bundle.json" by decide) other
  rintro ⟨file, member, rfl⟩
  exact ⟨⟨file.pair, mem_bundleFiles.mpr (.inl ⟨file, member, rfl⟩), rfl⟩,
    files_unreserved listed member⟩

theorem checkRecords_written (holding : Holding root (bundleFiles source) final) :
  checkRecords root final [] (source.files.map SourceFile.record) =
    .ok (source.files.map SourceFile.fileRecord) := by
  have kept := written_paths listed holding
  refine checkRecords_ok.mpr ⟨?_, ?_, ?_⟩
  · rw [map_map, map_map]
    exact map_congr_left fun file member => fileRecord?_record (files_unreserved listed member)
  · rw [map_map]
    apply pairwise_map.mpr
    apply (files_sorted source).imp_of_mem
    intro file other file_mem other_mem before same
    apply ne_of_lt before
    exact asPosix_inj file.path.nonempty other.path.nonempty file.path.proper other.path.proper
      same
  intro record member
  obtain ⟨file, file_mem, rfl⟩ := mem_map.mp member
  refine ⟨not_mem_nil, ?_, file.content, ?_, rfl, rfl⟩
  · exact (mem_filter.mp ((kept _).mpr ⟨file, file_mem, rfl⟩)).1
  rw [FileRecord.location, SourceFile.fileRecord, written_parts file file_mem,
    written_files holding file file_mem]

theorem packageHashOf_written (distinct : final.extractedFiles.Nodup)
  (holding : Holding root (bundleFiles source) final) :
  packageHashOf (readFiles root final.disk
    (sortedTexts (final.extractedFiles.filter (· ≠ "bundle.json")))) =
    source.report.packageHash := by
  have kept := written_paths listed holding
  symm
  apply packageHashOf_readFiles files_distinct (distinct.filter _)
  · intro path member
    obtain ⟨file, file_mem, rfl⟩ := (kept path).mp member
    rw [written_parts file file_mem]
    rfl
  intro parts data
  rw [mem_map]
  constructor
  · rintro ⟨file, member, same⟩
    cases same
    exact ⟨file.path.posix, (kept _).mpr ⟨file, member, rfl⟩, (written_parts file member).symm,
      written_files holding file member⟩
  rintro ⟨path, member, rfl, found⟩
  obtain ⟨file, file_mem, rfl⟩ := (kept path).mp member
  rw [written_parts file file_mem] at found ⊢
  rw [written_files holding file file_mem] at found
  exact ⟨file, file_mem, congrArg (file.path.parts, ·) (Option.some.inj found)⟩

end

theorem verifyBundle_stored {codec : BundleCodec} {destination : List String}
  {final : Extraction} (roundTrips : codec.RoundTrips source)
  (manifest : ∃ file ∈ source.files, file.path.parts = ["agent.yaml"])
  (distinct : final.extractedFiles.Nodup)
  (holding : Holding (resolve destination) (bundleFiles source) final) :
  verifyBundle codec (resolve destination) final = .ok
    { manifest := resolve destination ++ ["agent.yaml"]
      manifestHash := source.manifest.contentHash, packageHash := source.report.packageHash
      disk := final.disk.erase (resolve destination ++ ["bundle.json"]) } := by
  generalize resolve destination = root at holding ⊢
  have descriptor : final.disk.get? (root ++ ["bundle.json"]) =
    some (provenanceText source.report source.files) :=
    (holding.disk _ _).mpr ⟨_, mem_bundleFiles.mpr (.inr rfl), rfl, rfl⟩
  have provenance : readProvenance codec root final.disk =
    .ok (provenanceMembers source.report source.files) := by
    refine readProvenance_ok.mpr ⟨?_, _, descriptor, roundTrips.parsed⟩
    obtain ⟨file, member, named⟩ := manifest
    rw [← named, written_files holding file member]
    rfl
  refine verifyBundle_ok.mpr ⟨_, provenance, rfl, source.manifest.contentHash_digest, rfl,
    isDigest_sha256 _, _, rfl, _, checkRecords_written listed holding, ?_,
    packageHashOf_written listed distinct holding, rfl, rfl⟩
  intro path
  rw [written_paths listed holding, map_map, mem_map]
  constructor
  · rintro ⟨file, member, rfl⟩
    exact ⟨file, member, rfl⟩
  rintro ⟨file, member, rfl⟩
  exact ⟨file, member, rfl⟩

end

theorem returned_of_fits (destination : List String)
  (accepted : packAgentPackage codec scans source = .ok packed)
  (roundTrips : codec.RoundTrips source) (fits : Fits codec source) :
  ∃ bundle, extractAgentBundle codec destination packed.archive = .ok bundle ∧
    Returned destination source packed bundle := by
  obtain ⟨listed, report, archive⟩ := packAgentPackage_ok accepted
  have named := bundleFiles_named listed
  have apart := bundleFiles_apart (packageFiles_ok listed).2.2
  obtain ⟨final, extracted, holding⟩ := extractEntries_stored (holding_start (resolve destination))
    named apart
    (by
      intro pair member
      obtain ⟨file, file_mem, rfl⟩ | rfl := mem_bundleFiles.mp member
      · exact fits.noBackslash file file_mem
      exact show '\\' ∉ (asPosix ["bundle.json"]).toList by decide)
    (by
      intro pair member
      obtain ⟨file, file_mem, rfl⟩ | rfl := mem_bundleFiles.mp member
      · exact files_small listed file file_mem
      exact fits.descriptor)
    fits.total
  have unpacked := extractEntries_unpacked (unpacked_start _ _) (fun _ => id) extracted
  refine ⟨_, extractAgentBundle_ok.mpr ⟨archive ▸ fits.archive, _, archive ▸ roundTrips.listed,
    ?_, final, ?_, verifyBundle_stored listed roundTrips fits.manifest unpacked.distinct
      holding⟩, ?_, report ▸ rfl⟩
  · rw [bundleEntries_stored, length_map]
    exact bundleFiles_count listed
  · rw [bundleEntries_stored]
    exact extracted
  intro location data
  rw [get?_erase]
  constructor
  · intro found
    split at found
    · cases found
    case isFalse other =>
      obtain ⟨pair, member, rfl, rfl⟩ := (holding.disk location data).mp found
      obtain ⟨file, file_mem, rfl⟩ | rfl := mem_bundleFiles.mp member
      · exact ⟨file, file_mem, rfl, rfl⟩
      exact absurd rfl other
  rintro ⟨file, file_mem, rfl, rfl⟩
  rw [if_neg]
  · exact (holding.disk _ _).mpr
      ⟨file.pair, mem_bundleFiles.mpr (.inl ⟨file, file_mem, rfl⟩), rfl, rfl⟩
  intro same
  apply files_unreserved listed file_mem
  rw [posix, append_cancel_left same]
  decide

theorem fits_of_extracted (accepted : packAgentPackage codec scans source = .ok packed)
  (roundTrips : codec.RoundTrips source) {bundle : ExtractedBundle}
  (extracted : extractAgentBundle codec destination packed.archive = .ok bundle) :
  Fits codec source := by
  obtain ⟨listed, _, archive⟩ := packAgentPackage_ok accepted
  obtain ⟨small, infos, found, _, final, unpacked, verified⟩ := extractAgentBundle_ok.mp extracted
  rw [archive] at small found
  rw [roundTrips.listed] at found
  obtain rfl := Option.some.inj found
  rw [bundleEntries_stored] at unpacked
  have named := bundleFiles_named listed
  obtain ⟨checked, total⟩ := extractEntries_checked named (by decide) unpacked
  have descriptor := checked _ (mem_bundleFiles.mpr (.inr rfl))
  refine
    { archive := small, descriptor := descriptor.2, total := by simpa using total
      noBackslash := fun file member =>
        (checked _ (mem_bundleFiles.mpr (.inl ⟨file, member, rfl⟩))).1
      manifest := ?_ }
  obtain ⟨_, provenance, _⟩ := verifyBundle_ok.mp verified
  obtain ⟨content, manifest⟩ := Option.isSome_iff_exists.mp (readProvenance_ok.mp provenance).1
  have located := extractEntries_unpacked (unpacked_start _ _) (fun _ => id) unpacked
  obtain ⟨info, info_mem, _, _, place, _, _⟩ := located.located _ _ manifest
  obtain ⟨pair, pair_mem, rfl⟩ := mem_map.mp info_mem
  rw [parts_storedInfo (named pair pair_mem)] at place
  obtain ⟨file, file_mem, rfl⟩ | rfl := mem_bundleFiles.mp pair_mem
  · exact ⟨file, file_mem, (append_cancel_left place).symm⟩
  exact absurd (append_cancel_left place)
    (show ["agent.yaml"] ≠ ["bundle.json"] by decide)

/-- A packed source comes back from its archive exactly if it fits the extraction; whatever is
extracted is what its inventory declares. -/
theorem reproducible_iff_fits {codec : BundleCodec} {scans : Scans} {source : PackageSource}
  {packed : PackedBundle} (destination : List String)
  (accepted : packAgentPackage codec scans source = .ok packed)
  (roundTrips : codec.RoundTrips source) :
  ((∃ bundle, extractAgentBundle codec destination packed.archive = .ok bundle ∧
    Returned destination source packed bundle) ∧
    ∀ content bundle, extractAgentBundle codec destination content = .ok bundle →
    ∃ members records, Declares codec content members records ∧
    Restored (resolve destination) members records bundle) ↔
    Fits codec source := by
  constructor
  · rintro ⟨⟨bundle, extracted, _⟩, _⟩
    exact fits_of_extracted accepted roundTrips extracted
  intro fits
  exact ⟨returned_of_fits destination accepted roundTrips fits,
    fun _ _ extracted => extractAgentBundle_restored extracted⟩

def path (name : String) (proper : ProperPart name) : PackagePath where
  parts := [name]
  nonempty := cons_ne_nil _ _
  proper _ member := (mem_singleton.mp member) ▸ proper

theorem parents_flat {entries : List DirectoryEntry}
  (flat : ∀ entry ∈ entries, ∃ name, entry.path.parts = [name]) :
  ∀ entry ∈ entries, ∀ parent : List String, parent ≠ [] → parent <+: entry.path.parts →
    parent ≠ entry.path.parts →
    ∃ directory ∈ entries, directory.path.parts = parent ∧ directory.kind = .directory := by
  intro entry member parent nonempty above differs
  obtain ⟨name, named⟩ := flat entry member
  rw [named] at above differs
  exact absurd (prefix_singleton nonempty above) differs

def planner : ManifestReport where
  agent := "planner"
  version := "1.0.0"
  contentHash := "00000000000000000000000000000000000000000000000000000000000000aa"
  issues := []
  contentHash_digest := by decide

def plainSource : PackageSource where
  entries := [⟨path "agent.yaml" (by decide), .file [0x61]⟩]
  manifest := planner
  sorted := pairwise_singleton _ _
  parents := parents_flat (by
    rintro entry (_ | ⟨_, ⟨⟩⟩)
    exact ⟨"agent.yaml", rfl⟩)

def windowsSource : PackageSource where
  entries :=
    [⟨path "agent.yaml" (by decide), .file [0x61]⟩,
      ⟨path "docs\\guide.md" (by decide), .file [0x62]⟩]
  manifest := planner
  sorted := by decide
  parents := parents_flat (by
    rintro entry (_ | ⟨_, _ | ⟨_, ⟨⟩⟩⟩)
    · exact ⟨"agent.yaml", rfl⟩
    exact ⟨"docs\\guide.md", rfl⟩)

def noScans : Scans where
  secretFile _ := false
  secretContent _ := false

def archiving (source : PackageSource) : BundleCodec where
  writestr _ := [0x50, 0x4B]
  infolist content :=
    if content = [0x50, 0x4B] then
      some ((bundleEntries source.report source.files).map stored)
    else none
  loads content :=
    if content = provenanceText source.report source.files then
      some (.object (provenanceMembers source.report source.files))
    else none

theorem archiving_roundTrips (source : PackageSource) : (archiving source).RoundTrips source where
  listed := rfl
  parsed := if_pos rfl

def packedOf (source : PackageSource) : PackedBundle where
  archiveName := source.report.agent ++ "-" ++ source.report.version ++ "-" ++
    String.ofList (source.report.packageHash.toList.take 12) ++ ".zip"
  archive := [0x50, 0x4B]
  report := source.report

theorem packed_of_listed (listed : packageFiles scans 0 0 source.entries = .ok source.files)
  (issues : source.manifest.issues = []) :
  packAgentPackage codec scans source = .ok
    { packedOf source with
      archive := codec.writestr (bundleEntries source.report source.files) } := by
  have checked : checkAgentPackage scans source = .ok source.report := by
    simp only [checkAgentPackage, listed, if_pos issues]
    rfl
  simp only [packAgentPackage, checked, listed]
  rfl

theorem plain_packed : packAgentPackage (archiving plainSource) noScans plainSource =
  .ok (packedOf plainSource) :=
  packed_of_listed (by decide +kernel) rfl

theorem windows_packed : packAgentPackage (archiving windowsSource) noScans windowsSource =
  .ok (packedOf windowsSource) :=
  packed_of_listed (by decide +kernel) rfl

theorem reproducible_iff_fits_plain :
  ((∃ bundle, extractAgentBundle (archiving plainSource) ["srv"] (packedOf plainSource).archive =
    .ok bundle ∧ Returned ["srv"] plainSource (packedOf plainSource) bundle) ∧
    ∀ content bundle, extractAgentBundle (archiving plainSource) ["srv"] content = .ok bundle →
    ∃ members records, Declares (archiving plainSource) content members records ∧
    Restored (resolve ["srv"]) members records bundle) ↔
    Fits (archiving plainSource) plainSource :=
  reproducible_iff_fits ["srv"] plain_packed (archiving_roundTrips plainSource)

theorem windowsSource_not_returned :
  packAgentPackage (archiving windowsSource) noScans windowsSource =
    .ok (packedOf windowsSource) ∧
    (archiving windowsSource).RoundTrips windowsSource ∧
    ∀ bundle, extractAgentBundle (archiving windowsSource) ["srv"]
    (packedOf windowsSource).archive ≠ .ok bundle := by
  refine ⟨windows_packed, archiving_roundTrips windowsSource, ?_⟩
  intro bundle extracted
  have fits := fits_of_extracted windows_packed (archiving_roundTrips windowsSource) extracted
  have listed : ⟨path "docs\\guide.md" (by decide), [0x62]⟩ ∈ windowsSource.files := by decide
  exact fits.noBackslash _ listed (by decide)

end AgentHarness.Packages
