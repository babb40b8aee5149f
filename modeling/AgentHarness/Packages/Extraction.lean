import AgentHarness.Packages.AgentPackage

/-!
What an accepted archive leaves on the disk.
-/

namespace AgentHarness.Packages

open Collections Dict List PurePosixPath ZipInfo
open Hashing (encode sha256)
open Text (Json NumberToken)

section

variable {Failure Value Result : Type} {failure : Failure} {condition : Prop}

theorem refuseIf_ok [Decidable condition] {result : Unit} :
  refuseIf condition failure = .ok result ↔ ¬ condition := by
  unfold refuseIf
  split
  case isTrue holds => exact ⟨fun same => (nomatch same), fun fails => absurd holds fails⟩
  case isFalse fails => exact ⟨fun _ => fails, fun _ => rfl⟩

variable {result : Result}

theorem refuseIf_bind [Decidable condition] {next : Unit → Except Failure Result} :
  (refuseIf condition failure >>= next) = .ok result ↔ ¬ condition ∧ next () = .ok result := by
  unfold refuseIf
  split
  case isTrue holds => exact ⟨fun same => (nomatch same), fun ⟨fails, _⟩ => absurd holds fails⟩
  case isFalse fails => exact ⟨fun same => ⟨fails, same⟩, fun ⟨_, same⟩ => same⟩

theorem except_bind_ok {first : Except Failure Value} {next : Value → Except Failure Result} :
  (first >>= next) = .ok result ↔ ∃ value, first = .ok value ∧ next value = .ok result := by
  cases first with
  | error failure => exact ⟨fun same => (nomatch same), fun ⟨_, same, _⟩ => nomatch same⟩
  | ok value =>
    constructor
    · exact fun same => ⟨value, rfl, same⟩
    rintro ⟨other, found, same⟩
    cases found
    exact same

end

structure AdmittedPath (seen : List String) (info : ZipInfo) : Prop where
  noBackslash : '\\' ∉ info.filename.toList
  nonempty : info.parts ≠ []
  proper : ∀ part ∈ info.parts, ProperPart part
  relative : (ofString info.filename).isAbsolute = false
  noNull : '\x00' ∉ info.filename.toList
  short : pathIsTooLong info.parts = false
  fresh : info.normalized ∉ seen
  regular : info.isLink = false

variable {info : ZipInfo} {data : List UInt8} {disk : Disk} {extraction : Extraction}
  {root expected : List String} {infos : List ZipInfo} {codec : BundleCodec}
  {bundle : ExtractedBundle}

theorem notUp_iff : ¬ (info.parts.any fun part => ["", ".", ".."].contains part) = true ↔
  ∀ part ∈ info.parts, part ≠ ".." := by
  simp only [any_eq_true, not_exists, not_and, contains_eq_mem, decide_eq_true_eq,
    mem_cons, not_mem_nil, or_false, not_or]
  constructor
  · exact fun outside part member => (outside part member).2.2
  intro outside part member
  obtain ⟨nonempty, notHere⟩ := parts_ofString member
  exact ⟨nonempty, notHere, outside part member⟩

theorem checkPath_ok {seen : List String} :
  checkPath seen info = .ok () ↔ AdmittedPath seen info := by
  simp only [checkPath, refuseIf_bind, refuseIf_ok, not_or, Bool.not_eq_true]
  rw [← Bool.not_eq_true (info.parts.any _), notUp_iff]
  constructor
  · rintro ⟨⟨noBackslash, noNull⟩, ⟨relative, nonempty, notUp⟩, short, fresh, regular⟩
    exact
      { noBackslash, nonempty
        proper := fun part member => properPart_of_ofString member (notUp part member) noNull
        relative, noNull, short, fresh, regular }
  intro admitted
  exact ⟨⟨admitted.noBackslash, admitted.noNull⟩,
    ⟨admitted.relative, admitted.nonempty, fun part member => (admitted.proper part member).notUp⟩,
    admitted.short, admitted.fresh, admitted.regular⟩

theorem readEntry_ok {total : Nat} : readEntry total info = .ok data ↔
  info.fileSize ≤ maxPackageFileBytes ∧ total + info.fileSize ≤ maxPackageTotalBytes ∧
  info.data = some data ∧ data.length = info.fileSize := by
  simp only [readEntry, refuseIf_bind, Nat.not_lt, gt_iff_lt]
  cases info.data with
  | none => simp
  | some stored =>
    simp only [refuseIf_bind, not_not, Option.some.injEq]
    constructor
    · rintro ⟨small, within, length, same⟩
      cases same
      exact ⟨small, within, rfl, length⟩
    rintro ⟨small, within, rfl, length⟩
    exact ⟨small, within, length, rfl⟩

theorem writeBytes_ok {next : Disk} {output : List String} :
  writeBytes disk output data = .ok next ↔
    blocked disk output = false ∧ next = disk.set output data := by
  simp only [writeBytes, refuseIf_bind, Bool.not_eq_true]
  constructor
  · rintro ⟨free, same⟩
    cases same
    exact ⟨free, rfl⟩
  rintro ⟨free, rfl⟩
  exact ⟨free, rfl⟩

def Extraction.withFile (extraction : Extraction) (root : List String) (info : ZipInfo)
  (data : List UInt8) : Extraction where
  seen := info.normalized :: extraction.seen
  extractedFiles := info.normalized :: extraction.extractedFiles
  total := extraction.total + info.fileSize
  disk := extraction.disk.set (root ++ info.parts) data

def Extraction.withDirectory (extraction : Extraction) (info : ZipInfo) : Extraction :=
  { extraction with seen := info.normalized :: extraction.seen }

theorem extractEntry_ok {next : Extraction} : extractEntry root extraction info = .ok next ↔
  AdmittedPath extraction.seen info ∧
  (info.isDir = true ∧ next = extraction.withDirectory info ∨
  info.isDir = false ∧ ∃ data, readEntry extraction.total info = .ok data ∧
  root <+: resolve (root ++ info.parts) ∧
  blocked extraction.disk (root ++ info.parts) = false ∧
  next = extraction.withFile root info data) := by
  simp only [extractEntry, except_bind_ok]
  rw [← checkPath_ok]
  cases info.isDir with
  | true =>
    constructor
    · rintro ⟨_, admitted, same⟩
      cases same
      exact ⟨admitted, .inl ⟨rfl, rfl⟩⟩
    rintro ⟨admitted, ⟨_, rfl⟩ | ⟨file, _⟩⟩
    · exact ⟨(), admitted, rfl⟩
    cases file
  | false =>
    simp only [Bool.false_eq_true, if_false, except_bind_ok, refuseIf_ok, not_not]
    constructor
    · rintro ⟨_, admitted, data, read, _, within, disk, written, same⟩
      obtain ⟨free, rfl⟩ := writeBytes_ok.mp written
      cases same
      exact ⟨admitted, .inr ⟨trivial, data, read, within, free, rfl⟩⟩
    rintro ⟨admitted, ⟨directory, _⟩ | ⟨_, data, read, within, free, rfl⟩⟩
    · cases directory
    exact ⟨(), admitted, data, read, (), within, _, writeBytes_ok.mpr ⟨free, rfl⟩, rfl⟩

theorem extractEntries_cons {final : Extraction} :
  extractEntries root extraction (info :: infos) = .ok final ↔
    ∃ next, extractEntry root extraction info = .ok next ∧
    extractEntries root next infos = .ok final :=
  except_bind_ok

/-- The tree holds the files that are listed as extracted, and nothing else. -/
structure Unpacked (root : List String) (infos : List ZipInfo) (extraction : Extraction) :
    Prop where
  known : ∀ path ∈ extraction.extractedFiles, path ∈ extraction.seen
  distinct : extraction.extractedFiles.Nodup
  stored : ∀ path ∈ extraction.extractedFiles, ∃ parts, parts ≠ [] ∧
    (∀ part ∈ parts, ProperPart part) ∧ path = asPosix parts ∧
      ∃ data, extraction.disk.get? (root ++ parts) = some data
  located : ∀ location data, extraction.disk.get? location = some data →
    ∃ info ∈ infos, info.parts ≠ [] ∧ (∀ part ∈ info.parts, ProperPart part) ∧
      location = root ++ info.parts ∧ info.data = some data ∧
        info.normalized ∈ extraction.extractedFiles

theorem unpacked_start (root : List String) (infos : List ZipInfo) : Unpacked root infos {} where
  known _ listed := nomatch listed
  distinct := nodup_nil
  stored _ listed := nomatch listed
  located _ _ found := nomatch found

section

variable (unpacked : Unpacked root infos extraction)

include unpacked

theorem Unpacked.withDirectory (info : ZipInfo) :
  Unpacked root infos (extraction.withDirectory info) where
  known path listed := mem_cons_of_mem _ (unpacked.known path listed)
  distinct := unpacked.distinct
  stored := unpacked.stored
  located := unpacked.located

theorem Unpacked.withFile (listed : info ∈ infos)
  (admitted : AdmittedPath extraction.seen info) (read : info.data = some data) :
  Unpacked root infos (extraction.withFile root info data) where
  known path present := by
    obtain rfl | earlier := mem_cons.mp present
    · exact mem_cons_self
    exact mem_cons_of_mem _ (unpacked.known path earlier)
  distinct := by
    apply nodup_cons.mpr
    exact ⟨fun present => admitted.fresh (unpacked.known _ present), unpacked.distinct⟩
  stored path present := by
    obtain rfl | earlier := mem_cons.mp present
    · exact ⟨info.parts, admitted.nonempty, admitted.proper, rfl, data, get?_set_self _ _ _⟩
    obtain ⟨parts, nonempty, proper, rfl, content, found⟩ := unpacked.stored path earlier
    have elsewhere : root ++ parts ≠ root ++ info.parts := by
      intro same
      apply admitted.fresh
      rw [normalized, ← append_cancel_left same]
      exact unpacked.known _ earlier
    exact ⟨parts, nonempty, proper, rfl, content, (get?_set_other _ _ elsewhere).trans found⟩
  located location content found := by
    rw [Extraction.withFile, get?_set] at found
    split at found
    case isTrue here =>
      obtain rfl := Option.some.inj found
      exact ⟨info, listed, admitted.nonempty, admitted.proper, here, read, mem_cons_self⟩
    · obtain ⟨earlier, member, nonempty, proper, here, stored, present⟩ :=
        unpacked.located location content found
      exact ⟨earlier, member, nonempty, proper, here, stored, mem_cons_of_mem _ present⟩

theorem extractEntry_unpacked {next : Extraction} (listed : info ∈ infos)
  (extracted : extractEntry root extraction info = .ok next) : Unpacked root infos next := by
  obtain ⟨admitted, ⟨_, rfl⟩ | ⟨_, data, read, _, _, rfl⟩⟩ := extractEntry_ok.mp extracted
  · exact unpacked.withDirectory info
  exact unpacked.withFile listed admitted (readEntry_ok.mp read).2.2.1

theorem extractEntries_unpacked {remaining : List ZipInfo} {final : Extraction}
  (within : ∀ info ∈ remaining, info ∈ infos)
  (extracted : extractEntries root extraction remaining = .ok final) :
  Unpacked root infos final := by
  induction remaining generalizing extraction with
  | nil =>
    cases extracted
    exact unpacked
  | cons info remaining ih =>
    obtain ⟨next, entry, rest⟩ := extractEntries_cons.mp extracted
    have step := extractEntry_unpacked unpacked (within info mem_cons_self) entry
    exact ih step (fun later member => within later (mem_cons_of_mem _ member)) rest

end

def FileRecord.StoredIn (record : FileRecord) (root : List String) (disk : Disk) : Prop :=
  ∃ data, disk.get? (record.location root) = some data ∧ data.length = record.sizeBytes ∧
    Hashing.sha256 data = record.sha256

theorem checkRecord_ok {record : FileRecord} :
  checkRecord root extraction expected record = .ok () ↔
    record.path ∉ expected ∧ record.path ∈ extraction.extractedFiles ∧
    record.StoredIn root extraction.disk := by
  simp only [checkRecord, refuseIf_bind, not_not, FileRecord.StoredIn]
  cases extraction.disk.get? (record.location root) with
  | none => simp
  | some data => simp [refuseIf_ok, not_or]

theorem checkRecords_ok {items : List Json} {records : List FileRecord} :
  checkRecords root extraction expected items = .ok records ↔
    items.map fileRecord? = records.map some ∧ (records.map FileRecord.path).Nodup ∧
    ∀ record ∈ records, record.path ∉ expected ∧ record.path ∈ extraction.extractedFiles ∧
    record.StoredIn root extraction.disk := by
  induction items generalizing expected records with
  | nil =>
    constructor
    · intro checked
      cases checked
      exact ⟨rfl, nodup_nil, fun record member => nomatch member⟩
    rintro ⟨shape, _, _⟩
    rw [map_nil, eq_comm, map_eq_nil_iff] at shape
    rw [shape]
    rfl
  | cons item items ih =>
    rw [checkRecords]
    cases parsed : fileRecord? item with
    | none =>
      constructor
      · intro checked
        cases checked
      rintro ⟨shape, _, _⟩
      rw [map_cons, parsed] at shape
      cases records with
      | nil => cases shape
      | cons record records => cases (List.cons.inj shape).1
    | some first =>
      simp only [except_bind_ok]
      constructor
      · rintro ⟨_, here, rest, later, same⟩
        cases same
        obtain ⟨fresh, extracted, stored⟩ := checkRecord_ok.mp here
        obtain ⟨shape, distinct, holds⟩ := ih.mp later
        refine ⟨by rw [map_cons, map_cons, parsed, shape], ?_, ?_⟩
        · apply nodup_cons.mpr
          refine ⟨fun again => ?_, distinct⟩
          obtain ⟨record, member, same⟩ := mem_map.mp again
          exact (holds record member).1 (same ▸ mem_cons_self)
        intro record member
        obtain rfl | member := mem_cons.mp member
        · exact ⟨fresh, extracted, stored⟩
        obtain ⟨absent, meets⟩ := holds record member
        exact ⟨fun known => absent (mem_cons_of_mem _ known), meets⟩
      rintro ⟨shape, distinct, holds⟩
      cases records with
      | nil => cases shape
      | cons record records =>
        rw [map_cons, map_cons, parsed] at shape
        obtain ⟨same, shapes⟩ := List.cons.inj shape
        cases same
        obtain ⟨absent, distinct⟩ := nodup_cons.mp distinct
        refine ⟨(), checkRecord_ok.mpr (holds first mem_cons_self), records,
          ih.mpr ⟨shapes, distinct, ?_⟩, rfl⟩
        intro record member
        obtain ⟨unexpected, meets⟩ := holds record (mem_cons_of_mem _ member)
        refine ⟨fun known => ?_, meets⟩
        obtain same | known := mem_cons.mp known
        · exact absent (mem_map.mpr ⟨record, member, same⟩)
        exact unexpected known

theorem sortedTexts_eq_nil {texts : List String} : sortedTexts texts = [] ↔ texts = [] := by
  rw [← length_eq_zero_iff, sortedTexts, length_insertionSort, length_eq_zero_iff]

theorem checkInventory_ok {actual : List String} :
  checkInventory actual expected = .ok () ↔ ∀ path, path ∈ actual ↔ path ∈ expected := by
  simp only [checkInventory, refuseIf_ok, not_or, not_not, sortedTexts_eq_nil,
    filter_eq_nil_iff, decide_eq_true_eq]
  constructor
  · exact fun ⟨none_unexpected, none_missing⟩ path => ⟨none_unexpected path, none_missing path⟩
  exact fun same => ⟨fun path => (same path).mp, fun path => (same path).mpr⟩

theorem le_total_parts : Std.Total fun file other : List String × List UInt8 => file.1 ≤ other.1 :=
  ⟨fun file other => le_total file.1 other.1⟩

theorem le_trans_parts : IsTrans (List String × List UInt8) fun file other => file.1 ≤ other.1 :=
  ⟨fun _ _ _ first second => le_trans first second⟩

theorem packageHashOf_perm {files others : List (List String × List UInt8)}
  (distinct : (files.map Prod.fst).Nodup) (same : files.Perm others) :
  packageHashOf files = packageHashOf others := by
  have := le_total_parts
  have := le_trans_parts
  have sorted : files.insertionSort (fun file other => file.1 ≤ other.1) =
    others.insertionSort fun file other => file.1 ≤ other.1 := by
    apply List.Perm.eq_of_pairwise ?_ (pairwise_insertionSort _ _)
      (pairwise_insertionSort _ _)
    · exact ((perm_insertionSort _ files).trans same).trans
        (perm_insertionSort _ others).symm
    intro file other file_mem other_mem below above
    have file_mem := (perm_insertionSort _ files).mem_iff.mp file_mem
    have other_mem := same.mem_iff.mpr ((perm_insertionSort _ others).mem_iff.mp other_mem)
    exact inj_on_of_nodup_map distinct file_mem other_mem (le_antisymm below above)
  rw [packageHashOf, packageHashOf, sorted]

def treeFiles (root : List String) (disk : Disk) : List (List String × List UInt8) :=
  disk.entries.map fun entry => (entry.1.drop root.length, entry.2)

def Below (root : List String) (disk : Disk) : Prop :=
  ∀ location data, disk.get? location = some data → ∃ parts, location = root ++ parts

variable {parts : List String}

theorem mem_treeFiles (below : Below root disk) :
  (parts, data) ∈ treeFiles root disk ↔ disk.get? (root ++ parts) = some data := by
  rw [treeFiles, mem_map]
  constructor
  · rintro ⟨⟨location, content⟩, member, same⟩
    have found := get?_eq_some.mpr member
    obtain ⟨rest, rfl⟩ := below location content found
    simp only [drop_left, Prod.mk.injEq] at same
    obtain ⟨rfl, rfl⟩ := same
    exact found
  intro found
  exact ⟨_, get?_eq_some.mp found, by rw [drop_left]⟩

theorem treeFiles_distinct (below : Below root disk) :
  ((treeFiles root disk).map Prod.fst).Nodup := by
  rw [treeFiles, map_map]
  have keyed : disk.entries.Pairwise fun entry other => entry.1 ≠ other.1 :=
    pairwise_map.mp disk.distinct
  rw [List.Nodup, pairwise_map]
  apply keyed.imp_of_mem
  intro entry other entry_mem other_mem differ same
  obtain ⟨parts, first⟩ := below entry.1 entry.2 (get?_eq_some.mpr entry_mem)
  obtain ⟨others, second⟩ := below other.1 other.2 (get?_eq_some.mpr other_mem)
  simp only [Function.comp_apply, first, second, drop_left] at same
  exact differ (by rw [first, second, same])

theorem mem_readFiles {paths : List String} :
  (parts, data) ∈ readFiles root disk paths ↔ ∃ path ∈ paths, parts = (ofString path).parts ∧
    disk.get? (root ++ parts) = some data := by
  simp only [readFiles, mem_filterMap, Option.map_eq_some_iff, Prod.mk.injEq]
  constructor
  · rintro ⟨path, member, content, found, rfl, rfl⟩
    exact ⟨path, member, rfl, found⟩
  rintro ⟨path, member, rfl, found⟩
  exact ⟨path, member, data, found, rfl, rfl⟩

theorem readFiles_distinct {root : List String} {disk : Disk} {paths : List String}
  (distinct : paths.Nodup)
  (spelled : ∀ path ∈ paths, path = asPosix (ofString path).parts) :
  ((readFiles root disk paths).map Prod.fst).Nodup := by
  rw [readFiles, List.Nodup, pairwise_map, pairwise_filterMap]
  apply distinct.imp_of_mem
  intro path other path_mem other_mem differ file read file' read' same
  obtain ⟨data, _, rfl⟩ := Option.map_eq_some_iff.mp read
  obtain ⟨data', _, rfl⟩ := Option.map_eq_some_iff.mp read'
  apply differ
  rw [spelled path path_mem, spelled other other_mem]
  exact congrArg asPosix same

/-- The inventory an archive declares in its `bundle.json`. -/
def Declares (codec : BundleCodec) (content : List UInt8) (members : List (String × Json))
  (records : List FileRecord) : Prop :=
  ∃ infos ∈ codec.infolist content, ∃ info ∈ infos, info.parts = ["bundle.json"] ∧
    ∃ text ∈ info.data, codec.loads text = some (.object members) ∧
      ∃ items, member? members "files" = some (.array items) ∧
        items.map fileRecord? = records.map some

theorem packageHashOf_readFiles {files : List (List String × List UInt8)} {paths : List String}
  (distinct : (files.map Prod.fst).Nodup) (listed : paths.Nodup)
  (spelled : ∀ path ∈ paths, path = asPosix (ofString path).parts)
  (same : ∀ parts data, (parts, data) ∈ files ↔ ∃ path ∈ paths, parts = (ofString path).parts ∧
    disk.get? (root ++ parts) = some data) :
  packageHashOf files = packageHashOf (readFiles root disk (sortedTexts paths)) := by
  have sorted : ∀ path, path ∈ sortedTexts paths ↔ path ∈ paths := by
    intro path
    rw [sortedTexts, mem_insertionSort]
  have once : (sortedTexts paths).Nodup := (perm_insertionSort _ _).nodup_iff.mpr listed
  have read := @readFiles_distinct root disk _ once
    (fun path member => spelled path ((sorted path).mp member))
  apply packageHashOf_perm distinct
  apply (perm_ext_iff_of_nodup distinct.of_map read.of_map).mpr
  rintro ⟨parts, data⟩
  rw [same, mem_readFiles]
  simp [sorted]

structure Restored (root : List String) (members : List (String × Json))
    (records : List FileRecord) (bundle : ExtractedBundle) : Prop where
  distinct : (records.map FileRecord.path).Nodup
  stored : ∀ record ∈ records, record.StoredIn root bundle.disk
  only : ∀ location data, bundle.disk.get? location = some data →
    ∃ record ∈ records, location = record.location root
  inside : ∀ record ∈ records, ∃ parts, parts ≠ [] ∧ (∀ part ∈ parts, ProperPart part) ∧
    record.path = asPosix parts ∧ record.location root = root ++ parts
  declaredHash : member? members "packageContentHash" = some (.string bundle.packageHash)
  hash : packageHashOf (treeFiles root bundle.disk) = bundle.packageHash

variable {members : List (String × Json)}

theorem digestMember_ok {name message digest : String} :
  digestMember members name message = .ok digest ↔
    member? members name = some (.string digest) ∧ isDigest digest = true := by
  unfold digestMember
  split
  case h_1 found stored =>
    rw [stored]
    split
    case isTrue fits =>
      simp only [Except.ok.injEq, Option.some.injEq, Json.string.injEq]
      constructor
      · rintro rfl
        exact ⟨rfl, fits⟩
      exact fun same => same.1
    case isFalse misfits =>
      constructor
      · exact fun same => nomatch same
      rintro ⟨same, fits⟩
      cases same
      exact absurd fits misfits
  case h_2 other =>
    constructor
    · exact fun same => nomatch same
    rintro ⟨same, _⟩
    exact absurd same (other digest)

theorem readProvenance_ok :
  readProvenance codec root disk = .ok members ↔ (disk.get? (root ++ ["agent.yaml"])).isSome ∧
    ∃ text, disk.get? (root ++ ["bundle.json"]) = some text ∧
    codec.loads text = some (.object members) := by
  unfold readProvenance
  cases disk.get? (root ++ ["agent.yaml"]) with
  | none => simp
  | some manifest =>
    cases disk.get? (root ++ ["bundle.json"]) with
    | none => simp
    | some text =>
      cases parsed : codec.loads text with
      | none => simp [parsed]
      | some value => cases value <;> simp [parsed]

theorem verifyBundle_ok : verifyBundle codec root extraction = .ok bundle ↔
  ∃ members, readProvenance codec root extraction.disk = .ok members ∧
  member? members "manifestContentHash" = some (.string bundle.manifestHash) ∧
  isDigest bundle.manifestHash = true ∧
  member? members "packageContentHash" = some (.string bundle.packageHash) ∧
  isDigest bundle.packageHash = true ∧
  ∃ items, member? members "files" = some (.array items) ∧
  ∃ records, checkRecords root extraction [] items = .ok records ∧
  (∀ path, path ∈ extraction.extractedFiles.filter (· ≠ "bundle.json") ↔
  path ∈ records.map FileRecord.path) ∧
  packageHashOf (readFiles root extraction.disk
  (sortedTexts (extraction.extractedFiles.filter (· ≠ "bundle.json")))) =
  bundle.packageHash ∧
  bundle.manifest = root ++ ["agent.yaml"] ∧
  bundle.disk = extraction.disk.erase (root ++ ["bundle.json"]) := by
  simp only [verifyBundle, except_bind_ok, digestMember_ok]
  constructor
  · rintro ⟨members, provenance, manifestHash, ⟨manifest, manifestFits⟩, packageHash,
      ⟨package, packageFits⟩, verified⟩
    split at verified
    case h_1 items listed =>
      simp only [except_bind_ok, refuseIf_ok, not_not] at verified
      obtain ⟨records, checked, _, inventory, _, hash, same⟩ := verified
      cases same
      exact ⟨members, provenance, manifest, manifestFits, package, packageFits, items, listed,
        records, checked, checkInventory_ok.mp inventory, hash, rfl, rfl⟩
    · cases verified
  rintro ⟨members, provenance, manifest, manifestFits, package, packageFits, items, listed,
    records, checked, inventory, hash, place, disk⟩
  refine ⟨members, provenance, _, ⟨manifest, manifestFits⟩, _, ⟨package, packageFits⟩, ?_⟩
  rw [listed]
  simp only [except_bind_ok, refuseIf_ok, not_not]
  refine ⟨records, checked, (), checkInventory_ok.mpr inventory, (), hash, ?_⟩
  rw [← place, ← disk]
  rfl

variable {destination : List String} {content : List UInt8}

theorem extractAgentBundle_ok : extractAgentBundle codec destination content = .ok bundle ↔
    content.length ≤ maxAgentBundleUploadBytes ∧
    ∃ infos, codec.infolist content = some infos ∧ infos.length ≤ maxBundleFiles ∧
    ∃ extraction, extractEntries (resolve destination) {} infos = .ok extraction ∧
    verifyBundle codec (resolve destination) extraction = .ok bundle := by
  simp only [extractAgentBundle, refuseIf_bind, gt_iff_lt, Nat.not_lt]
  cases codec.infolist content with
  | none => simp
  | some infos => simp [except_bind_ok, refuseIf_ok]

variable {path : String}

theorem Unpacked.spelled (unpacked : Unpacked root infos extraction)
  (listed : path ∈ extraction.extractedFiles) :
  ∃ parts, parts ≠ [] ∧ (∀ part ∈ parts, ProperPart part) ∧ path = asPosix parts ∧
    (ofString path).parts = parts := by
  obtain ⟨parts, nonempty, proper, rfl, _⟩ := unpacked.stored path listed
  exact ⟨parts, nonempty, proper, rfl, parts_ofString_posix nonempty proper⟩

theorem parts_bundle_json : (ofString "bundle.json").parts = ["bundle.json"] := by
  decide

theorem ZipInfo.place_of_descriptor {owner : ZipInfo} (nonempty : owner.parts ≠ [])
  (proper : ∀ part ∈ owner.parts, ProperPart part) (root : List String)
  (same : owner.normalized = "bundle.json") :
  root ++ owner.parts = root ++ ["bundle.json"] := by
  have read : (ofString owner.normalized).parts = owner.parts :=
    parts_ofString_posix nonempty proper
  rw [← read, same, parts_bundle_json]

theorem Unpacked.elsewhere (unpacked : Unpacked root infos extraction)
  (listed : path ∈ extraction.extractedFiles) (other : path ≠ "bundle.json") :
  root ++ (ofString path).parts ≠ root ++ ["bundle.json"] := by
  intro same
  obtain ⟨parts, _, _, spelled, read⟩ := unpacked.spelled listed
  apply other
  rw [spelled, ← read, append_cancel_left same]
  decide

theorem Unpacked.packageHashOf_left (unpacked : Unpacked root infos extraction)
  (erased : ∀ location, disk.get? location =
    if location = root ++ ["bundle.json"] then none else extraction.disk.get? location)
  (below : Below root disk) :
  packageHashOf (treeFiles root disk) = packageHashOf (readFiles root extraction.disk
    (sortedTexts (extraction.extractedFiles.filter (· ≠ "bundle.json")))) := by
  have kept : ∀ path, path ∈ extraction.extractedFiles.filter (· ≠ "bundle.json") ↔
    path ∈ extraction.extractedFiles ∧ path ≠ "bundle.json" := by
    intro path
    rw [mem_filter, decide_eq_true_eq]
  apply packageHashOf_readFiles (treeFiles_distinct below) (unpacked.distinct.filter _)
  · intro path member
    obtain ⟨parts, _, _, spelled, read⟩ := unpacked.spelled ((kept path).mp member).1
    rw [read, spelled]
  intro parts data
  rw [mem_treeFiles below, erased]
  constructor
  · intro found
    split at found
    · cases found
    case isFalse other =>
      obtain ⟨owner, _, nonempty, proper, place, _, present⟩ := unpacked.located _ data found
      obtain rfl := append_cancel_left place
      have named : owner.normalized ≠ "bundle.json" :=
        fun same => other (place_of_descriptor nonempty proper root same)
      exact ⟨owner.normalized, (kept _).mpr ⟨present, named⟩,
        (parts_ofString_posix nonempty proper).symm, found⟩
  rintro ⟨path, member, rfl, found⟩
  obtain ⟨present, other⟩ := (kept path).mp member
  rw [if_neg (unpacked.elsewhere present other), found]

theorem extractAgentBundle_restored
  (accepted : extractAgentBundle codec destination content = .ok bundle) :
  ∃ members records, Declares codec content members records ∧
    Restored (resolve destination) members records bundle := by
  obtain ⟨_, infos, listed, _, extraction, extracted, verified⟩ := extractAgentBundle_ok.mp accepted
  generalize resolve destination = root at extracted verified ⊢
  obtain ⟨members, provenance, _, _, declaredHash, _, items, files, records, checked, inventory,
    hash, _, disk⟩ := verifyBundle_ok.mp verified
  have unpacked := extractEntries_unpacked (unpacked_start root infos)
    (fun _ => id) extracted
  obtain ⟨_, text, descriptor, parsed⟩ := readProvenance_ok.mp provenance
  obtain ⟨info, info_mem, _, _, place, data, _⟩ := unpacked.located _ _ descriptor
  obtain ⟨shape, distinct, holds⟩ := checkRecords_ok.mp checked
  have actual : ∀ record ∈ records,
    record.path ∈ extraction.extractedFiles ∧ record.path ≠ "bundle.json" := by
    intro record member
    have present := (inventory record.path).mpr (mem_map_of_mem member)
    simpa using present
  have erased : ∀ location, bundle.disk.get? location =
    if location = root ++ ["bundle.json"] then none else extraction.disk.get? location := by
    intro location
    rw [disk, get?_erase]
  have elsewhere : ∀ record ∈ records, record.location root ≠ root ++ ["bundle.json"] := by
    intro record member
    obtain ⟨present, other⟩ := actual record member
    exact unpacked.elsewhere present other
  have only : ∀ location data, bundle.disk.get? location = some data →
    ∃ record ∈ records, location = record.location root ∧ ∃ parts, location = root ++ parts := by
    intro location data found
    rw [erased] at found
    split at found
    · cases found
    case isFalse other =>
      obtain ⟨owner, _, nonempty, proper, rfl, _, present⟩ := unpacked.located location data found
      have named : owner.normalized ≠ "bundle.json" :=
        fun same => other (place_of_descriptor nonempty proper root same)
      have counted : owner.normalized ∈ extraction.extractedFiles.filter (· ≠ "bundle.json") :=
        mem_filter.mpr ⟨present, decide_eq_true named⟩
      obtain ⟨record, member, same⟩ := mem_map.mp ((inventory _).mp counted)
      refine ⟨record, member, ?_, owner.parts, rfl⟩
      rw [FileRecord.location, same, normalized, parts_ofString_posix nonempty proper]
  have below : Below root bundle.disk := fun location data found =>
    let ⟨_, _, _, place⟩ := only location data found
    place
  refine ⟨members, records, ⟨infos, listed, info, info_mem,
    (append_cancel_left place).symm, text, data, parsed, items, files, shape⟩, ?_⟩
  refine
    { distinct, stored := ?stored, only := ?only, inside := ?inside
      declaredHash, hash := ?hash }
  case stored =>
    intro record member
    obtain ⟨data, found, meets⟩ := (holds record member).2.2
    exact ⟨data, by rw [erased, if_neg (elsewhere record member), found], meets⟩
  case only =>
    intro location data found
    obtain ⟨record, member, place, _⟩ := only location data found
    exact ⟨record, member, place⟩
  case inside =>
    intro record member
    obtain ⟨parts, nonempty, proper, spelled, read⟩ := unpacked.spelled (actual record member).1
    exact ⟨parts, nonempty, proper, spelled, by rw [FileRecord.location, read]⟩
  case hash =>
    rw [← hash]
    exact unpacked.packageHashOf_left erased below

end AgentHarness.Packages
