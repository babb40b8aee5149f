import AgentHarness.Packages.RoundTrip

/-!
The errors that leave an extraction.
-/

namespace AgentHarness.Packages

open Collections Dict List ZipInfo
open Text (Json)

/-- `fits`: the file system takes the names on that path. `overruns`: `json.loads` raises what is
no `JSONDecodeError`, at its limit on digits or on nesting. -/
structure Host where
  fits : List String → Bool
  overruns : List UInt8 → Bool

inductive Raised
  | extract (failure : ExtractError)
  | loads

def ExtractError.isValidation : ExtractError → Bool
  | .validation _ => true
  | _ => false

def Raised.isValidation : Raised → Bool
  | .extract failure => failure.isValidation
  | .loads => false

def raisesOnly {Failure Value : Type} (expected : Failure → Bool) : Except Failure Value → Bool
  | .ok _ => true
  | .error failure => expected failure

variable (host : Host) (codec : BundleCodec) (root : List String)

def extractEntryOn (extraction : Extraction) (info : ZipInfo) : Except ExtractError Extraction := do
  let next ← extractEntry root extraction info
  refuseIf (info.isDir = false ∧ host.fits (root ++ info.parts) = false) .os
  return next

def extractEntriesOn (root : List String) (extraction : Extraction) :
    List ZipInfo → Except ExtractError Extraction
  | [] => .ok extraction
  | info :: infos => do
      let next ← extractEntryOn host root extraction info
      extractEntriesOn root next infos

/-- `json.loads` is reached, with a text that it does not get through. -/
def overrun (disk : Disk) : Bool := (disk.get? (root ++ ["agent.yaml"])).isSome &&
    (disk.get? (root ++ ["bundle.json"])).any host.overruns

/-- `extract_agent_bundle` with the errors of its host. -/
def extractAgentBundleOn (destination : List String) (content : List UInt8) :
  Except Raised ExtractedBundle := do
  refuseIf (content.length > maxAgentBundleUploadBytes)
    (.extract (invalid "Agent bundle exceeds the upload size limit"))
  match codec.infolist content with
  | none => .error (.extract (invalid "Agent bundle is not a valid ZIP archive"))
  | some infos =>
    refuseIf (infos.length > maxBundleFiles)
      (.extract (invalid "Agent bundle contains too many files"))
    let extraction ← (extractEntriesOn host (resolve destination) {} infos).mapError .extract
    refuseIf (overrun host (resolve destination) extraction.disk = true) .loads
    (verifyBundle codec (resolve destination) extraction).mapError .extract

def fileBytes (infos : List ZipInfo) : Nat := ((infos.filter (·.isDir = false)).map fileSize).sum

structure Passes (before : List ZipInfo) (info : ZipInfo) : Prop where
  admitted : AdmittedPath (before.map normalized) info
  sized : info.isDir = false → info.fileSize ≤ maxPackageFileBytes ∧
    fileBytes before + info.fileSize ≤ maxPackageTotalBytes ∧
      info.data.map List.length = some info.fileSize

structure Writable (before : List ZipInfo) (info : ZipInfo) : Prop where
  fits : host.fits (root ++ info.parts) = true
  apart : ∀ earlier ∈ before, earlier.isDir = false →
    ¬ earlier.parts <+: info.parts ∧ ¬ info.parts <+: earlier.parts

/-- The text of a descriptor beside a manifest is one that `json.loads` gets through. -/
def Readable (infos : List ZipInfo) : Prop :=
  ∀ manifest ∈ infos, manifest.isDir = false → manifest.parts = ["agent.yaml"] →
    ∀ descriptor ∈ infos, descriptor.isDir = false → descriptor.parts = ["bundle.json"] →
      descriptor.data.any host.overruns = false

def Tolerated (before : List ZipInfo) : List ZipInfo → Prop
  | [] => Readable host before
  | info :: later => Passes before info →
      (info.isDir = false → Writable host root before info) ∧ Tolerated (info :: before) later

section

variable {Failure Value Result : Type} {expected : Failure → Bool}

theorem raisesOnly_bind {first : Except Failure Value} {next : Value → Except Failure Result} :
  raisesOnly expected (first >>= next) = true ↔ raisesOnly expected first = true ∧
    ∀ value, first = .ok value → raisesOnly expected (next value) = true := by
  cases first with
  | error failure => exact ⟨fun caught => ⟨caught, nofun⟩, And.left⟩
  | ok value =>
    constructor
    · intro caught
      refine ⟨rfl, ?_⟩
      rintro _ ⟨⟩
      exact caught
    exact fun ⟨_, caught⟩ => caught value rfl

theorem raisesOnly_refuseIf {condition : Prop} [Decidable condition] {failure : Failure} :
  raisesOnly expected (refuseIf condition failure) = true ↔
    (condition → expected failure = true) := by
  unfold refuseIf
  split <;> simp [raisesOnly, *]

theorem raisesOnly_mapError {result : Except ExtractError Value} :
  raisesOnly Raised.isValidation (result.mapError .extract) =
    raisesOnly ExtractError.isValidation result := by
  cases result <;> rfl

end

variable {host : Host} {codec : BundleCodec} {root destination : List String}
  {extraction next : Extraction} {before infos : List ZipInfo} {info : ZipInfo}

theorem checkPath_raises {seen : List String} :
  raisesOnly ExtractError.isValidation (checkPath seen info) = true := by
  simp [checkPath, raisesOnly_bind, raisesOnly_refuseIf, invalid, ExtractError.isValidation]

theorem readEntry_raises {total : Nat} (readable : info.data.isSome = true) :
  raisesOnly ExtractError.isValidation (readEntry total info) = true := by
  obtain ⟨data, found⟩ := Option.isSome_iff_exists.mp readable
  simp only [readEntry, found, raisesOnly_bind, raisesOnly_refuseIf]
  exact ⟨fun _ => rfl, fun _ _ => ⟨fun _ => rfl, fun _ _ => ⟨fun _ => rfl, fun _ _ => rfl⟩⟩⟩

theorem checkRecords_raises {expected : List String} {items : List Json} :
  raisesOnly ExtractError.isValidation (checkRecords root extraction expected items) = true := by
  induction items generalizing expected with
  | nil => rfl
  | cons item items ih =>
    unfold checkRecords
    cases fileRecord? item with
    | none => rfl
    | some record =>
      have checked : raisesOnly ExtractError.isValidation
        (checkRecord root extraction expected record) = true := by
        simp only [checkRecord, raisesOnly_bind, raisesOnly_refuseIf]
        refine ⟨fun _ => rfl, fun _ _ => ⟨fun _ => rfl, fun _ _ => ?_⟩⟩
        cases extraction.disk.get? (record.location root) with
        | none => rfl
        | some data => exact raisesOnly_refuseIf.mpr fun _ => rfl
      simp only [raisesOnly_bind]
      exact ⟨checked, fun _ _ => ⟨ih, fun _ _ => rfl⟩⟩

theorem digestMember_raises {members : List (String × Json)} {name message : String} :
  raisesOnly ExtractError.isValidation (digestMember members name message) = true := by
  unfold digestMember
  split
  · split <;> rfl
  rfl

theorem verifyBundle_raises :
  raisesOnly ExtractError.isValidation (verifyBundle codec root extraction) = true := by
  simp only [verifyBundle, raisesOnly_bind]
  refine ⟨?_, fun members _ => ⟨digestMember_raises, fun _ _ => ⟨digestMember_raises, ?_⟩⟩⟩
  · unfold readProvenance
    split
    · split <;> rfl
    rfl
  intro _ _
  split
  · simp only [raisesOnly_bind, checkInventory, raisesOnly_refuseIf]
    refine ⟨checkRecords_raises, fun _ _ => ⟨fun _ => rfl, fun _ _ => ?_⟩⟩
    exact ⟨fun _ => rfl, fun _ _ => rfl⟩
  rfl

theorem extractEntry_raises (readable : info.data.isSome = true) :
  raisesOnly ExtractError.isValidation (extractEntry root extraction info) = true ↔
    (AdmittedPath extraction.seen info → info.isDir = false →
    ∀ data, readEntry extraction.total info = .ok data → root <+: resolve (root ++ info.parts) →
    blocked extraction.disk (root ++ info.parts) = false) := by
  simp only [extractEntry, raisesOnly_bind, checkPath_raises, true_and, ← checkPath_ok]
  cases info.isDir with
  | true => simp [raisesOnly, pure, Except.pure]
  | false =>
    simp only [Bool.false_eq_true, if_false, raisesOnly_bind, readEntry_raises readable,
      raisesOnly_refuseIf, writeBytes, refuseIf_ok, not_not, true_and]
    constructor
    · intro caught checked _ data read within
      have free := ((caught () checked data read).2 () within).1.1
      exact Bool.eq_false_iff.mpr fun taken => by cases free taken
    intro free _ checked data read
    refine ⟨fun _ => rfl, fun _ within => ⟨⟨fun taken => ?_, fun _ _ => rfl⟩, fun _ _ => rfl⟩⟩
    exact absurd taken (Bool.eq_false_iff.mp (free checked trivial data read within))

structure Tracks (root : List String) (before : List ZipInfo) (extraction : Extraction) :
    Prop where
  seen : extraction.seen = before.map normalized
  total : extraction.total = fileBytes before
  held : ∀ info ∈ before, info.isDir = false → ∃ data, info.data = some data ∧
    extraction.disk.get? (root ++ info.parts) = some data
  located : ∀ location data, extraction.disk.get? location = some data →
    ∃ info ∈ before, info.isDir = false ∧ location = root ++ info.parts

theorem tracks_start (root : List String) : Tracks root [] {} where
  seen := rfl
  total := rfl
  held _ member := by cases member
  located _ _ found := by cases found

namespace Tracks

variable (tracks : Tracks root before extraction)

include tracks

theorem passes_iff : Passes before info ↔ AdmittedPath extraction.seen info ∧
  (info.isDir = false → ∃ data, readEntry extraction.total info = .ok data) := by
  simp only [readEntry_ok, tracks.seen, tracks.total]
  constructor
  · intro passes
    refine ⟨passes.admitted, fun file => ?_⟩
    obtain ⟨small, within, sized⟩ := passes.sized file
    obtain ⟨data, found, length⟩ := Option.map_eq_some_iff.mp sized
    exact ⟨data, small, within, found, length⟩
  intro ⟨admitted, sized⟩
  refine ⟨admitted, fun file => ?_⟩
  obtain ⟨data, small, within, found, length⟩ := sized file
  exact ⟨small, within, Option.map_eq_some_iff.mpr ⟨data, found, length⟩⟩

theorem elsewhere (fresh : info.normalized ∉ extraction.seen) {earlier : ZipInfo}
  (member : earlier ∈ before) : root ++ earlier.parts ≠ root ++ info.parts := by
  intro same
  apply fresh
  rw [tracks.seen, normalized, ← append_cancel_left same]
  exact mem_map_of_mem member

theorem free_iff (fresh : info.normalized ∉ extraction.seen) :
  blocked extraction.disk (root ++ info.parts) = false ↔
    ∀ earlier ∈ before, earlier.isDir = false →
    ¬ earlier.parts <+: info.parts ∧ ¬ info.parts <+: earlier.parts := by
  simp only [blocked, any_eq_false, Bool.and_eq_true, decide_eq_true_eq, Bool.or_eq_true,
    isPrefixOf_iff_prefix, not_and, not_or]
  constructor
  · intro free earlier member file
    obtain ⟨data, _, found⟩ := tracks.held earlier member file
    have apart := free _ (get?_eq_some.mp found) (tracks.elsewhere fresh member)
    rwa [prefix_append_right_inj, prefix_append_right_inj] at apart
  rintro apart ⟨location, data⟩ member _
  obtain ⟨earlier, listed, file, rfl⟩ := tracks.located _ _ (get?_eq_some.mpr member)
  rw [prefix_append_right_inj, prefix_append_right_inj]
  exact apart earlier listed file

theorem withDirectory (directory : info.isDir = true) :
  Tracks root (info :: before) (extraction.withDirectory info) where
  seen := congrArg (info.normalized :: ·) tracks.seen
  total := by simp [Extraction.withDirectory, fileBytes, directory, tracks.total]
  held earlier member file := by
    obtain rfl | member := mem_cons.mp member
    · cases directory.symm.trans file
    exact tracks.held earlier member file
  located location data found := by
    obtain ⟨earlier, member, rest⟩ := tracks.located location data found
    exact ⟨earlier, mem_cons_of_mem _ member, rest⟩

theorem withFile {data : List UInt8} (file : info.isDir = false)
  (fresh : info.normalized ∉ extraction.seen) (stored : info.data = some data) :
  Tracks root (info :: before) (extraction.withFile root info data) where
  seen := congrArg (info.normalized :: ·) tracks.seen
  total := by simp [Extraction.withFile, fileBytes, file, tracks.total, Nat.add_comm]
  held earlier member isFile := by
    obtain rfl | member := mem_cons.mp member
    · exact ⟨data, stored, get?_set_self _ _ _⟩
    obtain ⟨content, kept, found⟩ := tracks.held earlier member isFile
    exact ⟨content, kept, (get?_set_other _ _ (tracks.elsewhere fresh member)).trans found⟩
  located location content found := by
    rw [Extraction.withFile, get?_set] at found
    split at found
    case isTrue here => exact ⟨info, mem_cons_self, file, here⟩
    · obtain ⟨earlier, member, rest⟩ := tracks.located location content found
      exact ⟨earlier, mem_cons_of_mem _ member, rest⟩

theorem overrun_iff : overrun host root extraction.disk = false ↔ Readable host before := by
  have reads (name : String) {data : List UInt8} :
    extraction.disk.get? (root ++ [name]) = some data ↔
      ∃ info ∈ before, info.isDir = false ∧ info.parts = [name] ∧ info.data = some data := by
    constructor
    · intro found
      obtain ⟨info, member, file, same⟩ := tracks.located _ _ found
      obtain ⟨content, stored, here⟩ := tracks.held info member file
      rw [← same, found] at here
      exact ⟨info, member, file, (append_cancel_left same).symm, stored.trans here.symm⟩
    rintro ⟨info, member, file, named, stored⟩
    obtain ⟨content, kept, here⟩ := tracks.held info member file
    rwa [named, ← kept, stored] at here
  rw [← Bool.not_eq_true, overrun, Bool.and_eq_true, Option.isSome_iff_exists, Option.any_eq_true]
  simp only [reads, Readable]
  constructor
  · intro clear manifest listed file named descriptor listed' file' named'
    rw [← Bool.not_eq_true, Option.any_eq_true]
    rintro ⟨text, stored, stuck⟩
    obtain ⟨data, kept, _⟩ := tracks.held manifest listed file
    exact clear ⟨⟨data, manifest, listed, file, named, kept⟩,
      text, ⟨descriptor, listed', file', named', stored⟩, stuck⟩
  rintro clear ⟨⟨_, manifest, listed, file, named, _⟩, text,
    ⟨descriptor, listed', file', named', stored⟩, stuck⟩
  have := clear manifest listed file named descriptor listed' file' named'
  rw [stored, Option.any_some, stuck] at this
  cases this

end Tracks

theorem extractEntryOn_ok : extractEntryOn host root extraction info = .ok next ↔
  extractEntry root extraction info = .ok next ∧
    (info.isDir = false → host.fits (root ++ info.parts) = true) := by
  simp only [extractEntryOn, except_bind_ok, refuseIf_ok, not_and, Bool.not_eq_false]
  constructor
  · rintro ⟨_, step, _, fits, ⟨⟩⟩
    exact ⟨step, fits⟩
  rintro ⟨step, fits⟩
  exact ⟨next, step, (), fits, rfl⟩

section

variable (rooted : ∀ parts : List String, (∀ part ∈ parts, part ≠ "..") →
  root <+: resolve (root ++ parts)) (tracks : Tracks root before extraction)

include tracks

theorem Tracks.step (extracted : extractEntryOn host root extraction info = .ok next) :
  Passes before info ∧ Tracks root (info :: before) next := by
  obtain ⟨step, fits⟩ := extractEntryOn_ok.mp extracted
  obtain ⟨admitted, ⟨directory, rfl⟩ | ⟨file, data, read, _, _, rfl⟩⟩ := extractEntry_ok.mp step
  · have passes := tracks.passes_iff.mpr
      ⟨admitted, fun file => by cases directory.symm.trans file⟩
    exact ⟨passes, tracks.withDirectory directory⟩
  have passes := tracks.passes_iff.mpr ⟨admitted, fun _ => ⟨data, read⟩⟩
  exact ⟨passes, tracks.withFile file admitted.fresh (readEntry_ok.mp read).2.2.1⟩

include rooted

theorem Tracks.extracts (passes : Passes before info)
  (writable : info.isDir = false → Writable host root before info) :
  ∃ next, extractEntryOn host root extraction info = .ok next := by
  have ⟨admitted, sized⟩ := tracks.passes_iff.mp passes
  cases kind : info.isDir with
  | true =>
    refine ⟨_, extractEntryOn_ok.mpr ⟨extractEntry_ok.mpr ⟨admitted, .inl ⟨kind, rfl⟩⟩, ?_⟩⟩
    exact fun file => by cases kind.symm.trans file
  | false =>
    obtain ⟨data, read⟩ := sized kind
    have free := (tracks.free_iff admitted.fresh).mpr (writable kind).apart
    have within : root <+: _ := rooted _ fun part member => (admitted.proper part member).notUp
    have step := extractEntry_ok.mpr ⟨admitted, .inr ⟨kind, data, read, within, free, rfl⟩⟩
    exact ⟨_, extractEntryOn_ok.mpr ⟨step, fun file => (writable file).fits⟩⟩

theorem Tracks.raises_iff (readable : info.data.isSome = true) :
  raisesOnly ExtractError.isValidation
    (extractEntryOn host root extraction info) = true ↔
    (Passes before info → info.isDir = false → Writable host root before info) := by
  simp only [extractEntryOn, raisesOnly_bind, extractEntry_raises readable, raisesOnly_refuseIf]
  constructor
  · rintro ⟨free, fits⟩ passes file
    obtain ⟨admitted, sized⟩ := tracks.passes_iff.mp passes
    obtain ⟨data, read⟩ := sized file
    have within : root <+: _ := rooted _ fun part member => (admitted.proper part member).notUp
    have free := free admitted file data read within
    have step := extractEntry_ok.mpr ⟨admitted, .inr ⟨file, data, read, within, free, rfl⟩⟩
    refine ⟨?_, (tracks.free_iff admitted.fresh).mp free⟩
    cases taken : host.fits (root ++ info.parts) with
    | true => rfl
    | false => cases (fits _ step).1 ⟨file, taken⟩
  intro writable
  have written {data : List UInt8} (admitted : AdmittedPath extraction.seen info)
    (file : info.isDir = false) (read : readEntry extraction.total info = .ok data) :=
    writable (tracks.passes_iff.mpr ⟨admitted, fun _ => ⟨data, read⟩⟩) file
  constructor
  · intro admitted file data read _
    exact (tracks.free_iff admitted.fresh).mpr (written admitted file read).apart
  refine fun next step => ⟨?_, fun _ _ => rfl⟩
  rintro ⟨file, stuck⟩
  obtain ⟨admitted, ⟨directory, _⟩ | ⟨_, data, read, _⟩⟩ := extractEntry_ok.mp step
  · cases directory.symm.trans file
  cases (written admitted file read).fits.symm.trans stuck

theorem extractEntriesOn_raises (readable : ∀ info ∈ infos, info.data.isSome = true) :
  (raisesOnly ExtractError.isValidation (extractEntriesOn host root extraction infos) = true ∧
    ∀ final, extractEntriesOn host root extraction infos = .ok final →
    overrun host root final.disk = false) ↔
    Tolerated host root before infos := by
  induction infos generalizing before extraction with
  | nil =>
    constructor
    · exact fun ⟨_, clear⟩ => tracks.overrun_iff.mp (clear extraction rfl)
    intro clear
    refine ⟨rfl, ?_⟩
    rintro _ ⟨⟩
    exact tracks.overrun_iff.mpr clear
  | cons info infos ih =>
    have rest : ∀ info ∈ infos, info.data.isSome = true :=
      fun later member => readable later (mem_cons_of_mem _ member)
    simp only [extractEntriesOn, raisesOnly_bind, except_bind_ok, Tolerated,
      tracks.raises_iff rooted (readable info mem_cons_self)]
    constructor
    · rintro ⟨⟨writable, later⟩, clear⟩ passes
      obtain ⟨next, extracted⟩ := tracks.extracts rooted passes (writable passes)
      refine ⟨writable passes, (ih (tracks.step extracted).2 rest).mp ⟨later next extracted, ?_⟩⟩
      exact fun final done => clear final ⟨next, extracted, done⟩
    intro tolerated
    have after {next : Extraction}
      (extracted : extractEntryOn host root extraction info = .ok next) :=
      have ⟨passes, tracks⟩ := tracks.step extracted
      (ih tracks rest).mpr (tolerated passes).2
    refine ⟨⟨fun passes => (tolerated passes).1, fun next extracted => (after extracted).1⟩, ?_⟩
    rintro final ⟨next, extracted, done⟩
    exact (after extracted).2 final done

end

theorem extractAgentBundleOn_raises_iff {content : List UInt8}
  (listed : codec.infolist content = some infos)
  (readable : ∀ info ∈ infos, info.data.isSome = true) :
  raisesOnly Raised.isValidation (extractAgentBundleOn host codec destination content) = true ↔
    maxAgentBundleUploadBytes < content.length ∨ maxBundleFiles < infos.length ∨
    Tolerated host (resolve destination) [] infos := by
  have ok (extraction : Extraction) :
    (extractEntriesOn host (resolve destination) {} infos).mapError Raised.extract =
      .ok extraction ↔
      extractEntriesOn host (resolve destination) {} infos = .ok extraction := by
    cases extractEntriesOn host (resolve destination) {} infos with
    | error failure => exact ⟨by rintro ⟨⟩, by rintro ⟨⟩⟩
    | ok => exact ⟨fun same => by cases same; rfl, fun same => by cases same; rfl⟩
  rw [← extractEntriesOn_raises (fun _ => resolve_below) (tracks_start _) readable]
  simp only [extractAgentBundleOn, listed, raisesOnly_bind, raisesOnly_refuseIf, refuseIf_ok,
    raisesOnly_mapError, ok, verifyBundle_raises, gt_iff_lt, Nat.not_lt]
  constructor
  · rintro ⟨_, later⟩
    by_cases large : maxAgentBundleUploadBytes < content.length
    · exact .inl large
    by_cases many : maxBundleFiles < infos.length
    · exact .inr (.inl many)
    obtain ⟨caught, clear⟩ := (later () (Nat.le_of_not_lt large)).2 () (Nat.le_of_not_lt many)
    refine .inr (.inr ⟨caught, fun final done => ?_⟩)
    exact Bool.eq_false_iff.mpr fun stuck => by cases (clear final done).1 stuck
  intro tolerated
  refine ⟨fun _ => rfl, fun _ small => ⟨fun _ => rfl, fun _ few => ?_⟩⟩
  obtain large | many | ⟨caught, clear⟩ := tolerated
  · exact absurd large (Nat.not_lt.mpr small)
  · exact absurd many (Nat.not_lt.mpr few)
  refine ⟨caught, fun final done => ⟨fun stuck => ?_, fun _ _ => trivial⟩⟩
  cases (clear final done).symm.trans stuck

def roomy : Host where
  fits _ := true
  overruns _ := false

def nested : List ZipInfo := [⟨"a", 0, 1, some [0x61]⟩, ⟨"a/b", 0, 1, some [0x62]⟩]

def listing (infos : List ZipInfo) : BundleCodec where
  writestr _ := []
  infolist _ := some infos
  loads _ := none

theorem nested_escapes : raisesOnly Raised.isValidation
  (extractAgentBundleOn roomy (listing nested) ["srv"] [0x50, 0x4B]) = false := by
  decide +kernel

theorem nested_raises_iff : raisesOnly Raised.isValidation
  (extractAgentBundleOn roomy (listing nested) ["srv"] [0x50, 0x4B]) = true ↔
  maxAgentBundleUploadBytes < 2 ∨ maxBundleFiles < 2 ∨
  Tolerated roomy (resolve ["srv"]) [] nested :=
  extractAgentBundleOn_raises_iff rfl
    (by decide : ∀ info ∈ nested, info.data.isSome = true)

end AgentHarness.Packages
