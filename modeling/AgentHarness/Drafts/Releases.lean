import AgentHarness.Drafts.Service

/-!
A draft that stands at the version under which it was published is what was published.
-/

namespace AgentHarness.Drafts

open Collections Interaction Dict List AgentStudioService Change Pool Option
open Core (AgentManifestSnapshot)
open Application (AgentRegistry AgentVersion Publication VersionKey publishSnapshot
  publishSnapshot_fresh publishSnapshot_keeps publishSnapshot_stores publishSnapshot_taken)

section

variable {Settings Catalog : Type} (compiler : AgentDraftCompiler Settings Catalog)

def Published (registry : AgentRegistry) (draft : AgentDraft Settings) : Prop :=
  ∃ catalog compiled version, compiler.compile catalog draft.spec = .ok compiled ∧
      registry.get? draft.versionKey = some version ∧
        version.manifestHash = compiled.snapshot.contentHash ∧
          version.packageHash = some compiled.packageHash

structure Sealed (registry : AgentRegistry) (draft : AgentDraft Settings) : Prop where
  semantic : ∀ version, draft.publishedVersion = some version →
    (compiler.digits.semver version).isSome
  published : draft.publishedVersion = some draft.spec.version → Published compiler registry draft

structure Consistent (studio : Studio Settings) : Prop where
  versions : ∀ key version, studio.registry.get? key = some version → version.key = key
  drafts : ∀ key draft, studio.drafts.get? key = some draft →
    draft.key = key ∧ Sealed compiler studio.registry draft

structure Notes (Settings : Type) where
  read : List (AgentDraft Settings) := []
  released : List (AgentDraft Settings × CompiledAgentDraft × AgentVersion) := []

variable (known : Notes Settings)

def Notes.after : (op : DraftOp Settings Catalog) → Except DraftError op.Answer → Notes Settings
  | .get _, .ok draft => { known with read := draft :: known.read }
  | .publishBundle draft compiled, .ok version =>
    { known with released := (draft, compiled, version) :: known.released }
  | _, _ => known

def Releases (draft : AgentDraft Settings) (version : AgentVersion) : Prop :=
  ∃ catalog compiled, compiler.compile catalog draft.spec = .ok compiled ∧
    (draft, compiled, version) ∈ known.released

def Allows : DraftOp Settings Catalog → Prop
  | .add draft => draft.publishedVersion = none
  | .replace _ (.edit current _ _ _) => current ∈ known.read
  | .replace _ (.stamp current version _ _) =>
    current ∈ known.read ∧ Releases compiler known current version
  | _ => True

def draftContract :
  Contract (DraftOp Settings Catalog) DraftOp.Answer DraftError (Notes Settings) where
  allowed := Allows compiler
  learns known op answer later := later = known.after op answer

section

open Program DraftOp

variable {compiler} {known : Notes Settings} {α β : Type}

def Keeps (compiler : AgentDraftCompiler Settings Catalog) (known : Notes Settings)
  (program : DraftProgram Settings Catalog α) : Prop :=
  program.wp (draftContract compiler) (fun _ _ => True) (fun _ _ => True) known

theorem keeps_done (value : α) : Keeps compiler known (done value) := trivial

theorem keeps_ask {op : DraftOp Settings Catalog}
  {next : op.Answer → DraftProgram Settings Catalog α} (allowed : Allows compiler known op)
  (rest : ∀ answer, Keeps compiler (known.after op (.ok answer)) (next answer)) :
  Keeps compiler known ((ask op).bind next) := by
  unfold Keeps
  rw [wp_bind, wp_perform]
  refine ⟨allowed, ?_, fun _ _ _ => trivial⟩
  intro answer later learned
  rw [learned]
  exact rest answer

variable {post : Notes Settings → α → Prop} {program : DraftProgram Settings Catalog α}

theorem keeps_bind {next : α → DraftProgram Settings Catalog β}
  (first : program.wp (draftContract compiler) post (fun _ _ => True) known)
  (rest : ∀ later value, post later value → Keeps compiler later (next value)) :
  Keeps compiler known (program.bind next) := by
  unfold Keeps
  rw [wp_bind]
  exact wp_mono first rest fun _ _ _ => trivial

theorem wp_recordFailure (draft : AgentDraft Settings) (error : DraftError) :
  (recordFailure draft error : DraftProgram Settings Catalog α).wp
    (draftContract compiler) post (fun _ _ => True) known := by
  unfold recordFailure
  rw [wp_do_perform]
  exact ⟨trivial, fun _ _ _ => trivial, fun _ _ _ => trivial⟩

variable {draft : AgentDraft Settings}

theorem wp_guarded (holds : program.wp (draftContract compiler) post (fun _ _ => True) known) :
  (program.catching (recordFailure draft)).wp (draftContract compiler) post
    (fun _ _ => True) known := by
  rw [wp_catching]
  exact wp_mono holds (fun _ _ => id) fun _ error _ => wp_recordFailure draft error

theorem wp_refuse {refused : Prop} [Decidable refused] {error : DraftError}
  {next : Unit → DraftProgram Settings Catalog α}
  (rest : (next ()).wp (draftContract compiler) post (fun _ _ => True) known) :
  ((refuse refused error).bind next).wp (draftContract compiler) post (fun _ _ => True) known := by
  unfold refuse
  split
  · trivial
  exact rest

theorem wp_idempotentVersion (draft : AgentDraft Settings) (compiled : CompiledAgentDraft) :
  (idempotentVersion draft compiled : DraftProgram Settings Catalog _).wp
    (draftContract compiler) (fun later _ => later = known) (fun _ _ => True) known := by
  unfold idempotentVersion
  split
  case isFalse => exact rfl
  case isTrue =>
    rw [wp_do, wp_catching, wp_perform]
    refine ⟨trivial, ?_, fun _ _ _ => trivial⟩
    intro existing later learned
    apply wp_refuse
    exact learned

theorem wp_release {catalog : Catalog} {expectedRevision : Option Nat}
  (read : draft ∈ known.read) : (release compiler catalog draft expectedRevision).wp
    (draftContract compiler)
    (fun later result => draft ∈ later.read ∧
    (result.2 = false → Releases compiler later draft result.1))
    (fun _ _ => True) known := by
  unfold release
  rw [bind_eq]
  apply wp_refuse
  cases compiles : compiler.compile catalog draft.spec with
  | error issues => trivial
  | ok compiled =>
    rw [bind_eq, ensureCompiled, done_bind, wp_do_perform]
    refine ⟨trivial, ?_, fun _ _ _ => trivial⟩
    intro issues later learned
    have unchanged : later = known := learned
    rw [unchanged, bind_eq]
    apply wp_refuse
    rw [wp_do]
    apply wp_mono (wp_idempotentVersion draft compiled) ?_ fun _ _ _ => trivial
    intro later existing same
    rw [same]
    cases existing with
    | some version => exact ⟨read, fun fresh => (nomatch fresh)⟩
    | none =>
      rw [wp_do, wp_catching, wp_perform]
      refine ⟨trivial, ?_, ?_⟩
      · intro version last noted
        have notes : last = { known with
            released := (draft, compiled, version) :: known.released } := noted
        rw [notes]
        exact ⟨read, fun _ => ⟨catalog, compiled, compiles, mem_cons_self⟩⟩
      intro error _ _
      cases error with
      | conflict _ | notFound _ | value _ | compilation _ | publicationConflict _
      | bundle _ => trivial

variable (tenantId : String)

theorem keeps_create (userId : String) (spec : AgentDraftSpec Settings) : Keeps compiler known
    (AgentStudioService.create tenantId userId spec : DraftProgram Settings Catalog _) := by
  unfold AgentStudioService.create
  rw [bind_eq]
  apply keeps_ask (by trivial)
  intro now
  rw [bind_eq]
  apply keeps_ask (by trivial)
  intro draftId
  rw [bind_eq]
  apply keeps_ask
  · exact rfl
  exact fun _ => keeps_done _

variable [DecidableEq Settings]

theorem keeps_store {expectedRevision : Nat} {change : Change Settings}
  (allowed : Allows compiler known (.replace expectedRevision change)) :
  Keeps compiler known (store compiler expectedRevision change) := by
  unfold store
  rw [bind_eq]
  exact keeps_ask allowed fun _ => keeps_done _

variable (userId draftId : String)

theorem keeps_replace (request : ReplaceAgentDraftRequest Settings) : Keeps compiler known
    (AgentStudioService.replace compiler tenantId userId draftId request) := by
  unfold AgentStudioService.replace
  rw [bind_eq]
  apply keeps_ask (by trivial)
  intro current
  cases merged : mergedSpec compiler current request.spec with
  | error error => trivial
  | ok candidate =>
    rw [bind_eq, ensure, done_bind, bind_eq]
    apply keeps_ask (by trivial)
    intro now
    apply keeps_store
    exact mem_cons_self

theorem keeps_installSkill (expectedRevision : Nat) (imported : DraftSkill) : Keeps compiler known
    (AgentStudioService.installSkill compiler tenantId userId draftId expectedRevision
    imported) := by
  unfold AgentStudioService.installSkill
  rw [bind_eq]
  apply keeps_ask (by trivial)
  intro current
  rw [bind_eq]
  apply keeps_ask (by trivial)
  intro now
  apply keeps_store
  exact mem_cons_self

theorem keeps_publish (expectedRevision : Option Nat) : Keeps compiler known
    (AgentStudioService.publish compiler tenantId userId draftId expectedRevision) := by
  unfold AgentStudioService.publish
  rw [bind_eq]
  apply keeps_ask (by trivial)
  intro draft
  rw [bind_eq]
  apply keeps_ask (by trivial)
  intro catalog
  rw [bind_eq]
  apply keeps_bind (wp_guarded (wp_release mem_cons_self))
  rintro later ⟨version, idempotent⟩ ⟨read, releases⟩
  cases idempotent with
  | true =>
    dsimp only
    rw [if_pos rfl, bind_eq]
    exact keeps_ask (by trivial) fun _ => keeps_done _
  | false =>
    dsimp only
    rw [if_neg Bool.false_ne_true, bind_eq]
    apply keeps_ask (by trivial)
    intro now
    rw [bind_eq]
    have allowed : Allows compiler later
      (.replace draft.revision (.stamp draft version userId now)) := ⟨read, releases rfl⟩
    apply keeps_bind (wp_guarded (keeps_store allowed))
    intro last published _
    rw [bind_eq]
    exact keeps_ask (by trivial) fun _ => keeps_done _

theorem serve_keeps (request : DraftRequest Settings) :
  Keeps compiler known (serve compiler request) := by
  cases request with
  | create tenantId userId spec =>
    exact keeps_bind (keeps_create tenantId userId spec) fun _ _ _ => trivial
  | replace tenantId userId draftId request =>
    exact keeps_bind (keeps_replace tenantId userId draftId request) fun _ _ _ => trivial
  | installSkill tenantId userId draftId expectedRevision imported =>
    exact keeps_bind (keeps_installSkill tenantId userId draftId expectedRevision imported)
      (fun _ _ _ => trivial)
  | publish tenantId userId draftId expectedRevision =>
    exact keeps_bind (keeps_publish tenantId userId draftId expectedRevision)
      (fun _ _ _ => trivial)
  | publishElsewhere publication => exact keeps_ask (by trivial) fun _ => trivial

end

structure Recalls (studio : Studio Settings) (known : Notes Settings) : Prop where
  read : ∀ draft ∈ known.read, ∃ stored, studio.drafts.get? draft.key = some stored ∧
    draft.revision ≤ stored.revision ∧ (draft.revision = stored.revision → stored = draft)
  released : ∀ draft compiled version, (draft, compiled, version) ∈ known.released →
    studio.registry.get?
        (compiled.publication draft.tenantId draft.createdBy 0).agentVersion.key = some version ∧
      version.manifestHash = compiled.snapshot.contentHash ∧
        version.packageHash = some compiled.packageHash

def Orderly (studio : Studio Settings) (known : Nat → Notes Settings) : Prop :=
  Consistent compiler studio ∧ ∀ actor, Recalls studio (known actor)

/-- Versions stay as they are, and a draft gives way to later revisions only. -/
structure Grows (studio later : Studio Settings) : Prop where
  versions : ∀ key version, studio.registry.get? key = some version →
    later.registry.get? key = some version
  drafts : ∀ key draft, studio.drafts.get? key = some draft →
    ∃ stored, later.drafts.get? key = some stored ∧ draft.revision ≤ stored.revision ∧
      (draft.revision = stored.revision → stored = draft)

variable {compiler} {later studio : Studio Settings} {draft : AgentDraft Settings}
  {registry : AgentRegistry}

theorem grows_of_drafts (same : later.drafts = studio.drafts)
  (versions : ∀ key version, studio.registry.get? key = some version →
    later.registry.get? key = some version) : Grows studio later where
  versions
  drafts key draft stored := by
    rw [same]
    exact ⟨draft, stored, Nat.le_refl _, fun _ => rfl⟩

theorem Published.grows {later : AgentRegistry} (published : Published compiler registry draft)
  (versions : ∀ key version, registry.get? key = some version →
    later.get? key = some version) : Published compiler later draft := by
  obtain ⟨catalog, compiled, version, compiles, stored, hashes⟩ := published
  exact ⟨catalog, compiled, version, compiles, versions _ _ stored, hashes⟩

theorem Sealed.grows {later : AgentRegistry} (held : Sealed compiler registry draft)
  (versions : ∀ key version, registry.get? key = some version →
    later.get? key = some version) : Sealed compiler later draft where
  semantic := held.semantic
  published stands := (held.published stands).grows versions

theorem Recalls.grows {known : Notes Settings} (recalls : Recalls studio known)
  (grows : Grows studio later) : Recalls later known := by
  constructor
  · intro draft member
    obtain ⟨stored, found, older, same⟩ := recalls.read draft member
    obtain ⟨next, found', older', same'⟩ := grows.drafts _ stored found
    refine ⟨next, found', older.trans older', ?_⟩
    intro equal
    have middle : stored = draft := same (by omega)
    rw [← middle]
    exact same' (by rw [middle]; exact equal)
  intro draft compiled version member
  obtain ⟨found, hashes⟩ := recalls.released draft compiled version member
  exact ⟨grows.versions _ _ found, hashes⟩

theorem publish_registry (studio : Studio Settings) (publication : Publication) :
  (studio.publish publication).2.registry = (publishSnapshot studio.registry publication).2 :=
  rfl

theorem publishBundle_registry (studio : Studio Settings) (draft : AgentDraft Settings)
  (publication : Publication) : (studio.publishBundle draft publication).2.registry =
    (publishSnapshot studio.registry publication).2 ∧
    (studio.publishBundle draft publication).2.drafts = studio.drafts := by
  rw [← publish_registry]
  unfold Studio.publishBundle
  split
  case h_1 published =>
    rw [published]
    exact ⟨rfl, congrArg (fun reply => reply.2.drafts) published.symm⟩
  case h_2 failed =>
    rw [failed]
    exact ⟨rfl, congrArg (fun reply => reply.2.drafts) failed.symm⟩

variable {publication : Publication}

theorem publishSnapshot_keyed
  (keyed : ∀ key version, registry.get? key = some version → version.key = key) :
  ∀ key version, (publishSnapshot registry publication).2.get? key = some version →
    version.key = key := by
  intro key version stored
  cases taken : registry.get? publication.agentVersion.key with
  | none =>
    rw [publishSnapshot_fresh taken] at stored
    revert key version
    exact forall_set rfl keyed
  | some existing =>
    rw [publishSnapshot_taken taken] at stored
    exact keyed key version stored

theorem consistent_publish (consistent : Consistent compiler studio)
  (drafts : later.drafts = studio.drafts)
  (registry : later.registry = (publishSnapshot studio.registry publication).2) :
  Consistent compiler later ∧ Grows studio later := by
  have versions : ∀ key version, studio.registry.get? key = some version →
    later.registry.get? key = some version := by
    intro key version stored
    rw [registry]
    exact publishSnapshot_keeps stored
  refine ⟨⟨?_, ?_⟩, grows_of_drafts drafts versions⟩
  · rw [registry]
    exact publishSnapshot_keyed consistent.versions
  intro key draft stored
  rw [drafts] at stored
  obtain ⟨own, held⟩ := consistent.drafts key draft stored
  exact ⟨own, held.grows versions⟩

theorem read_of_allows {known : Notes Settings} {expectedRevision : Nat} {change : Change Settings}
  (allowed : Allows compiler known (.replace expectedRevision change)) :
  change.current ∈ known.read := by
  cases change with
  | edit current candidate userId now => exact allowed
  | stamp current version userId now => exact allowed.1

theorem consistent_setDraft (consistent : Consistent compiler studio)
  (held : Sealed compiler studio.registry draft) :
  Consistent compiler { studio with drafts := studio.drafts.set draft.key draft } := by
  constructor
  · exact consistent.versions
  exact forall_set ⟨rfl, held⟩ consistent.drafts

section

variable [DecidableEq Settings]

theorem Change.draft_key (digits : DecimalDigits) (change : Change Settings) :
  (change.draft digits).key = change.current.key := by
  cases change <;> rfl

theorem Change.draft_revision (digits : DecimalDigits) (change : Change Settings) :
  (change.draft digits).revision = change.current.revision + 1 := by
  cases change <;> rfl

variable {current : AgentDraft Settings}

theorem sealed_edit {registry : AgentRegistry}
  (held : Sealed compiler registry current) (candidate : AgentDraftSpec Settings)
  (userId : String) (now : Int) : Sealed compiler registry
    ((Change.edit current candidate userId now).draft compiler.digits) := by
  constructor
  · exact held.semantic
  intro stands
  by_cases changed : candidate = current.spec
  · subst changed
    simp only [Change.draft, autoVersionModifiedRelease_unchanged] at stands ⊢
    exact held.published stands
  exact absurd stands (autoVersionModifiedRelease_version changed held.semantic)

variable {known : Notes Settings} {studio : Studio Settings}

theorem sealed_stamp (consistent : Consistent compiler studio) (recalls : Recalls studio known)
  {version : AgentVersion}
  (releases : Releases compiler known current version) (userId : String) (now : Int) :
  Sealed compiler studio.registry
    ((Change.stamp current version userId now).draft compiler.digits) := by
  obtain ⟨catalog, compiled, compiles, member⟩ := releases
  obtain ⟨found, hashes⟩ := recalls.released current compiled version member
  obtain ⟨name, number⟩ := compiler.names compiles
  have key : (compiled.publication current.tenantId current.createdBy 0).agentVersion.key =
    current.versionKey := by
    simp [AgentVersion.key, Publication.agentVersion, CompiledAgentDraft.publication, AgentDraft.versionKey, name, number]
  rw [key] at found
  have own : version.version = current.spec.version :=
    congrArg VersionKey.version (consistent.versions _ version found)
  constructor
  · intro published stamped
    rw [← some.inj stamped, own]
    exact compiler.packs compiles
  exact fun _ => ⟨catalog, compiled, version, compiles, found, hashes⟩

variable {change : Change Settings} {expectedRevision : Nat}

theorem sealed_change (consistent : Consistent compiler studio) (recalls : Recalls studio known)
  (allowed : Allows compiler known (.replace expectedRevision change))
  (current : Sealed compiler studio.registry change.current) :
  Sealed compiler studio.registry (change.draft compiler.digits) := by
  cases change with
  | edit read candidate userId now => exact sealed_edit current candidate userId now
  | stamp read version userId now => exact sealed_stamp consistent recalls allowed.2 userId now

theorem grows_setDraft {draft : AgentDraft Settings}
  (later : ∀ stored, studio.drafts.get? draft.key = some stored →
    stored.revision < draft.revision) :
  Grows studio { studio with drafts := studio.drafts.set draft.key draft } := by
  constructor
  · exact fun _ _ => id
  intro key stored found
  by_cases same : key = draft.key
  · subst same
    have newer : stored.revision < draft.revision := later stored found
    refine ⟨draft, get?_set_self _ _ _, by omega, by omega⟩
  exact ⟨stored, (get?_set_other _ _ same).trans found, Nat.le_refl _, fun _ => rfl⟩

theorem consistent_replace
  (consistent : Consistent compiler studio) (recalls : Recalls studio known)
  (allowed : Allows compiler known (.replace expectedRevision change)) :
  Consistent compiler (studio.replace expectedRevision (change.draft compiler.digits)).2 ∧
    Grows studio (studio.replace expectedRevision (change.draft compiler.digits)).2 := by
  have unchanged : Grows studio studio := grows_of_drafts rfl fun _ _ => id
  unfold Studio.replace
  split
  · exact ⟨consistent, unchanged⟩
  case h_2 stored found =>
    split
    · exact ⟨consistent, unchanged⟩
    case isFalse expected =>
      split
      · exact ⟨consistent, unchanged⟩
      case isFalse next =>
        rw [draft_revision] at next
        rw [draft_key] at found
        obtain ⟨present, found', _, same⟩ := recalls.read _ (read_of_allows allowed)
        have one : present = stored := some.inj (found'.symm.trans found)
        subst one
        have current : present = change.current := same (by omega)
        have held : Sealed compiler studio.registry change.current := by
          rw [← current]
          exact (consistent.drafts _ _ found).2
        constructor
        · exact consistent_setDraft consistent (sealed_change consistent recalls allowed held)
        apply grows_setDraft
        intro other found''
        rw [draft_key, found] at found''
        rw [← some.inj found'', draft_revision]
        omega

theorem consistent_add {draft : AgentDraft Settings} (consistent : Consistent compiler studio)
  (unpublished : draft.publishedVersion = none) :
  Consistent compiler (studio.add draft).2 ∧ Grows studio (studio.add draft).2 := by
  unfold Studio.add
  split
  · exact ⟨consistent, grows_of_drafts rfl fun _ _ => id⟩
  case h_2 absent =>
    constructor
    · apply consistent_setDraft consistent
      constructor
      · intro version published
        rw [unpublished] at published
        cases published
      intro published
      rw [unpublished] at published
      cases published
    apply grows_setDraft
    intro stored found
    rw [absent] at found
    cases found

theorem consistent_respond {studio : Studio Settings} {known : Notes Settings} {actor : Nat}
  {input : StudioInput Catalog} {op : DraftOp Settings Catalog}
  (consistent : Consistent compiler studio) (recalls : Recalls studio known)
  (allowed : Allows compiler known op) :
  Consistent compiler (respond compiler actor input studio op).2 ∧
    Grows studio (respond compiler actor input studio op).2 := by
  cases op with
  | add draft => exact consistent_add consistent allowed
  | replace expectedRevision change => exact consistent_replace consistent recalls allowed
  | publishElsewhere publication => exact consistent_publish consistent rfl rfl
  | publishBundle draft compiled =>
    unfold respond
    split
    · exact ⟨consistent, grows_of_drafts rfl fun _ _ => id⟩
    obtain ⟨registry, drafts⟩ := publishBundle_registry studio draft
      (compiled.publication draft.tenantId draft.createdBy input.now)
    exact consistent_publish consistent drafts registry
  | clock | generateId | compilerFor _ _ | dependencyIssues _ | get _ | getVersion _
  | record _ _ => exact ⟨consistent, grows_of_drafts rfl fun _ _ => id⟩

theorem recalls_respond {actor : Nat} {input : StudioInput Catalog} {op : DraftOp Settings Catalog}
  (consistent : Consistent compiler studio)
  (recalls : Recalls (respond compiler actor input studio op).2 known) :
  Recalls (respond compiler actor input studio op).2
    (known.after op (respond compiler actor input studio op).1) := by
  cases op with
  | get key =>
    simp only [respond, Studio.get] at recalls ⊢
    cases found : studio.drafts.get? key with
    | none => exact recalls
    | some draft =>
      refine ⟨?_, recalls.released⟩
      intro other member
      cases mem_cons.mp member with
      | inl own =>
        subst own
        rw [(consistent.drafts key other found).1]
        exact ⟨other, found, Nat.le_refl _, fun _ => rfl⟩
      | inr earlier => exact recalls.read other earlier
  | publishBundle draft compiled =>
    cases fault : input.fault with
    | some error =>
      simp only [respond, fault] at recalls ⊢
      exact recalls
    | none =>
      simp only [respond, fault] at recalls ⊢
      have stores := @publishSnapshot_stores studio.registry
        (compiled.publication draft.tenantId draft.createdBy input.now)
      unfold Studio.publishBundle Studio.publish at recalls ⊢
      cases outcome : (publishSnapshot studio.registry
        (compiled.publication draft.tenantId draft.createdBy input.now)).1 with
      | error error =>
        simp only [outcome] at recalls ⊢
        exact recalls
      | ok version =>
        simp only [outcome] at recalls ⊢
        refine ⟨recalls.read, ?_⟩
        intro other compiled' version' member
        cases mem_cons.mp member with
        | inl own =>
          cases own
          obtain ⟨found, manifest, package⟩ := stores outcome
          exact ⟨found, manifest, package (some_ne_none _)⟩
        | inr earlier => exact recalls.released other compiled' version' earlier
  | clock | generateId | compilerFor _ _ | dependencyIssues _ | add _ | replace _ _
  | getVersion _ | publishElsewhere _ | record _ _ => exact recalls

theorem drafts_adhere :
  Pool.Adheres (component compiler) (fun _ => draftContract compiler) (Orderly compiler)
    (fun _ _ _ _ => True) := by
  intro studio known actor op input orderly _ allowed
  obtain ⟨consistent, recalls⟩ := orderly
  obtain ⟨kept, grows⟩ :=
    @consistent_respond _ _ compiler _ studio (known actor) actor input op consistent
      (recalls actor) allowed
  refine ⟨(known actor).after op (respond compiler actor input studio op).1, rfl, kept, ?_⟩
  apply forall_update
  · exact recalls_respond consistent ((recalls actor).grows grows)
  exact fun other _ => (recalls other).grows grows

theorem drafts_ready (requests : Nat → DraftRequest Settings) :
  (studioPool compiler requests).Ready (fun _ => draftContract compiler) (Orderly compiler)
    (fun _ _ _ => True) (fun _ _ _ => True) (fun _ => {}) := by
  refine ⟨⟨⟨?_, ?_⟩, ?_⟩, fun actor => serve_keeps (requests actor)⟩
  · intro key version stored
    cases stored
  · intro key draft stored
    cases stored
  exact fun _ => ⟨fun _ member => (nomatch member), fun _ _ _ member => (nomatch member)⟩

end

section

variable [DecidableEq Settings]

def IsFree (studio : Studio Settings) (current : AgentDraft Settings)
  (candidate : AgentDraftSpec Settings) (version : String) : Prop :=
  (studio.registry.get?
    ⟨current.tenantId, current.createdBy, candidate.name, version⟩).isNone = true

def EditsReleased (compiler : AgentDraftCompiler Settings Catalog) (studio : Studio Settings) :
    DraftOp Settings Catalog → Prop
  | .replace expectedRevision (.edit current candidate userId now) =>
    (studio.replace expectedRevision
        ((Change.edit current candidate userId now).draft compiler.digits)).1.isOk = true ∧
      current.key ∈ studio.released ∧ candidate ≠ current.spec
  | _ => False

instance (compiler : AgentDraftCompiler Settings Catalog) (studio : Studio Settings)
  (op : DraftOp Settings Catalog) : Decidable (EditsReleased compiler studio op) :=
  match op with
  | .replace _ (.edit _ _ _ _) => inferInstanceAs (Decidable (_ ∧ _ ∧ _))
  | .replace _ (.stamp _ _ _ _) | .clock | .generateId | .compilerFor _ _ | .dependencyIssues _
  | .add _ | .get _ | .getVersion _ | .publishBundle _ _ | .publishElsewhere _ | .record _ _ =>
    inferInstanceAs (Decidable False)

def MovesOn (compiler : AgentDraftCompiler Settings Catalog) (studio : Studio Settings)
  (op : DraftOp Settings Catalog) : Prop :=
  EditsReleased compiler studio op →
    match op with
    | .replace _ change =>
      (studio.registry.get? (change.draft compiler.digits).versionKey).isNone = true
    | _ => True

instance (compiler : AgentDraftCompiler Settings Catalog) (studio : Studio Settings)
  (op : DraftOp Settings Catalog) : Decidable (MovesOn compiler studio op) :=
  match op with
  | .replace _ _ => inferInstanceAs (Decidable (_ → _ = true))
  | .clock | .generateId | .compilerFor _ _ | .dependencyIssues _ | .add _ | .get _ | .getVersion _
  | .publishBundle _ _ | .publishElsewhere _ | .record _ _ => inferInstanceAs (Decidable (_ → True))

def NamesFree (compiler : AgentDraftCompiler Settings Catalog) (studio : Studio Settings)
  (op : DraftOp Settings Catalog) : Prop :=
  EditsReleased compiler studio op →
    match op with
    | .replace _ (.edit current candidate _ _) =>
      (current.publishedVersion = some candidate.version → IsFree studio current candidate
            (compiler.digits.nextPatchVersion candidate.version)) ∧
        (current.publishedVersion ≠ some candidate.version →
          IsFree studio current candidate candidate.version)
    | _ => True

theorem movesOn_iff {studio : Studio Settings} {op : DraftOp Settings Catalog} :
  MovesOn compiler studio op ↔ NamesFree compiler studio op := by
  apply imp_congr_right
  intro edits
  cases op with
  | replace expectedRevision change =>
    cases change with
    | edit current candidate userId now =>
      have changed : candidate ≠ current.spec := edits.2.2
      dsimp only [Change.draft, AgentDraft.versionKey, autoVersionModifiedRelease]
      by_cases stays : current.publishedVersion = some candidate.version
      · rw [if_pos ⟨stays, changed⟩]
        exact ⟨fun free => ⟨fun _ => free, fun other => absurd stays other⟩,
          fun both => both.1 stays⟩
      rw [if_neg fun both => stays both.1]
      exact ⟨fun free => ⟨fun other => absurd other stays, fun _ => free⟩, fun both => both.2 stays⟩
    | stamp current version userId now => exact edits.elim
  | clock | generateId | compilerFor _ _ | dependencyIssues _ | add _ | get _ | getVersion _
  | publishBundle _ _ | publishElsewhere _ | record _ _ => exact Iff.rfl

/-- In every run a draft at its published version is what was published there; an edit after a
publication moves it to a free version exactly when the edit names one, or keeps the published
version whose next patch is free. -/
theorem drafts_sealed (compiler : AgentDraftCompiler Settings Catalog)
  (requests : Nat → DraftRequest Settings) (schedule : List (Nat × StudioInput Catalog)) :
  (∀ studio ∈ (studioPool compiler requests).visited (component compiler) schedule,
    ∀ key draft, studio.drafts.get? key = some draft →
    draft.publishedVersion = some draft.spec.version →
    Published compiler studio.registry draft) ∧
    (studioPool compiler requests).Along (component compiler)
    (fun studio _ op _ => MovesOn compiler studio op ↔ NamesFree compiler studio op)
    schedule := by
  constructor
  · intro studio reached key draft stored stands
    obtain ⟨known, consistent, _⟩ := visited_ready drafts_adhere (drafts_ready requests)
      schedule (along_of_forall (fun _ _ _ _ => trivial) _ _) studio reached
    exact (consistent.drafts key draft stored).2.published stands
  exact along_of_forall (fun _ _ _ _ => movesOn_iff) _ _

end

end

def plainDigits : DecimalDigits where
  value char := if char.isDigit then some (char.toNat - '0'.toNat) else none
  ascii := fun char digit => if_pos digit
  separators := by
    intro char member
    simp only [mem_cons, not_mem_nil, or_false] at member
    rcases member with rfl | rfl | rfl <;> rfl

def plainSnapshot (spec : AgentDraftSpec String) : AgentManifestSnapshot where
  manifest :=
    { metadata := { name := spec.name, version := spec.version }
      spec :=
        { model := { route := "default", model := "claude" }, prompt := { system := "prompt.md" }
          permissions := { policy := "default" } } }
  systemPrompt := spec.settings
  skillSnapshots := []
  pythonToolSnapshots := []
  toolDirectory := none
  contentHash := spec.version ++ ":" ++ spec.settings

def plainCompiler : AgentDraftCompiler String Unit where
  digits := plainDigits
  compile _ spec :=
    if (plainDigits.semver spec.version).isSome then
      .ok { snapshot := plainSnapshot spec, packageHash := spec.version ++ "+" ++ spec.settings }
    else .error ["version"]
  names := by
    intro _ spec compiled compiles
    split at compiles
    · cases compiles
      exact ⟨rfl, rfl⟩
    cases compiles
  packs := by
    intro _ spec compiled compiles
    split at compiles
    case isTrue semantic => exact semantic
    · cases compiles
  decode _ := .ok []

def prompting (version prompt : String) : AgentDraftSpec String where
  name := "analyst"
  version
  skills := []
  settings := prompt

def backToFirst : Nat → DraftRequest String
  | 0 => .create "acme" "alice" (prompting "0.1.0" "one")
  | 1 => .publish "acme" "alice" "draft" none
  | 2 => .replace "acme" "alice" "draft" ⟨2, prompting "0.1.0" "two"⟩
  | 3 => .publish "acme" "alice" "draft" none
  | _ => .replace "acme" "alice" "draft" ⟨4, prompting "0.1.0" "three"⟩

def steps (actor count : Nat) : List (Nat × StudioInput Unit) :=
  List.replicate count (actor, { catalog := (), draftId := "draft" })

theorem back_to_first_version :
  ¬ ∀ (compiler : AgentDraftCompiler String Unit) (requests : Nat → DraftRequest String)
    (schedule : List (Nat × StudioInput Unit)),
    (studioPool compiler requests).Along (component compiler)
    (fun studio _ op _ => MovesOn compiler studio op) schedule := by
  intro always
  have along := always plainCompiler backToFirst
    (steps 0 3 ++ steps 1 7 ++ steps 2 3 ++ steps 3 7 ++ steps 4 3)
  revert along
  decide +kernel

end AgentHarness.Drafts
