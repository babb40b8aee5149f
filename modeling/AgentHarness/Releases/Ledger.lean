import AgentHarness.Releases.Client

/-!
What a promotion client learns while it promotes a release and takes it back.
-/

namespace AgentHarness.Releases

open Interaction Program ReleasePromotionClient
open Deployments List PromotionOrder

structure Restoration where
  (agentName snapshotId : String)
  deployment : Deployment

structure Ledger where
  published : List (AgentBundle × (String × String)) := []
  started : List (ReleaseRequest × Deployment) := []
  rolling : Bool := false
  restorations : List Restoration := []
  succeeded : List String := []

namespace Ledger

def after (ledger : Ledger) : (op : ReleaseOp) → Except PromotionError op.Answer → Ledger
  | .publish bundle, .ok hashes => { ledger with published := (bundle, hashes) :: ledger.published }
  | .promote request, .ok view =>
    { ledger with started := (request, view.deployment) :: ledger.started }
  | .rollback agentName _ request, .ok view =>
    { ledger with
      rolling := true
      restorations := ⟨agentName, request.snapshotId, view.deployment⟩ :: ledger.restorations }
  | .rollback _ _ _, .error _ => { ledger with rolling := true }
  | .deployment deploymentId, .ok view =>
    if view.deployment.status = .succeeded then
      { ledger with succeeded := deploymentId :: ledger.succeeded }
    else ledger
  | _, _ => ledger

structure Extends (ledger later : Ledger) : Prop where
  started : later.started = ledger.started
  rolling : later.rolling = ledger.rolling
  restorations : later.restorations = ledger.restorations
  published : ∀ entry ∈ ledger.published, entry ∈ later.published
  succeeded : ∀ deploymentId ∈ ledger.succeeded, deploymentId ∈ later.succeeded

theorem Extends.refl (ledger : Ledger) : ledger.Extends ledger :=
  ⟨rfl, rfl, rfl, fun _ => id, fun _ => id⟩

theorem Extends.trans {ledger middle later : Ledger} (first : ledger.Extends middle)
  (second : middle.Extends later) : ledger.Extends later where
  started := second.started.trans first.started
  rolling := second.rolling.trans first.rolling
  restorations := second.restorations.trans first.restorations
  published entry held := second.published entry (first.published entry held)
  succeeded name held := second.succeeded name (first.succeeded name held)

end Ledger

def Permits (order : PromotionOrder) (ledger : Ledger) : ReleaseOp → Prop
  | .promote request =>
    ledger.rolling = false ∧ ∃ bundle revision, request = order.request bundle revision
  | .rollback agentName name request =>
    name = order.environment ∧
      request.idempotencyKey = rollbackKey order.manifest.releaseId name agentName ∧
        ∃ pair ∈ ledger.started, pair.1.agentName = agentName ∧
          pair.2.previousSnapshotId = some request.snapshotId
  | _ => True

def releaseContract (order : PromotionOrder) :
  Contract ReleaseOp ReleaseOp.Answer PromotionError Ledger where
  allowed := Permits order
  learns ledger op answer later := later = ledger.after op answer

section

variable {order : PromotionOrder} {ledger : Ledger} {α β : Type}

def Reads (order : PromotionOrder) (program : ReleaseProgram α) : Prop :=
  ∀ ledger : Ledger, program.wp (releaseContract order) (fun later _ => ledger.Extends later)
    (fun later _ => ledger.Extends later) ledger

def startsNothing : ReleaseOp → Bool
  | .promote _ | .rollback _ _ _ => false
  | _ => true

variable {op : ReleaseOp} {fail : Ledger → PromotionError → Prop} {entries : List PromotionEntry}
  {later : Ledger} {bundle : AgentBundle} {entry : PromotionEntry}

theorem extends_after (idle : startsNothing op = true)
  (answer : Except PromotionError op.Answer) : ledger.Extends (ledger.after op answer) := by
  cases op with
  | promote _ | rollback _ _ _ => cases idle
  | publish bundle =>
    cases answer with
    | ok hashes => exact ⟨rfl, rfl, rfl, fun _ held => mem_cons_of_mem _ held, fun _ => id⟩
    | error error => exact Ledger.Extends.refl ledger
  | deployment deploymentId =>
    cases answer with
    | ok view =>
      simp only [Ledger.after]
      split
      · exact ⟨rfl, rfl, rfl, fun _ => id, fun _ held => mem_cons_of_mem _ held⟩
      exact Ledger.Extends.refl ledger
    | error error => exact Ledger.Extends.refl ledger
  | _ => exact Ledger.Extends.refl ledger

theorem permits_idle (idle : startsNothing op = true) : Permits order ledger op := by
  cases op with
  | promote _ | rollback _ _ _ => cases idle
  | _ => trivial

theorem reads_ask (idle : startsNothing op = true) : Reads order (ask op) := by
  intro ledger
  rw [wp_perform]
  refine ⟨permits_idle idle, ?_, ?_⟩
  · intro value later learned
    rw [learned]
    exact extends_after idle _
  intro error later learned
  rw [learned]
  exact extends_after idle _

theorem reads_done (value : α) : Reads order (done value : ReleaseProgram α) :=
  fun ledger => Ledger.Extends.refl ledger

theorem reads_raised (error : PromotionError) : Reads order (raised error : ReleaseProgram α) :=
  fun ledger => Ledger.Extends.refl ledger

theorem reads_refuse {refused : Prop} [Decidable refused] (message : String) :
  Reads order (refuse refused message) := by
  unfold refuse
  split
  · exact reads_raised _
  exact reads_done ()

variable {next : α → ReleaseProgram β} {first : ReleaseProgram α}

theorem reads_bind (head : Reads order first) (tail : ∀ value, Reads order (next value)) :
  Reads order (first.bind next) := by
  intro ledger
  rw [wp_bind]
  apply wp_mono (head ledger)
  · intro middle value extended
    apply wp_mono (tail value middle)
    · exact fun _ _ more => extended.trans more
    exact fun _ _ more => extended.trans more
  exact fun _ _ => id

theorem wp_reads {post : Ledger → β → Prop} (head : Reads order first)
  (rest : ∀ later value, ledger.Extends later →
    (next value).wp (releaseContract order) post fail later)
  (failed : ∀ later error, ledger.Extends later → fail later error) :
  (first.bind next).wp (releaseContract order) post fail ledger := by
  rw [wp_bind]
  exact wp_mono (head ledger) rest failed

theorem wp_caught {program : ReleaseProgram α} {post : Ledger → Except PromotionError α → Prop}
  (inner : program.wp (releaseContract order) (fun later value => post later (.ok value))
    (fun later error => post later (.error error)) ledger) :
  (caught program).wp (releaseContract order) post fail ledger := by
  unfold caught
  rw [wp_catching, wp_bind]
  exact inner

theorem reads_gates (bundle : AgentBundle) : Reads order (gates bundle) := by
  apply reads_bind (reads_ask rfl)
  intro evaluated
  apply reads_bind (reads_ask rfl)
  intro qualified
  exact reads_bind (reads_refuse _) fun _ => reads_refuse _

theorem reads_prior (manifest : ReleaseManifest) (bundle : AgentBundle)
  (environment : EnvironmentName) :
  Reads order (requirePriorEnvironment manifest bundle environment) := by
  unfold requirePriorEnvironment
  split
  · exact reads_done ()
  apply reads_bind (reads_ask rfl)
  intro current
  apply reads_bind (reads_refuse _)
  intro _
  exact reads_bind (reads_ask rfl) fun _ => reads_refuse _

theorem wp_publishEach (bundles : List AgentBundle) : (each bundles (fun bundle => do
  let actual ← ask (.publish bundle)
  refuse (actual ≠ (bundle.manifestHash, bundle.packageHash))
    ("published Agent hash mismatch: " ++ bundle.name ++ "@" ++ bundle.version))).wp
  (releaseContract order)
  (fun later _ => ledger.Extends later ∧
    ∀ bundle ∈ bundles, (bundle, (bundle.manifestHash, bundle.packageHash)) ∈ later.published)
  (fun later _ => ledger.Extends later) ledger := by
  induction bundles generalizing ledger with
  | nil => exact ⟨Ledger.Extends.refl ledger, fun _ => nofun⟩
  | cons bundle rest ih =>
    rw [each, wp_bind, wp_do_perform]
    refine ⟨trivial, ?_, ?_⟩
    · intro actual later learned
      have noted : later = { ledger with published := (bundle, actual) :: ledger.published } :=
        learned
      have extended : ledger.Extends later := by
        rw [learned]
        exact extends_after rfl _
      unfold refuse
      split
      · exact extended
      case isFalse matching =>
        apply wp_mono ih
        · rintro last _ ⟨more, others⟩
          refine ⟨extended.trans more, ?_⟩
          intro other member
          rcases mem_cons.mp member with rfl | listed
          · apply more.published
            rw [noted, ← not_not.mp matching]
            exact mem_cons_self
          exact others other listed
        exact fun _ _ more => extended.trans more
    intro error later learned
    rw [learned]
    exact extends_after rfl _

theorem wp_wait (deploymentId : String) (polls : Nat) :
  (wait deploymentId polls).wp (releaseContract order)
    (fun later _ => ledger.Extends later ∧ deploymentId ∈ later.succeeded)
    (fun later _ => ledger.Extends later) ledger := by
  induction polls generalizing ledger with
  | zero => exact Ledger.Extends.refl ledger
  | succ polls ih =>
    rw [wait, bind_eq]
    apply wp_reads (reads_ask rfl)
    · intro first inTime timed
      split
      case isFalse => exact timed
      case isTrue =>
        rw [wp_do_perform]
        refine ⟨trivial, ?_, ?_⟩
        · intro view later learned
          have extended : ledger.Extends later := by
            rw [learned]
            exact timed.trans (extends_after rfl _)
          split
          case isTrue succeeded =>
            refine ⟨extended, ?_⟩
            rw [learned, Ledger.after, if_pos succeeded]
            exact mem_cons_self
          · split
            case isTrue => exact extended
            · apply wp_mono ih
              · exact fun last _ both => ⟨extended.trans both.1, both.2⟩
              exact fun _ _ more => extended.trans more
        intro error later learned
        rw [learned]
        exact timed.trans (extends_after rfl _)
    exact fun _ _ => id

def Covers (order : PromotionOrder) (ledger : Ledger) (bundle : AgentBundle) : Prop :=
  ∃ revision deployment, (order.request bundle revision, deployment) ∈ ledger.started ∧
    deployment.deploymentId ∈ ledger.succeeded

def Matches (order : PromotionOrder) (entry : PromotionEntry)
  (pair : ReleaseRequest × Deployment) : Prop :=
  pair.1.agentName = entry.agentName ∧ entry.environment = order.environment ∧
    entry.previousSnapshotId = pair.2.previousSnapshotId

structure Tracks (order : PromotionOrder) (ledger : Ledger) (entries : List PromotionEntry) :
    Prop where
  calm : ledger.rolling = false
  listed : ∀ pair ∈ ledger.started, ∃ entry ∈ entries, Matches order entry pair
  noted : ∀ entry ∈ entries, ∃ pair ∈ ledger.started, Matches order entry pair

theorem Tracks.extend (tracks : Tracks order ledger entries) (extended : ledger.Extends later) :
  Tracks order later entries where
  calm := extended.rolling.trans tracks.calm
  listed := by rw [extended.started]; exact tracks.listed
  noted := by rw [extended.started]; exact tracks.noted

structure Started (order : PromotionOrder) (bundle : AgentBundle) (ledger later : Ledger)
    (entry : PromotionEntry) : Prop where
  calm : later.rolling = ledger.rolling
  added : ∃ revision deployment,
    later.started = (order.request bundle revision, deployment) :: ledger.started ∧
      entry.deploymentId = deployment.deploymentId ∧
        Matches order entry (order.request bundle revision, deployment)
  published : ∀ known ∈ ledger.published, known ∈ later.published
  succeeded : ∀ deploymentId ∈ ledger.succeeded, deploymentId ∈ later.succeeded

theorem wp_start (bundle : AgentBundle) (calm : ledger.rolling = false) :
  (order.start bundle).wp (releaseContract order)
    (fun later entry => Started order bundle ledger later entry)
    (fun later _ => ledger.Extends later) ledger := by
  unfold start
  rw [bind_eq]
  refine wp_reads (reads_prior _ _ _) ?_ fun _ _ => id
  intro first _ prior
  rw [bind_eq]
  refine wp_reads (reads_gates bundle) ?_ fun _ _ extended => prior.trans extended
  intro second _ gated
  rw [bind_eq]
  refine wp_reads (reads_ask rfl) ?_
    (fun _ _ extended => prior.trans (gated.trans extended))
  intro third current read
  have extended : ledger.Extends third := prior.trans (gated.trans read)
  rw [wp_do_perform]
  refine ⟨⟨extended.rolling.trans calm, bundle, current.revision, rfl⟩, ?_, ?_⟩
  · intro view later learned
    rw [learned]
    exact
      { calm := extended.rolling
        added := ⟨current.revision, view.deployment,
          congrArg (List.cons _) extended.started, rfl, rfl, rfl, rfl⟩
        published := extended.published, succeeded := extended.succeeded }
  intro error later learned
  rw [learned]
  exact extended

theorem wp_finish (entry : PromotionEntry) : (order.finish entry).wp (releaseContract order)
  (fun later _ => ledger.Extends later ∧ entry.deploymentId ∈ later.succeeded)
  (fun later _ => ledger.Extends later) ledger := by
  unfold finish
  rw [wp_do]
  apply wp_mono (wp_wait entry.deploymentId order.polls)
  · rintro middle completed ⟨waited, succeeded⟩
    apply wp_mono (reads_refuse _ middle)
    · exact fun later _ more => ⟨waited.trans more, more.succeeded _ succeeded⟩
    exact fun later _ more => waited.trans more
  exact fun _ _ => id

structure Grows (ledger later : Ledger) : Prop where
  started : ∀ pair ∈ ledger.started, pair ∈ later.started
  published : ∀ known ∈ ledger.published, known ∈ later.published
  succeeded : ∀ deploymentId ∈ ledger.succeeded, deploymentId ∈ later.succeeded

theorem Grows.refl (ledger : Ledger) : Grows ledger ledger :=
  ⟨fun _ => id, fun _ => id, fun _ => id⟩

variable {middle : Ledger}

theorem Grows.trans (first : Grows ledger middle) (second : Grows middle later) : Grows ledger later where
  started pair held := second.started pair (first.started pair held)
  published known held := second.published known (first.published known held)
  succeeded name held := second.succeeded name (first.succeeded name held)

theorem grows_extends (extended : ledger.Extends later) : Grows ledger later :=
  ⟨fun _ held => extended.started ▸ held, extended.published, extended.succeeded⟩

theorem Started.grows (started : Started order bundle ledger later entry) : Grows ledger later := by
  obtain ⟨revision, deployment, added, _⟩ := started.added
  exact ⟨fun pair held => added ▸ mem_cons_of_mem _ held, started.published, started.succeeded⟩

theorem Started.tracks (started : Started order bundle ledger later entry)
  (tracks : Tracks order ledger entries) : Tracks order later (entries ++ [entry]) := by
  obtain ⟨revision, deployment, added, _, matching⟩ := started.added
  constructor
  case calm => exact started.calm.trans tracks.calm
  case listed =>
    intro pair held
    rw [added] at held
    rcases mem_cons.mp held with rfl | before
    · exact ⟨entry, mem_append_right _ mem_cons_self, matching⟩
    obtain ⟨other, member, same⟩ := tracks.listed pair before
    exact ⟨other, mem_append_left _ member, same⟩
  case noted =>
    intro other member
    rw [added]
    rcases mem_append.mp member with before | last
    · obtain ⟨pair, held, same⟩ := tracks.noted other before
      exact ⟨pair, mem_cons_of_mem _ held, same⟩
    rw [mem_singleton.mp last]
    exact ⟨_, mem_cons_self, matching⟩

theorem Covers.grow (covers : Covers order ledger bundle) (grows : Grows ledger later) :
  Covers order later bundle := by
  obtain ⟨revision, deployment, started, succeeded⟩ := covers
  exact ⟨revision, deployment, grows.started _ started, grows.succeeded _ succeeded⟩

theorem wp_promoteBundles (bundles : List AgentBundle) (entries : List PromotionEntry)
  (tracks : Tracks order ledger entries) :
  (order.promoteBundles bundles entries).wp (releaseContract order)
    (fun later outcome => Tracks order later outcome.1 ∧ Grows ledger later ∧
    (outcome.2 = none → ∀ bundle ∈ bundles, Covers order later bundle)) fail ledger := by
  induction bundles generalizing ledger entries with
  | nil => exact ⟨tracks, Grows.refl ledger, fun _ _ => nofun⟩
  | cons bundle rest ih =>
    rw [promoteBundles, wp_bind]
    apply wp_caught
    apply wp_mono (wp_start bundle tracks.calm)
    · intro first entry started
      have tracked := started.tracks tracks
      rw [wp_bind]
      apply wp_caught
      apply wp_mono (wp_finish entry)
      · rintro second _ ⟨waited, succeeded⟩
        apply wp_mono (ih (entries ++ [entry]) (tracked.extend waited))
        · rintro later outcome ⟨tracksLater, grows, covered⟩
          have grown : Grows ledger later :=
            started.grows.trans ((grows_extends waited).trans grows)
          refine ⟨tracksLater, grown, ?_⟩
          intro ended other member
          rcases mem_cons.mp member with rfl | listed
          · obtain ⟨revision, deployment, added, named, _⟩ := started.added
            have covers : Covers order second other := by
              refine ⟨revision, deployment, ?_, named ▸ succeeded⟩
              rw [waited.started, added]
              exact mem_cons_self
            exact covers.grow grows
          exact covered ended other listed
        exact fun _ _ => id
      intro second error waited
      exact ⟨tracked.extend waited, started.grows.trans (grows_extends waited), nofun⟩
    intro first error extended
    exact ⟨tracks.extend extended, grows_extends extended, nofun⟩

def Restored (ledger : Ledger) (agentName previous : String) : Prop :=
  ∃ restoration ∈ ledger.restorations, restoration.agentName = agentName ∧
    restoration.snapshotId = previous ∧ restoration.deployment.deploymentId ∈ ledger.succeeded

structure Restores (ledger later : Ledger) : Prop where
  started : later.started = ledger.started
  restored : ∀ agentName previous, Restored ledger agentName previous →
    Restored later agentName previous

theorem Restores.refl (ledger : Ledger) : Restores ledger ledger := ⟨rfl, fun _ _ => id⟩

theorem Restores.trans (first : Restores ledger middle)
  (second : Restores middle later) : Restores ledger later where
  started := second.started.trans first.started
  restored agentName previous restored :=
    second.restored agentName previous (first.restored agentName previous restored)

theorem restores_extends (extended : ledger.Extends later) : Restores ledger later where
  started := extended.started
  restored agentName previous restored := by
    obtain ⟨restoration, member, agent, snapshot, succeeded⟩ := restored
    exact ⟨restoration, extended.restorations ▸ member, agent, snapshot,
      extended.succeeded _ succeeded⟩

theorem wp_restore {previous : String} (polls : Nat)
  (known : ∃ pair ∈ ledger.started, Matches order entry pair)
  (named : entry.previousSnapshotId = some previous) :
  (restore polls order.manifest.releaseId entry previous).wp (releaseContract order)
    (fun later _ => Restores ledger later ∧ Restored later entry.agentName previous)
    (fun later _ => later.started = ledger.started) ledger := by
  unfold restore
  rw [bind_eq]
  refine wp_reads (reads_ask rfl) ?_ fun _ _ extended => extended.started
  intro first current read
  obtain ⟨pair, held, agent, aimed, same⟩ := known
  rw [wp_do_perform]
  refine ⟨⟨aimed, rfl, pair, read.started ▸ held, agent, same.symm.trans named⟩, ?_, ?_⟩
  · intro view second learned
    have noted : second = { first with
        rolling := true
        restorations := ⟨entry.agentName, previous, view.deployment⟩ :: first.restorations } :=
      learned
    have restores : Restores ledger second := by
      rw [noted]
      refine ⟨read.started, ?_⟩
      intro agentName snapshotId restored
      obtain ⟨restoration, member, rest⟩ :=
        (restores_extends read).restored agentName snapshotId restored
      exact ⟨restoration, mem_cons_of_mem _ member, rest⟩
    rw [wp_do]
    apply wp_mono (wp_wait view.deployment.deploymentId polls)
    · rintro third completed ⟨waited, succeeded⟩
      rw [bind_eq]
      apply wp_reads (reads_refuse _)
      · intro last _ checked
        have extended := waited.trans checked
        refine ⟨restores.trans (restores_extends extended),
          ⟨entry.agentName, previous, view.deployment⟩, ?_, rfl, rfl, checked.succeeded _ succeeded⟩
        rw [extended.restorations, noted]
        exact mem_cons_self
      intro last error checked
      exact (waited.trans checked).started.trans restores.started
    exact fun later _ waited => waited.started.trans restores.started
  intro error later learned
  rw [learned]
  exact read.started

theorem wp_restoreEntries (polls : Nat) (entries : List PromotionEntry)
  (known : ∀ entry ∈ entries, ∃ pair ∈ ledger.started, Matches order entry pair) :
  (restoreEntries polls order.manifest.releaseId entries).wp (releaseContract order)
    (fun later _ => Restores ledger later ∧ ∀ entry ∈ entries, ∀ previous,
    entry.previousSnapshotId = some previous → Restored later entry.agentName previous)
    (fun later _ => later.started = ledger.started) ledger := by
  induction entries generalizing ledger with
  | nil => exact ⟨Restores.refl ledger, fun _ => nofun⟩
  | cons entry rest ih =>
    have others : ∀ other ∈ rest, ∃ pair ∈ ledger.started, Matches order other pair :=
      fun other member => known other (mem_cons_of_mem _ member)
    rw [restoreEntries]
    split
    case h_1 nothing =>
      apply wp_mono (ih others)
      · rintro later _ ⟨restores, restored⟩
        refine ⟨restores, ?_⟩
        intro other member previous named
        rcases mem_cons.mp member with rfl | listed
        · rw [nothing] at named
          cases named
        exact restored other listed previous named
      exact fun _ _ => id
    case h_2 previous named =>
      rw [wp_do]
      apply wp_mono (wp_restore polls (known entry mem_cons_self) named)
      · rintro first _ ⟨restores, done⟩
        have carried : ∀ other ∈ rest, ∃ pair ∈ first.started, Matches order other pair := by
          rw [restores.started]
          exact others
        rw [wp_do]
        apply wp_mono (ih carried)
        · rintro later _ ⟨more, restored⟩
          refine ⟨restores.trans more, ?_⟩
          intro other member snapshotId aimed
          rcases mem_cons.mp member with rfl | listed
          · rw [named] at aimed
            cases aimed
            exact more.restored _ _ done
          exact restored other listed snapshotId aimed
        exact fun later _ same => same.trans restores.started
      exact fun _ _ => id

def Promoted (order : PromotionOrder) (later : Ledger) : Prop :=
  later.rolling = false ∧ ∀ bundle ∈ order.manifest.agentBundles,
    (bundle, (bundle.manifestHash, bundle.packageHash)) ∈ later.published ∧
      Covers order later bundle

def Undone (later : Ledger) (error : PromotionError) : Prop :=
  error ≠ .rollbackIncomplete → ∀ pair ∈ later.started, ∀ previous,
    pair.2.previousSnapshotId = some previous → Restored later pair.1.agentName previous

theorem wp_recover (tracks : Tracks order ledger entries) (error : PromotionError)
  {post : Ledger → PromotionPlan → Prop} :
  (recover order entries error).wp (releaseContract order) post Undone ledger := by
  unfold recover
  split
  case isTrue empty =>
    intro _ pair held
    obtain ⟨entry, member, _⟩ := tracks.listed pair held
    rw [empty] at member
    cases member
  · have known : ∀ entry ∈ entries.reverse, ∃ pair ∈ ledger.started, Matches order entry pair :=
      fun entry member => tracks.noted entry (mem_reverse.mp member)
    rw [wp_bind]
    apply wp_caught
    unfold rollback
    rw [wp_do]
    apply wp_mono (wp_restoreEntries order.polls entries.reverse known)
    · rintro later _ ⟨restores, restored⟩ _ pair held previous named
      rw [restores.started] at held
      obtain ⟨entry, member, agent, _, same⟩ := tracks.listed pair held
      rw [agent]
      exact restored entry (mem_reverse.mpr member) previous (same.trans named)
    exact fun _ _ _ different => absurd rfl different

theorem promote_known (order : PromotionOrder) :
  (promote order).wp (releaseContract order) (fun later _ => Promoted order later) Undone {} := by
  unfold promote publish
  rw [wp_do]
  apply wp_mono (wp_publishEach _)
  · rintro first _ ⟨extended, published⟩
    have nothing : first.started = [] := extended.started
    have tracks : Tracks order first [] := by
      refine ⟨extended.rolling, ?_, fun _ => nofun⟩
      rw [nothing]
      exact fun _ => nofun
    rw [wp_do]
    apply wp_mono (wp_promoteBundles order.manifest.agentBundles [] tracks)
    · rintro later outcome ⟨tracked, grows, covered⟩
      split
      case h_1 ended =>
        refine ⟨tracked.calm, ?_⟩
        intro bundle member
        exact ⟨grows.published _ (published bundle member), covered ended bundle member⟩
      case h_2 error _ => exact wp_recover tracked error
    exact fun _ _ => id
  intro later error extended _ pair held
  rw [extended.started] at held
  cases held

end

end AgentHarness.Releases
