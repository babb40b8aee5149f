import AgentHarness.Knowledge.Access

/-!
What a search discloses.
-/

namespace AgentHarness.Knowledge

open Collections Dict List KnowledgeService KnowledgeTables Option Bool

structure KnowledgeStore extends KnowledgeTables where
  sourceKeyed : ∀ tenantId reference source, sources.get? (tenantId, reference) = some source →
    source.reference = reference
  chunkKeyed : ∀ key chunk, chunks.get? key = some chunk → chunk.key = key
  listed : ∀ tenantId reference base, bases.get? (tenantId, reference) = some base →
    ∀ listed ∈ base.sourceReferences, (sources.get? (tenantId, listed)).isSome
  published : ∀ tenantId reference source snapshotId,
    sources.get? (tenantId, reference) = some source → source.activeSnapshotId = some snapshotId →
    ∀ key chunk, chunks.get? key = some chunk → chunk.tenantId = tenantId →
      chunk.snapshotId = snapshotId → chunk.sourceReference = reference
  positions : ∀ key chunk key' chunk', chunks.get? key = some chunk →
    chunks.get? key' = some chunk' → chunk.tenantId = chunk'.tenantId →
      chunk.position = chunk'.position → chunk = chunk'

section

variable {F : Type} (service : KnowledgeService F) (call : SearchCall) (tables : KnowledgeTables)

/-- A base that is shared with a team of the actor gives access to the sources that it
lists, and to those that the session has pinned under it. -/
def mayRead (source : KnowledgeSource) : Bool :=
  source.createdBy = call.actorId ||
    (source.acl.visibility = .restricted && source.acl.allows call.actorId) ||
    tables.bases.entries.any (fun entry =>
      entry.1.1 = call.tenantId && source.reference ∈ entry.2.sourceReferences &&
        service.teamGrants call entry.1.2) ||
    call.bindings.any (fun binding =>
      binding.sourceReference = source.reference &&
        service.teamGrants call binding.knowledgeBaseReference)

def readableSource (reference : String) : Option KnowledgeSource :=
  (tables.sources.get? (call.tenantId, reference)).filter (mayRead service call tables)

def baseView (reference : String) : Option (Option (List String)) :=
  (tables.bases.get? (call.tenantId, reference)).map (fun base =>
    if service.allowsBase call base then
      some (base.sourceReferences.filter (fun listed =>
        (readableSource service call tables listed).isSome))
    else none)

structure Agree (first second : KnowledgeTables) : Prop where
  sources : ∀ reference,
    readableSource service call first reference = readableSource service call second reference
  bases : ∀ reference, baseView service call first reference = baseView service call second reference
  chunks : ∀ key chunk, chunk.tenantId = call.tenantId →
    (readableSource service call first chunk.sourceReference).isSome →
      (first.chunks.get? key = some chunk ↔ second.chunks.get? key = some chunk)

structure Pinned (tables : KnowledgeTables) (binding : KnowledgeSnapshotBinding) : Prop where
  stored : (tables.sources.get? (call.tenantId, binding.sourceReference)).isSome
  owned : ∀ key chunk, tables.chunks.get? key = some chunk → chunk.tenantId = call.tenantId →
    chunk.snapshotId = binding.snapshotId → chunk.sourceReference = binding.sourceReference

end

section

variable {State Item Error : Type} {step : State → Item → Except Error State}

theorem foldlM_filter {keep : Item → Bool} (items : List Item)
  (idle : ∀ item ∈ items, keep item = false → ∀ state, step state item = .ok state)
  (state : State) : items.foldlM step state = (items.filter keep).foldlM step state := by
  induction items generalizing state with
  | nil => rfl
  | cons item rest ih =>
    have tail := ih fun other member => idle other (mem_cons_of_mem item member)
    cases kept : keep item with
    | true =>
      rw [filter_cons_of_pos kept, foldlM_cons, foldlM_cons]
      congr 1
      funext later
      exact tail later
    | false =>
      rw [filter_cons_of_neg (by simp [kept]), foldlM_cons, idle item mem_cons_self kept state]
      exact tail state

theorem foldlM_congr {step' : State → Item → Except Error State} (items : List Item)
  (same : ∀ item ∈ items, ∀ state, step state item = step' state item) (state : State) :
  items.foldlM step state = items.foldlM step' state := by
  induction items generalizing state with
  | nil => rfl
  | cons item rest ih =>
    rw [foldlM_cons, foldlM_cons, same item mem_cons_self state]
    congr 1
    funext later
    exact ih (fun other member => same other (mem_cons_of_mem item member)) later

theorem foldlM_keeps (holds : State → Prop) (items : List Item)
  (round : ∀ item ∈ items, ∀ state later, holds state → step state item = .ok later → holds later)
  {state final : State} (start : holds state) (done : items.foldlM step state = .ok final) :
  holds final := by
  induction items generalizing state with
  | nil =>
    cases done
    exact start
  | cons item rest ih =>
    rw [foldlM_cons] at done
    cases next : step state item with
    | error error =>
      rw [next] at done
      cases done
    | ok later =>
      rw [next] at done
      exact ih (fun other member => round other (mem_cons_of_mem item member))
        (round item mem_cons_self state later start next) done

end

def Reaches (call : SearchCall) (tables : KnowledgeTables) (baseReference reference : String) :
  Prop :=
  (∃ base, tables.bases.get? (call.tenantId, baseReference) = some base ∧
      reference ∈ base.sourceReferences) ∨
    ∃ binding ∈ call.bindings, binding.knowledgeBaseReference = baseReference ∧
      binding.sourceReference = reference

section

variable {F : Type} {service : KnowledgeService F} {call : SearchCall}
  {store first second : KnowledgeStore} {reference baseReference : String}
  {source : KnowledgeSource}

theorem readable_of_allowed (found : store.sources.get? (call.tenantId, reference) = some source)
  (reaches : Reaches call store.toKnowledgeTables baseReference reference)
  (allowed : service.allowsSource call baseReference source) :
  readableSource service call store.toKnowledgeTables reference = some source := by
  have named := store.sourceKeyed _ _ _ found
  rw [readableSource, found, filter_some_eq_some]
  simp only [allowsSource, or_eq_true] at allowed
  simp only [mayRead, or_eq_true]
  rcases allowed with own | granted
  · exact .inl (.inl own)
  rcases reaches with ⟨base, listed, member⟩ | ⟨binding, pinned, same, aimed⟩
  · refine .inl (.inr (any_eq_true.mpr ⟨_, get?_eq_some.mp listed, ?_⟩))
    simp [named, member, granted]
  refine .inr (any_eq_true.mpr ⟨binding, pinned, ?_⟩)
  simp [named, aimed, same, granted]

theorem source_of_readable
  (readable : readableSource service call store.toKnowledgeTables reference = some source) :
  store.sources.get? (call.tenantId, reference) = some source :=
  (filter_eq_some_iff.mp readable).1

theorem offered_allowed {snapshotId : String}
  (offered : service.offered call baseReference source = some snapshotId) :
  service.allowsSource call baseReference source ∧ source.activeSnapshotId = some snapshotId := by
  unfold KnowledgeService.offered at offered
  split at offered
  · rename_i healthy
    exact ⟨healthy.1, offered⟩
  cases offered

theorem bindSource_unreadable (stored : (store.sources.get? (call.tenantId, reference)).isSome)
  (reaches : Reaches call store.toKnowledgeTables baseReference reference)
  (unreadable : readableSource service call store.toKnowledgeTables reference = none)
  (found : Resolution) :
  service.bindSource call store.toKnowledgeTables baseReference found reference = .ok found := by
  obtain ⟨source, present⟩ := isSome_iff_exists.mp stored
  have refused : service.offered call baseReference source = none := by
    cases offered : service.offered call baseReference source with
    | none => rfl
    | some snapshotId =>
      have readable := readable_of_allowed present reaches (offered_allowed offered).1
      rw [unreadable] at readable
      cases readable
  simp only [bindSource, getSource, present, bind, Except.bind, refused]
  split <;> rfl

theorem bindSource_readable (agree : Agree service call first.toKnowledgeTables
    second.toKnowledgeTables)
  (readable : (readableSource service call first.toKnowledgeTables reference).isSome)
  (found : Resolution) :
  service.bindSource call first.toKnowledgeTables baseReference found reference =
    service.bindSource call second.toKnowledgeTables baseReference found reference := by
  obtain ⟨source, seen⟩ := isSome_iff_exists.mp readable
  have here := source_of_readable seen
  have there := source_of_readable ((agree.sources reference).symm.trans seen)
  simp [bindSource, getSource, here, there]

variable {base : KnowledgeBase}

theorem bindListed
  (found : store.bases.get? (call.tenantId, baseReference) = some base) (state : Resolution) :
  base.sourceReferences.foldlM
    (service.bindSource call store.toKnowledgeTables baseReference) state =
    (base.sourceReferences.filter (fun listed =>
    (readableSource service call store.toKnowledgeTables listed).isSome)).foldlM
    (service.bindSource call store.toKnowledgeTables baseReference) state := by
  apply foldlM_filter
  intro listed member unreadable state
  apply bindSource_unreadable
  · exact store.listed _ _ _ found listed member
  · exact .inl ⟨base, found, member⟩
  exact not_isSome_iff_eq_none.mp (by simp [unreadable])

theorem bindBase_agrees
  (agree : Agree service call first.toKnowledgeTables second.toKnowledgeTables)
  (state : Resolution) (baseReference : String) :
  service.bindBase call first.toKnowledgeTables state baseReference =
    service.bindBase call second.toKnowledgeTables state baseReference := by
  have view := agree.bases baseReference
  simp only [baseView] at view
  simp only [bindBase, getBase]
  cases here : first.bases.get? (call.tenantId, baseReference) with
  | none =>
    rw [here] at view
    have there := map_eq_none_iff.mp view.symm
    rw [there]
    rfl
  | some base =>
    obtain ⟨other, there, same⟩ := map_eq_some_iff.mp (by rw [← view, here]; rfl)
    dsimp only at same
    simp only [there, bind, Except.bind]
    by_cases allowed : service.allowsBase call base
    · by_cases allowed' : service.allowsBase call other
      · rw [if_pos allowed, if_pos allowed', bindListed here, bindListed there]
        rw [if_pos allowed, if_pos allowed'] at same
        rw [some.inj same]
        apply foldlM_congr
        intro listed member later
        exact bindSource_readable agree (mem_filter.mp member).2 later
      rw [if_pos allowed, if_neg allowed'] at same
      cases same
    by_cases allowed' : service.allowsBase call other
    · rw [if_neg allowed, if_pos allowed'] at same
      cases same
    rw [if_neg allowed, if_neg allowed']

theorem resolveBindings_agrees
  (agree : Agree service call first.toKnowledgeTables second.toKnowledgeTables) :
  service.resolveBindings call first.toKnowledgeTables =
    service.resolveBindings call second.toKnowledgeTables := by
  unfold resolveBindings
  rw [foldlM_congr call.knowledgeBaseReferences (fun reference _ state =>
    bindBase_agrees agree state reference) {}]

structure Usable (call : SearchCall) (store : KnowledgeStore)
    (binding : KnowledgeSnapshotBinding) : Prop where
  pinned : Pinned call store.toKnowledgeTables binding
  reaches : Reaches call store.toKnowledgeTables binding.knowledgeBaseReference
    binding.sourceReference

theorem bindSource_usable {found later : Resolution}
  (present : store.bases.get? (call.tenantId, baseReference) = some base)
  (listed : reference ∈ base.sourceReferences)
  (usable : ∀ binding ∈ found.bindings, Usable call store binding)
  (bound : service.bindSource call store.toKnowledgeTables baseReference found reference =
    .ok later) : ∀ binding ∈ later.bindings, Usable call store binding := by
  obtain ⟨source, stored⟩ := isSome_iff_exists.mp (store.listed _ _ _ present _ listed)
  simp only [bindSource, getSource, stored, bind, Except.bind] at bound
  split at bound
  · cases bound
    exact usable
  split at bound
  · cases bound
    exact usable
  rename_i snapshotId offered
  cases bound
  intro binding member
  rcases mem_append.mp member with before | new
  · exact usable binding before
  rw [mem_singleton.mp new]
  have active := (offered_allowed offered).2
  refine ⟨⟨?_, ?_⟩, .inl ⟨base, present, listed⟩⟩
  · rw [stored]
    rfl
  intro key chunk inside tenant snapshot
  exact store.published _ _ _ _ stored active key chunk inside tenant snapshot

theorem resolved_usable {resolved : List KnowledgeSnapshotBinding}
  (resolves : service.resolveBindings call store.toKnowledgeTables = .ok resolved) :
  ∀ binding ∈ resolved, Usable call store binding := by
  simp only [resolveBindings, bind, Except.bind] at resolves
  split at resolves
  · cases resolves
  rename_i found done
  cases resolves
  have start : ∀ binding ∈ ({} : Resolution).bindings, Usable call store binding :=
    fun _ member => nomatch member
  refine foldlM_keeps (fun found => ∀ binding ∈ found.bindings, Usable call store binding) _ ?_
    start done
  intro baseReference _ state later usable bound
  simp only [bindBase, getBase] at bound
  cases present : store.bases.get? (call.tenantId, baseReference) with
  | none =>
    rw [present] at bound
    cases bound
  | some base =>
    simp only [present, bind, Except.bind] at bound
    split at bound
    · refine foldlM_keeps (fun found => ∀ binding ∈ found.bindings, Usable call store binding)
        _ ?_ usable bound
      intro listed member state later usable bound
      exact bindSource_usable present member usable bound
    cases bound
    exact usable

structure Checked (service : KnowledgeService F) (call : SearchCall) (store : KnowledgeStore)
    (admission : Admission) : Prop where
  faithful : ∀ reference source, admission.sourceByReference.get? reference = some source →
    store.sources.get? (call.tenantId, reference) = some source
  covered : ∀ binding ∈ admission.allowed, ∃ source,
    admission.sourceByReference.get? binding.sourceReference = some source ∧
      service.allowsSource call binding.knowledgeBaseReference source

theorem checked_empty : Checked service call store {} :=
  ⟨(fun _ _ found => nomatch found), (fun _ member => nomatch member)⟩

theorem recheck_stored {admission : Admission} {binding : KnowledgeSnapshotBinding}
  (checked : Checked service call store admission)
  (stored : store.sources.get? (call.tenantId, binding.sourceReference) = some source) :
  ∃ later, service.recheck call store.toKnowledgeTables admission binding = .ok later ∧
    Checked service call store later ∧
    later.allowed = if service.allowsSource call binding.knowledgeBaseReference source then
        admission.allowed ++ [binding]
      else admission.allowed := by
  have named := store.sourceKeyed _ _ _ stored
  obtain ⟨sources, read, faithful, own, kept⟩ : ∃ sources,
    sourceOf call store.toKnowledgeTables admission.sourceByReference
      binding.sourceReference = .ok (source, sources) ∧
      (∀ reference other, sources.get? reference = some other →
        store.sources.get? (call.tenantId, reference) = some other) ∧
      sources.get? binding.sourceReference = some source ∧
      ∀ reference other, admission.sourceByReference.get? reference = some other →
        sources.get? reference = some other := by
    unfold sourceOf
    cases before : admission.sourceByReference.get? binding.sourceReference with
    | some other =>
      have same := checked.faithful _ _ before
      rw [stored] at same
      cases same
      exact ⟨_, rfl, checked.faithful, before, fun _ _ => id⟩
    | none =>
      refine ⟨admission.sourceByReference.set source.reference source, ?_, ?_, ?_, ?_⟩
      · simp [getSource, stored, bind, Except.bind, pure, Except.pure]
      · refine forall_set ?_ checked.faithful
        rw [named]
        exact stored
      · rw [named, get?_set_self]
      intro reference other found
      have distinct : reference ≠ source.reference := by
        rintro rfl
        rw [named, before] at found
        cases found
      rw [get?_set_other _ _ distinct]
      exact found
  refine ⟨⟨if service.allowsSource call binding.knowledgeBaseReference source then
      admission.allowed ++ [binding] else admission.allowed, sources⟩, ?_, ⟨faithful, ?_⟩, rfl⟩
  · simp only [recheck, read, bind, Except.bind]
  intro admitted member
  split at member
  · rename_i allowed
    rcases mem_append.mp member with earlier | new
    · obtain ⟨other, found, lets⟩ := checked.covered admitted earlier
      exact ⟨other, kept _ _ found, lets⟩
    rw [mem_singleton.mp new]
    exact ⟨source, own, allowed⟩
  obtain ⟨other, found, lets⟩ := checked.covered admitted member
  exact ⟨other, kept _ _ found, lets⟩

section

variable {chunks chunks' : Dict (String × String × String) KnowledgeChunk} {tenantId : String}
  {snapshotIds : List String}

def selected (chunks : Dict (String × String × String) KnowledgeChunk) (tenantId : String)
  (snapshotIds : List String) : List KnowledgeChunk :=
  (chunks.entries.filter (fun entry =>
    entry.1.1 = tenantId ∧ entry.1.2.1 ∈ snapshotIds)).map Prod.snd

theorem mem_selected {chunk : KnowledgeChunk}
  (member : chunk ∈ selected chunks tenantId snapshotIds) :
  ∃ key, chunks.get? key = some chunk ∧ key.1 = tenantId ∧ key.2.1 ∈ snapshotIds := by
  obtain ⟨⟨key, stored⟩, kept, rfl⟩ := mem_map.mp member
  obtain ⟨present, holds⟩ := mem_filter.mp kept
  obtain ⟨tenant, searched⟩ := of_decide_eq_true holds
  exact ⟨key, get?_eq_some.mpr present, tenant, searched⟩

theorem selected_perm (same : ∀ key chunk, key.1 = tenantId → key.2.1 ∈ snapshotIds →
    (chunks.get? key = some chunk ↔ chunks'.get? key = some chunk)) :
  (selected chunks tenantId snapshotIds).Perm (selected chunks' tenantId snapshotIds) := by
  apply List.Perm.map
  rw [perm_ext_iff_of_nodup (List.Nodup.of_map _ chunks.distinct |>.filter _)
    (List.Nodup.of_map _ chunks'.distinct |>.filter _)]
  rintro ⟨key, chunk⟩
  simp only [mem_filter, decide_eq_true_eq, ← get?_eq_some]
  constructor
  · rintro ⟨found, tenant, searched⟩
    exact ⟨(same key chunk tenant searched).mp found, tenant, searched⟩
  rintro ⟨found, tenant, searched⟩
  exact ⟨(same key chunk tenant searched).mpr found, tenant, searched⟩

theorem sorted_positions (chunks : List KnowledgeChunk) :
  (chunks.mergeSort fun first second => first.position ≤ second.position).Pairwise
    (fun first second => decide (first.position ≤ second.position) = true) := by
  apply pairwise_mergeSort
  · intro first second third before after
    exact decide_eq_true (le_trans (of_decide_eq_true before) (of_decide_eq_true after))
  intro first second
  simp only [or_eq_true, decide_eq_true_eq]
  exact le_total _ _

end

theorem bindingOf_mem {allowed : List KnowledgeSnapshotBinding} {chunk : KnowledgeChunk}
  {binding : KnowledgeSnapshotBinding} (found : bindingOf allowed chunk = .ok binding) :
  binding ∈ allowed ∧ binding.sourceReference = chunk.sourceReference := by
  unfold bindingOf at found
  split at found
  · rename_i other located
    cases found
    have holds := find?_some located
    simp only [decide_eq_true_eq] at holds
    exact ⟨mem_reverse.mp (mem_of_find?_eq_some located), holds.1⟩
  cases found

section

variable (agree : Agree service call first.toKnowledgeTables second.toKnowledgeTables)
include agree

variable {binding : KnowledgeSnapshotBinding}

theorem allowed_same {other : KnowledgeSource}
  (here : first.sources.get? (call.tenantId, binding.sourceReference) = some source)
  (there : second.sources.get? (call.tenantId, binding.sourceReference) = some other)
  (usable : Usable call first binding) (usable' : Usable call second binding) :
  service.allowsSource call binding.knowledgeBaseReference source =
    service.allowsSource call binding.knowledgeBaseReference other := by
  rw [Bool.eq_iff_iff]
  constructor
  · intro allowed
    have readable := readable_of_allowed here usable.reaches allowed
    have same := source_of_readable ((agree.sources _).symm.trans readable)
    rw [there] at same
    cases same
    exact allowed
  intro allowed
  have readable := readable_of_allowed there usable'.reaches allowed
  have same := source_of_readable ((agree.sources _).trans readable)
  rw [here] at same
  cases same
  exact allowed

variable {admission admission' : Admission}

theorem recheck_agrees (bindings : List KnowledgeSnapshotBinding)
  (usable : ∀ binding ∈ bindings, Usable call first binding)
  (usable' : ∀ binding ∈ bindings, Usable call second binding)
  (checked : Checked service call first admission)
  (checked' : Checked service call second admission')
  (same : admission.allowed = admission'.allowed) :
  ∃ final final',
    bindings.foldlM (service.recheck call first.toKnowledgeTables) admission = .ok final ∧
    bindings.foldlM (service.recheck call second.toKnowledgeTables) admission' = .ok final' ∧
    Checked service call first final ∧ Checked service call second final' ∧
    final.allowed = final'.allowed ∧
    ∀ binding ∈ final.allowed, binding ∈ admission.allowed ∨ binding ∈ bindings := by
  induction bindings generalizing admission admission' with
  | nil => exact ⟨admission, admission', rfl, rfl, checked, checked', same, fun _ => .inl⟩
  | cons binding rest ih =>
    have own := usable binding mem_cons_self
    have own' := usable' binding mem_cons_self
    obtain ⟨source, here⟩ := isSome_iff_exists.mp own.pinned.stored
    obtain ⟨other, there⟩ := isSome_iff_exists.mp own'.pinned.stored
    obtain ⟨later, step, kept, admits⟩ := recheck_stored checked here
    obtain ⟨later', step', kept', admits'⟩ := recheck_stored checked' there
    have alike : later.allowed = later'.allowed := by
      rw [admits, admits', same, allowed_same agree here there own own']
    obtain ⟨final, final', done, done', end_, end_', equal, origin⟩ :=
      ih (fun other member => usable other (mem_cons_of_mem binding member))
        (fun other member => usable' other (mem_cons_of_mem binding member)) kept kept' alike
    refine ⟨final, final', ?_, ?_, end_, end_', equal, ?_⟩
    · rw [foldlM_cons, step]
      exact done
    · rw [foldlM_cons, step']
      exact done'
    intro admitted member
    rcases origin admitted member with earlier | later_
    · rw [admits] at earlier
      split at earlier
      · rcases mem_append.mp earlier with before | new
        · exact .inl before
        rw [mem_singleton.mp new]
        exact .inr mem_cons_self
      exact .inl earlier
    exact .inr (mem_cons_of_mem binding later_)

theorem listChunks_agrees (snapshotIds : List String)
  (owned : ∀ snapshotId ∈ snapshotIds, ∃ reference,
    (readableSource service call first.toKnowledgeTables reference).isSome ∧
    ∀ store ∈ [first, second], ∀ key chunk, store.chunks.get? key = some chunk →
    chunk.tenantId = call.tenantId → chunk.snapshotId = snapshotId →
    chunk.sourceReference = reference) :
  first.listChunks call.tenantId snapshotIds = second.listChunks call.tenantId snapshotIds := by
  have rows_same : ∀ key chunk, key.1 = call.tenantId → key.2.1 ∈ snapshotIds →
    (first.chunks.get? key = some chunk ↔ second.chunks.get? key = some chunk) := by
    intro key chunk tenant searched
    obtain ⟨reference, readable, owner⟩ := owned key.2.1 searched
    constructor
    · intro found
      have named := first.chunkKeyed key chunk found
      have inTenant : chunk.tenantId = call.tenantId := by
        rw [← tenant, ← named]
        rfl
      have source := owner first (by simp) key chunk found inTenant (by rw [← named]; rfl)
      exact (agree.chunks key chunk inTenant (by rw [source]; exact readable)).mp found
    intro found
    have named := second.chunkKeyed key chunk found
    have inTenant : chunk.tenantId = call.tenantId := by
      rw [← tenant, ← named]
      rfl
    have source := owner second (by simp) key chunk found inTenant (by rw [← named]; rfl)
    exact (agree.chunks key chunk inTenant (by rw [source]; exact readable)).mpr found
  have rows_perm := selected_perm rows_same
  refine List.Perm.eq_of_pairwise ?_ (sorted_positions _) (sorted_positions _)
    (((mergeSort_perm _ _).trans rows_perm).trans (mergeSort_perm _ _).symm)
  intro chunk chunk' member member' before after
  obtain ⟨key, found, tenant, searched⟩ := mem_selected (mem_mergeSort.mp member)
  obtain ⟨key', found', tenant', searched'⟩ := mem_selected (mem_mergeSort.mp member')
  have here := (rows_same key' chunk' tenant' searched').mpr found'
  have equal := le_antisymm (of_decide_eq_true before) (of_decide_eq_true after)
  refine first.positions key chunk key' chunk' found here ?_ equal
  have named := first.chunkKeyed key chunk found
  have named' := first.chunkKeyed key' chunk' here
  have left : chunk.tenantId = key.1 := by rw [← named]; rfl
  have right : chunk'.tenantId = key'.1 := by rw [← named']; rfl
  rw [left, right, tenant, tenant']

theorem sourceByReference_agrees (checked : Checked service call first admission)
  (checked' : Checked service call second admission')
  (same : admission.allowed = admission'.allowed)
  (usable : Usable call first binding) (member : binding ∈ admission.allowed) :
  admission.sourceByReference.get? binding.sourceReference =
    admission'.sourceByReference.get? binding.sourceReference := by
  obtain ⟨source, found, allowed⟩ := checked.covered binding member
  obtain ⟨other, found', _⟩ := checked'.covered binding (same ▸ member)
  have readable := readable_of_allowed (checked.faithful _ _ found) usable.reaches allowed
  have there := source_of_readable ((agree.sources _).symm.trans readable)
  rw [checked'.faithful _ _ found'] at there
  rw [found, found', there]

theorem hitOf_agrees (checked : Checked service call first admission)
  (checked' : Checked service call second admission')
  (same : admission.allowed = admission'.allowed)
  (usable : ∀ binding ∈ admission.allowed, Usable call first binding) (item : RankedChunk F) :
  hitOf admission item = hitOf admission' item := by
  unfold hitOf
  dsimp only
  rw [← same]
  cases found : bindingOf admission.allowed item.chunk with
  | error error => rfl
  | ok binding =>
    obtain ⟨member, source⟩ := bindingOf_mem found
    have equal := sourceByReference_agrees agree checked checked' same (usable binding member) member
    rw [source] at equal
    simp [equal]

theorem resolvedBindings_agree : service.resolvedBindings call first.toKnowledgeTables =
  service.resolvedBindings call second.toKnowledgeTables := by
  unfold resolvedBindings
  rw [resolveBindings_agrees agree]

end

theorem resolvedBindings_usable {resolved : List KnowledgeSnapshotBinding}
  (pinned : ∀ binding ∈ call.bindings, Pinned call store.toKnowledgeTables binding)
  (resolves : service.resolvedBindings call store.toKnowledgeTables = .ok resolved) :
  ∀ binding ∈ resolved, Usable call store binding := by
  unfold resolvedBindings at resolves
  split at resolves
  · cases resolves
    exact fun binding member => ⟨pinned binding member, .inr ⟨binding, member, rfl, rfl⟩⟩
  exact resolved_usable resolves

variable [Add F] [Sub F] [Mul F] [Div F] [Neg F] [NatCast F] [OfScientific F] [LT F] [DecidableLT F]
  [DecidableEq F]

/-- Whatever else the two stores hold, the actor gets the same answer. -/
theorem search_discloses_readable_only (service : KnowledgeService F) (call : SearchCall)
  (first second : KnowledgeStore)
  (agree : Agree service call first.toKnowledgeTables second.toKnowledgeTables)
  (pinned : ∀ binding ∈ call.bindings, Pinned call first.toKnowledgeTables binding)
  (pinned' : ∀ binding ∈ call.bindings, Pinned call second.toKnowledgeTables binding) :
  service.search call first.toKnowledgeTables = service.search call second.toKnowledgeTables := by
  unfold search
  have resolved_same := resolvedBindings_agree agree
  cases resolves : service.resolvedBindings call first.toKnowledgeTables with
  | error error =>
    rw [← resolved_same, resolves]
    simp only [bind, Except.bind]
  | ok resolved =>
    rw [← resolved_same, resolves]
    have usable := resolvedBindings_usable pinned resolves
    have usable' := resolvedBindings_usable pinned' (resolved_same ▸ resolves)
    obtain ⟨final, final', done, done', checked, checked', same, origin⟩ :=
      recheck_agrees agree resolved usable usable' checked_empty checked_empty rfl
    have usable_allowed : ∀ binding ∈ final.allowed, Usable call first binding := by
      intro binding member
      rcases origin binding member with none_ | listed
      · cases none_
      exact usable binding listed
    have chunks_same := listChunks_agrees agree
      ((final.allowed.map KnowledgeSnapshotBinding.snapshotId).eraseDups) (by
        intro snapshotId searched
        obtain ⟨binding, member, rfl⟩ := mem_map.mp (mem_eraseDups.mp searched)
        obtain ⟨source, found, allowed⟩ := checked.covered binding member
        have readable := readable_of_allowed (checked.faithful _ _ found)
          (usable_allowed binding member).reaches allowed
        refine ⟨binding.sourceReference, by rw [readable]; rfl, ?_⟩
        intro store either
        rcases mem_pair.mp either with rfl | rfl
        · exact (usable_allowed binding member).pinned.owned
        rcases origin binding member with none_ | listed
        · cases none_
        exact (usable' binding listed).pinned.owned)
    have hits_same : (hitOf final : RankedChunk F → _) = hitOf final' :=
      funext (hitOf_agrees agree checked checked' same usable_allowed)
    simp only [bind, Except.bind, done, done']
    rw [← same, chunks_same, hits_same]

end

def sourceBy (owner reference snapshotId : String) : KnowledgeSource where
  tenantId := "tenant"
  reference
  displayName := reference
  kind := .file
  config := .file []
  acl := { visibility := .restricted, userIds := [owner] }
  revision := 2
  health := .healthy
  activeSnapshotId := some snapshotId
  createdBy := owner
  updatedBy := owner
  createdAt := 0
  updatedAt := 0

def chunkOf (reference snapshotId content : String) : KnowledgeChunk where
  tenantId := "tenant"
  snapshotId
  sourceReference := reference
  chunkId := reference ++ "-0"
  documentId := "document"
  ordinal := 0
  title := reference
  sourceUri := "knowledge://file/document"
  content
  contentHash := content
  tokenTerms := [content]
  createdAt := 0

def handbook : KnowledgeBase where
  tenantId := "tenant"
  reference := "handbook"
  displayName := "Handbook"
  sourceReferences := ["notes", "vault"]
  revision := 1
  createdBy := "ana"
  updatedBy := "ana"
  createdAt := 0
  updatedAt := 0

def tablesWith (secret : String) : KnowledgeTables where
  bases := Dict.empty.set ("tenant", "handbook") handbook
  sources := (Dict.empty.set ("tenant", "notes") (sourceBy "ana" "notes" "first")).set
    ("tenant", "vault") (sourceBy "bo" "vault" "second")
  chunks := (Dict.empty.set ("tenant", "first", "notes-0") (chunkOf "notes" "first" "apples")).set
    ("tenant", "second", "vault-0") (chunkOf "vault" "second" secret)

theorem mem_chunks {secret : String} {key : String × String × String}
  {chunk : KnowledgeChunk} (found : (tablesWith secret).chunks.get? key = some chunk) :
  key = ("tenant", "first", "notes-0") ∧ chunk = chunkOf "notes" "first" "apples" ∨
    key = ("tenant", "second", "vault-0") ∧ chunk = chunkOf "vault" "second" secret := by
  simp only [tablesWith, get?_set] at found
  split at found
  · cases found
    exact .inr ⟨by assumption, rfl⟩
  split at found
  · cases found
    exact .inl ⟨by assumption, rfl⟩
  cases found

theorem mem_sources {secret tenantId reference : String} {source : KnowledgeSource}
  (found : (tablesWith secret).sources.get? (tenantId, reference) = some source) :
  tenantId = "tenant" ∧ (reference = "notes" ∧ source = sourceBy "ana" "notes" "first" ∨
    reference = "vault" ∧ source = sourceBy "bo" "vault" "second") := by
  simp only [tablesWith, get?_set, Prod.mk.injEq] at found
  split at found
  · rename_i here
    cases found
    exact ⟨here.1, .inr ⟨here.2, rfl⟩⟩
  split at found
  · rename_i here
    cases found
    exact ⟨here.1, .inl ⟨here.2, rfl⟩⟩
  cases found

def storeWith (secret : String) : KnowledgeStore where
  toKnowledgeTables := tablesWith secret
  sourceKeyed := by
    intro tenantId reference source found
    rcases mem_sources found with ⟨_, ⟨rfl, rfl⟩ | ⟨rfl, rfl⟩⟩ <;> rfl
  chunkKeyed := by
    intro key chunk found
    rcases mem_chunks found with ⟨rfl, rfl⟩ | ⟨rfl, rfl⟩ <;> rfl
  listed := by
    intro tenantId reference base found listed member
    simp only [tablesWith, get?_set, Prod.mk.injEq] at found
    split at found
    · rename_i here
      obtain ⟨rfl, rfl⟩ := here
      cases found
      rcases mem_pair.mp member with rfl | rfl <;> rfl
    cases found
  published := by
    intro tenantId reference source snapshotId found active key chunk inside _ snapshot
    rcases mem_sources found with ⟨_, ⟨rfl, rfl⟩ | ⟨rfl, rfl⟩⟩
    · cases active
      rcases mem_chunks inside with ⟨_, rfl⟩ | ⟨_, rfl⟩
      · rfl
      exact absurd snapshot (show ¬ "second" = "first" by decide)
    cases active
    rcases mem_chunks inside with ⟨_, rfl⟩ | ⟨_, rfl⟩
    · exact absurd snapshot (show ¬ "first" = "second" by decide)
    rfl
  positions := by
    intro key chunk key' chunk' found found' _ same
    have snapshots := congrArg (fun position => (ofLex position).1) same
    rcases mem_chunks found with ⟨_, rfl⟩ | ⟨_, rfl⟩
    · rcases mem_chunks found' with ⟨_, rfl⟩ | ⟨_, rfl⟩
      · rfl
      exact absurd snapshots (show ¬ "first" = "second" by decide)
    rcases mem_chunks found' with ⟨_, rfl⟩ | ⟨_, rfl⟩
    · exact absurd snapshots (show ¬ "second" = "first" by decide)
    rfl

def asking : SearchCall where
  tenantId := "tenant"
  actorId := "ana"
  query := "apples"
  knowledgeBaseReferences := ["handbook"]

def service : KnowledgeService Rat where
  ranker :=
    { log := fun value => value - 1
      sqrt := fun value => value
      casefold := fun text => text
      isWord := Char.isAlphanum, iterated := fun members => members }

theorem vaults_agree : Agree service asking (tablesWith "apples") (tablesWith "pears") where
  sources := fun _ => rfl
  bases := fun _ => rfl
  chunks := by
    have unreadable : ¬ (readableSource service asking (tablesWith "apples") "vault").isSome := by
      decide
    intro key chunk _ readable
    constructor
    · intro found
      rcases mem_chunks found with ⟨rfl, rfl⟩ | ⟨rfl, rfl⟩
      · rfl
      exact absurd readable unreadable
    intro found
    rcases mem_chunks found with ⟨rfl, rfl⟩ | ⟨rfl, rfl⟩
    · rfl
    exact absurd readable unreadable

theorem search_discloses_readable_only_vaults :
  service.search asking (storeWith "apples").toKnowledgeTables =
    service.search asking (storeWith "pears").toKnowledgeTables :=
  search_discloses_readable_only service asking (storeWith "apples") (storeWith "pears")
    vaults_agree (fun _ none_ => nomatch none_) fun _ none_ => nomatch none_

end AgentHarness.Knowledge
