import Mathlib
import AgentHarness.Quota.Service

/-!
The keys of quota scopes, and the constraints of a request in whichever order the policies
of its tenant are listed.
-/

namespace AgentHarness.Quota

open Collections Dict List

/-- Fields, each but the last followed by `|` and the name of the next one. -/
def joined : List (List Char) → List (List Char) → List Char
  | name :: names, field :: fields => field ++ '|' :: name ++ joined names fields
  | _, fields => fields.flatten

/-- Where the fields differ first, one of the two goes on, past the end of the other, with
what separates that one from the next field. -/
def Confusable : List (List Char) → List (List Char) → List (List Char) → Prop
  | name :: names, field :: fields, field' :: fields' =>
    if field = field' then Confusable names fields fields'
    else field ++ '|' :: name <+: field' ∨ field' ++ '|' :: name <+: field
  | _, _, _ => False

theorem prefix_of_append_eq {first second name : List Char} {rest rest' : List Char}
  (plain : '|' ∉ name) (same : first ++ '|' :: name ++ rest = second ++ '|' :: name ++ rest')
  (shorter : first.length < second.length) : first ++ '|' :: name <+: second := by
  simp only [append_assoc, cons_append] at same
  obtain ⟨added, rfl, tail⟩ | ⟨added, rfl, _⟩ := append_eq_append_iff.mp same
  · cases added with
    | nil => simp at shorter
    | cons head added =>
      injection tail with bar tail
      subst head
      obtain ⟨inside, rfl, _⟩ | ⟨inside, split, tail⟩ := append_eq_append_iff.mp tail
      · exact ⟨inside, by simp⟩
      cases inside with
      | nil => exact ⟨[], by simp [split]⟩
      | cons head inside =>
        injection tail with bar _
        subst head
        exact absurd (by simp [split]) plain
  rw [length_append] at shorter
  omega

theorem eq_or_confusable {names : List (List Char)} (plain : ∀ name ∈ names, '|' ∉ name)
  {fields fields' : List (List Char)} (length : fields.length = names.length + 1)
  (length' : fields'.length = names.length + 1)
  (same : joined names fields = joined names fields') :
  fields = fields' ∨ Confusable names fields fields' := by
  induction names generalizing fields fields' with
  | nil =>
    obtain ⟨field, rfl⟩ := length_eq_one_iff.mp length
    obtain ⟨field', rfl⟩ := length_eq_one_iff.mp length'
    exact .inl (by simpa [joined] using same)
  | cons name names ih =>
    obtain ⟨field, fields, rfl⟩ := exists_cons_of_length_eq_add_one length
    obtain ⟨field', fields', rfl⟩ := exists_cons_of_length_eq_add_one length'
    have bare := plain name mem_cons_self
    rw [joined, joined] at same
    rw [Confusable]
    by_cases equal : field = field'
    · subst field'
      rw [if_pos rfl]
      rcases ih (fun other member => plain other (mem_cons_of_mem _ member))
        (Nat.succ.inj length) (Nat.succ.inj length') (append_cancel_left same) with
        rest | rest
      · exact .inl (congrArg _ rest)
      exact .inr rest
    rw [if_neg equal]
    right
    rcases Nat.lt_trichotomy field.length field'.length with shorter | even | longer
    · exact .inl (prefix_of_append_eq bare same shorter)
    · rw [append_assoc, append_assoc] at same
      exact absurd (append_inj_left same even) equal
    exact .inr (prefix_of_append_eq bare same.symm longer)

namespace QuotaScope

def shown (scope : QuotaScope) : List (List Char) :=
  if scope.organizationId = none ∧ scope.teamId = none ∧ scope.userId = none ∧
      scope.apiKeyId = none then
    [scope.agentName, scope.environment].map fun field => (orStar field).toList
  else
    [scope.organizationId, scope.teamId, scope.userId, scope.agentName, scope.environment,
      scope.apiKeyId].map fun field => (orStar field).toList

def names (scope : QuotaScope) : List (List Char) :=
  if scope.shown.length = 2 then ["environment=".toList]
  else ["team=".toList, "user=".toList, "agent=".toList, "environment=".toList, "key=".toList]

theorem key_toList (scope : QuotaScope) : scope.shown.length = scope.names.length + 1 ∧
  scope.key.toList = (if scope.shown.length = 2 then "agent=" else "organization=").toList ++
    joined scope.names scope.shown := by
  unfold names shown key
  split
  · exact ⟨rfl, by simp [joined, String.toList_append]⟩
  exact ⟨rfl, by simp [joined, String.toList_append]⟩

def Confused (scope scope' : QuotaScope) : Prop :=
  scope.names = scope'.names ∧ Confusable scope.names scope.shown scope'.shown

theorem key_eq_iff {scope scope' : QuotaScope} (apart : ¬ scope.Confused scope') :
  scope.key = scope'.key ↔ scope.shown = scope'.shown := by
  obtain ⟨length, text⟩ := key_toList scope
  obtain ⟨length', text'⟩ := key_toList scope'
  constructor
  · intro same
    have texts := congrArg String.toList same
    rw [text, text'] at texts
    have form : (scope.shown.length = 2) = (scope'.shown.length = 2) := by
      by_cases short : scope.shown.length = 2 <;> by_cases short' : scope'.shown.length = 2 <;>
        simp [short, short'] at texts ⊢
    have sameNames : scope.names = scope'.names := by simp only [names, form]
    simp only [form, append_cancel_left_eq, ← sameNames] at texts
    have plain : ∀ name ∈ scope.names, '|' ∉ name := by
      unfold names
      split <;> decide
    exact (eq_or_confusable plain length (sameNames ▸ length') texts).resolve_right
      (fun confusable => apart ⟨sameNames, confusable⟩)
  intro same
  have sameNames : scope.names = scope'.names := by simp only [names, same]
  apply String.toList_injective
  rw [text, text', sameNames, same]

end QuotaScope

def QuotaPolicy.bears (resource : QuotaResource) (attribution : Attribution) (scopeKey : String)
  (policy : QuotaPolicy) : Bool :=
  policy.scope.covers attribution && (policy.limits.get? resource).isSome &&
    policy.scope.key = scopeKey

structure Leads (tenantId : String) (resource : QuotaResource) (attribution : Attribution)
    (stored : List QuotaPolicy) (scopeKey : String) (policy : QuotaPolicy) : Prop where
  listed : policy ∈ stored
  bears : policy.bears resource attribution scopeKey = true
  newest : ∀ other ∈ stored, other.bears resource attribution scopeKey = true →
    other.revision ≤ policy.revision
  above : (builtinPolicy tenantId).scope.key = scopeKey → 0 < policy.revision

section

variable {tenantId : String} {resource : QuotaResource} {attribution : Attribution}
  {stored stored' : List QuotaPolicy} {scopeKey : String} {policy : QuotaPolicy}

theorem selectPolicies_get? (policies : List QuotaPolicy) (selected : Dict String QuotaPolicy) :
  (selectPolicies resource attribution policies selected).get? scopeKey =
    (policies.filter (QuotaPolicy.bears resource attribution scopeKey)).foldl
    (List.argAux fun newer older => older.revision < newer.revision)
    (selected.get? scopeKey) := by
  induction policies generalizing selected with
  | nil => rfl
  | cons policy rest ih =>
    rw [selectPolicies]
    by_cases skipped : policy.scope.covers attribution = false ∨ policy.limits.get? resource = none
    · have apart : policy.bears resource attribution scopeKey = false := by
        rcases skipped with uncovered | unlimited
        · simp [QuotaPolicy.bears, uncovered]
        simp [QuotaPolicy.bears, unlimited]
      rw [if_pos skipped, ih, filter_cons_of_neg (by simp [apart])]
    rw [if_neg skipped]
    obtain ⟨covered, limited⟩ := not_or.mp skipped
    by_cases same : policy.scope.key = scopeKey
    · have bears : policy.bears resource attribution scopeKey = true := by
        simp [QuotaPolicy.bears, same, Bool.eq_true_of_not_eq_false covered,
          Option.isSome_iff_ne_none.mpr limited]
      rw [filter_cons_of_pos bears, foldl_cons, same]
      cases found : selected.get? scopeKey with
      | none => simp only [ih, get?_set_self, List.argAux]
      | some current =>
        simp only [List.argAux, gt_iff_lt]
        split
        · rw [ih, get?_set_self]
        rw [ih, found]
    have apart : policy.bears resource attribution scopeKey = false := by
      simp [QuotaPolicy.bears, same]
    rw [filter_cons_of_neg (by simp [apart])]
    have other : ∀ added, (selected.set policy.scope.key added).get? scopeKey =
      selected.get? scopeKey := fun added => get?_set_other _ _ (Ne.symm same)
    split
    · rw [ih, other]
    split
    · rw [ih, other]
    rw [ih]

def constraintsAmong (tenantId : String) (resource : QuotaResource) (attribution : Attribution)
  (stored : List QuotaPolicy) : List QuotaConstraint :=
  constraintsOf resource
    (selectPolicies resource attribution (builtinPolicy tenantId :: stored) Dict.empty)

def bearing (tenantId : String) (resource : QuotaResource) (attribution : Attribution)
  (stored : List QuotaPolicy) (scopeKey : String) : List QuotaPolicy :=
  (builtinPolicy tenantId :: stored).filter (QuotaPolicy.bears resource attribution scopeKey)

theorem mem_constraintsAmong {limit : Int} :
  { scopeKey, limit : QuotaConstraint } ∈ constraintsAmong tenantId resource attribution stored ↔
    ∃ policy, (bearing tenantId resource attribution stored scopeKey).argmax
    QuotaPolicy.revision = some policy ∧ policy.limits.get? resource = some limit := by
  have selects : (selectPolicies resource attribution (builtinPolicy tenantId :: stored)
    Dict.empty).get? scopeKey =
      (bearing tenantId resource attribution stored scopeKey).argmax QuotaPolicy.revision :=
    selectPolicies_get? _ _
  rw [← selects, constraintsAmong, constraintsOf, mem_filterMap]
  constructor
  · rintro ⟨⟨key, policy⟩, listed, limited⟩
    obtain ⟨found, limits, same⟩ := Option.map_eq_some_iff.mp limited
    cases same
    exact ⟨policy, get?_eq_some.mpr (mem_mergeSort.mp listed), limits⟩
  rintro ⟨policy, found, limits⟩
  refine ⟨(scopeKey, policy), mem_mergeSort.mpr (get?_eq_some.mp found), ?_⟩
  rw [limits]
  rfl

theorem builtin_bears : (builtinPolicy tenantId).bears resource attribution scopeKey = true ↔
  (builtinPolicy tenantId).scope.key = scopeKey := by
  have covers : (builtinPolicy tenantId).scope.covers attribution = true := by
    change QuotaScope.covers {} attribution = true
    simp [QuotaScope.covers]
  have limited : ((builtinPolicy tenantId).limits.get? resource).isSome = true := by
    change (defaultLimits.get? resource).isSome = true
    cases resource <;> decide
  rw [QuotaPolicy.bears, covers, limited]
  simp

theorem leads_of_argmax
  (selected : (stored.filter (QuotaPolicy.bears resource attribution scopeKey)).argmax
    QuotaPolicy.revision = some policy)
  (above : (builtinPolicy tenantId).scope.key = scopeKey → 0 < policy.revision) :
  Leads tenantId resource attribution stored scopeKey policy where
  listed := (mem_filter.mp (argmax_mem selected)).1
  bears := (mem_filter.mp (argmax_mem selected)).2
  newest := fun _ listed bears => le_of_mem_argmax (mem_filter.mpr ⟨listed, bears⟩) selected
  above

theorem argmax_cases (selected : (bearing tenantId resource attribution stored scopeKey).argmax
    QuotaPolicy.revision = some policy) :
  (policy = builtinPolicy tenantId ∧ (builtinPolicy tenantId).scope.key = scopeKey ∧
    ∀ other ∈ stored, other.bears resource attribution scopeKey = true → other.revision ≤ 0) ∨
    Leads tenantId resource attribution stored scopeKey policy := by
  rw [bearing, filter_cons] at selected
  split at selected
  case isFalse apart =>
    exact .inr (leads_of_argmax selected fun same => absurd (builtin_bears.mpr same) apart)
  case isTrue bears =>
    rw [argmax_cons] at selected
    cases later : (stored.filter (QuotaPolicy.bears resource attribution scopeKey)).argmax
      QuotaPolicy.revision with
    | none =>
      rw [later] at selected
      cases selected
      refine .inl ⟨rfl, builtin_bears.mp bears, fun other listed bearsOther => ?_⟩
      have member := mem_filter.mpr ⟨listed, bearsOther⟩
      rw [argmax_eq_none.mp later] at member
      cases member
    | some newest =>
      simp only [later] at selected
      split at selected
      case isTrue above =>
        cases selected
        exact .inr (leads_of_argmax later fun _ => above)
      case isFalse below =>
        cases selected
        exact .inl ⟨rfl, builtin_bears.mp bears, fun other listed bearsOther =>
          (le_of_mem_argmax (mem_filter.mpr ⟨listed, bearsOther⟩) later).trans
            (not_lt.mp below)⟩

theorem Leads.selected (leads : Leads tenantId resource attribution (policy :: stored) scopeKey
    policy) :
  (bearing tenantId resource attribution (policy :: stored) scopeKey).argmax
    QuotaPolicy.revision = some policy := by
  have first : ((policy :: stored).filter (QuotaPolicy.bears resource attribution scopeKey)).argmax
    QuotaPolicy.revision = some policy := by
    rw [filter_cons_of_pos leads.bears, argmax_cons]
    cases later : (stored.filter (QuotaPolicy.bears resource attribution scopeKey)).argmax
      QuotaPolicy.revision with
    | none => rfl
    | some other =>
      obtain ⟨listed, bears⟩ := mem_filter.mp (argmax_mem later)
      exact if_neg (not_lt.mpr (leads.newest other (mem_cons_of_mem _ listed) bears))
  rw [bearing, filter_cons]
  split
  case isFalse => exact first
  case isTrue bears =>
    rw [argmax_cons, first]
    refine if_pos (leads.above ?_)
    simpa using (Bool.and_eq_true_iff.mp bears).2

def Settled (tenantId : String) (resource : QuotaResource) (attribution : Attribution)
  (stored : List QuotaPolicy) : Prop :=
  ∀ scopeKey first second, Leads tenantId resource attribution stored scopeKey first →
    Leads tenantId resource attribution stored scopeKey second →
      first.limits.get? resource = second.limits.get? resource

theorem Leads.perm (leads : Leads tenantId resource attribution stored scopeKey policy)
  (reordered : stored.Perm stored') :
  Leads tenantId resource attribution stored' scopeKey policy :=
  { leads with
    listed := reordered.mem_iff.mp leads.listed
    newest := fun other listed => leads.newest other (reordered.mem_iff.mpr listed) }

theorem mem_of_settled (settled : Settled tenantId resource attribution stored)
  (reordered : stored.Perm stored') {constraint : QuotaConstraint}
  (listed : constraint ∈ constraintsAmong tenantId resource attribution stored) :
  constraint ∈ constraintsAmong tenantId resource attribution stored' := by
  obtain ⟨scopeKey, limit⟩ := constraint
  obtain ⟨policy, selected, limits⟩ := mem_constraintsAmong.mp listed
  refine mem_constraintsAmong.mpr ?_
  cases selected' : (bearing tenantId resource attribution stored' scopeKey).argmax
    QuotaPolicy.revision with
  | none =>
    have member := (reordered.cons (builtinPolicy tenantId)).filter
      (QuotaPolicy.bears resource attribution scopeKey) |>.mem_iff.mp (argmax_mem selected)
    rw [← bearing, argmax_eq_none.mp selected'] at member
    cases member
  | some policy' =>
    refine ⟨policy', rfl, ?_⟩
    rcases argmax_cases selected with ⟨same, key, below⟩ | leads
    · rcases argmax_cases selected' with ⟨same', _, _⟩ | leads'
      · rw [same', ← same, limits]
      have above := leads'.above key
      have atMost := below policy' (reordered.mem_iff.mpr leads'.listed) leads'.bears
      exact absurd above (not_lt.mpr atMost)
    rcases argmax_cases selected' with ⟨_, key, below⟩ | leads'
    · have atMost := below policy (reordered.mem_iff.mp leads.listed) leads.bears
      exact absurd (leads.above key) (not_lt.mpr atMost)
    rw [settled scopeKey policy' policy (leads'.perm reordered.symm) leads, limits]

theorem order_free_iff : (∀ stored', stored.Perm stored' → ∀ constraint,
    constraint ∈ constraintsAmong tenantId resource attribution stored ↔
    constraint ∈ constraintsAmong tenantId resource attribution stored') ↔
  Settled tenantId resource attribution stored := by
  constructor
  · intro orderFree scopeKey first second leads leads'
    -- whichever of two leading policies is listed first gives the constraint
    have selected : ∀ policy, Leads tenantId resource attribution stored scopeKey policy →
        ∃ limit, policy.limits.get? resource = some limit ∧ { scopeKey, limit : QuotaConstraint } ∈
            constraintsAmong tenantId resource attribution stored := by
      intro policy leads
      obtain ⟨before, after, rfl⟩ := append_of_mem leads.listed
      have bears := leads.bears
      simp only [QuotaPolicy.bears, Bool.and_eq_true] at bears
      obtain ⟨limit, limits⟩ := Option.isSome_iff_exists.mp bears.1.2
      exact ⟨limit, limits, (orderFree _ perm_middle _).mpr
        (mem_constraintsAmong.mpr ⟨policy, (leads.perm perm_middle).selected, limits⟩)⟩
    obtain ⟨limit, limits, listed⟩ := selected first leads
    obtain ⟨limit', limits', listed'⟩ := selected second leads'
    obtain ⟨policy, chosen, same⟩ := mem_constraintsAmong.mp listed
    obtain ⟨policy', chosen', same'⟩ := mem_constraintsAmong.mp listed'
    cases chosen.symm.trans chosen'
    rw [limits, limits', ← same, ← same']
  intro settled stored' reordered constraint
  refine ⟨mem_of_settled settled reordered, mem_of_settled ?_ reordered.symm⟩
  exact fun scopeKey first second leads leads' => settled scopeKey first second
    (leads.perm reordered.symm) (leads'.perm reordered.symm)

end

theorem scopes_distinguished_iff (scope scope' : QuotaScope) (tenantId : String)
  (resource : QuotaResource) (attribution : Attribution) (stored : List QuotaPolicy)
  (apart : ¬ scope.Confused scope') :
  ((scope ≠ scope' → scope.key ≠ scope'.key) ↔ (scope = scope' ∨ scope.shown ≠ scope'.shown)) ∧
    ((∀ stored', stored.Perm stored' → ∀ constraint,
    constraint ∈ constraintsAmong tenantId resource attribution stored ↔
    constraint ∈ constraintsAmong tenantId resource attribution stored') ↔
    Settled tenantId resource attribution stored) := by
  refine ⟨?_, order_free_iff⟩
  rw [ne_eq, ne_eq, ne_eq, QuotaScope.key_eq_iff apart]
  tauto

theorem scopes_distinguished_users :
  ({ userId := some "ann" } : QuotaScope).key ≠ ({ userId := some "bob" } : QuotaScope).key := by
  refine (scopes_distinguished_iff _ _ "tenant" .concurrentRuns {} [] ?_).1.mpr (.inr ?_)
    (by decide)
  · rintro ⟨_, confusable⟩
    simp [Confusable, QuotaScope.names, QuotaScope.shown, orStar] at confusable
  decide

def runsPolicy (policyId : String) (limit : Int) (positive : 1 ≤ limit) : QuotaPolicy where
  tenantId := "tenant"
  policyId
  revision := 1
  limits := ⟨[(.concurrentRuns, limit)], nodup_singleton _⟩
  positive := by simpa [positiveLimits, Dict.values] using positive

/-- A team whose name goes on like a key, and two policies of one revision. -/
theorem scopes_not_distinguished :
  (∃ scope scope' : QuotaScope, scope ≠ scope' ∧ scope.key = scope'.key) ∧
    ∃ stored stored' : List QuotaPolicy, stored.Perm stored' ∧ ∃ constraint,
    constraint ∈ constraintsAmong "tenant" .concurrentRuns {} stored ∧
    constraint ∉ constraintsAmong "tenant" .concurrentRuns {} stored' := by
  refine ⟨⟨{ organizationId := some "a", teamId := some "b|team=c" },
      { organizationId := some "a|team=b", teamId := some "c" }, by decide, by decide +kernel⟩, ?_⟩
  exact ⟨[runsPolicy "first" 1 (by decide), runsPolicy "second" 2 (by decide)],
    [runsPolicy "second" 2 (by decide), runsPolicy "first" 1 (by decide)], List.Perm.swap _ _ _,
    { scopeKey := "agent=*|environment=*", limit := 1 }, by decide +kernel, by decide +kernel⟩

end AgentHarness.Quota
