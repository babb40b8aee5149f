import AgentHarness.Interaction.Footprint
import AgentHarness.Interaction.Pool
import AgentHarness.Text.Utf8Decoder
import Mathlib.Data.List.DropRight
import Mathlib.Data.Set.Pairwise.Basic

/-!
The pods of the Kubernetes sandbox provider: their names, and provisions side by side.
-/

namespace AgentHarness.Kubernetes

open Function Interaction List Program Text

def isLabelChar (char : Char) : Bool :=
  ('a' ≤ char && char ≤ 'z') || ('0' ≤ char && char ≤ '9') || char == '-'

/-- `_DNS_LABEL.sub("-", value)`; `within` a run of other characters none is put out again. -/
def subLabel (within : Bool) : List Char → List Char
  | [] => []
  | char :: rest =>
    if isLabelChar char then char :: subLabel false rest
    else if within then subLabel true rest
    else '-' :: subLabel true rest

def rstrip (text : List Char) : List Char := text.rdropWhile (· = '-')

def strip (text : List Char) : List Char := rstrip (text.dropWhile (· = '-'))

def bitsOf (bytes : List UInt8) : List Bool :=
  bytes.flatMap fun byte => (List.range 8).map fun place => byte.toNat.testBit (7 - place)

/-- The bits of whole base 32 digits, the last one filled up with zeros. -/
def filled (bits : List Bool) : List Bool :=
  bits ++ List.replicate ((5 - bits.length % 5) % 5) false

def digit (a b c d e : Bool) : Char :=
  let value := 16 * a.toNat + 8 * b.toNat + 4 * c.toNat + 2 * d.toNat + e.toNat
  Char.ofNat (if value < 26 then 'a'.toNat + value else '2'.toNat + (value - 26))

def digits : List Bool → List Char
  | a :: b :: c :: d :: e :: rest => digit a b c d e :: digits rest
  | _ => []

/-- `b32encode` in lower case and without its padding. -/
def b32encode (bytes : List UInt8) : List Char := digits (filled (bitsOf bytes))

/-- `lower` is `str.lower`. -/
def normalized (lower : String → String) (value : String) : List Char :=
  let label := rstrip ((strip (subLabel false (lower value).toList)).take 40)
  if label = [] then ['r', 'u', 'n'] else label

def suffix (value : String) : List Char := (b32encode (encodeUtf8 value.toList)).take 10

def harness : List Char := ['h', 'a', 'r', 'n', 'e', 's', 's', '-']

def safeDnsName (lower : String → String) (value : String) : List Char :=
  rstrip ((harness ++ normalized lower value ++ '-' :: suffix value).take 55)

structure Execution where
  runId : String
  fencingToken : Int
  deriving DecidableEq

def Execution.value (execution : Execution) : String :=
  execution.runId ++ "-" ++ toString execution.fencingToken

def podName (lower : String → String) (execution : Execution) : List Char :=
  safeDnsName lower execution.value

def policyName (pod : List Char) : List Char := pod ++ ['-', 'e', 'g', 'r', 'e', 's', 's']

/-- What the Kubernetes API takes for a DNS label. -/
def IsDnsLabel (name : List Char) : Prop :=
  name ≠ [] ∧ name.length ≤ 63 ∧ (∀ char ∈ name, isLabelChar char = true) ∧
    name.head? ≠ some '-' ∧ name.getLast? ≠ some '-'

/-- How many base 32 digits a name has room for. -/
def room (lower : String → String) (value : String) : Nat :=
  min (46 - (normalized lower value).length) 10

/-- The two texts differ in the forty characters that are kept of them once normalized, or in
the first bits of their encodings, five for each digit that the name has room for. -/
def Apart (lower : String → String) (first second : String) : Prop :=
  normalized lower first ≠ normalized lower second ∨
    (filled (bitsOf (encodeUtf8 first.toList))).take (5 * room lower first) ≠
      (filled (bitsOf (encodeUtf8 second.toList))).take (5 * room lower first)

theorem digit_valid : ∀ a b c d e, isLabelChar (digit a b c d e) = true ∧ digit a b c d e ≠ '-' := by
  decide

theorem digit_inj : ∀ a b c d e a' b' c' d' e', digit a b c d e = digit a' b' c' d' e' →
  [a, b, c, d, e] = [a', b', c', d', e'] := by
  decide +kernel

theorem digits_valid {bits : List Bool} {char : Char} (member : char ∈ digits bits) :
  isLabelChar char = true ∧ char ≠ '-' := by
  fun_induction digits bits with
  | case1 a b c d e rest ih =>
    cases mem_cons.mp member with
    | inl first => exact first ▸ digit_valid a b c d e
    | inr later => exact ih later
  | case2 => cases member

theorem filled_whole (bits : List Bool) : 5 ∣ (filled bits).length := by
  rw [filled, length_append, length_replicate]
  omega

theorem whole_cases {bits : List Bool} (whole : 5 ∣ bits.length) : bits = [] ∨
  ∃ a b c d e rest, bits = a :: b :: c :: d :: e :: rest ∧ 5 ∣ rest.length := by
  rcases bits with _ | ⟨a, _ | ⟨b, _ | ⟨c, _ | ⟨d, _ | ⟨e, rest⟩⟩⟩⟩⟩
  · exact .inl rfl
  iterate 4 simp at whole
  exact .inr ⟨a, b, c, d, e, rest, rfl, (Nat.dvd_add_left (Nat.dvd_refl 5)).mp whole⟩

theorem take_digits_inj {bits other : List Bool} (whole : 5 ∣ bits.length)
  (whole' : 5 ∣ other.length) (count : Nat) :
  (digits bits).take count = (digits other).take count ↔
    bits.take (5 * count) = other.take (5 * count) := by
  induction count generalizing bits other with
  | zero => simp
  | succ count ih =>
    rw [Nat.mul_succ]
    rcases whole_cases whole with rfl | ⟨a, b, c, d, e, rest, rfl, shorter⟩ <;>
      rcases whole_cases whole' with rfl | ⟨a', b', c', d', e', rest', rfl, shorter'⟩
    · simp [digits]
    · simp [digits]
    · simp [digits]
    simp only [digits, take_succ_cons, cons.injEq, ih shorter shorter']
    constructor
    · rintro ⟨same, later⟩
      have equal := digit_inj _ _ _ _ _ _ _ _ _ _ same
      simp only [cons.injEq, and_true] at equal
      obtain ⟨rfl, rfl, rfl, rfl, rfl⟩ := equal
      exact ⟨rfl, rfl, rfl, rfl, rfl, later⟩
    rintro ⟨rfl, rfl, rfl, rfl, rfl, later⟩
    exact ⟨rfl, later⟩

theorem subLabel_valid (within : Bool) (text : List Char) :
  ∀ char ∈ subLabel within text, isLabelChar char = true := by
  fun_induction subLabel within text with
  | case1 => exact fun _ member => by cases member
  | case2 within char rest valid ih => exact forall_mem_cons.mpr ⟨valid, ih⟩
  | case3 char rest _ ih => exact ih
  | case4 within char rest _ _ ih => exact forall_mem_cons.mpr ⟨rfl, ih⟩

theorem rstrip_start (text : List Char) : rstrip text <+: text := rdropWhile_prefix _ _

section

variable {lower : String → String} {value : String}

theorem normalized_valid : ∀ char ∈ normalized lower value, isLabelChar char = true := by
  unfold normalized
  dsimp only
  split
  · exact all_eq_true.mp (by decide)
  intro char member
  have kept := take_subset _ _ ((rstrip_start _).subset member)
  have stripped := (rstrip_start _).subset kept
  exact subLabel_valid false _ char ((dropWhile_suffix _).subset stripped)

theorem normalized_short : (normalized lower value).length ≤ 40 := by
  unfold normalized
  dsimp only
  split
  · decide
  exact (rstrip_start _).length_le.trans (length_take_le _ _)

theorem kept_ne_nil (given : value ≠ "") :
  (b32encode (encodeUtf8 value.toList)).take (room lower value) ≠ [] := by
  intro empty
  have short : (normalized lower value).length ≤ 40 := normalized_short
  rcases take_eq_nil_iff.mp empty with none | none
  · rw [room] at none
    omega
  have long := length_le_encodeUtf8 value.toList
  cases bytes : encodeUtf8 value.toList with
  | nil =>
    rw [bytes] at long
    exact given (String.toList_eq_nil_iff.mp (length_eq_zero_iff.mp (Nat.le_zero.mp long)))
  | cons byte rest =>
    rw [bytes] at none
    exact cons_ne_nil _ _ none

theorem safeDnsName_eq (given : value ≠ "") : safeDnsName lower value =
  harness ++ normalized lower value ++
    '-' :: (b32encode (encodeUtf8 value.toList)).take (room lower value) := by
  have short : (normalized lower value).length ≤ 40 := normalized_short
  have width : (harness ++ normalized lower value).length = (normalized lower value).length + 8 := by
    rw [length_append, Nat.add_comm]
    rfl
  have digits : (suffix value).take (46 - (normalized lower value).length) =
    (b32encode (encodeUtf8 value.toList)).take (room lower value) := take_take
  have room' : 55 - ((normalized lower value).length + 8) =
    46 - (normalized lower value).length + 1 := by omega
  rw [safeDnsName, take_append, width, take_of_length_le (by omega), room', take_succ_cons, digits]
  refine rdropWhile_eq_self_iff.mpr fun given' => ?_
  rw [getLast_append_of_ne_nil _ (cons_ne_nil _ _), getLast_cons (kept_ne_nil given)]
  exact fun hyphen =>
    (digits_valid (take_subset _ _ (getLast_mem _))).2 (of_decide_eq_true hyphen)

theorem safeDnsName_label (given : value ≠ "") : IsDnsLabel (safeDnsName lower value) ∧
  IsDnsLabel (policyName (safeDnsName lower value)) := by
  have short : (safeDnsName lower value).length ≤ 55 :=
    (rstrip_start _).length_le.trans (length_take_le _ _)
  have first : (safeDnsName lower value).head? = some 'h' := by
    rw [safeDnsName_eq given]
    rfl
  have filled : safeDnsName lower value ≠ [] := fun none => by simp [none] at first
  have valid : ∀ char ∈ safeDnsName lower value, isLabelChar char = true := by
    rw [safeDnsName_eq given]
    simp only [forall_mem_append, forall_mem_cons]
    exact ⟨⟨all_eq_true.mp (by decide), normalized_valid⟩, rfl,
      fun char member => (digits_valid (take_subset _ _ member)).1⟩
  constructor
  · refine ⟨filled, short.trans (by decide), valid, by rw [first]; decide, ?_⟩
    rw [getLast?_eq_some_getLast filled]
    exact fun hyphen =>
      rdropWhile_last_not _ _ filled (decide_eq_true (Option.some.inj hyphen))
  refine ⟨by simp [policyName], ?_, ?_, ?_, ?_⟩
  · rw [policyName, length_append]
    exact Nat.add_le_add_right short 7 |>.trans (by decide)
  · exact forall_mem_append.mpr ⟨valid, all_eq_true.mp (by decide)⟩
  · rw [policyName, head?_append, first]
    decide
  simp [policyName]

theorem last_hyphen_inj {stem stem' kept kept' : List Char} (free : '-' ∉ kept)
  (free' : '-' ∉ kept') (same : stem ++ '-' :: kept = stem' ++ '-' :: kept') :
  stem = stem' ∧ kept = kept' := by
  have place : kept.length = kept'.length := by
    have found := congrArg (fun text => text.reverse.idxOf '-') same
    simpa [idxOf_append_of_notMem, free, free'] using found
  obtain ⟨stems, tails⟩ := append_inj' same (by rw [length_cons, length_cons, place])
  exact ⟨stems, (cons.inj tails).2⟩

theorem safeDnsName_ne_iff {other : String} (given : value ≠ "") (given' : other ≠ "") :
  safeDnsName lower value ≠ safeDnsName lower other ↔ Apart lower value other := by
  have hyphenless (text : String) (count : Nat) :
    '-' ∉ (b32encode (encodeUtf8 text.toList)).take count :=
    fun member => (digits_valid (take_subset _ _ member)).2 rfl
  have bits : (b32encode (encodeUtf8 value.toList)).take (room lower value) =
    (b32encode (encodeUtf8 other.toList)).take (room lower value) ↔ _ :=
    take_digits_inj (filled_whole _) (filled_whole _) _
  rw [Apart, ← not_and_or, not_iff_not, ← bits, safeDnsName_eq given, safeDnsName_eq given',
    append_assoc, append_assoc, append_cancel_left_eq]
  constructor
  · intro same
    obtain ⟨stems, kept⟩ := last_hyphen_inj (hyphenless _ _) (hyphenless _ _) same
    have rooms : room lower value = room lower other := by rw [room, room, stems]
    rw [← rooms] at kept
    exact ⟨stems, kept⟩
  rintro ⟨stems, kept⟩
  have rooms : room lower value = room lower other := by rw [room, room, stems]
  rw [stems, ← rooms, kept]

end

inductive KubernetesOp where
  | own (pod : List Char)
  | isOwned (pod : List Char)
  | disown (pod : List Char)
  | create (pod : List Char)
  | waitReady (pod : List Char)
  | delete (pod policy : List Char)

@[reducible] def KubernetesOp.Answer : KubernetesOp → Type
  | isOwned _ => Bool
  | _ => Unit

structure KubernetesSandboxError where

abbrev KubernetesProgram := Program KubernetesOp KubernetesOp.Answer KubernetesSandboxError

def ask (op : KubernetesOp) : KubernetesProgram op.Answer := perform op id

def provision (pod : List Char) : KubernetesProgram Unit := do
  ask (.own pod)
  (do ask (.create pod); ask (.waitReady pod) : KubernetesProgram Unit).catching fun error => do
    if ← ask (.isOwned pod) then
      (ask (.delete pod (policyName pod))).catching fun _ => done ()
      ask (.disown pod)
    raised error

def destroy (pod : List Char) : KubernetesProgram Unit :=
  ensuring (do if ← ask (.isOwned pod) then ask (.delete pod (policyName pod)))
    (ask (.disown pod))

def lifetime (pod : List Char) : KubernetesProgram Unit := do
  provision pod
  destroy pod

structure Cluster (Actor : Type) where
  /-- Each pod with who made it. -/
  pods : List Char → Option Actor := fun _ => none
  policies : List Char → Bool := fun _ => false
  /-- `_owned` of each worker process. -/
  owned : Nat → List Char → Bool := fun _ _ => false
  /-- History: who deleted whose pod. -/
  removed : List (Actor × Actor) := []

/-- Which of the two resources a request misses, and whether it is reported as failed. -/
structure Fault where
  (policyLost podLost failed : Bool := false)

variable {Actor : Type} (worker : Actor → Nat)

def Cluster.mark (cluster : Cluster Actor) (process : Nat) (pod : List Char) (mine : Bool) :
  Cluster Actor :=
  { cluster with
    owned := update cluster.owned process (update (cluster.owned process) pod mine) }

def reply (failed : Bool) : Except KubernetesSandboxError Unit :=
  if failed then .error {} else .ok ()

def Cluster.respond (actor : Actor) (fault : Fault) (cluster : Cluster Actor) :
  (op : KubernetesOp) → Except KubernetesSandboxError op.Answer × Cluster Actor
  | .own pod => (.ok (), cluster.mark (worker actor) pod true)
  | .isOwned pod => (.ok (cluster.owned (worker actor) pod), cluster)
  | .disown pod => (.ok (), cluster.mark (worker actor) pod false)
  | .create pod =>
    let policyRefused := fault.policyLost || cluster.policies (policyName pod)
    let podRefused := fault.podLost || (cluster.pods pod).isSome
    (reply (fault.failed || policyRefused || podRefused),
      { cluster with
        policies := if policyRefused then cluster.policies
          else update cluster.policies (policyName pod) true
        pods := if podRefused then cluster.pods else update cluster.pods pod (some actor) })
  | .waitReady pod => (reply (fault.failed || (cluster.pods pod).isNone), cluster)
  | .delete pod policy =>
    (reply fault.failed,
      { cluster with
        policies := if fault.policyLost then cluster.policies
          else update cluster.policies policy false
        pods := if fault.podLost then cluster.pods else update cluster.pods pod none
        removed := (if fault.podLost then [] else (cluster.pods pod).toList.map (actor, ·)) ++
          cluster.removed })

def component : Component KubernetesOp KubernetesOp.Answer KubernetesSandboxError Actor
    (Cluster Actor) Fault where
  respond := Cluster.respond worker

def pool (names : Actor → List Char) :
  Pool KubernetesOp KubernetesOp.Answer KubernetesSandboxError Actor (Cluster Actor) Unit where
  state := {}
  thread actor := lifetime (names actor)

section

variable [DecidableEq Actor] (names : Actor → List Char)

def KubernetesOp.pod : KubernetesOp → List Char
  | own pod | isOwned pod | disown pod | create pod | waitReady pod | delete pod _ => pod

def naming (pod : List Char) : Footprint KubernetesOp KubernetesSandboxError where
  permitted op := op.pod = pod
  foreseen _ := True
  raises _ := True
  passes _ := id

theorem lifetime_within (pod : List Char) : (lifetime pod).Within (naming pod) := by
  have asks {op : KubernetesOp} (own : op.pod = pod) : (ask op).Within (naming pod) :=
    within_perform own id
  refine .bind (.bind (asks rfl) fun _ => .catching (.bind (asks rfl) fun _ => asks rfl) ?_) ?_
  · intro error _
    refine .bind (asks rfl) fun owned => ?_
    cases owned with
    | true =>
      exact .bind (.catching (asks rfl) fun _ _ => within_done ()) fun _ =>
        .bind (asks rfl) fun _ => within_raised trivial
    | false => exact trivial
  intro _
  refine .ensuring (.bind (asks rfl) fun owned => ?_) (asks rfl)
  cases owned with
  | true => exact asks rfl
  | false => exact trivial

/-- Every pod has the name of who made it, and was deleted by no one else. -/
def Kept (cluster : Cluster Actor) : Prop :=
  (∀ pod owner, cluster.pods pod = some owner → names owner = pod) ∧
    ∀ entry ∈ cluster.removed, entry.1 = entry.2

theorem adheres (apart : Injective names) :
  Pool.Adheres (component worker) (fun actor => (naming (names actor)).contract)
    (fun cluster _ => Kept names cluster) (fun _ _ _ _ => True) := by
  rintro cluster known actor op fault ⟨named, own⟩ - allowed
  refine ⟨(), fun _ _ => trivial, ?_⟩
  cases op with
  | own pod | isOwned pod | disown pod | waitReady pod => exact ⟨named, own⟩
  | create pod =>
    refine ⟨fun other owner found => ?_, own⟩
    simp only [component, Cluster.respond] at found
    split at found
    · exact named other owner found
    rw [update_apply] at found
    split at found
    · rename_i same
      cases found
      exact allowed.symm.trans same.symm
    exact named other owner found
  | delete pod policy =>
    cases lost : fault.podLost with
    | true =>
      simp only [component, Cluster.respond, lost, ↓reduceIte, nil_append]
      exact ⟨named, own⟩
    | false =>
      simp only [component, Cluster.respond, lost, Bool.false_eq_true, ↓reduceIte]
      constructor
      · intro other owner found
        simp only [update_apply] at found
        split at found
        · cases found
        exact named other owner found
      intro entry member
      rcases mem_append.mp member with removed | before
      · obtain ⟨owner, found, rfl⟩ := mem_map.mp removed
        have mine := named pod owner (Option.mem_toList.mp found)
        exact apart (allowed.symm.trans mine.symm)
      exact own entry before

/-- Whatever the order of the steps and whichever requests fail, no pod is deleted by another. -/
theorem removed_own (apart : Injective names) (schedule : List (Actor × Fault)) :
  ∀ entry ∈ ((pool names).run (component worker) schedule).state.removed, entry.1 = entry.2 := by
  have start : Kept names (pool names).state := by
    constructor
    · rintro _ _ ⟨⟩
    rintro _ ⟨⟩
  have ready : (pool names).Ready (fun actor => (naming (names actor)).contract)
    (fun cluster _ => Kept names cluster) (fun _ _ _ => True)
    (fun actor _ => (naming (names actor)).raises) fun _ => () :=
    ⟨start, fun actor => lifetime_within (names actor)⟩
  obtain ⟨_, kept, _⟩ := Pool.run_ready (adheres worker names apart) ready schedule
    (Pool.along_of_forall (fun _ _ _ _ => trivial) _ _)
  exact kept.2

/-- Of two executions with one name, the one that is late deletes the pod of the other. -/
theorem collision_deletes {early late : Actor} (distinct : early ≠ late)
  (same : names late = names early) : (late, early) ∈ ((pool names).run (component worker)
    [(early, {}), (early, {}), (late, {}), (late, {}), (late, {}), (late, {})]).state.removed := by
  simp [Pool.run, Pool.step, pool, lifetime, provision, ask, perform, component, Cluster.respond,
    Cluster.mark, reply, Program.bind, Program.catching, same, distinct.symm]

end

theorem Execution.value_ne_empty (execution : Execution) : execution.value ≠ "" := by
  simp [Execution.value, String.append_eq_empty_iff]

theorem pods_apart_iff [DecidableEq Actor] (lower : String → String)
  (executions : Actor → Execution) :
  ((∀ first second, first ≠ second →
      podName lower (executions first) ≠ podName lower (executions second)) ∧
    (∀ actor, IsDnsLabel (podName lower (executions actor)) ∧
      IsDnsLabel (policyName (podName lower (executions actor)))) ∧
    ∀ schedule, ∀ entry ∈ ((pool fun actor => podName lower (executions actor)).run
      (component worker) schedule).state.removed, entry.1 = entry.2) ↔
    ∀ first second, first ≠ second →
      Apart lower (executions first).value (executions second).value := by
  have names (first second : Actor) :
    podName lower (executions first) ≠ podName lower (executions second) ↔
      Apart lower (executions first).value (executions second).value :=
    safeDnsName_ne_iff (Execution.value_ne_empty _) (Execution.value_ne_empty _)
  constructor
  · intro property first second distinct
    exact (names first second).mp (property.1 first second distinct)
  intro apart
  refine ⟨fun first second distinct => (names first second).mpr (apart first second distinct),
    fun actor => safeDnsName_label (Execution.value_ne_empty _), ?_⟩
  refine removed_own worker _ fun first second same => ?_
  by_contra distinct
  exact (names first second).mpr (apart first second distinct) same

def asciiLower (text : String) : String := String.ofList (text.toList.map Char.toLower)

/-- One run, taken up again for the thousandth time and the time after that. -/
def takenUp (later : Bool) : Execution where
  runId := "run_0123456789abcdef0123456789abcdef"
  fencingToken := if later then 1001 else 1000

theorem takenUp_collide : takenUp true ≠ takenUp false ∧
  podName asciiLower (takenUp true) = podName asciiLower (takenUp false) ∧
  ∃ schedule, (true, false) ∈ ((pool fun later => podName asciiLower (takenUp later)).run
    (component fun _ => 0) schedule).state.removed := by
  have same : podName asciiLower (takenUp true) = podName asciiLower (takenUp false) := by
    decide +kernel
  exact ⟨by decide, same, _, collision_deletes _ _ Bool.false_ne_true same⟩

end AgentHarness.Kubernetes
