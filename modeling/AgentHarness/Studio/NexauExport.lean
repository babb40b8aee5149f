import AgentHarness.Hashing.Sha256
import Mathlib.Data.List.TakeWhile

/-!
The MCP servers of an exported bundle, and the environment that they name.
-/

namespace AgentHarness.Studio.NexauExport

open List

def isWord (char : Char) : Bool := char.isUpper || char.isDigit

/-- `re.sub(r"[^A-Z0-9]+", "_", text)`, in such a run or not. -/
def collapse : Bool → List Char → List Char
  | _, [] => []
  | inRun, char :: rest =>
    if isWord char then char :: collapse false rest
    else if inRun then collapse true rest
    else '_' :: collapse true rest

def rstrip : List Char → List Char
  | [] => []
  | char :: rest => if rstrip rest = [] ∧ char = '_' then [] else char :: rstrip rest

/-- `strip("_")`. -/
def strip (text : List Char) : List Char := rstrip (text.dropWhile (· = '_'))

inductive McpTransport
  | http
  | sse

structure CredentialReference where
  text : String
  plain : ∀ char ∈ text.toList, isWord char || char = '_'
  deriving DecidableEq

/-- An authentication other than `none` has a credential reference, a header or a parameter
a name. -/
inductive McpAuth
  | none
  | bearer (credential : CredentialReference)
  | header (name : String) (credential : CredentialReference)
  | query (name : String) (credential : CredentialReference)

def McpAuth.credential? : McpAuth → Option CredentialReference
  | .none => Option.none
  | .bearer credential | .header _ credential | .query _ credential => some credential

structure McpCapability where
  serverName : Option String := none
  endpointUrl : Option String := none
  transport : McpTransport := .http
  auth : McpAuth := .none

structure NexauServer where
  (name sourceId : String)
  type : McpTransport
  url : String
  timeout : Nat := 30
  headers : List (String × String) := []

/-- `quote(text, safe='')`. -/
def quote (text : String) : String :=
  String.ofList ((Hashing.encode text).flatMap fun byte =>
    let char := Char.ofNat byte.toNat
    if char.isAlphanum || "_.-~".toList.contains char then [char]
    else ['%', (byte.toNat / 16).digitChar.toUpper, (byte.toNat % 16).digitChar.toUpper])

def placeholder (name : String) : String := "$\x7benv." ++ name ++ "\x7d"

-- `upper` is what `str.upper` makes of a character.
variable (upper : Char → List Char) (capabilities : String → Option McpCapability)
  (reference : String)

def envName (suffix : String) : String :=
  "NEXAU_MCP_" ++ String.ofList (strip (collapse false (reference.toList.flatMap upper))) ++
    "_" ++ suffix

def endpoint? : Option String := (capabilities reference).bind McpCapability.endpointUrl

/-- `_mcp_config`: the server and the environment that it requires. -/
def mcpConfig : NexauServer × List String :=
  let capability := capabilities reference
  let urlEnv := envName upper reference "URL"
  let registered := endpoint? capabilities reference
  let url := registered.getD (placeholder urlEnv)
  let server : NexauServer :=
    { name := (capability.bind McpCapability.serverName).getD reference, sourceId := reference
      type := (capability.map McpCapability.transport).getD .http, url }
  let required := if registered.isNone then [urlEnv] else []
  match (capability.map McpCapability.auth).getD .none with
  | .none => (server, required)
  | .bearer credential =>
    ({ server with headers := [("Authorization", "Bearer " ++ placeholder credential.text)] },
      required ++ [credential.text])
  | .header name credential =>
    ({ server with headers := [(name, placeholder credential.text)] },
      required ++ [credential.text])
  | .query name credential =>
    ({ server with url := url ++ "?" ++ quote name ++ "=" ++ placeholder credential.text },
      required ++ [credential.text])

def credentialOf : Option CredentialReference :=
  (capabilities reference).bind fun capability => capability.auth.credential?

def words : List (List Char) :=
  ((reference.toList.flatMap upper).splitOnP (!isWord ·)).filter (· ≠ [])

def urlName (words : List (List Char)) : String :=
  "NEXAU_MCP_" ++ String.ofList (['_'].intercalate words) ++ "_URL"

def baseOf (url : List Char) : List Char := (url.takeWhile (· ≠ '#')).takeWhile (· ≠ '?')

def queryOf (url : List Char) : List Char := ((url.takeWhile (· ≠ '#')).dropWhile (· ≠ '?')).tail

def fragmentOf (url : List Char) : List Char := (url.dropWhile (· ≠ '#')).tail

structure Extends (endpoint url parameter : List Char) : Prop where
  base : baseOf url = baseOf endpoint
  query : queryOf url =
    if queryOf endpoint = [] then parameter else queryOf endpoint ++ '&' :: parameter
  fragment : fragmentOf url = fragmentOf endpoint

def SameCredential (first second : String) : Prop := ∃ credential,
  credentialOf capabilities first = some credential ∧
    credentialOf capabilities second = some credential

/-- No variable is shared but that of a shared credential reference. -/
def Separate (references : List String) : Prop :=
  ∀ first ∈ references, ∀ second ∈ references, first ≠ second →
    ∀ name ∈ (mcpConfig upper capabilities first).2,
      name ∈ (mcpConfig upper capabilities second).2 → SameCredential capabilities first second

/-- A registered endpoint is kept, up to the parameter of its credential. -/
def Intact (references : List String) : Prop :=
  ∀ reference ∈ references, ∀ capability endpoint, capabilities reference = some capability →
    capability.endpointUrl = some endpoint →
      match capability.auth with
      | .query name credential =>
        Extends endpoint.toList (mcpConfig upper capabilities reference).1.url.toList
          (quote name ++ "=" ++ placeholder credential.text).toList
      | _ => (mcpConfig upper capabilities reference).1.url = endpoint

def DistinctWords (references : List String) : Prop :=
  ∀ first ∈ references, ∀ second ∈ references, first ≠ second →
    endpoint? capabilities first = none → endpoint? capabilities second = none →
      words upper first = words upper second → SameCredential capabilities first second

def DistinctCredentials (references : List String) : Prop :=
  ∀ first ∈ references, ∀ second ∈ references, first ≠ second →
    endpoint? capabilities first = none →
      ∀ credential, credentialOf capabilities second = some credential →
        credential.text = urlName (words upper first) → SameCredential capabilities first second

def PlainEndpoints (references : List String) : Prop :=
  ∀ reference ∈ references, ∀ capability endpoint, capabilities reference = some capability →
    capability.endpointUrl = some endpoint →
      ∀ name credential, capability.auth = .query name credential →
        '?' ∉ endpoint.toList ∧ '#' ∉ endpoint.toList

variable {char : Char}

theorem rstrip_cons (rest : List Char) (kept : char ≠ '_') :
  rstrip (char :: rest) = char :: rstrip rest := by
  simp [rstrip, kept]

theorem not_underscore (word : isWord char = true) : char ≠ '_' := by
  rintro rfl
  cases word

theorem cons_intercalate (char : Char) (word : List Char) (words : List (List Char)) :
  ['_'].intercalate ((char :: word) :: words) = char :: ['_'].intercalate (word :: words) := by
  cases words <;> simp [List.intercalate]

theorem rstrip_collapse (text : List Char) : ∃ word rest, text.splitOnP (!isWord ·) = word :: rest ∧
    rstrip (collapse false text) = ['_'].intercalate (word :: rest.filter (· ≠ [])) ∧
    rstrip (collapse true text) = ['_'].intercalate ((word :: rest).filter (· ≠ [])) ∧
    ∀ piece ∈ word :: rest, '_' ∉ piece := by
  induction text with
  | nil => exact ⟨[], [], by simp, by simp [collapse, rstrip], by simp [collapse, rstrip], by simp⟩
  | cons char text ih =>
    obtain ⟨word, rest, split, inWord, inGap, plain⟩ := ih
    cases kind : isWord char with
    | true =>
      have kept := not_underscore kind
      refine ⟨char :: word, rest, by simp [splitOnP_cons_eq_if_modifyHead, kind, split], ?_, ?_, ?_⟩
      · rw [collapse, if_pos kind, rstrip_cons _ kept, inWord, cons_intercalate]
      · rw [collapse, if_pos kind, rstrip_cons _ kept, inWord, filter_cons_of_pos (by simp),
          cons_intercalate]
      simpa [kept.symm] using plain
    | false =>
      refine ⟨[], word :: rest, by simp [splitOnP_cons_eq_if_modifyHead, kind, split], ?_, ?_, ?_⟩
      · simp only [collapse, kind, Bool.false_eq_true, if_false, rstrip, inGap]
        rcases shape : (word :: rest).filter (· ≠ []) with _ | ⟨first, others⟩
        · simp
        have member : first ∈ (word :: rest).filter (· ≠ []) := shape ▸ mem_cons_self
        have nonempty : first ≠ [] := by simpa using (mem_filter.mp member).2
        cases others <;> simp [List.intercalate, nonempty]
      · simpa [collapse, kind] using inGap
      simpa using plain

theorem dropWhile_collapse (text : List Char) :
  (collapse true text).dropWhile (· = '_') = collapse true text ∧
    (collapse false text).dropWhile (· = '_') = collapse true text := by
  induction text with
  | nil => exact ⟨rfl, rfl⟩
  | cons char text ih =>
    cases kind : isWord char with
    | true => simp [collapse, kind, not_underscore kind]
    | false => simp [collapse, kind, ih.1]

theorem envName_url : envName upper reference "URL" = urlName (words upper reference) := by
  obtain ⟨word, rest, split, _, inGap, _⟩ := rstrip_collapse (reference.toList.flatMap upper)
  rw [envName, strip, (dropWhile_collapse _).2, inGap, urlName, words, split, String.append_assoc]
  rfl

theorem words_plain : ∀ word ∈ words upper reference, word ≠ [] ∧ '_' ∉ word := by
  obtain ⟨first, rest, split, _, _, plain⟩ := rstrip_collapse (reference.toList.flatMap upper)
  intro word member
  rw [words, split] at member
  obtain ⟨listed, nonempty⟩ := mem_filter.mp member
  exact ⟨by simpa using nonempty, plain word listed⟩

theorem intercalate_eq_nil {words : List (List Char)} (nonempty : ∀ word ∈ words, word ≠ [])
  (empty : ['_'].intercalate words = []) : words = [] := by
  rcases words with _ | ⟨word, _ | ⟨next, words⟩⟩
  · rfl
  · exact absurd (by simpa using empty) (nonempty word mem_cons_self)
  simp [List.intercalate] at empty

theorem urlName_inj {first second : String}
  (same : urlName (words upper first) = urlName (words upper second)) :
  words upper first = words upper second := by
  have texts : ['_'].intercalate (words upper first) = ['_'].intercalate (words upper second) := by
    simpa [urlName, String.ext_iff] using same
  have clean := words_plain upper first
  have clean' := words_plain upper second
  by_cases empty : words upper first = []
  · rw [empty] at texts ⊢
    exact (intercalate_eq_nil (fun word member => (clean' word member).1) texts.symm).symm
  by_cases empty' : words upper second = []
  · rw [empty'] at texts ⊢
    exact intercalate_eq_nil (fun word member => (clean word member).1) texts
  have split := splitOn_intercalate '_' (fun word member => (clean word member).2) empty
  rw [texts, splitOn_intercalate '_' (fun word member => (clean' word member).2) empty'] at split
  exact split.symm

theorem mem_required {name : String} : name ∈ (mcpConfig upper capabilities reference).2 ↔
  endpoint? capabilities reference = none ∧ name = urlName (words upper reference) ∨
    ∃ credential, credentialOf capabilities reference = some credential ∧
    name = credential.text := by
  rcases found : capabilities reference with _ | ⟨_, url, _, auth⟩
  · simp [mcpConfig, endpoint?, credentialOf, found, envName_url]
  cases url <;> cases auth <;>
    simp [mcpConfig, endpoint?, credentialOf, McpAuth.credential?, found, envName_url]

variable {references : List String}

theorem separate_iff : Separate upper capabilities references ↔
  DistinctWords upper capabilities references ∧
    DistinctCredentials upper capabilities references := by
  simp only [Separate, mem_required]
  constructor
  · intro separate
    constructor
    · intro first listed second listed' other unregistered unregistered' same
      exact separate first listed second listed' other _ (.inl ⟨unregistered, rfl⟩)
        (.inl ⟨unregistered', congrArg urlName same⟩)
    intro first listed second listed' other unregistered credential found same
    exact separate first listed second listed' other _ (.inl ⟨unregistered, rfl⟩)
      (.inr ⟨credential, found, same.symm⟩)
  rintro ⟨words, credentials⟩ first listed second listed' other name (⟨unregistered, rfl⟩ |
    ⟨credential, found, rfl⟩) (⟨unregistered', same⟩ | ⟨credential', found', same⟩)
  · exact words first listed second listed' other unregistered unregistered' (urlName_inj upper same)
  · exact credentials first listed second listed' other unregistered credential' found' same.symm
  · obtain ⟨shared, there, here⟩ := credentials second listed' first listed other.symm
      unregistered' credential found same
    exact ⟨shared, here, there⟩
  have equal : credential = credential' := by
    cases credential
    cases credential'
    cases same
    rfl
  exact ⟨credential, found, equal ▸ found'⟩

theorem hash_quote (text : String) : '#' ∉ (quote text).toList := by
  have digits : ∀ digit < 16, (Nat.digitChar digit).toUpper ≠ '#' := by decide
  simp only [quote, String.toList_ofList, mem_flatMap, not_exists, not_and]
  intro byte _ member
  split at member
  · next kept =>
    rw [← mem_singleton.mp member] at kept
    cases kept
  rcases mem_cons.mp member with same | member
  · cases same
  have small : byte.toNat < 256 := byte.toNat_lt
  rcases mem_cons.mp member with same | member
  · exact digits _ (by omega) same.symm
  exact digits _ (by omega) (mem_singleton.mp member).symm

theorem hash_parameter (name : String) (credential : CredentialReference) :
  '#' ∉ (quote name ++ "=" ++ placeholder credential.text).toList := by
  have plain : '#' ∉ credential.text.toList := fun member => nomatch credential.plain _ member
  simp [placeholder, hash_quote, plain]

variable {symbol : Char}

theorem uncut {text : List Char} (plain : symbol ∉ text) :
  text.takeWhile (· ≠ symbol) = text ∧ text.dropWhile (· ≠ symbol) = [] := by
  have all : ∀ char ∈ text, decide (char ≠ symbol) = true :=
    fun char member => decide_eq_true fun same => plain (same ▸ member)
  exact ⟨takeWhile_eq_self_iff.mpr all, dropWhile_eq_nil_iff.mpr all⟩

theorem cut {before : List Char} (after : List Char)
  (plain : symbol ∉ before) : (before ++ symbol :: after).takeWhile (· ≠ symbol) = before ∧
    (before ++ symbol :: after).dropWhile (· ≠ symbol) = symbol :: after := by
  have all : ∀ char ∈ before, decide (char ≠ symbol) = true :=
    fun char member => decide_eq_true fun same => plain (same ▸ member)
  rw [takeWhile_append_of_pos all, dropWhile_append_of_pos all]
  simp

theorem extends_iff {endpoint parameter : List Char} (plain : '#' ∉ parameter) :
  Extends endpoint (endpoint ++ '?' :: parameter) parameter ↔ '?' ∉ endpoint ∧ '#' ∉ endpoint := by
  constructor
  · intro kept
    have noFragment : '#' ∉ endpoint := by
      intro member
      obtain ⟨before, after, rfl, first⟩ := eq_append_cons_of_mem member
      have fragment := kept.fragment
      rw [fragmentOf, fragmentOf, append_assoc, cons_append, (cut _ first).2,
        (cut _ first).2] at fragment
      simp at fragment
    refine ⟨fun member => ?_, noFragment⟩
    obtain ⟨before, after, rfl, first⟩ := eq_append_cons_of_mem member
    have query := kept.query
    rw [queryOf, queryOf, (uncut (by simp_all)).1, (uncut noFragment).1, append_assoc,
      cons_append, (cut _ first).2, (cut _ first).2] at query
    by_cases empty : after = []
    · simp [empty] at query
    simp [empty] at query
  rintro ⟨noQuery, noFragment⟩
  have whole := uncut (show '#' ∉ endpoint ++ '?' :: parameter by simp_all)
  constructor
  · rw [baseOf, baseOf, whole.1, (uncut noFragment).1, (cut _ noQuery).1, (uncut noQuery).1]
  · rw [queryOf, queryOf, whole.1, (uncut noFragment).1, (cut _ noQuery).2, (uncut noQuery).2]
    rfl
  rw [fragmentOf, fragmentOf, whole.2, (uncut noFragment).2]

theorem intact_iff :
  Intact upper capabilities references ↔ PlainEndpoints capabilities references := by
  refine forall₅_congr fun reference _ capability endpoint found => forall_congr' fun registered => ?_
  have url : endpoint? capabilities reference = some endpoint := by
    rw [endpoint?, found]
    exact registered
  cases auth : capability.auth with
  | query name credential =>
    have composed : (mcpConfig upper capabilities reference).1.url.toList = endpoint.toList ++
      '?' :: (quote name ++ "=" ++ placeholder credential.text).toList := by
      simp [mcpConfig, found, auth, url]
    simp only [composed, extends_iff (hash_parameter name credential)]
    exact ⟨fun kept _ _ _ => kept, fun kept => kept name credential rfl⟩
  | none | bearer credential | header name credential => simp [mcpConfig, found, auth, url]

theorem separate_and_intact_iff (references : List String) :
  Separate upper capabilities references ∧ Intact upper capabilities references ↔
    DistinctWords upper capabilities references ∧
    DistinctCredentials upper capabilities references ∧
    PlainEndpoints capabilities references := by
  rw [separate_iff, intact_iff, and_assoc]

theorem twins_share : ¬ Separate (fun char => [char.toUpper]) (fun _ => none) ["a-b", "a_b"] := by
  intro separate
  obtain ⟨_, found, _⟩ := separate "a-b" (by simp) "a_b" (by simp) (by decide)
    "NEXAU_MCP_A_B_URL" (by decide +kernel) (by decide +kernel)
  cases found

end AgentHarness.Studio.NexauExport
