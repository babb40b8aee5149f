import Mathlib.Data.Option.Basic
import AgentHarness.Text.Json

/-!
The members of JSON objects as a dict keeps them, and the `add` and `replace` operations of JSON
Patch at JSON pointers that go through objects and may end behind an array's last item.
-/

namespace Text

open List

namespace Json

variable {members : List (String × Json)} {name other : String} {value : Json}

def member? (members : List (String × Json)) (name : String) : Option Json :=
  match members with
  | [] => none
  | member :: rest => if member.1 = name then some member.2 else member? rest name

def setMember (members : List (String × Json)) (name : String) (value : Json) :
  List (String × Json) :=
  match members with
  | [] => [(name, value)]
  | member :: rest =>
    if member.1 = name then (name, value) :: rest else member :: setMember rest name value

@[simp] theorem member?_setMember_self :
  member? (setMember members name value) name = some value := by
  induction members with
  | nil => simp [setMember, member?]
  | cons member rest ih =>
    by_cases same : member.1 = name
    · simp [setMember, member?, same]
    simp [setMember, member?, same, ih]

theorem member?_setMember_other (different : other ≠ name) :
  member? (setMember members name value) other = member? members other := by
  induction members with
  | nil => simp [setMember, member?, different.symm]
  | cons member rest ih =>
    by_cases same : member.1 = name
    · simp [setMember, member?, same, different.symm]
    simp [setMember, member?, same, ih]

theorem setMember_of_member? (there : member? members name = some value) :
  setMember members name value = members := by
  induction members with
  | nil => cases there
  | cons member rest ih =>
    by_cases same : member.1 = name
    · simp only [member?, if_pos same, Option.some.injEq] at there
      subst same there
      simp [setMember]
    simp only [member?, if_neg same] at there
    simp [setMember, if_neg same, ih there]

/-- `add` sets a member, or puts an item behind an array's last one. -/
def add (value : Json) : List String → Json → Option Json
  | [], _ => some value
  | name :: rest, .object members =>
    match member? members name with
    | some child => (add value rest child).map fun child => .object (setMember members name child)
    | none => if rest = [] then some (.object (setMember members name value)) else none
  | name :: rest, .array items =>
    if name = "-" ∧ rest = [] then some (.array (items ++ [value])) else none
  | _ :: _, _ => none

/-- `replace` needs something at its place. -/
def replace (value : Json) : List String → Json → Option Json
  | [], _ => some value
  | name :: rest, .object members =>
    (member? members name).bind fun child =>
      (replace value rest child).map fun child => .object (setMember members name child)
  | _ :: _, _ => none

theorem add_member :
  add value [name] (.object members) = some (.object (setMember members name value)) := by
  cases there : member? members name <;> simp [add, there]

theorem add_below {child : Json} {rest : List String} (there : member? members name = some child) :
  add value (name :: rest) (.object members) =
    (add value rest child).map fun child => .object (setMember members name child) := by
  simp [add, there]

end Json

def prepend (char : Char) : List (List Char) → List (List Char)
  | [] => [[char]]
  | token :: tokens => (char :: token) :: tokens

def referenceTokens : List Char → List (List Char)
  | [] => [[]]
  | '/' :: rest => [] :: referenceTokens rest
  | '~' :: '0' :: rest => prepend '~' (referenceTokens rest)
  | '~' :: '1' :: rest => prepend '/' (referenceTokens rest)
  | char :: rest => prepend char (referenceTokens rest)

def pointer (path : String) : Option (List String) :=
  match path.toList with
  | [] => some []
  | '/' :: rest => some ((referenceTokens rest).map String.ofList)
  | _ => none

theorem pointer_slash {path : String} {rest : List Char} (spelled : path.toList = '/' :: rest) :
  pointer path = some ((referenceTokens rest).map String.ofList) := by
  unfold pointer
  simp [spelled]

def Unescaped (token : List Char) : Prop := ∀ char ∈ token, char ≠ '/' ∧ char ≠ '~'

instance (token : List Char) : Decidable (Unescaped token) :=
  List.decidableBAll (fun char => char ≠ '/' ∧ char ≠ '~') token

theorem referenceTokens_cons {char : Char} (rest : List Char) (plain : char ≠ '/' ∧ char ≠ '~') :
  referenceTokens (char :: rest) = prepend char (referenceTokens rest) := by
  rw [referenceTokens]
  · exact fun slash => plain.1 slash
  · exact fun _ tilde => absurd tilde plain.2
  exact fun _ tilde => absurd tilde plain.2

theorem referenceTokens_unescaped {token : List Char} (unescaped : Unescaped token) :
  referenceTokens token = [token] := by
  induction token with
  | nil => rfl
  | cons char rest ih =>
    rw [referenceTokens_cons rest (unescaped char mem_cons_self),
      ih fun other member => unescaped other (mem_cons_of_mem _ member), prepend]

theorem referenceTokens_slash {token : List Char} (rest : List Char) (unescaped : Unescaped token) :
  referenceTokens (token ++ '/' :: rest) = token :: referenceTokens rest := by
  induction token with
  | nil => simp only [nil_append, referenceTokens]
  | cons char tail ih =>
    rw [cons_append, referenceTokens_cons _ (unescaped char mem_cons_self),
      ih fun other member => unescaped other (mem_cons_of_mem _ member), prepend]

inductive PatchOperation
  | add (path : String) (value : Json)
  | replace (path : String) (value : Json)

def PatchOperation.apply (document : Json) : PatchOperation → Option Json
  | .add path value => (pointer path).bind fun tokens => Json.add value tokens document
  | .replace path value => (pointer path).bind fun tokens => Json.replace value tokens document

def applyPatch (patch : List PatchOperation) (document : Json) : Option Json :=
  patch.foldlM PatchOperation.apply document

theorem applyPatch_append (patch more : List PatchOperation) (document : Json) :
  applyPatch (patch ++ more) document = (applyPatch patch document).bind (applyPatch more) :=
  foldlM_append

end Text
