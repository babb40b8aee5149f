import AgentHarness.Hashing.Sha256
import Mathlib.Tactic.Ring

/-!
The digest of a release package: every path and every content behind its own length.
-/

namespace AgentHarness.Packages

open List

open Hashing (encode sha256)
open Hashing.Sha256 (bigEndian)

/-- A packaged file within the range of `to_bytes`, which raises beyond it. -/
structure PackageFile where
  path : String
  content : List UInt8
  pathFits : (encode path).length < 2 ^ 32
  contentFits : content.length < 2 ^ 64

def fileFeed (path : String) (content : List UInt8) : List UInt8 :=
  bigEndian 4 (encode path).length ++ encode path ++ bigEndian 8 content.length ++ content

def PackageFile.feed (file : PackageFile) : List UInt8 := fileFeed file.path file.content

/-- What `_package_hash` feeds the digest for the files in the order of their paths. -/
def packageFeed (files : List PackageFile) : List UInt8 := files.flatMap PackageFile.feed

def packageHash (files : List PackageFile) : String := sha256 (packageFeed files)

@[simp] theorem length_bigEndian (width number : Nat) : (bigEndian width number).length = width := by
  induction width with
  | zero => rfl
  | succ width ih => rw [bigEndian, length_cons, ih]

variable {width number other : Nat}

theorem bigEndian_mod (same : bigEndian width number = bigEndian width other) :
  number % 256 ^ width = other % 256 ^ width := by
  induction width with
  | zero => rw [pow_zero, Nat.mod_one, Nat.mod_one]
  | succ width ih =>
    obtain ⟨heads, tails⟩ := List.cons.inj same
    have digits : number / 256 ^ width % 256 = other / 256 ^ width % 256 := by
      have values := congrArg UInt8.toNat heads
      simpa only [UInt8.toNat_ofNat'] using values
    rw [Nat.mod_pow_succ, Nat.mod_pow_succ, ih tails, digits]

theorem bigEndian_inj (fits : number < 256 ^ width)
  (fits' : other < 256 ^ width) (same : bigEndian width number = bigEndian width other) :
  number = other := by
  have remainders := bigEndian_mod same
  rwa [Nat.mod_eq_of_lt fits, Nat.mod_eq_of_lt fits'] at remainders

theorem framed_inj {width : Nat} {field other rest rest' : List UInt8}
  (fits : field.length < 256 ^ width) (fits' : other.length < 256 ^ width)
  (same : bigEndian width field.length ++ (field ++ rest) =
    bigEndian width other.length ++ (other ++ rest')) :
  field = other ∧ rest = rest' := by
  obtain ⟨lengths, fields⟩ := append_inj same (by rw [length_bigEndian, length_bigEndian])
  exact append_inj fields (bigEndian_inj fits fits' lengths)

theorem PackageFile.feed_inj {file other : PackageFile} {rest rest' : List UInt8}
  (same : file.feed ++ rest = other.feed ++ rest') : file = other ∧ rest = rest' := by
  simp only [feed, fileFeed, append_assoc] at same
  obtain ⟨paths, contents⟩ := framed_inj file.pathFits other.pathFits same
  obtain ⟨contents, rest_eq⟩ := framed_inj file.contentFits other.contentFits contents
  refine ⟨?_, rest_eq⟩
  cases file
  cases other
  cases Hashing.encode_inj paths
  cases contents
  rfl

theorem PackageFile.feed_ne_nil (file : PackageFile) : file.feed ≠ [] := by
  apply ne_nil_of_length_pos
  simp only [feed, fileFeed, length_append, length_bigEndian]
  omega

variable {files others : List PackageFile}

theorem packageFeed_inj (same : packageFeed files = packageFeed others) : files = others := by
  induction files generalizing others with
  | nil =>
    cases others with
    | nil => rfl
    | cons other others =>
      exact absurd (append_eq_nil_iff.mp same.symm).1 other.feed_ne_nil
  | cons file files ih =>
    cases others with
    | nil =>
      exact absurd (append_eq_nil_iff.mp same).1 file.feed_ne_nil
    | cons other others =>
      obtain ⟨rfl, rest⟩ := PackageFile.feed_inj same
      rw [ih rest]

theorem packageHash_inj
  (collisionFree : Hashing.CollisionFree [packageFeed files, packageFeed others])
  (same : packageHash files = packageHash others) : files = others :=
  packageFeed_inj (collisionFree _ mem_cons_self _ (mem_cons_of_mem _ mem_cons_self) same)

end AgentHarness.Packages
