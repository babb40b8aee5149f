import Mathlib.Algebra.GroupWithZero.Nat
import Mathlib.Data.List.Infix
import Mathlib.Data.String.Basic
import AgentHarness.Knowledge.Chunking

/-!
BM25 and TF-IDF cosine retrieval with rank fusion and light reranking.

The arithmetic of scores is that of a type `F`, about which nothing is assumed: the
operations round as they like.  The Unicode tables and the order in which a set is iterated
are parameters of the search.
-/

namespace AgentHarness.Knowledge

open Collections

structure HybridKnowledgeSearch (F : Type) where
  (log sqrt : F → F)
  casefold : String → String
  /-- `\w`, of one character. -/
  isWord : Char → Bool
  /-- The order in which a set that was built from these members is iterated. -/
  iterated : List String → List String

structure RankedChunk (F : Type) where
  chunk : KnowledgeChunk
  score : F
  matchedTerms : List String

/-- `_CJK`. -/
def isCjk (char : Char) : Bool := 0x3400 ≤ char.toNat && char.toNat ≤ 0x9FFF

def runsOf (keep : Char → Bool) : List Char → List Char → List (List Char)
  | [], run => if run = [] then [] else [run.reverse]
  | char :: rest, run =>
    if keep char then runsOf keep rest (char :: run)
    else if run = [] then runsOf keep rest []
    else run.reverse :: runsOf keep rest []

def bigrams : List Char → List (List Char)
  | first :: second :: rest => [first, second] :: bigrams (second :: rest)
  | _ => []

namespace HybridKnowledgeSearch

variable {F : Type} (ranker : HybridKnowledgeSearch F)

def termsOf (raw : List Char) : List String :=
  let cjk := raw.filter isCjk
  (raw :: cjk.map (fun char => [char]) ++ bigrams cjk).map String.ofList

def tokenize (value : String) : List String :=
  let words := runsOf (fun char => ranker.isWord char && char != '_')
    (ranker.casefold value).toList []
  (words.flatMap termsOf).filter (fun term => term ≠ "")

/-- `item.token_terms or tokenize(item.content)`. -/
def corpusTerms (chunk : KnowledgeChunk) : List String :=
  if chunk.tokenTerms = [] then ranker.tokenize chunk.content else chunk.tokenTerms

/-- `" ".join(value.split())`. -/
def joinWords (value : String) : String :=
  " ".intercalate ((runsOf (fun char => !Text.isSpace char) value.toList []).map String.ofList)

variable (chunks : List KnowledgeChunk)

def chunkIdAt (index : Nat) : String := (chunks[index]?.map KnowledgeChunk.chunkId).getD ""

structure TermSums (F : Type) where
  (bm25 dot documentNorm queryNorm : F)

variable [Add F] [Sub F] [Mul F] [Div F] [Neg F] [NatCast F] [OfScientific F] [LT F] [DecidableLT F]
  [DecidableEq F]

def addTerm (corpus : List (List String)) (queryTerms terms : List String) (averageLength : F)
  (sums : TermSums F) (term : String) : TermSums F :=
  let documentFrequency := corpus.countP fun other => term ∈ other
  let inverse :=
    ranker.log (((corpus.length + 1 : Nat) : F) / ((documentFrequency + 1 : Nat) : F)) + 1.0
  let frequency : F := (terms.count term : Nat)
  let queryCount : F := (queryTerms.count term : Nat)
  let documentWeight := frequency * inverse
  let queryWeight := queryCount * inverse
  let denominator :=
    frequency + 1.5 * (1.0 - 0.75 + 0.75 * ((terms.length : Nat) : F) / averageLength)
  { bm25 :=
      if term ∈ queryTerms ∧ denominator ≠ 0.0 then
        sums.bm25 + inverse * frequency * (1.5 + 1.0) / denominator * queryCount
      else sums.bm25
    dot := sums.dot + documentWeight * queryWeight
    documentNorm := sums.documentNorm + documentWeight * documentWeight
    queryNorm := sums.queryNorm + queryWeight * queryWeight }

def scoresOf (corpus : List (List String)) (queryTerms : List String) (averageLength : F)
  (terms : List String) : F × F :=
  let sums := (ranker.iterated (terms.eraseDups ++ queryTerms.eraseDups)).foldl
    (ranker.addTerm corpus queryTerms terms averageLength) ⟨0.0, 0.0, 0.0, 0.0⟩
  (sums.bm25, if sums.documentNorm ≠ 0.0 ∧ sums.queryNorm ≠ 0.0 then
      sums.dot / ranker.sqrt (sums.documentNorm * sums.queryNorm)
    else 0.0)

def keyBefore (first second : F × String) : Bool :=
  if first.1 = second.1 then first.2 < second.2 else first.1 < second.1

/-- `sort(key=lambda item: (-item[1], chunks[item[0]].chunk_id))`. -/
def sortScores (scores : List (Nat × F)) : List (Nat × F) :=
  let key := fun item : Nat × F => (-item.2, chunkIdAt chunks item.1)
  scores.mergeSort fun first second => !keyBefore (key second) (key first)

def fuse (ranking : List (Nat × F)) (fused : Dict Nat F) : Dict Nat F :=
  ranking.zipIdx.foldl (fun fused item =>
    if 0.0 < item.1.2 then
      fused.set item.1.1
        ((fused.get? item.1.1).getD 0.0 + 1.0 / ((60 + (item.2 + 1) : Nat) : F))
    else fused) fused

def rerank (query : String) (queryTerms : List String) (chunks : List KnowledgeChunk)
  (corpus : List (List String)) (item : Nat × F) : Nat × F :=
  let queryFolded := ranker.casefold (joinWords query)
  let content := ranker.casefold ((chunks[item.1]?.map KnowledgeChunk.content).getD "")
  let terms := corpus[item.1]?.getD []
  let distinct := queryTerms.eraseDups
  let coverage : F :=
    ((distinct.countP (fun term => term ∈ terms) : Nat) : F) / ((distinct.length : Nat) : F)
  let phrase : F := if queryFolded ≠ "" ∧ queryFolded.toList <:+: content.toList then 1.0 else 0.0
  (item.1, item.2 + coverage * 0.01 + phrase * 0.02)

/-- `max(score for _, score in scored) or 1`. -/
def maximumOf (scored : List (Nat × F)) : F :=
  let maximum := scored.tail.foldl (fun best item => if best < item.2 then item.2 else best)
    ((scored.head?.map Prod.snd).getD 0.0)
  if maximum = 0.0 then 1.0 else maximum

/-- `max(1, …)` of the mean length. -/
def averageLength (corpus : List (List String)) : F :=
  let mean : F := (((corpus.map List.length).sum : Nat) : F) / ((corpus.length : Nat) : F)
  if 1.0 < mean then mean else 1.0

def search (query : String) (limit : Nat) : List (RankedChunk F) :=
  let queryTerms := ranker.tokenize query
  if chunks = [] ∨ queryTerms = [] then []
  else
    let corpus := chunks.map ranker.corpusTerms
    let scores := (corpus.map (ranker.scoresOf corpus queryTerms (averageLength corpus))).zipIdx
    let bm25 := sortScores chunks (scores.map fun item => (item.2, item.1.1))
    let vectors := sortScores chunks (scores.map fun item => (item.2, item.1.2))
    let fused := fuse vectors (fuse bm25 Dict.empty)
    let scored := sortScores chunks
      (fused.entries.map (ranker.rerank query queryTerms chunks corpus))
    (scored.take limit).filterMap (fun item =>
      (chunks[item.1]?).map (fun chunk =>
        let share := item.2 / maximumOf scored
        { chunk, score := if share < 1.0 then share else 1.0
          matchedTerms := (queryTerms.eraseDups.filter (fun term =>
            term ∈ corpus[item.1]?.getD [])).mergeSort (fun first second => first ≤ second) }))

end HybridKnowledgeSearch

end AgentHarness.Knowledge
