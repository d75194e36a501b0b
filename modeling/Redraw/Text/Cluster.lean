import Redraw.Text.Emoji
import Redraw.Text.Marks

/-
  Extended grapheme clusters: the user-visible characters of
  a text.

  `clusters` splits a text by the boundary rules of Unicode
  text segmentation.  The rules look at one code point and at
  a summary of what stands before it.

  Stated here:
    * `flatten_clusters`: no code point is lost or moved
    * `ne_nil_of_mem_clusters`: no cluster is empty
-/

namespace Redraw

------------------------------------------------------------
-- Boundary Classes
------------------------------------------------------------

/- How a code point takes part in cluster boundaries. -/
inductive BreakClass
  | carriageReturn
  | lineFeed
  | standalone
  | extending
  | joiner
  | regional
  | prepended
  | spacing
  | leadingJamo
  | vowelJamo
  | trailingJamo
  | openSyllable
  | closedSyllable
  | pictograph
  | consonant
  | other
  deriving DecidableEq

namespace BreakClass

/- The boundary class of a code point. -/
def ofChar (c : Char) : BreakClass :=
  let n := c.toNat
  if n = 0x0D then .carriageReturn
  else if n = 0x0A then .lineFeed
  else if n < 0x7F ∧ 0x20 ≤ n then .other
  else if n = 0x200D then .joiner
  else if CodeSet.standalone.contains c then .standalone
  else if CodeSet.graphemeExtend.contains c then .extending
  else if 0x1F3FB ≤ n ∧ n ≤ 0x1F3FF then .extending
  else if 0x1F1E6 ≤ n ∧ n ≤ 0x1F1FF then .regional
  else if CodeSet.prepended.contains c then .prepended
  else if CodeSet.spacingMark.contains c then .spacing
  else if 0x1100 ≤ n ∧ n ≤ 0x115F then .leadingJamo
  else if 0xA960 ≤ n ∧ n ≤ 0xA97C then .leadingJamo
  else if 0x1160 ≤ n ∧ n ≤ 0x11A7 then .vowelJamo
  else if 0xD7B0 ≤ n ∧ n ≤ 0xD7C6 then .vowelJamo
  else if n = 0x16D63 then .vowelJamo
  else if 0x16D67 ≤ n ∧ n ≤ 0x16D6A then .vowelJamo
  else if 0x11A8 ≤ n ∧ n ≤ 0x11FF then .trailingJamo
  else if 0xD7CB ≤ n ∧ n ≤ 0xD7FB then .trailingJamo
  else if 0xAC00 ≤ n ∧ n ≤ 0xD7A3 then
    if (n - 0xAC00) % 28 = 0 then .openSyllable
    else .closedSyllable
  else if CodeSet.pictographic.contains c then .pictograph
  else if CodeSet.conjunctConsonant.contains c then .consonant
  else .other

end BreakClass

------------------------------------------------------------
-- What Stands Before a Boundary
------------------------------------------------------------

/- Progress through a chain of joined pictographs. -/
inductive PictographChain
  | outside
  | afterPictograph
  | afterJoiner
  deriving DecidableEq

/- Progress through an Indic conjunct. -/
inductive ConjunctChain
  | outside
  | afterConsonant
  | afterLinker
  deriving DecidableEq

/- What the boundary rules need of the text so far. -/
structure ClusterContext where
  last : BreakClass
  oddRegionals : Bool
  pictographs : PictographChain
  conjunct : ConjunctChain

namespace ClusterContext

/- The context at the start of a text. -/
def start : ClusterContext :=
  ⟨.standalone, false, .outside, .outside⟩

/- The pictograph chain after one more code point. -/
def nextPictographs
    (ctx : ClusterContext)
    (k : BreakClass) : PictographChain :=
  match k with
  | .pictograph => .afterPictograph
  | .extending =>
      if ctx.pictographs = .afterPictograph
      then .afterPictograph else .outside
  | .joiner =>
      if ctx.pictographs = .afterPictograph
      then .afterJoiner else .outside
  | _ => .outside

/-
  The conjunct after one more code point.  A non-joiner ends
  it, other extending marks keep it.
-/
def nextConjunct
    (ctx : ClusterContext)
    (c : Char)
    (k : BreakClass) : ConjunctChain :=
  if k = .consonant then .afterConsonant
  else if ctx.conjunct = .outside then .outside
  else if CodeSet.conjunctLinker.contains c then .afterLinker
  else if c.toNat = 0x200C then .outside
  else if k = .extending ∨ k = .joiner then ctx.conjunct
  else .outside

/- The context after one more code point of class `k`. -/
def push
    (ctx : ClusterContext)
    (c : Char)
    (k : BreakClass) : ClusterContext where
  last := k
  oddRegionals :=
    k = .regional &&
      !(ctx.last = .regional && ctx.oddRegionals)
  pictographs := ctx.nextPictographs k
  conjunct := ctx.nextConjunct c k

/- Whether a code point of class `k` continues the cluster. -/
def joins
    (ctx : ClusterContext)
    (k : BreakClass) : Bool :=
  match ctx.last, k with
  | .carriageReturn, .lineFeed => true
  | .standalone, _ => false
  | .carriageReturn, _ => false
  | .lineFeed, _ => false
  | _, .standalone => false
  | _, .carriageReturn => false
  | _, .lineFeed => false
  | .leadingJamo, .leadingJamo => true
  | .leadingJamo, .vowelJamo => true
  | .leadingJamo, .openSyllable => true
  | .leadingJamo, .closedSyllable => true
  | .openSyllable, .vowelJamo => true
  | .openSyllable, .trailingJamo => true
  | .vowelJamo, .vowelJamo => true
  | .vowelJamo, .trailingJamo => true
  | .closedSyllable, .trailingJamo => true
  | .trailingJamo, .trailingJamo => true
  | _, .extending => true
  | _, .joiner => true
  | _, .spacing => true
  | .prepended, _ => true
  | _, .consonant => ctx.conjunct = .afterLinker
  | .joiner, .pictograph => ctx.pictographs = .afterJoiner
  | .regional, .regional => ctx.oddRegionals
  | _, _ => false

end ClusterContext

------------------------------------------------------------
-- Splitting
------------------------------------------------------------

/-
  The rest of the cluster under way, and the clusters after
  it.
-/
def clustersFrom
    (ctx : ClusterContext) :
    List Char → List Char × List (List Char)
  | [] => ([], [])
  | c :: cs =>
      let k := BreakClass.ofChar c
      let (open', later) := clustersFrom (ctx.push c k) cs
      if ctx.joins k then (c :: open', later)
      else ([], (c :: open') :: later)

/- The grapheme clusters of a text, in order. -/
def clusters (text : List Char) : List (List Char) :=
  (clustersFrom .start text).2

/- Splitting from any context keeps every code point. -/
theorem flatten_clustersFrom
    (ctx : ClusterContext)
    (text : List Char) :
    (clustersFrom ctx text).1 ++
      (clustersFrom ctx text).2.flatten = text := by
  induction text generalizing ctx with
  | nil => rfl
  | cons c cs ih =>
      have h := ih (ctx.push c (BreakClass.ofChar c))
      simp only [clustersFrom]
      split <;> simp_all

/- At the start of a text nothing is under way. -/
theorem clustersFrom_start
    (text : List Char) :
    (clustersFrom .start text).1 = [] := by
  cases text <;> rfl

/- The clusters of a text make up the text. -/
theorem flatten_clusters
    (text : List Char) :
    (clusters text).flatten = text := by
  have h := flatten_clustersFrom .start text
  rwa [clustersFrom_start] at h

/- No cluster is empty. -/
theorem ne_nil_of_mem_clustersFrom
    {ctx : ClusterContext}
    {text cluster : List Char}
    (h : cluster ∈ (clustersFrom ctx text).2) :
    cluster ≠ [] := by
  induction text generalizing ctx with
  | nil => simp [clustersFrom] at h
  | cons c cs ih =>
      simp only [clustersFrom] at h
      split at h
      · exact ih h
      · rcases List.mem_cons.1 h with h | h
        · simp [h]
        · exact ih h

/- No cluster of a text is empty. -/
theorem ne_nil_of_mem_clusters
    {text cluster : List Char}
    (h : cluster ∈ clusters text) :
    cluster ≠ [] :=
  ne_nil_of_mem_clustersFrom h

end Redraw
