import Dialogue.Flow.Basic
import Dialogue.Text.Blank

/-!
# Choosing a branch

The first branch with a keyword that occurs in the answer is taken, without regard to case.
-/
namespace Dialogue

namespace Branch

/-- The keywords as declared; without any, the branch's value and label. -/
def ownKeywords (b : Branch) : List String := b.keywords.getD [b.value, b.label]

/-- The keywords that are looked for: trimmed, in lower case, blank ones left out. -/
def keywordTexts (b : Branch) : List String :=
  (b.ownKeywords.map Text.trim |>.filter (· ≠ "")).map Text.lower

def matchesText (b : Branch) (lowered : List Char) : Bool :=
  b.keywordTexts.any fun k => Text.occurs k.toList lowered

/-- The selectors of edges that leave by the branch, which stands at `place`. -/
def selectors (b : Branch) (place : String) : List String :=
  [s!"branch-{place}", b.id, s!"branch-{b.id}", s!"source-{place}"]

end Branch

/-- The place of the first branch that the answer matches. -/
def resolveBranch (answer : String) (branches : List Branch) : Option Nat :=
  let lowered := Text.trimChars (Text.lower answer).toList
  if lowered = [] then none else branches.findIdx? (·.matchesText lowered)

namespace Flow

/-- The edge that leaves a step without a choice: from a condition the first one without a
selector, if there is one, and otherwise the first. -/
def unconditionalEdge? (flow : Flow) (node : Node) : Option Edge :=
  let edges := flow.outgoing node.id
  if node.type = NodeKind.condition.name then
    (edges.find? fun e => e.selector.getD "" = "").orElse fun _ => edges.head?
  else edges.head?

def next? (flow : Flow) (node : Node) : Option Node :=
  (flow.unconditionalEdge? node).bind fun e => flow.node? e.target

/-- The target of the first edge, whatever its selector. -/
def firstTarget? (flow : Flow) (node : Node) : Option Node :=
  (flow.outgoing node.id).head?.bind fun e => flow.node? e.target

/-- The first edge that leaves by a branch. -/
def branchEdge? (flow : Flow) (node : Node) (place : String) (branch : Branch) : Option Edge :=
  (flow.outgoing node.id).find? fun e =>
    e.selector.any fun s => (branch.selectors place).contains s

end Flow
end Dialogue
