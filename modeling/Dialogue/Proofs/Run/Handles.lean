import Dialogue.Proofs.Flow.Resolution
import Dialogue.Run.Resumption
import Mathlib.Data.List.Perm.Basic

/-!
# Positional handles

Where the ways out of a condition are told apart by the places of its branches alone, an answer
leaves by the handle of the branch that it matches, unless the id of that branch reads as the place
of another one: of the two handles the one that is declared first is then taken
(`routeCondition_positional`).
-/
namespace Dialogue

/-- The selector that names a branch by its place. -/
def handle (place : Nat) : String := s!"branch-{place}"

theorem handle_injective : Function.Injective handle := by
  intro i j h
  exact Number.eq_of_toString_eq ((String.append_right_inj "branch-").mp h)

theorem handle_ne_toString (i j : Nat) : handle i ≠ toString j := by
  intro h
  have hmem : 'b' ∈ Nat.toDigits 10 j := by
    have htext := congrArg String.toList h
    rw [show toString j = String.ofList (Nat.toDigits 10 j) from rfl, String.toList_ofList] at htext
    rw [← htext]
    simp [handle, toString]
  have hdigit := Nat.isDigit_of_mem_toDigits (by decide) (by decide) hmem
  revert hdigit
  decide

namespace Branch

/-- The id of a branch reads as a place among the branches. -/
def Spells (b : Branch) (place : Nat) : Prop := b.id = toString place ∨ b.id = handle place

instance (b : Branch) (place : Nat) : Decidable (b.Spells place) :=
  inferInstanceAs (Decidable (_ ∨ _))

variable {b : Branch} {i j : Nat}

theorem Spells.unique (hi : b.Spells i) (hj : b.Spells j) : i = j := by
  rcases hi with hi | hi
  · rcases hj with hj | hj
    · exact Number.eq_of_toString_eq (hi.symm.trans hj)
    · exact absurd (hj.symm.trans hi) (handle_ne_toString j i)
  · rcases hj with hj | hj
    · exact absurd (hi.symm.trans hj) (handle_ne_toString i j)
    · exact handle_injective (hi.symm.trans hj)

theorem handle_mem_selectors : handle j ∈ b.selectors (toString i) ↔ j = i ∨ b.Spells j := by
  have hown : handle j = s!"branch-{toString i}" ↔ j = i :=
    ⟨fun h => handle_injective h, fun h => h ▸ rfl⟩
  have hnamed : handle j = s!"branch-{b.id}" ↔ toString j = b.id :=
    String.append_right_inj "branch-"
  have hsource : handle j ≠ s!"source-{toString i}" := by
    intro h
    have htext := congrArg String.toList h
    simp [handle, toString] at htext
  simp only [selectors, List.mem_cons, List.not_mem_nil, or_false, hown, hnamed, hsource, Spells]
  rw [eq_comm (a := b.id), eq_comm (a := b.id), or_comm (a := toString j = b.id)]

end Branch

namespace Flow

/-- The ways out of a step carry the handles of so many places, one each. -/
def Positional (flow : Flow) (node : Node) (places : Nat) : Prop :=
  ((flow.outgoing node.id).map (·.selector)).Perm
    ((List.range places).map fun i => some (handle i))

/-- The id of a branch reads as another place, whose handle is declared before that of its own. -/
def Diverts (flow : Flow) (node : Node) (b : Branch) (place other : Nat) : Prop :=
  other ≠ place ∧ b.Spells other ∧
    ((flow.outgoing node.id).map (·.selector)).idxOf (some (handle other)) <
      ((flow.outgoing node.id).map (·.selector)).idxOf (some (handle place))

/-- The place whose handle a branch leaves by. -/
def LeavesBy (flow : Flow) (node : Node) (b : Branch) (place other : Nat) : Prop :=
  flow.Diverts node b place other ∨ other = place ∧ ∀ m, ¬ flow.Diverts node b place m

variable {flow : Flow} {node : Node} {places place other : Nat} {b : Branch} {edge : Edge}

theorem Positional.nodup (h : flow.Positional node places) :
    ((flow.outgoing node.id).map (·.selector)).Nodup :=
  h.symm.nodup (List.nodup_range.map fun _ _ hij => handle_injective (Option.some.inj hij))

theorem Positional.exists_edge (h : flow.Positional node places) (hp : place < places) :
    ∃ edge ∈ flow.outgoing node.id, edge.selector = some (handle place) := by
  have hmem : some (handle place) ∈ (flow.outgoing node.id).map (·.selector) :=
    h.mem_iff.mpr (List.mem_map.mpr ⟨place, List.mem_range.mpr hp, rfl⟩)
  exact List.mem_map.mp hmem

theorem Positional.exists_place (h : flow.Positional node places)
    (he : edge ∈ flow.outgoing node.id) :
    ∃ place < places, edge.selector = some (handle place) := by
  obtain ⟨place, hp, hs⟩ := List.mem_map.mp (h.mem_iff.mp (List.mem_map_of_mem he))
  exact ⟨place, List.mem_range.mp hp, hs.symm⟩

theorem exists_leavesBy (h : flow.Positional node places) (hp : place < places) (b : Branch) :
    ∃ other < places, flow.LeavesBy node b place other := by
  by_cases hd : ∃ m, flow.Diverts node b place m
  · obtain ⟨m, hm⟩ := hd
    have hmem : some (handle m) ∈ (flow.outgoing node.id).map (·.selector) :=
      List.idxOf_lt_length_iff.mp (hm.2.2.trans_le List.idxOf_le_length)
    obtain ⟨edge, he, hs⟩ := List.mem_map.mp hmem
    obtain ⟨m', hm', hs'⟩ := h.exists_place he
    cases handle_injective (Option.some.inj (hs.symm.trans hs'))
    exact ⟨m, hm', .inl hm⟩
  · exact ⟨place, hp, .inr ⟨rfl, not_exists.mp hd⟩⟩

theorem LeavesBy.branchEdge? (h : flow.LeavesBy node b place other)
    (hp : flow.Positional node places) (he : edge ∈ flow.outgoing node.id)
    (hs : edge.selector = some (handle other)) :
    flow.branchEdge? node (toString place) b = some edge := by
  obtain ⟨before, after, hsplit⟩ := List.append_of_mem he
  have hnodup := hp.nodup
  rw [hsplit, List.map_append, List.map_cons] at hnodup
  have hfresh : some (handle other) ∉ before.map (·.selector) := fun hmem =>
    (List.nodup_append.mp hnodup).2.2 _ hmem _ (hs ▸ List.mem_cons_self) rfl
  refine List.find?_eq_some_iff_append.mpr ⟨?_, before, after, hsplit, fun a ha => ?_⟩
  · rw [hs, Option.any_some, List.contains_iff_mem, Branch.handle_mem_selectors]
    exact h.elim (fun hd => .inr hd.2.1) fun ho => .inl ho.1
  · have hmem : a ∈ flow.outgoing node.id := hsplit ▸ List.mem_append_left _ ha
    obtain ⟨m, -, hm⟩ := hp.exists_place hmem
    have hne : m ≠ other := by
      rintro rfl
      exact hfresh (hm ▸ List.mem_map_of_mem ha)
    have hearlier : ((flow.outgoing node.id).map (·.selector)).idxOf (some (handle m)) <
        ((flow.outgoing node.id).map (·.selector)).idxOf (some (handle other)) := by
      have hbefore : some (handle m) ∈ before.map (·.selector) := hm ▸ List.mem_map_of_mem ha
      rw [hsplit, List.map_append, List.idxOf_append_of_mem hbefore,
        List.idxOf_append_of_notMem hfresh]
      exact Nat.lt_add_right _ (List.idxOf_lt_length_iff.mpr hbefore)
    -- neither the handle of the place itself nor the one that the id spells comes so early
    have hother : ¬ (m = place ∨ b.Spells m) := by
      rintro (rfl | hspells)
      · rcases h with hd | ⟨ho, -⟩
        · exact absurd hearlier (Nat.lt_asymm hd.2.2)
        · exact hne ho.symm
      · rcases h with hd | ⟨rfl, hnone⟩
        · exact hne (hspells.unique hd.2.1)
        · exact hnone m ⟨hne, hspells, hearlier⟩
    rw [← Branch.handle_mem_selectors] at hother
    simpa [hm] using hother

end Flow

namespace Engine

variable {e : Engine} {node : Node} {c : ConditionConfig} {text : String} {place : Nat}

theorem exists_branch (h : resolveBranch text c.branches = some place) :
    ∃ b, c.branches[place]? = some b := by
  unfold resolveBranch at h
  dsimp only at h
  split at h
  · cases h
  · exact ⟨_, List.getElem?_eq_getElem (List.findIdx?_eq_some_iff_getElem.mp h).1⟩

theorem routeCondition_of_branchEdge? (hc : node.config = .condition c)
    (hplace : resolveBranch text c.branches = some place) {b : Branch}
    (hb : c.branches[place]? = some b) {edge : Edge}
    (hedge : e.flow.branchEdge? node (toString place) b = some edge) {target : Node}
    (ht : e.flow.node? edge.target = some target) (run : Run) :
    ∃ r, e.routeCondition node run text = .ok (r, ⟨some target, false⟩) := by
  simp only [routeCondition, hc, hplace, hb, branchTaken, hedge, ht, leaveBy]
  exact ⟨_, rfl⟩

/-- A matched branch leaves by the edge that carries the handle of its place, or, where its id reads
as another place whose handle is declared before, by the edge that carries that one; and unless that
edge strays, the answer leads to its target. So two branches leave through the same edge only where
one of them is diverted so. -/
theorem routeCondition_positional (ha : e.flow.Accepted) (hc : node.config = .condition c)
    (hp : e.flow.Positional node c.branches.length) :
    (∀ text place, resolveBranch text c.branches = some place →
      ∃ b, c.branches[place]? = some b ∧ ∃ other < c.branches.length,
        e.flow.LeavesBy node b place other ∧ ∃ edge ∈ e.flow.outgoing node.id,
          edge.selector = some (handle other) ∧
          e.flow.branchEdge? node (toString place) b = some edge ∧
          (¬ e.flow.Strays edge → ∃ target, e.flow.node? edge.target = some target ∧
            ∀ run, ∃ r, e.routeCondition node run text = .ok (r, ⟨some target, false⟩))) ∧
      ∀ place place' b b', c.branches[place]? = some b → c.branches[place']? = some b' →
        place ≠ place' →
        e.flow.branchEdge? node (toString place) b = e.flow.branchEdge? node (toString place') b' →
        (∃ m, e.flow.Diverts node b place m) ∨ ∃ m, e.flow.Diverts node b' place' m := by
  constructor
  · intro text place hplace
    obtain ⟨b, hb⟩ := exists_branch hplace
    obtain ⟨other, hother, hleaves⟩ :=
      Flow.exists_leavesBy hp (List.getElem?_eq_some_iff.mp hb).1 b
    obtain ⟨edge, he, hs⟩ := hp.exists_edge hother
    have hedge := hleaves.branchEdge? hp he hs
    refine ⟨b, hb, other, hother, hleaves, edge, he, hs, hedge, fun hstray => ?_⟩
    have hfound : e.flow.node? edge.target ≠ none := fun hnone =>
      hstray ((ha.node?_target_eq_none_iff (Flow.edge_mem_of_outgoing he).1).mp hnone)
    obtain ⟨target, ht⟩ := Option.ne_none_iff_exists'.mp hfound
    exact ⟨target, ht, routeCondition_of_branchEdge? hc hplace hb hedge ht⟩
  · intro place place' b b' hb hb' hne hsame
    by_contra hplain
    obtain ⟨hown, hown'⟩ := not_or.mp hplain
    obtain ⟨edge, he, hs⟩ := hp.exists_edge (List.getElem?_eq_some_iff.mp hb).1
    obtain ⟨edge', he', hs'⟩ := hp.exists_edge (List.getElem?_eq_some_iff.mp hb').1
    have hleaves : e.flow.LeavesBy node b place place := .inr ⟨rfl, not_exists.mp hown⟩
    have hleaves' : e.flow.LeavesBy node b' place' place' := .inr ⟨rfl, not_exists.mp hown'⟩
    rw [hleaves.branchEdge? hp he hs, hleaves'.branchEdge? hp he' hs'] at hsame
    cases hsame
    exact hne (handle_injective (Option.some.inj (hs.symm.trans hs')))

end Engine

/-! A question whose first branch goes by the name of the place of the second. -/

namespace Poll

def given : Json := .object [
  ("nodes", .list [
    .object [("id", .str "entry"), ("type", .str "start")],
    .object [("id", .str "choice"), ("type", .str "condition"), ("config", .object [
      ("branches", .list [
        .object [("id", .str "branch-1"), ("keywords", .list [.str "yes"])],
        .object [("id", .str "no"), ("keywords", .list [.str "no"])]])])],
    .object [("id", .str "first"), ("type", .str "message")],
    .object [("id", .str "second"), ("type", .str "message")]]),
  ("edges", .list [
    .object [("source", .str "entry"), ("target", .str "choice")],
    .object [("source", .str "choice"), ("target", .str "second"),
      ("sourceHandle", .str "branch-1")],
    .object [("source", .str "choice"), ("target", .str "first"),
      ("sourceHandle", .str "branch-0")]])]

def question : ConditionConfig :=
  ⟨"keyword", [⟨"branch-1", "", "", some ["yes"]⟩, ⟨"no", "", "", some ["no"]⟩]⟩

def choice : Node := ⟨"choice", "condition", "condition", .condition question⟩

def first : Node := ⟨"first", "message", "message", .message ⟨"", .zero, false⟩⟩

def second : Node := ⟨"second", "message", "message", .message ⟨"", .zero, false⟩⟩

def toFirst : Edge := ⟨none, "choice", "first", some "branch-0", none⟩

def toSecond : Edge := ⟨none, "choice", "second", some "branch-1", none⟩

def engine : Engine where
  flow := {
    id := "", name := "", description := "", department := none
    nodes := [⟨"entry", "start", "start", .start ⟨"first_message", [], none⟩⟩, choice, first,
      second]
    edges := [⟨none, "entry", "choice", none, none⟩, toSecond, toFirst] }
  settings := default

theorem check_given : Flow.check given = .ok engine.flow := by decide +kernel

theorem positional : engine.flow.Positional choice question.branches.length := .swap _ _ _

/-- The answer that matches the second branch leads to the step that its own handle leads to. -/
theorem no_routed : resolveBranch "no" question.branches = some 1 ∧
    toSecond.selector = some (handle 1) ∧
    ∀ run, ∃ r, engine.routeCondition choice run "no" = .ok (r, ⟨some second, false⟩) := by
  have hplace : resolveBranch "no" question.branches = some 1 := by decide +kernel
  obtain ⟨b, hb, other, hother, hleaves, edge, he, hs, -, htarget⟩ :=
    (Engine.routeCondition_positional (Flow.accepted_of_check check_given) rfl positional).1
      "no" 1 hplace
  cases hb
  have hown : other = 1 := by
    rcases hleaves with ⟨hne, hspells, -⟩ | ⟨hown, -⟩
    · have hzero : other = 0 := by
        have : other < 2 := hother
        omega
      subst hzero
      revert hspells
      decide
    · exact hown
  subst hown
  have hedge : edge = toSecond := by
    have hout : edge ∈ [toSecond, toFirst] := he
    simp only [List.mem_cons, List.not_mem_nil, or_false] at hout
    rcases hout with rfl | rfl
    · rfl
    · revert hs
      decide
  subst hedge
  obtain ⟨target, ht, hroute⟩ := htarget fun ⟨step, hmem, htrim, hpadded⟩ => by
    revert step
    decide +kernel
  have hsecond : engine.flow.node? toSecond.target = some second := by decide
  cases ht.symm.trans hsecond
  exact ⟨hplace, rfl, hroute⟩

/-- The answer that matches the first branch does not: its id is declared as a way out before its
place is, and both branches leave through one edge. -/
theorem yes_diverted : Flow.check given = .ok engine.flow ∧
    engine.flow.Positional choice question.branches.length ∧
    resolveBranch "yes" question.branches = some 0 ∧
    toFirst ∈ engine.flow.outgoing choice.id ∧ toFirst.selector = some (handle 0) ∧
    engine.flow.node? toFirst.target = some first ∧
    (∀ run, ∃ r, engine.routeCondition choice run "yes" = .ok (r, ⟨some second, false⟩)) ∧
    first ≠ second ∧
    question.branches.mapIdx (fun i b => engine.flow.branchEdge? choice (toString i) b) =
      [some toSecond, some toSecond] := by
  have hplace : resolveBranch "yes" question.branches = some 0 := by decide +kernel
  have hedge : engine.flow.branchEdge? choice (toString 0) ⟨"branch-1", "", "", some ["yes"]⟩ =
      some toSecond := by decide
  exact ⟨check_given, positional, hplace, by decide, by decide, by decide,
    Engine.routeCondition_of_branchEdge? rfl hplace rfl hedge (by decide), by decide, by decide⟩

end Poll
end Dialogue
