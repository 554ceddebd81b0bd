import Dialogue.Proofs.Run.Processing
import Mathlib.Data.List.Nodup
import Mathlib.Data.List.Perm.Subperm

/-!
# Courses through a flow

From a step the unconditional ways lead on to one step after another, whatever a run does. Where
every cycle among them is cut by a step that a walk stops at, no course comes to a step twice before
it comes to one of those (`Cut.nodup`).
-/
namespace Dialogue.Flow

/-- The step that so many unconditional ways lead to. -/
def ahead (flow : Flow) : Nat → Node → Option Node
  | 0, node => some node
  | n + 1, node => (flow.ahead n node).bind flow.next?

/-- Every cycle that the unconditional ways from a step lead to passes a step that a walk stops
at. -/
def Cut (flow : Flow) (origin : Node) : Prop :=
  ∀ i node, flow.ahead i origin = some node → ∀ p, 0 < p → flow.ahead p node = some node →
    ∃ q stop, flow.ahead q node = some stop ∧ stop.Stops

/-- The first steps of a course, none of which a walk stops at. -/
structure Course (flow : Flow) (origin : Node) (path : List Node) : Prop where
  ahead : ∀ i (hi : i < path.length), flow.ahead i origin = some path[i]
  passes : ∀ node ∈ path, ¬ node.Stops

variable {flow : Flow} {origin node : Node} {path : List Node}

theorem ahead_add (m n : Nat) (node : Node) :
    flow.ahead (m + n) node = (flow.ahead m node).bind (flow.ahead n) := by
  induction n with
  | zero =>
      cases h : flow.ahead m node with
      | none => simp
      | some next => simp [ahead]
  | succ n ih =>
      show (flow.ahead (m + n) node).bind flow.next? = _
      rw [ih, Option.bind_assoc]
      rfl

theorem ahead_mul {p : Nat} (h : flow.ahead p node = some node) (k : Nat) :
    flow.ahead (p * k) node = some node := by
  induction k with
  | zero => rfl
  | succ k ih => rw [Nat.mul_succ, ahead_add, ih, Option.bind_some, h]

theorem ahead_mod {p : Nat} (h : flow.ahead p node = some node) (q : Nat) :
    flow.ahead (q % p) node = flow.ahead q node := by
  conv_rhs => rw [← Nat.div_add_mod q p, ahead_add, ahead_mul h, Option.bind_some]

theorem ahead_concat (hp : ∀ i (hi : i < path.length), flow.ahead i origin = some path[i])
    (hn : flow.ahead path.length origin = some node) (i : Nat) (hi : i < (path ++ [node]).length) :
    flow.ahead i origin = some (path ++ [node])[i] := by
  by_cases hlt : i < path.length
  · rw [List.getElem_append_left hlt]
    exact hp i hlt
  · have hlast : i = path.length := by
      rw [List.length_append, List.length_singleton] at hi
      omega
    subst hlast
    rw [List.getElem_concat_length rfl]
    exact hn

theorem mem_of_ahead (ho : origin ∈ flow.nodes) {i : Nat} (h : flow.ahead i origin = some node) :
    node ∈ flow.nodes := by
  cases i with
  | zero => exact Option.some.inj h ▸ ho
  | succ i =>
      obtain ⟨before, -, hnext⟩ := Option.bind_eq_some_iff.mp h
      exact mem_of_next? hnext

theorem Course.mem (hc : flow.Course origin path) (ho : origin ∈ flow.nodes) :
    path ⊆ flow.nodes := by
  intro m hm
  obtain ⟨i, hi, rfl⟩ := List.mem_iff_getElem.mp hm
  exact mem_of_ahead ho (hc.ahead i hi)

theorem Course.nil (flow : Flow) (origin : Node) : flow.Course origin [] :=
  ⟨by simp, by simp⟩

theorem Course.snoc (hc : flow.Course origin path) (hn : flow.ahead path.length origin = some node)
    (hs : ¬ node.Stops) : flow.Course origin (path ++ [node]) where
  ahead := ahead_concat hc.ahead hn
  passes := by
    intro m hm
    rcases List.mem_append.mp hm with hm | hm
    · exact hc.passes m hm
    · rw [List.mem_singleton.mp hm]
      exact hs

theorem Course.ahead_length (hc : flow.Course origin (path ++ [node])) :
    flow.ahead (path ++ [node]).length origin = flow.next? node := by
  have hlast := hc.ahead path.length (by simp)
  rw [List.getElem_concat_length rfl] at hlast
  rw [List.length_append, List.length_singleton]
  show (flow.ahead path.length origin).bind flow.next? = _
  rw [hlast, Option.bind_some]

/-- A course and the step it comes to have no step twice: if they had, the steps from the one place
to the other would make a cycle without a stop. -/
theorem Cut.nodup (hcut : flow.Cut origin) (hc : flow.Course origin path)
    (hn : flow.ahead path.length origin = some node) : (path ++ [node]).Nodup := by
  have hall := ahead_concat hc.ahead hn
  rw [List.Nodup, List.pairwise_iff_getElem]
  intro i j hi hj hij heq
  have hround : flow.ahead (j - i) (path ++ [node])[i] = some (path ++ [node])[i] := by
    have hj' := hall j hj
    have hsum : i + (j - i) = j := by omega
    rw [← heq] at hj'
    rw [← hsum, ahead_add, hall i hi, Option.bind_some] at hj'
    exact hj'
  have hpos : 0 < j - i := by omega
  obtain ⟨q, stop, hq, hstop⟩ := hcut i _ (hall i hi) (j - i) hpos hround
  rw [← ahead_mod hround q] at hq
  have hwithin : q % (j - i) < j - i := Nat.mod_lt q hpos
  have hplace : i + q % (j - i) < path.length := by
    rw [List.length_append, List.length_singleton] at hj
    omega
  have hstopped := hc.ahead _ hplace
  rw [ahead_add, hall i hi, Option.bind_some, hq] at hstopped
  apply hc.passes _ (List.getElem_mem hplace)
  rw [← Option.some.inj hstopped]
  exact hstop

theorem Cut.nodup_path (hcut : flow.Cut origin) (hc : flow.Course origin path) : path.Nodup := by
  rcases List.eq_nil_or_concat path with rfl | ⟨init, last, rfl⟩
  · exact List.nodup_nil
  · rw [List.concat_eq_append] at hc ⊢
    have hinit : flow.Course origin init := by
      constructor
      · intro i hi
        have := hc.ahead i (by simp; omega)
        rwa [List.getElem_append_left hi] at this
      · exact fun m hm => hc.passes m (List.mem_append_left _ hm)
    apply hcut.nodup hinit
    have hlast := hc.ahead init.length (by simp)
    rwa [List.getElem_concat_length rfl] at hlast

/-- A course has no more steps than the flow. -/
theorem Cut.length_le (hcut : flow.Cut origin) (ho : origin ∈ flow.nodes)
    (hc : flow.Course origin path) : path.length ≤ flow.nodes.length :=
  (List.subperm_of_subset (hcut.nodup_path hc) (hc.mem ho)).length_le

theorem Cut.length_lt (hcut : flow.Cut origin) (ho : origin ∈ flow.nodes)
    (hc : flow.Course origin path) (hn : flow.ahead path.length origin = some node) :
    path.length < flow.nodes.length := by
  have hsubset : path ++ [node] ⊆ flow.nodes := by
    intro m hm
    rcases List.mem_append.mp hm with hm | hm
    · exact hc.mem ho hm
    · rw [List.mem_singleton.mp hm]
      exact mem_of_ahead ho hn
  have hlength := (List.subperm_of_subset (hcut.nodup hc hn) hsubset).length_le
  rw [List.length_append, List.length_singleton] at hlength
  omega

end Dialogue.Flow
