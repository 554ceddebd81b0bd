import Dialogue.Proofs.Session.Invariant

/-!
# Coherence of the current run

Whatever callers and the gateway do, whenever control is back at a caller the fields of the current
run agree with each other, and a run is never left running without an operation that is under way.
-/
namespace Dialogue.Scene

/-- What the current run looks like to a caller. -/
structure Coherent (h : Scene) : Prop where
  failed : h.session.current.status = .failed ↔
    ∃ reason, h.session.current.failure = some reason ∧ reason ≠ ""
  placed : h.session.current.current ≠ none ↔
    h.session.current.status = .running ∨ h.session.current.status = .waiting
  asks : h.session.current.status = .waiting → h.session.current.processing = false ∧
    ∃ node, h.session.current.current.bind h.session.engine.flow.node? = some node ∧
      (node.type = "input" ∨ node.type = "condition")
  /-- A run is running just as long as the gateway holds an operation that bears its id. -/
  running : h.session.current.status = .running ↔
    ∃ w ∈ h.held, w.pending.run = h.session.current.id
  /-- No other run bears that id. -/
  distinct : ∀ r ∈ h.session.discarded, r.id ≠ h.session.current.id
  traced : h.session.current.Traced h.session.engine.flow

variable {e : Engine} {h : Scene}

theorem Sound.running_iff (hs : h.Sound e) : h.session.current.status = .running ↔
    ∃ w ∈ h.held, w.pending.run = h.session.current.id := by
  constructor
  · intro hr
    rcases hs.stands with hun | hrest | hheld
    · simp [hun.status] at hr
    · exact absurd hr hrest.status_ne.2
    · exact hheld
  · rintro ⟨w, hw, hid⟩
    exact (hs.atStep hw List.mem_cons_self hid.symm).status

theorem Sound.placed_iff (hs : h.Sound e) : h.session.current.current ≠ none ↔
    h.session.current.status = .running ∨ h.session.current.status = .waiting := by
  rcases hs.stands with hun | hrest | ⟨w, hw, hid⟩
  · simp [hun.current, hun.status]
  · cases hrest with
    | waiting node _ _ hst hc => simp [hc, hst]
    | completed hst hc => simp [hc, hst]
    | failed _ _ hst hc => simp [hc, hst]
  · have hat := hs.atStep hw List.mem_cons_self hid.symm
    simp [hat.current, hat.status]

theorem Sound.failed_iff (hs : h.Sound e) : h.session.current.status = .failed ↔
    ∃ reason, h.session.current.failure = some reason ∧ reason ≠ "" := by
  rcases hs.stands with hun | hrest | ⟨w, hw, hid⟩
  · simp [hun.failure, hun.status]
  · cases hrest with
    | waiting node _ _ hst _ hf => simp [hf, hst]
    | completed hst _ hf => simp [hf, hst]
    | failed reason hr hst _ hf => simp [hf, hst, hr]
  · have hat := hs.atStep hw List.mem_cons_self hid.symm
    simp [hat.failure, hat.status]

theorem Sound.coherent (hs : h.Sound e) (ha : e.flow.Accepted) : h.Coherent where
  failed := hs.failed_iff
  placed := hs.placed_iff
  asks := by
    intro hw
    obtain ⟨node, hmem, hasks, hc, -, hp⟩ := hs.asks_of_waiting hw
    refine ⟨hp, node, ?_, hasks.type⟩
    rw [hs.engine]
    exact ha.bind_node? hmem hc
  running := hs.running_iff
  distinct := by
    intro r hr heq
    have := hs.numbered.nodup
    rw [Session.runs, List.map_cons, List.nodup_cons] at this
    exact this.1 (heq ▸ List.mem_map_of_mem hr)
  traced := hs.engine ▸ hs.traced

/-- Whenever control is back at a caller, the current run is coherent. -/
theorem play_coherent (ha : e.flow.Accepted) (hh : e.handlers = []) (store : Option RunStore)
    (serve : Serving) (cues : List Cue) (hplay : (make e store).play serve cues = some h) :
    h.Coherent := by
  have hs : h.Sound e := (Sound.make e store).play ha hh hplay
  exact hs.coherent ha

/-- A run is discarded while its effect is under way, and the next one is started before it ends. -/
theorem errand_coherent : ∃ h, (make errand none).play (fun _ => granting)
    [.call .start, .reset, .call .start, .settle 0] = some h ∧ h.Coherent := by
  obtain ⟨h, hplay⟩ := Option.isSome_iff_exists.mp (show ((make errand none).play
    (fun _ => granting) [.call .start, .reset, .call .start, .settle 0]).isSome by decide)
  exact ⟨h, hplay, play_coherent errand_accepted rfl none (fun _ => granting) _ hplay⟩

end Dialogue.Scene
