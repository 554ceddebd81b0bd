import Dialogue.Proofs.Session.Schedule
import Dialogue.Proofs.Transcript

/-!
# What the transcript of a session tells
-/
namespace Dialogue

open Text Message

/-- A transcript has one line for each message that it shows just where each of these is on one
line. The lines of a speaker are the first lines of the speaker's messages just where no later line
of a message reads as one of theirs. And where no later line reads as a message at all, which is so
where each message is on one line, and only there, no other messages of that kind have the same
transcript, whatever their clocks. -/
theorem transcript_faithful {messages : List Message}
    (hclock : ∀ m ∈ messages, m.time.OnClock) (withSystem : Bool) :
    (shownMessages withSystem messages ≠ [] →
      (lines (transcript messages withSystem) =
          (shownMessages withSystem messages).map Message.line ↔
        ∀ m ∈ shownMessages withSystem messages, '\n' ∉ m.content.toList)) ∧
    (∀ s, attributed s (transcript messages withSystem) =
        ((shownMessages withSystem messages).filter (·.speaker = s)).map opening ↔
      ∀ m ∈ shownMessages withSystem messages, ∀ f ∈ m.forged, f.speaker ≠ s) ∧
    ((∀ m ∈ shownMessages withSystem messages, m.forged = []) ↔
      ∀ (others : List Message) (withSystem' : Bool), (∀ m ∈ others, m.time.OnClock) →
        (∀ m ∈ shownMessages withSystem' others, m.forged = []) →
        transcript others withSystem' = transcript messages withSystem →
        (shownMessages withSystem' others).map told =
          (shownMessages withSystem messages).map told) := by
  refine ⟨?_, ?_, ?_⟩
  · exact lines_transcript_iff
  · exact attributed_transcript_iff hclock
  · exact transcript_eq_imp_iff hclock

namespace Scene

/-- An engine for a flow that asks for one name after the other. -/
def rollCall : Engine where
  flow := {
    id := "roll-call", name := "Roll call", description := "", department := none
    nodes := [
      ⟨"entry", "start", "", .start ⟨"first_message", [], none⟩⟩,
      ⟨"question", "input", "", .input ⟨"Nome?", "answer", .text⟩⟩]
    edges := [
      ⟨none, "entry", "question", none, none⟩,
      ⟨none, "question", "question", none, none⟩] }
  settings := default

/-- The messages of a roll call that was given some names. -/
def calledOut (names : List String) : List Message :=
  let question : List Message :=
    [⟨.bot, "Nome?", some "question", .midnight⟩,
      ⟨.system, "Aguardando entrada: answer", some "question", .midnight⟩]
  ⟨.system, "Fluxo iniciado", some "entry", .midnight⟩ :: question ++
    names.flatMap fun name => ⟨.user, name, none, .midnight⟩ :: question

/-- The second line begins no message, so no messages of one line each have this transcript. -/
theorem rollCall_faithful :
    ((make rollCall none).play (fun _ => granting) [.call .start, .call (.send "Ana\nBia")]).map
      (·.session.current.messages) = some (calledOut ["Ana\nBia"]) ∧
    (∀ m ∈ calledOut ["Ana\nBia"], m.time.OnClock) ∧
    lines (transcript (calledOut ["Ana\nBia"]) true) ≠
      (calledOut ["Ana\nBia"]).map Message.line ∧
    ∀ others : List Message, (∀ m ∈ others, m.time.OnClock ∧ '\n' ∉ m.content.toList) →
      transcript others true ≠ transcript (calledOut ["Ana\nBia"]) true := by
  have hclock : ∀ m ∈ calledOut ["Ana\nBia"], m.time.OnClock := by decide
  have hforged : ∀ m ∈ calledOut ["Ana\nBia"], m.forged = [] := by decide +kernel
  obtain ⟨m, hm, hbreak⟩ : ∃ m ∈ calledOut ["Ana\nBia"], '\n' ∈ m.content.toList := by decide
  obtain ⟨hlines, -, hsame⟩ := transcript_faithful hclock true
  rw [shownMessages_true] at hlines hsame
  refine ⟨by decide, hclock, fun heq => (hlines (List.ne_nil_of_mem hm)).mp heq m hm hbreak, ?_⟩
  intro others hothers heq
  have htold := hsame.mp hforged others true (fun m hm => (hothers m hm).1)
    (by
      rw [shownMessages_true]
      exact fun m hm => forged_of_not_mem (hothers m hm).2) heq
  rw [shownMessages_true] at htold
  obtain ⟨m', hm', heq'⟩ := List.mem_map.mp (htold ▸ List.mem_map_of_mem hm)
  have hcontent : m'.content = m.content :=
    show m'.told.content = m.told.content from congrArg Message.content heq'
  exact (hothers m' hm').2 (hcontent ▸ hbreak)

/-- A name, and another one as if it had been asked for. -/
def nested (name next : String) : String :=
  name ++ "\n[00:00:00] Bot: Nome?\n[00:00:00] Você: " ++ next

/-- Two roll calls tell the same of different answers, on more lines than they have messages, and
some of the lines are the bot's though the contact wrote them. -/
theorem rollCall_forged :
    let messages := calledOut [nested "Ana" "Bia", "Caio"]
    let others := calledOut ["Ana", nested "Bia" "Caio"]
    rollCall.flow.Accepted ∧
    ((make rollCall none).play (fun _ => granting)
      [.call .start, .call (.send (nested "Ana" "Bia")), .call (.send "Caio")]).map
        (·.session.current.messages) = some messages ∧
    ((make rollCall none).play (fun _ => granting)
      [.call .start, .call (.send "Ana"), .call (.send (nested "Bia" "Caio"))]).map
        (·.session.current.messages) = some others ∧
    messages.map (·.time) = others.map (·.time) ∧
    (shownMessages false messages).map (fun m => (m.speaker, m.content)) ≠
      (shownMessages false others).map (fun m => (m.speaker, m.content)) ∧
    transcript messages false = transcript others false ∧
    lines (transcript messages false) ≠ (shownMessages false messages).map Message.line ∧
    attributed .bot (transcript messages false) ≠
      ((shownMessages false messages).filter (·.speaker = .bot)).map opening := by
  intro messages others
  have hclock : ∀ m ∈ messages, m.time.OnClock := by decide
  obtain ⟨m, hm, hbreak⟩ : ∃ m ∈ shownMessages false messages, '\n' ∈ m.content.toList := by
    decide
  obtain ⟨m', hm', f, hf, hspeaker⟩ : ∃ m ∈ shownMessages false messages, ∃ f ∈ m.forged,
      f.speaker = .bot := by decide +kernel
  refine ⟨rfl, by decide, by decide, by decide, by decide, by decide +kernel, ?_, ?_⟩
  · rw [Ne, lines_transcript_iff (List.ne_nil_of_mem hm)]
    exact fun hall => hall m hm hbreak
  · rw [Ne, attributed_transcript_iff hclock]
    exact fun hall => hall m' hm' f hf hspeaker

end Scene
end Dialogue
