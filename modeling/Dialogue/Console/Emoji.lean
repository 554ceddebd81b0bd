import Dialogue.Text.Blank
import Dialogue.Text.EmojiNames
import Dialogue.Text.LowerCase

/-!
# Emoji by name

A name between two colons is shown as its emoji, in any case of its letters; behind the name the
form may be asked for, as text or as emoji. A name that stands for nothing is shown as it is, and
its second colon begins no other name.
-/
namespace Dialogue.Console

/-- A name between colons. -/
structure EmojiCode where
  name : List Char
  /-- What the form behind the name adds to the emoji. -/
  selector : List Char
  /-- The characters from colon to colon. -/
  source : List Char
  deriving DecidableEq

/-- The ways in which a name may end, with the selector of each. -/
def emojiEndings : List (List Char × List Char) :=
  [(":".toList, []), ("-emoji:".toList, ['\ufe0f']), ("-text:".toList, ['\ufe0e'])]

/-- The code behind a colon. The part of the name that was read already is at hand in reverse. -/
def emojiCodeFrom? (name : List Char) (cs : List Char) : Option EmojiCode :=
  match emojiEndings.find? fun e => e.1.isPrefixOf cs with
  | some (ending, selector) => some ⟨name.reverse, selector, ':' :: name.reverse ++ ending⟩
  | none =>
    match cs with
    | [] => none
    | c :: rest => if Text.isBlank c then none else emojiCodeFrom? (c :: name) rest

/-- The code that a text starts with. -/
def emojiCode? : List Char → Option EmojiCode
  | ':' :: rest => emojiCodeFrom? [] rest
  | _ => none

def EmojiCode.shown (e : EmojiCode) : List Char :=
  match Text.emoji? (Text.lower (String.ofList e.name)) with
  | some emoji => emoji.toList ++ e.selector
  | none => e.source

/-- Puts emoji in the place of their names, after `skip` characters that are done with. -/
def emojiAfter : Nat → List Char → List Char
  | _, [] => []
  | skip + 1, _ :: rest => emojiAfter skip rest
  | 0, c :: rest =>
    match emojiCode? (c :: rest) with
    | some e => e.shown ++ emojiAfter (e.source.length - 1) rest
    | none => c :: emojiAfter 0 rest

/-- A text with emoji in the place of their names. -/
def withEmoji (cs : List Char) : List Char := emojiAfter 0 cs

theorem emojiAfter_of_not_mem {cs : List Char} (h : ':' ∉ cs) : emojiAfter 0 cs = cs := by
  induction cs with
  | nil => rfl
  | cons c rest ih =>
    simp only [List.mem_cons, not_or] at h
    have hc : emojiCode? (c :: rest) = none := by
      unfold emojiCode?
      split
      · exact absurd (List.cons.inj ‹_›).1.symm h.1
      · rfl
    rw [emojiAfter, hc, ih h.2]

end Dialogue.Console
