import Mathlib
import ReplyGateway.Proofs.Xml.Text

namespace ReplyGateway.Xml

/-- Whether all references in a part of a run are entities. -/
def Piece.IsEscaped : Piece → Prop
  | .text raw => ∃ cs, Escapes raw cs
  | .verbatim _ => True

theorem isReadableRun_of_escaped {pieces : List Piece} (escaped : ∀ piece ∈ pieces, piece.IsEscaped) :
    isReadableRun pieces = true := by
  have read : ∃ texts, pieces.mapM Piece.text? = some texts := by
    induction pieces with
    | nil => exact ⟨[], rfl⟩
    | cons piece pieces ih =>
      obtain ⟨texts, read⟩ := ih fun p mem => escaped p (.tail _ mem)
      obtain ⟨text, first⟩ : ∃ text, piece.text? = some text := by
        match piece, escaped piece (.head _) with
        | .text _, ⟨cs, escapes⟩ => exact ⟨cs, escapes.unescape_eq⟩
        | .verbatim raw, _ => exact ⟨raw, rfl⟩
      exact ⟨text :: texts, by simp [first, read]⟩
  obtain ⟨texts, read⟩ := read
  simp [isReadableRun, runText?, read]

/-- Whether the attributes of an element are well-formed and leave the reserved prefixes alone. -/
def AreLawful (attributes : List Char) : Prop := areAttributes attributes = true ∧ bindsLawfully attributes = true

theorem AreLawful.nil : AreLawful [] := ⟨rfl, rfl⟩

/-- Nodes without references that are none, and with lawful attributes, all the way down. -/
inductive Sound : List Node → Prop
  | nil : Sound []
  | run {pieces : List Piece} {rest : List Node} : (∀ piece ∈ pieces, piece.IsEscaped) → Sound rest →
      Sound (.run pieces :: rest)
  | element {name attributes : List Char} {children rest : List Node} : AreLawful attributes → Sound children →
      Sound rest → Sound (.element name attributes children :: rest)

theorem Sound.dropBlankRuns {nodes : List Node} (sound : Sound nodes) : Sound (dropBlankRuns nodes) := by
  induction sound with
  | nil => exact .nil
  | run escaped sound ih =>
    rw [Xml.dropBlankRuns]
    split
    · exact ih
    · exact .run escaped sound
  | element lawful children rest => exact .element lawful children rest

/-- What is sound stays so without what does not count in front. -/
theorem Sound.dropVoid {nodes : List Node} (sound : Sound nodes) : Sound (dropVoid nodes) := by
  induction sound with
  | nil => exact .nil
  | run escaped sound ih =>
    rw [Xml.dropVoid]
    split
    · exact ih
    · exact .run escaped sound
  | element lawful children rest => exact .element lawful children rest

theorem Sound.startsLawfully {nodes : List Node} (sound : Sound nodes) : startsLawfully nodes = true := by
  cases sound with
  | nil => rfl
  | run => rfl
  | element lawful => exact lawful.2

/-- What is sound can be passed over. -/
theorem Sound.passOver_isSome {children : List Node} (sound : Sound children) : (passOver children).isSome = true := by
  have front := sound.dropVoid
  unfold passOver
  generalize Xml.dropVoid children = nodes at front
  cases front with
  | nil => rfl
  | run escaped rest => simp [isReadableRun_of_escaped escaped, rest.startsLawfully]
  | @element _ _ inner rest lawful soundInner soundRest =>
    have following : Xml.startsLawfully
        (if startsWithRun (Xml.dropBlankRuns inner) then rest else Xml.dropBlankRuns rest) = true := by
      split
      · exact soundRest.startsLawfully
      · exact soundRest.dropBlankRuns.startsLawfully
    simp only [lawful.2, soundInner.dropBlankRuns.startsLawfully, following, Bool.and_self, if_true, Option.isSome_some]

end ReplyGateway.Xml
