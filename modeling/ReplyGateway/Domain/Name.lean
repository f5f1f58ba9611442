import ReplyGateway.Domain.Bidi
import ReplyGateway.Domain.Joiner
import ReplyGateway.Domain.Mapping
import ReplyGateway.Domain.Punycode
import ReplyGateway.Lists
import ReplyGateway.Unicode.Mark
import ReplyGateway.Unicode.Normalization

namespace ReplyGateway.Domain

/-- Characters that no domain name holds. -/
def isForbidden (c : Char) : Bool := c.toNat ≤ 32 || c = '\x7F' || "#%/:<>?@[\\]^|".contains c

def isAscii (c : Char) : Bool := c.toNat < 128

/-- The text that names have for a text: its characters mapped and composed, and none of them forbidden. -/
def prepared? (cs : List Char) : Option (List Char) := do
  let mapped ← mapped? cs
  let prepared := normalized mapped
  if prepared.any isForbidden then none else some prepared

/-- The greatest length of what follows the mark of a label in Punycode. -/
def encodedLimit : Nat := 2000

/-- The greatest length of a label outside of ASCII that is not in Punycode. -/
def labelLimit : Nat := 1000

/-- A label as it shows. One in Punycode stands for a text that is as names have it. -/
def shown? (label : List Char) : Option (List Char) :=
  match label with
  | 'x' :: 'n' :: '-' :: '-' :: encoded =>
    if encoded.all isAscii && encoded.getLast?.any (· ≠ '-') && encoded.length ≤ encodedLimit then do
      let shown ← Punycode.decode? encoded
      if prepared? shown = some shown && !shown.contains '.' then some shown else none
    else none
  | _ => if label.all isAscii || label.length ≤ labelLimit then some label else none

/-- Whether a label is well formed as it shows: it does not start with a mark, and its joiners have context. -/
def isLabel (label : List Char) : Bool := !label.head?.any isMark && haveContext [] label

/-- The labels of a domain name with characters of any script, as they show. -/
def labels? (cs : List Char) : Option (List (List Char)) := do
  let labels ← (pieces (· = '.') (← prepared? cs)).mapM shown?
  if labels.all isLabel && (!labels.any runsRightToLeft || labels.all hasDirection) then some labels else none

theorem not_isForbidden_of_prepared? {cs prepared : List Char} (h : prepared? cs = some prepared) :
    ∀ c ∈ prepared, isForbidden c = false := by
  unfold prepared? at h
  cases hm : mapped? cs with
  | none => simp [hm] at h
  | some mapped =>
    simp only [hm, Option.bind_eq_bind, Option.bind_some] at h
    split at h
    · cases h
    · obtain rfl := Option.some.inj h
      simp_all

/-- What a label shows holds no forbidden character that the label itself does not hold. -/
theorem not_isForbidden_of_shown? {label shown : List Char} (h : shown? label = some shown)
    (lawful : ∀ c ∈ label, isForbidden c = false) : ∀ c ∈ shown, isForbidden c = false := by
  unfold shown? at h
  split at h
  · split at h
    · rename_i encoded _
      cases hd : Punycode.decode? encoded with
      | none => simp [hd] at h
      | some decoded =>
        simp only [hd, Option.bind_eq_bind, Option.bind_some] at h
        split at h
        · obtain rfl := Option.some.inj h
          have prepared : prepared? decoded = some decoded := by simp_all
          exact not_isForbidden_of_prepared? prepared
        · cases h
    · cases h
  · split at h
    · obtain rfl := Option.some.inj h
      exact lawful
    · cases h

/-- All the characters of a name may stand in a host. -/
theorem forall_not_isForbidden {cs : List Char} {labels : List (List Char)} (h : labels? cs = some labels) :
    ∀ label ∈ labels, ∀ c ∈ label, isForbidden c = false := by
  unfold labels? at h
  cases hp : prepared? cs with
  | none => simp [hp] at h
  | some prepared =>
    simp only [hp, Option.bind_eq_bind, Option.bind_some] at h
    cases hs : (pieces (· = '.') prepared).mapM shown? with
    | none => simp [hs] at h
    | some found =>
      simp only [hs, Option.bind_some] at h
      split at h
      · obtain rfl := Option.some.inj h
        intro label mem
        obtain ⟨written, inPieces, shown⟩ := mem_of_mapM_eq_some hs mem
        exact not_isForbidden_of_shown? shown fun c inLabel =>
          not_isForbidden_of_prepared? hp c (mem_of_mem_pieces inPieces inLabel)
      · cases h

end ReplyGateway.Domain
