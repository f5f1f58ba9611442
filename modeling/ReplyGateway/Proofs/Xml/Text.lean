import Mathlib
import ReplyGateway.Proofs.Xml.Written
import ReplyGateway.Text.Blank
import ReplyGateway.Xml.Fields

namespace ReplyGateway.Xml

/-- Where dropped characters stand for themselves and others begin with one that is not dropped, dropping is
the same before and after writing. -/
theorem dropWhile_flatMap {p : Char → Bool} {f : Char → List Char} (same : ∀ c, p c = true → f c = [c])
    (stops : ∀ c, p c = false → ∃ d ds, f c = d :: ds ∧ p d = false) (cs : List Char) :
    (cs.flatMap f).dropWhile p = (cs.dropWhile p).flatMap f := by
  induction cs with
  | nil => rfl
  | cons c cs ih =>
    cases dropped : p c with
    | true =>
      rw [List.flatMap_cons, same c dropped, List.singleton_append, List.dropWhile_cons_of_pos dropped, ih,
        List.dropWhile_cons_of_pos dropped]
    | false =>
      obtain ⟨d, ds, written, kept⟩ := stops c dropped
      rw [List.dropWhile_cons_of_neg (by simp [dropped]), List.flatMap_cons, written, List.cons_append,
        List.dropWhile_cons_of_neg (by simp [kept])]

theorem escapeChar_of_isSpace {c : Char} (space : isSpace c = true) : escapeChar c = [c] := by
  have other : c ≠ '<' ∧ c ≠ '>' ∧ c ≠ '&' := by
    refine ⟨?_, ?_, ?_⟩ <;> rintro rfl <;> cases space
  simp [escapeChar, other]

/-- Neither end of an escaped character is a space, unless it is one itself. -/
theorem ends_escapeChar {c : Char} (solid : isSpace c = false) :
    (∃ d ds, escapeChar c = d :: ds ∧ isSpace d = false) ∧
      ∃ d ds, (escapeChar c).reverse = d :: ds ∧ isSpace d = false := by
  unfold escapeChar
  split
  · exact ⟨⟨'&', _, rfl, rfl⟩, ⟨';', _, rfl, rfl⟩⟩
  split
  · exact ⟨⟨'&', _, rfl, rfl⟩, ⟨';', _, rfl, rfl⟩⟩
  split
  · exact ⟨⟨'&', _, rfl, rfl⟩, ⟨';', _, rfl, rfl⟩⟩
  · exact ⟨⟨c, [], rfl, solid⟩, ⟨c, [], rfl, solid⟩⟩

/-- Spaces at the start of a text are the same before and after escaping, and so are those at its end. -/
theorem dropWhile_escape (cs : List Char) : (escape cs).dropWhile isSpace = escape (cs.dropWhile isSpace) :=
  dropWhile_flatMap (fun _ space => escapeChar_of_isSpace space) (fun _ solid => (ends_escapeChar solid).1) cs

theorem dropWhile_reverse_escape (cs : List Char) :
    ((escape cs).reverse.dropWhile isSpace).reverse = escape (cs.reverse.dropWhile isSpace).reverse := by
  have reversed (ds : List Char) : (escape ds).reverse = ds.reverse.flatMap fun c => (escapeChar c).reverse := by
    rw [escape, List.reverse_flatMap]
    rfl
  rw [reversed, dropWhile_flatMap]
  · rw [← List.reverse_reverse (cs.reverse.dropWhile isSpace), ← reversed]
    simp
  · intro c space
    rw [escapeChar_of_isSpace space]
    rfl
  · exact fun c solid => (ends_escapeChar solid).2

/-- The characters that an entity stands for. -/
def entities : List (Char × String) := [('<', "lt"), ('>', "gt"), ('&', "amp"), ('\'', "apos"), ('"', "quot")]

/-- Ways to write a text: every character as itself or by an entity, and those that begin markup by an entity. -/
inductive Escapes : List Char → List Char → Prop
  | nil : Escapes [] []
  | itself {c : Char} {raw cs : List Char} : c ≠ '<' → c ≠ '&' → Escapes raw cs → Escapes (c :: raw) (c :: cs)
  | entity {c : Char} {name : String} {raw cs : List Char} : (c, name) ∈ entities → Escapes raw cs →
      Escapes ('&' :: (name.toList ++ ';' :: raw)) (c :: cs)

theorem unescapeOnto_entity {c : Char} {name : String} (mem : (c, name) ∈ entities) (done rest : List Char) :
    unescapeOnto none done ('&' :: (name.toList ++ ';' :: rest)) = unescapeOnto none (c :: done) rest := by
  simp only [entities, List.mem_cons, List.not_mem_nil, or_false, Prod.mk.injEq] at mem
  rcases mem with ⟨rfl, rfl⟩ | ⟨rfl, rfl⟩ | ⟨rfl, rfl⟩ | ⟨rfl, rfl⟩ | ⟨rfl, rfl⟩ <;> rfl

/-- However a text is written with entities, it is read back. -/
theorem Escapes.unescape_eq {raw cs : List Char} (escapes : Escapes raw cs) : unescape raw = some cs := by
  have onto (done : List Char) : unescapeOnto none done raw = some (done.reverse ++ cs) := by
    induction escapes generalizing done with
    | nil => simp [unescapeOnto]
    | itself _ notReference _ ih => simp [unescapeOnto, notReference, ih]
    | entity mem _ ih => simp [unescapeOnto_entity mem, ih]
  exact onto []

theorem Escapes.notMem {raw cs : List Char} (escapes : Escapes raw cs) : '<' ∉ raw := by
  induction escapes with
  | nil => simp
  | itself notTag _ _ ih => simp [Ne.symm notTag, ih]
  | entity mem _ ih =>
    simp only [entities, List.mem_cons, List.not_mem_nil, or_false, Prod.mk.injEq] at mem
    rcases mem with ⟨rfl, rfl⟩ | ⟨rfl, rfl⟩ | ⟨rfl, rfl⟩ | ⟨rfl, rfl⟩ | ⟨rfl, rfl⟩ <;> simp [ih]

/-- Text without markup stands for itself. -/
theorem Escapes.self {cs : List Char} (plain : ∀ c ∈ cs, c ≠ '<' ∧ c ≠ '&') : Escapes cs cs := by
  induction cs with
  | nil => exact .nil
  | cons c cs ih =>
    have first := plain c (.head _)
    exact .itself first.1 first.2 (ih fun d mem => plain d (.tail _ mem))

/-- Escaping is one of the ways to write a text. -/
theorem escapes_escape (cs : List Char) : Escapes (escape cs) cs := by
  have mem : ('<', "lt") ∈ entities ∧ ('>', "gt") ∈ entities ∧ ('&', "amp") ∈ entities := by decide
  induction cs with
  | nil => exact .nil
  | cons c cs ih =>
    rw [escape, List.flatMap_cons, ← escape]
    fun_cases escapeChar c with
    | case1 => subst_vars; exact .entity mem.1 ih
    | case2 => subst_vars; exact .entity mem.2.1 ih
    | case3 => subst_vars; exact .entity mem.2.2 ih
    | case4 notTag _ notReference => exact .itself notTag notReference ih

/-- What is read of text. -/
def textNodes (raw : List Char) : List Node := if raw = [] then [] else [.run [.text raw]]

/-- Text without markup is read as one run. -/
theorem Writes.of_text {raw : List Char} (plain : '<' ∉ raw) : Writes raw (textNodes raw) := by
  by_cases empty : raw = []
  · subst empty
    exact .nil
  · rw [textNodes, if_neg empty]
    have writes := Writes.text empty plain (by simp) .nil
    rwa [List.append_nil] at writes

theorem Writes.append_escape {name rest : List Char} {nodes : List Node} (plain : IsPlain name) (cs : List Char)
    (after : Writes rest nodes) :
    Writes (writeElement name (escape cs) ++ rest) (.element name [] (textNodes (escape cs)) :: nodes) :=
  .element plain .nil (writesElement_writeElement ..) (.of_text (escapes_escape cs).notMem) after

/-- Trimming a run is trimming its text. -/
theorem trimRun?_text (raw : List Char) :
    trimRun? true [.text raw] =
      if trimBoth isSpace raw = [] then none else some [.text (trimBoth isSpace raw)] := by
  rw [trimRun?, if_pos rfl, trimRunStart, trimBoth]
  cases front : raw.dropWhile isSpace with
  | nil => rfl
  | cons c more =>
    simp only [trimRunEnd, List.getLast?_singleton, List.dropLast_singleton, List.nil_append]
    cases ((c :: more).reverse.dropWhile isSpace).reverse <;> rfl

/-- Text with entities reads back without the spaces at its ends. -/
theorem textOf?_textNodes (raw : List Char) :
    textOf? (textNodes raw) = (unescape (trimBoth isSpace raw)).map String.ofList := by
  by_cases empty : raw = []
  · subst empty
    rfl
  · rw [textNodes, if_neg empty, textOf?, trimRun?_text]
    by_cases nothing : trimBoth isSpace raw = []
    · rw [if_pos nothing, nothing]
      rfl
    · rw [if_neg nothing]
      simp [dropVoid, runText?, Piece.text?]

theorem looseTextOf?_textNodes (raw : List Char) :
    looseTextOf? true "" (textNodes raw) = (unescape (trimBoth isSpace raw)).map String.ofList := by
  by_cases empty : raw = []
  · subst empty
    rfl
  · rw [textNodes, if_neg empty, looseTextOf?, trimRun?_text]
    by_cases nothing : trimBoth isSpace raw = []
    · rw [if_pos nothing, nothing]
      rfl
    · rw [if_neg nothing]
      cases read : unescape (trimBoth isSpace raw) <;> simp [runText?, Piece.text?, read, looseTextOf?]

theorem trimBoth_escape (cs : List Char) : trimBoth isSpace (escape cs) = escape (trimBoth isSpace cs) := by
  rw [trimBoth, dropWhile_escape, dropWhile_reverse_escape]
  rfl

theorem text?_textNodes_escape (name attributes cs : List Char) :
    (Node.element name attributes (textNodes (escape cs))).text? = some (String.ofList (trimBoth isSpace cs)) := by
  rw [Node.text?, textOf?_textNodes, trimBoth_escape, unescape_escape]
  rfl

theorem runText?_verbatim (raws : List (List Char)) : runText? (raws.map .verbatim) = some raws.flatten := by
  have texts : (raws.map Piece.verbatim).mapM Piece.text? = some raws := by
    induction raws with
    | nil => rfl
    | cons raw raws ih => simp [Piece.text?, ih]
  simp [runText?, texts]

/-- Verbatim sections are not trimmed. -/
theorem trimRun?_verbatim {raws : List (List Char)} (given : raws ≠ []) (trimsStart : Bool) :
    trimRun? trimsStart (raws.map .verbatim) = some (raws.map .verbatim) := by
  obtain ⟨first, more, rfl⟩ := List.exists_cons_of_ne_nil given
  have start : trimRunStart ((first :: more).map .verbatim) = (first :: more).map .verbatim := rfl
  have last : trimRunEnd ((first :: more).map .verbatim) = (first :: more).map .verbatim := by
    rw [trimRunEnd, List.getLast?_map]
    cases (first :: more).getLast? <;> rfl
  rw [trimRun?, start, ite_self, last]
  rfl

/-- Verbatim sections read back as they are. -/
theorem text?_verbatim (name attributes : List Char) {raws : List (List Char)} (given : raws ≠ []) :
    (Node.element name attributes [.run (raws.map .verbatim)]).text? = some (String.ofList raws.flatten) := by
  rw [Node.text?, textOf?, trimRun?_verbatim given]
  simp [dropVoid, runText?_verbatim]

end ReplyGateway.Xml
