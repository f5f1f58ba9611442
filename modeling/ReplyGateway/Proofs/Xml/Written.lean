import Mathlib
import ReplyGateway.Text.Blank
import ReplyGateway.Xml.Element
import ReplyGateway.Xml.Printer

namespace ReplyGateway.Xml

/-- From the open elements on, characters complete the outermost element. -/
inductive Reaches : List Open → List Char → Node → Prop
  | last {stack : List Open} {cs rest : List Char} {piece : Markup} {root : Node} :
      Markup.next cs = some (piece, rest) → rest.length < cs.length →
      Progress.take stack piece = some (.complete root) → Reaches stack cs root
  | next {stack stack' : List Open} {cs rest : List Char} {piece : Markup} {root : Node} :
      Markup.next cs = some (piece, rest) → rest.length < cs.length →
      Progress.take stack piece = some (.inside stack') → Reaches stack' rest root → Reaches stack cs root

/-- As every piece takes at least one character, as much fuel as there are characters is enough. -/
theorem Reaches.readRoot_eq {stack : List Open} {cs : List Char} {root : Node} (reaches : Reaches stack cs root)
    {fuel : Nat} (enough : cs.length ≤ fuel) : readRoot fuel stack cs = some root := by
  induction reaches generalizing fuel with
  | @last stack cs rest piece root found shorter complete =>
    obtain ⟨fuel, rfl⟩ : ∃ less, fuel = less + 1 := ⟨fuel - 1, by omega⟩
    cases cs with
    | nil => cases shorter
    | cons c more => simp [readRoot, found, complete]
  | @next stack stack' cs rest piece root found shorter inside _ ih =>
    obtain ⟨fuel, rfl⟩ : ∃ less, fuel = less + 1 := ⟨fuel - 1, by omega⟩
    have left : rest.length ≤ fuel := by omega
    cases cs with
    | nil => cases shorter
    | cons c more => simp [readRoot, found, inside, ih left]

/-- Characters that a name is not made of here. -/
def isNameEnd (c : Char) : Bool := isSpace c || "<>/?!\"'".toList.contains c

/-- Names that stand for themselves in a tag. -/
def IsPlain (name : List Char) : Prop := name ≠ [] ∧ ∀ c ∈ name, isNameEnd c = false

theorem IsPlain.of_mem {name : List Char} (plain : IsPlain name) {c : Char} (mem : c ∈ name) :
    isSpace c = false ∧ c ≠ '<' ∧ c ≠ '>' ∧ c ≠ '/' ∧ c ≠ '?' ∧ c ≠ '!' ∧ c ≠ '"' ∧ c ≠ '\'' := by
  simpa [isNameEnd] using plain.2 c mem

/-- Characters inside a tag in which every quote is closed and nothing outside of quotes ends the tag. -/
inductive ClosesQuotes : List Char → Prop
  | nil : ClosesQuotes []
  | plain {c : Char} {cs : List Char} : c ≠ '>' → c ≠ '"' → c ≠ '\'' → ClosesQuotes cs → ClosesQuotes (c :: cs)
  | quoted {q : Char} {inside cs : List Char} : q = '"' ∨ q = '\'' → q ∉ inside → ClosesQuotes cs →
      ClosesQuotes (q :: (inside ++ q :: cs))

/-- What may stand between the name of an element and the end of its start tag. -/
structure IsTail (attributes : List Char) : Prop where
  apart : ∀ c ∈ attributes.head?, isSpace c = true
  quotes : ClosesQuotes attributes
  unclosed : attributes.getLast? ≠ some '/'

theorem IsTail.nil : IsTail [] := ⟨by simp, .nil, by simp⟩

theorem IsPlain.closesQuotes_append {name rest : List Char} (plain : IsPlain name) (closes : ClosesQuotes rest) :
    ClosesQuotes (name ++ rest) := by
  have all : ∀ c ∈ name, c ≠ '>' ∧ c ≠ '"' ∧ c ≠ '\'' := fun c mem => by simp [plain.of_mem mem]
  generalize name = cs at all
  induction cs with
  | nil => exact closes
  | cons c cs ih =>
    obtain ⟨notEnd, notDouble, notSingle⟩ := all c (by simp)
    exact .plain notEnd notDouble notSingle (ih fun d mem => all d (by simp [mem]))

theorem ClosesQuotes.concat {cs : List Char} (closes : ClosesQuotes cs) : ClosesQuotes (cs ++ ['/']) := by
  induction closes with
  | nil => exact .plain (by decide) (by decide) (by decide) .nil
  | plain notEnd notDouble notSingle _ ih => exact .plain notEnd notDouble notSingle ih
  | quoted quote notIn _ ih =>
    rw [List.cons_append, List.append_assoc, List.cons_append]
    exact .quoted quote notIn ih

namespace Markup

theorem cutTag_quoted {q : Char} {inside : List Char} (notIn : q ∉ inside) (done rest : List Char) :
    cutTag (some q) done (inside ++ q :: rest) = cutTag none (q :: (inside.reverse ++ done)) rest := by
  induction inside generalizing done with
  | nil => simp [cutTag]
  | cons c more ih =>
    rw [List.mem_cons, not_or] at notIn
    rw [List.cons_append, cutTag]
    simp only [if_neg (Ne.symm notIn.1), ih notIn.2]
    simp

/-- A tag ends at the first bracket outside of quotes. -/
theorem cutTag_append {content : List Char} (closes : ClosesQuotes content) (done rest : List Char) :
    cutTag none done (content ++ '>' :: rest) = some (done.reverse ++ content, rest) := by
  induction closes generalizing done with
  | nil => simp [cutTag]
  | plain notEnd notDouble notSingle _ ih =>
    rw [List.cons_append, cutTag]
    simp only [if_neg notEnd, notDouble, notSingle, or_self, if_false, ih]
    simp
  | @quoted q _ _ quote notIn _ ih =>
    rw [List.cons_append, List.append_assoc, List.cons_append, cutTag]
    have notEnd : q ≠ '>' := by rcases quote with rfl | rfl <;> decide
    simp only [if_neg notEnd, if_pos quote, cutTag_quoted notIn, ih]
    simp

theorem next_of_plain {name : List Char} (plain : IsPlain name) (more : List Char) :
    next ('<' :: (name ++ more)) =
      (cutTag none [] (name ++ more)).map fun (content, rest) => (ofStartTag content, rest) := by
  obtain ⟨c, cs, rfl⟩ := List.exists_cons_of_ne_nil plain.1
  obtain ⟨_, _, _, slash, question, bang, _⟩ := plain.of_mem List.mem_cons_self
  rw [List.cons_append, next]
  all_goals simp_all

theorem span_append {name attributes : List Char} (plain : IsPlain name) (tail : IsTail attributes) :
    (name ++ attributes).span (fun c => !isSpace c) = (name, attributes) := by
  have all : ∀ c ∈ name, (!isSpace c) = true := fun c mem => by simp [(plain.of_mem mem).1]
  have stops : attributes.takeWhile (fun c => !isSpace c) = [] ∧
      attributes.dropWhile (fun c => !isSpace c) = attributes := by
    cases attributes with
    | nil => exact ⟨rfl, rfl⟩
    | cons c rest => simp [tail.apart c rfl]
  simp only [List.span_eq_takeWhile_dropWhile, List.takeWhile_append_of_pos all, List.dropWhile_append_of_pos all,
    stops, List.append_nil]

theorem ofStartTag_append {name attributes : List Char} (plain : IsPlain name) (tail : IsTail attributes) :
    ofStartTag (name ++ attributes) = opening name attributes false ∧
      ofStartTag (name ++ attributes ++ ['/']) = opening name attributes true := by
  have unclosed : ((name ++ attributes).getLast? == some '/') = false := by
    rw [beq_eq_false_iff_ne, List.getLast?_append]
    cases last : attributes.getLast? with
    | some c => simpa [last] using tail.unclosed
    | none =>
      rw [Option.none_or]
      intro same
      exact (plain.of_mem (List.mem_of_getLast? same)).2.2.2.1 rfl
  constructor
  · simp only [ofStartTag, unclosed, Bool.false_eq_true, if_false, span_append plain tail]
  · simp only [ofStartTag, List.getLast?_concat, BEq.rfl, if_true, List.dropLast_concat, span_append plain tail]

theorem next_startTag {name attributes : List Char} (plain : IsPlain name) (tail : IsTail attributes)
    (rest : List Char) :
    next ('<' :: (name ++ (attributes ++ '>' :: rest))) = some (opening name attributes false, rest) := by
  have cut := cutTag_append (plain.closesQuotes_append tail.quotes) [] rest
  rw [List.append_assoc] at cut
  rw [next_of_plain plain, cut]
  simp only [Option.map_some, List.reverse_nil, List.nil_append, (ofStartTag_append plain tail).1]

theorem next_closedTag {name attributes : List Char} (plain : IsPlain name) (tail : IsTail attributes)
    (rest : List Char) :
    next ('<' :: (name ++ (attributes ++ '/' :: '>' :: rest))) = some (opening name attributes true, rest) := by
  have cut := cutTag_append (plain.closesQuotes_append tail.quotes).concat [] rest
  simp only [List.append_assoc, List.singleton_append] at cut
  rw [next_of_plain plain, cut]
  simp only [Option.map_some, List.reverse_nil, List.nil_append, ← List.append_assoc,
    (ofStartTag_append plain tail).2]

theorem next_endTag {name : List Char} (plain : IsPlain name) (rest : List Char) :
    next ('<' :: '/' :: (name ++ '>' :: rest)) = some (closing name, rest) := by
  have trimmed : trimNameEnd name = name := by
    have noSpace : ∀ c ∈ name.reverse, isSpace c = false := fun c mem => (plain.of_mem (List.mem_reverse.1 mem)).1
    unfold trimNameEnd
    split
    · rfl
    · rw [dropWhile_of_forall noSpace, List.reverse_reverse]
  have closes : ClosesQuotes name := by simpa using plain.closesQuotes_append .nil
  rw [next, cutTag_append closes]
  simp [trimmed]

/-- Text goes up to the next tag. -/
theorem next_text {raw : List Char} (nonempty : raw ≠ []) (plain : '<' ∉ raw) (rest : List Char) :
    next (raw ++ '<' :: rest) = some (text raw, '<' :: rest) := by
  obtain ⟨c, more, rfl⟩ := List.exists_cons_of_ne_nil nonempty
  have first : c ≠ '<' := fun same => plain (same ▸ List.mem_cons_self)
  have chars : ∀ d ∈ c :: more, decide (d ≠ '<') = true := by
    intro d mem
    rw [decide_eq_true_eq]
    rintro rfl
    exact plain mem
  have cut : ((c :: more) ++ '<' :: rest).span (fun d => decide (d ≠ '<')) = (c :: more, '<' :: rest) := by
    rw [List.span_eq_takeWhile_dropWhile, List.takeWhile_append_of_pos chars, List.dropWhile_append_of_pos chars]
    simp
  rw [List.cons_append] at cut ⊢
  rw [next, cut]
  all_goals simp_all

/-- A verbatim section. -/
def cdata (raw : List Char) : List Char :=
  '<' :: '!' :: '[' :: 'C' :: 'D' :: 'A' :: 'T' :: 'A' :: '[' :: (raw ++ [']', ']', '>'])

/-- The first mark is the one after characters without it. -/
theorem cut_append {raw : List Char} (free : ¬ [']', ']', '>'] <:+: raw) (done rest : List Char) :
    cut [']', ']', '>'] done (raw ++ ([']', ']', '>'] ++ rest)) = some (done.reverse ++ raw, rest) := by
  induction raw generalizing done with
  | nil => simp [cut]
  | cons c raw ih =>
    have notHere : ¬ [']', ']', '>'].isPrefixOf (c :: (raw ++ ([']', ']', '>'] ++ rest))) = true := by
      intro here
      match raw with
      | [] => simp [List.isPrefixOf] at here
      | [d] => simp [List.isPrefixOf] at here
      | d :: e :: more =>
        simp only [List.cons_append, List.isPrefixOf, Bool.and_eq_true, beq_iff_eq] at here
        obtain ⟨rfl, rfl, rfl, _⟩ := here
        exact free ⟨[], more, rfl⟩
    rw [List.cons_append, cut, if_neg notHere, ih fun inside => free (List.infix_cons inside)]
    simp

/-- A verbatim section is the next piece, whatever is in it. -/
theorem next_cdata {raw : List Char} (free : ¬ [']', ']', '>'] <:+: raw) (rest : List Char) :
    next (cdata raw ++ rest) = some (verbatim raw, rest) := by
  have found := cut_append free [] rest
  rw [cdata]
  simp only [List.cons_append, List.append_assoc] at found ⊢
  rw [next, found]
  rfl

end Markup

/-- The ways to write an element with some content: with two tags, or with one if there is nothing inside. -/
inductive WritesElement (name attributes content : List Char) : List Char → Prop
  | tags : WritesElement name attributes content
      ('<' :: (name ++ (attributes ++ '>' :: (content ++ '<' :: '/' :: (name ++ ['>'])))))
  | closed : content = [] → WritesElement name attributes content ('<' :: (name ++ (attributes ++ ['/', '>'])))

theorem writesElement_writeElement (name content : List Char) :
    WritesElement name [] content (writeElement name content) := by
  unfold writeElement
  split
  · rename_i empty
    exact .closed (by simpa using empty)
  · exact .tags

theorem WritesElement.head?_append {name attributes content written : List Char}
    (element : WritesElement name attributes content written) (rest : List Char) :
    (written ++ rest).head? = some '<' := by cases element <;> rfl

/-- Puts a piece in front of nodes, into the run that they begin with if there is one. -/
def addPiece (piece : Piece) : List Node → List Node
  | .run pieces :: rest => .run (piece :: pieces) :: rest
  | nodes => .run [piece] :: nodes

/-- What is written inside an element, and the nodes that it is read as. After text comes a tag or a section. -/
inductive Writes : List Char → List Node → Prop
  | nil : Writes [] []
  | text {raw cs : List Char} {nodes : List Node} : raw ≠ [] → '<' ∉ raw → (∀ c ∈ cs.head?, c = '<') →
      Writes cs nodes → Writes (raw ++ cs) (addPiece (.text raw) nodes)
  | verbatim {raw cs : List Char} {nodes : List Node} : ¬ [']', ']', '>'] <:+: raw → Writes cs nodes →
      Writes (Markup.cdata raw ++ cs) (addPiece (.verbatim raw) nodes)
  | element {name attributes content written rest : List Char} {nodes more : List Node} : IsPlain name →
      IsTail attributes → WritesElement name attributes content written → Writes content nodes → Writes rest more →
      Writes (written ++ rest) (.element name attributes nodes :: more)

theorem Writes.nodes_eq_nil {nodes : List Node} (writes : Writes [] nodes) : nodes = [] := by
  generalize empty : [] = cs at writes
  cases writes with
  | nil => rfl
  | text nonempty => exact (nonempty (List.append_eq_nil_iff.1 empty.symm).1).elim
  | verbatim => simp [Markup.cdata] at empty
  | element _ _ written => cases written <;> cases empty

/-- The nodes after a run that has begun, last piece first. -/
def resume (run : List Piece) (nodes : List Node) : List Node :=
  run.foldl (fun nodes piece => addPiece piece nodes) nodes

theorem resume_run (run pieces : List Piece) (rest : List Node) :
    resume run (.run pieces :: rest) = .run (run.reverse ++ pieces) :: rest := by
  induction run generalizing pieces with
  | nil => rfl
  | cons piece run ih =>
    have step : resume (piece :: run) (.run pieces :: rest) = resume run (.run (piece :: pieces) :: rest) := rfl
    rw [step, ih]
    simp

/-- Where no run follows, the one that has begun ends. -/
theorem resume_of_addPiece {nodes : List Node} (ends : ∀ piece, addPiece piece nodes = .run [piece] :: nodes)
    (run : List Piece) : resume run nodes = if run.isEmpty then nodes else .run run.reverse :: nodes := by
  cases run with
  | nil => rfl
  | cons piece run =>
    have step : resume (piece :: run) nodes = resume run (addPiece piece nodes) := rfl
    rw [step, ends, resume_run]
    simp

/-- Whether characters complete the outermost element after what has been read. -/
def Progress.Reaches : Progress → List Char → Node → Prop
  | inside stack, rest, root => Xml.Reaches stack rest root
  | complete done, _, root => done = root

theorem Reaches.of_take {stack : List Open} {cs rest : List Char} {piece : Markup} {p : Progress} {root : Node}
    (found : Markup.next cs = some (piece, rest)) (shorter : rest.length < cs.length)
    (taken : Progress.take stack piece = some p) (after : p.Reaches rest root) : Reaches stack cs root := by
  cases p with
  | inside stack' => exact .next found shorter taken after
  | complete done =>
    obtain rfl : done = root := after
    exact .last found shorter taken

/-- An open element after nodes inside of it. -/
def Open.after (o : Open) (nodes : List Node) : Open :=
  { o with children := (resume o.run nodes).reverse ++ o.children, run := [] }

theorem Open.after_nil (o : Open) : o.after [] = o.endRun := by
  rw [after, resume_of_addPiece fun _ => rfl]
  cases empty : o.run.isEmpty <;> simp [endRun, empty]

theorem Open.after_addChild (o : Open) (name attributes : List Char) (children more : List Node) :
    (o.addChild (.element name attributes children)).after more =
      o.after (.element name attributes children :: more) := by
  have fresh : (o.addChild (.element name attributes children)).after more =
      { o with children := more.reverse ++ .element name attributes children :: o.endRun.children, run := [] } := rfl
  rw [fresh, after, resume_of_addPiece fun _ => rfl]
  cases empty : o.run.isEmpty <;> simp [endRun, empty]

/-- What is inside an element leads to the end of it, and so the element is closed. -/
theorem Reaches.append_element {name attributes content written : List Char} {nodes : List Node}
    (plain : IsPlain name) (tail : IsTail attributes) (element : WritesElement name attributes content written)
    (hollow : content = [] → nodes = []) {stack : List Open} {rest : List Char} {root : Node}
    (inner : ∀ {rest : List Char}, (∀ o : Open, o.endRun = (Open.start name attributes).after nodes →
        Reaches (o :: stack) ('<' :: rest) root) →
      Reaches (Open.start name attributes :: stack) (content ++ '<' :: rest) root)
    (after : (Progress.close (.element name attributes nodes) stack).Reaches rest root) :
    Reaches stack (written ++ rest) root := by
  cases element with
  | closed empty =>
    obtain rfl := hollow empty
    have found := Markup.next_closedTag plain tail rest
    simp only [List.cons_append, List.append_assoc, List.nil_append]
    refine .of_take found ?_ rfl after
    simp only [List.length_cons, List.length_append]
    omega
  | tags =>
    have found := Markup.next_startTag plain tail (content ++ '<' :: '/' :: (name ++ '>' :: rest))
    simp only [List.cons_append, List.append_assoc, List.nil_append]
    refine .next found ?_ rfl (inner fun o end' => ?_)
    · simp only [List.length_cons, List.length_append]
      omega
    · have closed : o.name = name ∧ o.close = .element name attributes nodes := by
        have same : o.endRun.name = name ∧ o.endRun.attributes = attributes := by rw [end']; exact ⟨rfl, rfl⟩
        refine ⟨same.1, ?_⟩
        rw [Open.close, end']
        change Node.element o.endRun.name o.endRun.attributes _ = _
        rw [same.1, same.2]
        simp [Open.after, Open.start, resume]
      refine .of_take (Markup.next_endTag plain _) ?_ ?_ after
      · simp only [List.length_cons, List.length_append]
        omega
      · simp only [Progress.take, closed, if_true]

/-- What is written inside an element leads to the element with its nodes, up to the tag that follows. -/
theorem Writes.reaches {cs : List Char} {nodes : List Node} (writes : Writes cs nodes) {o : Open}
    {stack : List Open} {rest : List Char} {root : Node}
    (after : ∀ o' : Open, o'.endRun = o.after nodes → Reaches (o' :: stack) ('<' :: rest) root) :
    Reaches (o :: stack) (cs ++ '<' :: rest) root := by
  induction writes generalizing o stack rest with
  | nil => exact after o o.after_nil.symm
  | @text raw cs nodes nonempty plain starts _ ih =>
    obtain ⟨more, same⟩ : ∃ more, cs ++ '<' :: rest = '<' :: more := by
      cases cs with
      | nil => exact ⟨rest, rfl⟩
      | cons c cs => exact ⟨cs ++ '<' :: rest, by rw [starts c rfl, List.cons_append]⟩
    have found := Markup.next_text nonempty plain more
    rw [← same] at found
    rw [List.append_assoc]
    refine .next found ?_ rfl (ih after)
    simp [List.length_pos_iff.2 nonempty]
  | @verbatim raw cs nodes free _ ih =>
    rw [List.append_assoc]
    refine .next (Markup.next_cdata free _) ?_ rfl (ih after)
    simp only [Markup.cdata, List.cons_append, List.length_cons, List.length_append]
    omega
  | @element name attributes content written others nodes more plain tail element writes _ inner outer =>
    rw [List.append_assoc]
    refine .append_element plain tail element (fun empty => (empty ▸ writes).nodes_eq_nil) inner ?_
    exact outer fun o' end' => after o' (end'.trans (o.after_addChild name attributes nodes more))

/-- The root of a written element is the element with the nodes that its content writes. -/
theorem rootOf?_of_writes {name attributes content written : List Char} {nodes : List Node} (plain : IsPlain name)
    (tail : IsTail attributes) (element : WritesElement name attributes content written)
    (writes : Writes content nodes) (rest : List Char) :
    rootOf? (written ++ rest) = some (.element name attributes nodes) := by
  have reaches : Reaches [] (written ++ rest) (.element name attributes nodes) :=
    .append_element plain tail element (fun empty => (empty ▸ writes).nodes_eq_nil) writes.reaches rfl
  rw [rootOf?, element.head?_append]
  exact reaches.readRoot_eq (Nat.le_refl _)

end ReplyGateway.Xml
