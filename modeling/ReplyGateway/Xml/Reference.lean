import ReplyGateway.Text.Digit

namespace ReplyGateway.Xml

/-- Codes from here on are all alike: they stand for no character. -/
def codeLimit : Nat := 0x110000

/-- The number that digits spell, or the limit of codes if it is beyond; `none` without digits. -/
def code? (base : Nat) (cs : List Char) : Option Nat :=
  if cs.isEmpty then none
  else cs.foldlM (fun n c => do return min codeLimit (n * base + (← digit? base c.toNat))) 0

/-- The character with a code, other than the null character. -/
def char? (code : Nat) : Option Char :=
  if code = 0 then none else if h : code.isValidChar then some (Char.ofNatAux code h) else none

/-- The character that a reference names, between the ampersand and the semicolon. -/
def reference? : List Char → Option Char
  | '#' :: 'x' :: cs => (code? 16 cs).bind char?
  | '#' :: cs => (code? 10 cs).bind char?
  | cs =>
    if cs = "lt".toList then some '<'
    else if cs = "gt".toList then some '>'
    else if cs = "amp".toList then some '&'
    else if cs = "apos".toList then some '\''
    else if cs = "quot".toList then some '"'
    else none

/-- Replaces references. `open?` holds the characters of one that has begun, last first; `done` holds the text
before it, last first. -/
def unescapeOnto (open? : Option (List Char)) (done : List Char) : List Char → Option (List Char)
  | [] => if open?.isSome then none else some done.reverse
  | c :: cs =>
    match open? with
    | none => if c = '&' then unescapeOnto (some []) done cs else unescapeOnto none (c :: done) cs
    | some name =>
      if c = ';' then
        match reference? name.reverse with
        | none => none
        | some d => unescapeOnto none (d :: done) cs
      else if c = '&' then none
      else unescapeOnto (some (c :: name)) done cs

/-- The text with its references replaced; `none` if one of them names no character. -/
def unescape (cs : List Char) : Option (List Char) := unescapeOnto none [] cs

/-- How a character is written in text. -/
def escapeChar (c : Char) : List Char :=
  if c = '<' then "&lt;".toList else if c = '>' then "&gt;".toList else if c = '&' then "&amp;".toList else [c]

/-- Text with the characters escaped that could be taken for markup. -/
def escape (cs : List Char) : List Char := cs.flatMap escapeChar

theorem unescapeOnto_escapeChar (c : Char) (done rest : List Char) :
    unescapeOnto none done (escapeChar c ++ rest) = unescapeOnto none (c :: done) rest := by
  unfold escapeChar
  split
  · subst_vars; rfl
  · split
    · subst_vars; rfl
    · split
      · subst_vars; rfl
      · simp_all [unescapeOnto]

theorem unescapeOnto_escape (cs done : List Char) : unescapeOnto none done (escape cs) = some (done.reverse ++ cs) := by
  induction cs generalizing done with
  | nil => simp [escape, unescapeOnto]
  | cons c rest ih =>
    rw [escape, List.flatMap_cons, unescapeOnto_escapeChar, ← escape, ih]
    simp

/-- What is escaped reads back. -/
theorem unescape_escape (cs : List Char) : unescape (escape cs) = some cs := unescapeOnto_escape cs []

end ReplyGateway.Xml
