import ReplyGateway.Locator.Host
import ReplyGateway.Text.Blank

namespace ReplyGateway

/-- A locator as a browser reads it: a scheme, and perhaps a host with users before it and a port after it. -/
structure Locator where
  /-- In small letters. -/
  scheme : Option (List Char)
  host : Option Host
  deriving DecidableEq, Repr

namespace Locator

/-- The text without controls and spaces at its ends, and without line ends and tabs. -/
def clean (cs : List Char) : List Char :=
  (trimBoth (fun c => c.toNat ≤ 32) cs).filter fun c => c ≠ '\t' ∧ c ≠ '\n' ∧ c ≠ '\r'

/-- The scheme before the first colon, in small letters, and what follows the colon. -/
def scheme? (cs : List Char) : Option (List Char × List Char) :=
  match cs.span (· ≠ ':') with
  | (c :: rest, ':' :: more) =>
    if c.isAlpha ∧ rest.all fun c => c.isAlphanum || c = '+' || c = '-' || c = '.' then
      some ((c :: rest).map Char.toLower, more)
    else none
  | _ => none

/-- What comes between a scheme and a host. -/
inductive Kind
  /-- Any number of slashes of both kinds, and the host is a domain. -/
  | web
  /-- Two slashes of any kind, and the host is a domain, without users or a port. -/
  | file
  /-- Two slashes, and the host is a plain name. -/
  | other
  deriving DecidableEq, Repr

def Kind.ofScheme (scheme : List Char) : Kind :=
  if ["http", "https", "ws", "wss", "ftp"].contains (String.ofList scheme) then web
  else if scheme = "file".toList then file
  else other

def isSlash (c : Char) : Bool := c = '/' || c = '\\'

/-- Whether a character ends the part with the host. -/
def endsAuthority (isDomain : Bool) (c : Char) : Bool := c = '/' || c = '?' || c = '#' || (isDomain && c = '\\')

/-- Cuts before the first colon outside of brackets. -/
def cutPort (inBrackets : Bool) : List Char → List Char × List Char
  | [] => ([], [])
  | c :: cs =>
    if c = ':' ∧ inBrackets = false then ([], c :: cs)
    else
      let (host, port) := cutPort (c = '[' || (inBrackets && c ≠ ']')) cs
      (c :: host, port)

/-- Reading a host up to its port loses nothing. -/
theorem append_cutPort (inBrackets : Bool) (cs : List Char) :
    (cutPort inBrackets cs).1 ++ (cutPort inBrackets cs).2 = cs := by
  induction cs generalizing inBrackets with
  | nil => rfl
  | cons c cs ih =>
    rw [cutPort]
    split
    · rfl
    · simp only [List.cons_append, ih]

def portLimit : Nat := 65535

/-- Whether a port is well formed: nothing, or a colon and a number, which may be missing. A backslash ends it. -/
def isPort : List Char → Bool
  | [] => true
  | _ :: cs =>
    let (digits, rest) := cs.span Char.isDigit
    (numeral? 10 digits).any (· ≤ portLimit) && rest.head?.all (· = '\\')

/-- Whether what stands before a host, with the at sign that ends it, needs the host. -/
def needHost (users : List Char) : Bool := users ≠ [] && users ≠ ['@'] && users ≠ [':', '@']

/-- The host behind the slashes of a locator; `none` if it is malformed, and `some none` if there is none. -/
def host? (isDomain : Bool) (cs : List Char) : Option (Option Host) :=
  let authority := cs.takeWhile fun c => !endsAuthority isDomain c
  let (server, users) := authority.reverse.span (· ≠ '@')
  let (host, port) := cutPort false server.reverse
  let users := users.reverse
  if host.isEmpty then
    if isDomain || !port.isEmpty || needHost users || (users = ['@'] && authority.length < cs.length) then none
    else some none
  else if isPort port then (Host.ofText? isDomain host).map some
  else none

/-- Whether a text is a letter for a drive, as some systems name files. -/
def isDrive : List Char → Bool
  | [letter, mark] => letter.isAlpha && (mark = ':' || mark = '|')
  | _ => false

/-- The host of a file. The machine itself is none. -/
def fileHost? : List Char → Option (Option Host)
  | a :: b :: cs =>
    let name := cs.takeWhile fun c => !endsAuthority true c
    if !isSlash a || !isSlash b || name.isEmpty || isDrive name then some none
    else (Host.ofText? true name).map fun host => if host = .domain ["localhost".toList] then none else some host
  | _ => some none

/-- Reads a locator; `none` if it is malformed. A text without a scheme has no host. -/
def ofText? (text : List Char) : Option Locator :=
  match scheme? (clean text) with
  | none => some ⟨none, none⟩
  | some (scheme, rest) =>
    let host := match Kind.ofScheme scheme with
      | .web => host? true (rest.dropWhile isSlash)
      | .file => fileHost? rest
      | .other =>
        match rest with
        | '/' :: '/' :: rest => host? false rest
        | _ => some none
    host.map (⟨some scheme, ·⟩)

end Locator
end ReplyGateway
