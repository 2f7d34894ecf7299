import Gridface.Shell.Source

/-!
# Reading words

How words are read: what is quoted in them, and the values that stand in them. Commands in words are
read by a step that is given.
-/

namespace Gridface.Shell

open Text

namespace Read

/-- Where in a word something stands. -/
inductive Site
  | bare
  /-- Between double quotes. -/
  | quotes
  /-- In the word of a parameter between braces; `isNested` says that it is between double quotes
  there. -/
  | braces (isQuoted isNested : Bool)
  /-- In a document. -/
  | document
  /-- In a sum, between so many parentheses. -/
  | sum (depth : Nat)
  deriving DecidableEq, Repr

/-- Whether what stands there is quoted. -/
def Site.isQuoted : Site → Bool
  | bare => false
  | braces isQuoted _ => isQuoted
  | _ => true

/-- What is known where a word is read. -/
structure WordSetting where
  /-- Reads commands and the parenthesis that closes them. -/
  enclosed : Read (Option Command)
  /-- Reads commands. -/
  commands : Read (Option Command)
  /-- The word is in a document. -/
  inDocument : Bool := false
  /-- The word ends a document, and has no values in it. -/
  isEnding : Bool := false

/-- A character that ends a word. -/
def endsWord (c : Char) : Bool := " \t\n;&|<>()".toList.contains c

/-- Characters as parts that are quoted. -/
def quotedChars (cs : List Char) : Word := cs.map fun c => .char c true

/-- Takes the characters up to an apostrophe. -/
def literalFrom : Nat → List Char → Read (List Char)
  | 0, _ => fail "Unterminated quoted string"
  | fuel + 1, taken => do
    match ← take with
    | none => fail "Unterminated quoted string"
    | some '\'' => return taken.reverse
    | some c => literalFrom fuel (c :: taken)

/-- What a backslash, which has been taken, and the character after it stand for. -/
def backslash (w : WordSetting) (site : Site) : Read Word := do
  match ← take with
  | none => return [.char '\\' true]
  | some c =>
    let inBraces := site matches .braces ..
    let isEscape :=
      !site.isQuoted || "\\\x60$".toList.contains c ||
        (c == '"' && (!w.inDocument || inBraces)) || (c == '}' && inBraces)
    return if isEscape then [.char c true] else [.char '\\' true, .char c true]

/-! ## Commands in words -/

/-- The text of a command between backquotes, of which the first has been taken, after what has been
taken in reverse. -/
def backquotedFrom (isQuoted : Bool) : Nat → List Char → Read (List Char)
  | 0, _ => fail "EOF in backquote substitution"
  | fuel + 1, taken => do
    match ← next with
    | none => fail "EOF in backquote substitution"
    | some '\x60' => return taken.reverse
    | some '\\' =>
      match ← take with
      | none => fail "EOF in backquote substitution"
      | some c =>
        let isEscape := "\\\x60$".toList.contains c || (isQuoted && c == '"')
        backquotedFrom isQuoted fuel (if isEscape then c :: taken else c :: '\\' :: taken)
    | some c => backquotedFrom isQuoted fuel (c :: taken)

/-- Reads a text of its own, which begins on a line of its own, by a step. -/
def within {α : Type} (text : List Char) (step : Read α) : Read α := do
  let outer ← get
  set { outer with rest := text, line := 1, pushed := none, pending := [], openAliases := [] }
  let result ← tryCatch step fun fault => throw { fault with left := outer.left }
  modify fun inner =>
    { outer with documents := inner.documents, documentCount := inner.documentCount }
  return result

/-- A command between backquotes, of which the first has been taken. -/
def backquoted (w : WordSetting) (isQuoted : Bool) : Read Part := do
  let text ← backquotedFrom isQuoted (← size) []
  let body ← within text w.commands
  return .output body isQuoted

/-- A command after a dollar sign, of which the opening parenthesis has been taken. -/
def parenthesized (w : WordSetting) (isQuoted : Bool) : Read Part := do
  let outer ← get
  set { outer with pushed := none, pending := [] }
  let body ← w.enclosed
  modify fun s =>
    let unread := s.pending.map fun d => (d.id, [])
    { s with
      pushed := outer.pushed
      pending := outer.pending
      documents := unread ++ s.documents }
  return .output body isQuoted

/-! ## Values in words -/

/-- The name of a parameter between braces, and whether its length is asked for. -/
def bracedName : Read (Option (Octets × Bool)) := do
  let named (isLength : Bool) : Read (Option (Octets × Bool)) := do
    match ← peek with
    | some c =>
      let name ← if startsName c then takeWhile isInName else takeWhile Char.isDigit
      return some (String.ofList name, isLength)
    | none => return none
  match ← peek with
  | none => return none
  | some '}' => return none
  | some '#' =>
    discard take
    match ← peek with
    | some c =>
      if isInName c then named true
      else
        let s ← get
        discard take
        let after ← peek
        if c == '}' || after != some '}' then
          set s
          return some ("#", false)
        else if isSpecialName c then return some (c.toString, true)
        else
          set s
          return none
    | none => return some ("#", false)
  | some c =>
    if isInName c then named false
    else if isSpecialName c then
      discard take
      return some (c.toString, false)
    else
      drop
      return none

/-- What becomes of the value, told by the characters after its name, and whether an empty value
counts as none. -/
def bracedUse : Read (ValueUse × Bool) := do
  let checksEmpty ← accept ':'
  let use (u : ValueUse) : Read (ValueUse × Bool) := do
    drop
    return (u, checksEmpty)
  match ← peek with
  | some '}' => use .plain
  | some '-' => use .orElse
  | some '+' => use .instead
  | some '?' => use .require
  | some '=' => use .assign
  | some '#' =>
    if checksEmpty then use .broken
    else
      discard take
      return (.dropFront (← accept '#'), false)
  | some '%' =>
    if checksEmpty then use .broken
    else
      discard take
      return (.dropBack (← accept '%'), false)
  | some _ => use .broken
  | none => return (.broken, checksEmpty)

/-- The value of a parameter between braces, of which the first has been taken. -/
def braced (inner : Site → Read Word) (site : Site) : Read Part := do
  let isQuoted := site.isQuoted
  let word (use : ValueUse) : Read Word :=
    inner (.braces (isQuoted && !(use matches .dropFront _) && !(use matches .dropBack _)) false)
  match ← bracedName with
  | none => return .value "" .broken false (← word .broken) isQuoted
  | some (name, true) =>
    let rest ← word .length
    return .value name (if rest.isEmpty then .length else .broken) false rest isQuoted
  | some (name, false) =>
    let (use, checksEmpty) ← bracedUse
    if use = .plain && !checksEmpty then return .value name .plain false [] isQuoted
    else return .value name use checksEmpty (← word use) isQuoted

/-- What a dollar sign, which has been taken, and the characters after it stand for. -/
def dollar (w : WordSetting) (inner : Site → Read Word) (site : Site) : Read Part := do
  let isQuoted := site.isQuoted
  match ← peek with
  | some '(' =>
    if w.isEnding then return .char '$' isQuoted
    else
      discard take
      if ← accept '(' then return .sum (← inner (.sum 0)) isQuoted
      else parenthesized w isQuoted
  | some '{' =>
    if w.isEnding then return .char '$' isQuoted
    else
      discard take
      braced inner site
  | some c =>
    if w.isEnding then return .char '$' isQuoted
    else if startsName c then
      return .value (String.ofList (← takeWhile isInName)) .plain false [] isQuoted
    else if isSpecialName c then
      discard take
      return .value c.toString .plain false [] isQuoted
    else return .char '$' isQuoted
  | none => return .char '$' isQuoted

/-! ## Words -/

/-- What is wrong where the source ends at a place. -/
def endFault? (w : WordSetting) : Site → Option Octets
  | .bare => none
  | .document => none
  | .sum _ => some "Missing '))'"
  | .quotes => some "Unterminated quoted string"
  | .braces isQuoted isNested =>
    if (isQuoted || isNested) && !w.inDocument then some "Unterminated quoted string"
    else some "Missing '\x7d'"

/-- Reads the parts of a word up to the end of the place that they stand in, after those in reverse
that have been read. What ends the place is taken, unless it is the place of a bare word. -/
def parts (w : WordSetting) : Nat → Site → List Part → Read Word
  | 0, _, _ => fail "Unterminated quoted string"
  | fuel + 1, site, done => do
    let isQuoted := site.isQuoted
    let goOn (p : Part) : Read Word := parts w fuel site (p :: done)
    let literal (c : Char) : Read Word := do
      discard take
      goOn (.char c isQuoted)
    match ← peek with
    | none =>
      match endFault? w site with
      | some text => fail text
      | none => return done.reverse
    | some c =>
      if c = '\\' then
        discard take
        let ps ← backslash w site
        parts w fuel site (ps.reverse ++ done)
      else if c = '$' then
        discard take
        goOn (← dollar w (fun inner => parts w fuel inner []) site)
      else if c = '\x60' then
        if w.isEnding then literal c
        else
          discard take
          goOn (← backquoted w isQuoted)
      else
        match site with
        | .bare =>
          if endsWord c then return done.reverse
          else if c = '\'' then quote fuel site done
          else if c = '"' then doubleQuote fuel site done
          else literal c
        | .quotes =>
          if c = '"' then
            discard take
            return done.reverse
          else literal c
        | .braces true isNested =>
          if c = '"' then
            discard take
            parts w fuel (.braces true !isNested) (.quoteMark :: done)
          else if c = '}' && !isNested then
            discard take
            return done.reverse
          else literal c
        | .braces false _ =>
          if c = '}' then
            discard take
            return done.reverse
          else if c = '\'' then quote fuel site done
          else if c = '"' then doubleQuote fuel site done
          else literal c
        | .document => literal c
        | .sum depth =>
          if c = '(' then
            discard take
            parts w fuel (.sum (depth + 1)) (.char c true :: done)
          else if c = ')' then
            discard take
            if 0 < depth then parts w fuel (.sum (depth - 1)) (.char c true :: done)
            else if ← accept ')' then return done.reverse
            else goOn (.char c true)
          else literal c
where
  /-- Reads on after the text between two apostrophes. -/
  quote (fuel : Nat) (site : Site) (done : List Part) : Read Word := do
    discard take
    let cs ← literalFrom (← size) []
    parts w fuel site (.quoteMark :: (quotedChars cs).reverse ++ .quoteMark :: done)
  /-- Reads on after the parts between two double quotes. -/
  doubleQuote (fuel : Nat) (site : Site) (done : List Part) : Read Word := do
    discard take
    let ps ← parts w fuel .quotes []
    parts w fuel site (.quoteMark :: ps.reverse ++ .quoteMark :: done)

/-- Reads a bare word. -/
def word (w : WordSetting) : Read Word := do parts w (← size) .bare []

/-! ## Documents -/

/-- The lines of a document up to the one that ends it, after those in reverse that have been taken,
and what follows them. In a document that does not stand for itself, a backslash joins a line to the
next. -/
def documentLines (d : PendingDocument) (isJoined : Bool) (taken : List Char) :
    Nat → List Char → List Char × List Char
  | 0, rest => (taken.reverse, rest)
  | _ + 1, [] => (taken.reverse, [])
  | fuel + 1, rest =>
    let stripped := if d.dropsTabs && !isJoined then rest.dropWhile (· == '\t') else rest
    let line := stripped.takeWhile (· != '\n')
    let after := stripped.dropWhile (· != '\n')
    if !isJoined && line == d.ending.toList then (taken.reverse, after.drop 1)
    else
      let slashes := (line.reverse.takeWhile (· == '\\')).length
      let joins := !d.isLiteral && slashes % 2 == 1 && !after.isEmpty
      documentLines d joins ((line ++ after.take 1).reverse ++ taken) fuel (after.drop 1)

/-- Reads a document. -/
def readDocument (w : WordSetting) (d : PendingDocument) : Read Unit := do
  let s ← get
  let (text, rest) := documentLines d false [] (s.rest.length + 1) s.rest
  let body ←
    if d.isLiteral then pure (quotedChars text)
    else
      set { s with rest := text, pushed := none }
      let read : Read Word := do parts { w with inDocument := true } (← size) .document []
      tryCatch read fun fault =>
        let line := if rest.length < s.rest.length - text.length then fault.line + 1 else fault.line
        throw { fault with line, left := rest.length }
  let lines := (s.rest.take (s.rest.length - rest.length)).count '\n'
  modify fun t =>
    { t with
      rest
      line := s.line + lines
      pushed := s.pushed
      documents := (d.id, body) :: t.documents }

/-- Reads the documents that have been announced. -/
def readDocuments (w : WordSetting) : Read Unit := do
  let pending := (← get).pending
  modify fun s => { s with pending := [] }
  pending.forM (readDocument w)

end Read

end Gridface.Shell
