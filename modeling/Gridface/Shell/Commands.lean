import Gridface.Shell.Words

/-!
# Reading commands

How commands are read, one list of them at a time. Commands within commands are read by a step that
is given, which reads a list.
-/

namespace Gridface.Shell

open Text

namespace Read

/-- What may be done with the next token. -/
structure Expectation where
  /-- Line ends before the token are passed over. -/
  newlines : Bool := false
  /-- A word may be a keyword. -/
  keywords : Bool := false
  /-- A word may be replaced by what it is an alias for. -/
  aliases : Bool := false
  /-- A word ends a document. -/
  ending : Bool := false

/-- Where a new command may begin. -/
def Expectation.command : Expectation where
  keywords := true
  aliases := true

/-- Where a new command may begin, perhaps on another line. -/
def Expectation.nextCommand : Expectation where
  newlines := true
  keywords := true
  aliases := true

/-- The steps that read lists of commands within a command. -/
structure ListReader where
  /-- A list that stands between keywords. -/
  body : Read (Option Command)
  /-- A list that may be left out. -/
  optional : Read (Option Command)
  /-- A list that may be left out, with the parenthesis that closes it. -/
  enclosed : Read (Option Command)

/-! ## Tokens -/

/-- Passes over blanks and a remark. -/
def skipBlanks : Nat → Read Unit
  | 0 => return
  | fuel + 1 => do
    match ← peek with
    | some ' ' =>
      discard take
      skipBlanks fuel
    | some '\t' =>
      discard take
      skipBlanks fuel
    | some '#' =>
      modify fun s => { s with rest := s.rest.dropWhile (· != '\n') }
      skipBlanks fuel
    | _ => return

/-- The redirection that begins with a sign, which has been taken; `stream` is the number before
it. -/
def redirectToken (stream : Option Nat) (sign : Char) : Read Token := do
  let redirect (default : Nat) (mark : RedirectMark) : Read Token :=
    return .redirect (stream.getD default) mark
  if sign = '>' then
    if ← accept '>' then redirect 1 (.file .append)
    else if ← accept '|' then redirect 1 (.file .overwrite)
    else if ← accept '&' then redirect 1 .duplicate
    else redirect 1 (.file .write)
  else if ← accept '<' then redirect 0 (.document (← accept '-'))
  else if ← accept '&' then redirect 0 .duplicate
  else if ← accept '>' then redirect 0 (.file .readWrite)
  else redirect 0 (.file .read)

/-- The token that a word and what follows it make: a single digit before a sign is the number of a
stream. -/
def wordToken (w : WordSetting) : Read Token := do
  let word ← Read.word w
  let sign := (← peek).filter fun c => c == '<' || c == '>'
  match sign, Word.bareChars word, word.length with
  | some sign, [], 0 =>
    discard take
    redirectToken none sign
  | some sign, [digit], 1 =>
    if digit.isDigit then
      discard take
      redirectToken (some (digit.toNat - '0'.toNat)) sign
    else return .word word
  | _, _, _ => return .word word

/-- The next token, whatever it may be. -/
def rawToken (w : WordSetting) : Read Token := do
  match (← get).pushed with
  | some t =>
    modify fun s => { s with pushed := none }
    return t
  | none =>
    skipBlanks (← size)
    let mark (text : String) : Read Token := return .mark text
    match ← peek with
    | none => return .nothing
    | some '\n' =>
      discard take
      return .newline
    | some '&' =>
      discard take
      if ← accept '&' then mark "&&" else mark "&"
    | some '|' =>
      discard take
      if ← accept '|' then mark "||" else mark "|"
    | some ';' =>
      discard take
      if ← accept ';' then mark ";;" else mark ";"
    | some '(' =>
      discard take
      mark "("
    | some ')' =>
      discard take
      mark ")"
    | some _ => wordToken w

/-- The next token, after line ends. The documents that the lines have announced are read. -/
def rawTokenAfterLines (w : WordSetting) : Nat → Read Token
  | 0 => rawToken w
  | fuel + 1 => do
    let t ← rawToken w
    match t with
    | .newline =>
      readDocuments w
      rawTokenAfterLines w fuel
    | t => return t

/-- What a word is an alias for, unless it stands in what it is an alias for. Aliases that have been
read through are closed. -/
def alias? (name : Octets) : Read (Option Octets) := do
  let s ← get
  let isOpen (a : OpenAlias) : Bool := a.behind < s.rest.length
  let openAliases := s.openAliases.filter isOpen
  set { s with openAliases }
  if openAliases.any (·.name == name) then return none else return s.aliases.lookup name

/-- Whether a replacement has just been read through after which the next word may be replaced. -/
def goesOn : Read Bool := do
  let s ← get
  if s.openAliases.isEmpty then return false
  else
    let rest := s.rest.dropWhile fun c => c == ' ' || c == '\t'
    return s.openAliases.any fun a => a.goesOn && rest.length ≤ a.behind && s.pushed.isNone

/-- The next token. -/
def tokenFrom (w : WordSetting) : Nat → Expectation → Read Token
  | 0, _ => return .nothing
  | fuel + 1, e => do
    let goesOn ← goesOn
    let t ← if e.newlines then rawTokenAfterLines w (← size) else rawToken w
    match t with
    | .word word =>
      match word.bare? with
      | none => return t
      | some text =>
        if e.keywords && keywords.contains text then return .keyword text
        else if e.aliases || goesOn then
          match ← alias? text with
          | none => return t
          | some replacement =>
            modify fun s =>
              let behind := s.rest.length
              let endsBlank := replacement.toList.getLast?.any fun c => c == ' ' || c == '\t'
              { s with
                rest := replacement.toList ++ s.rest
                openAliases := ⟨text, behind, endsBlank⟩ :: s.openAliases }
            tokenFrom w fuel e
        else return t
    | t => return t

/-- The next token. Each word of an alias takes one of the aliases, whose number bounds the steps.
-/
def token (r : ListReader) (e : Expectation := {}) : Read Token := do
  let w : WordSetting := { enclosed := r.enclosed, commands := r.optional, isEnding := e.ending }
  tokenFrom w ((← get).aliases.length + 1000) e

/-! ## Redirections -/

/-- The redirection of which the mark has been read. -/
def redirect (r : ListReader) (stream : Nat) (mark : RedirectMark) :
    Read Redirect := do
  let t ← token r { ending := mark matches .document _ }
  match t, mark with
  | .word word, .file mode => return .file stream mode word
  | .word word, .duplicate => return .duplicate stream word
  | .word word, .document dropsTabs =>
    let s ← get
    let chars := word.filterMap fun
      | .char c _ => some c
      | _ => none
    let isLiteral := word.any fun
      | .char _ isQuoted => isQuoted
      | .quoteMark => true
      | _ => false
    let document : PendingDocument :=
      ⟨s.documentCount, String.ofList chars, dropsTabs, isLiteral⟩
    set { s with pending := s.pending ++ [document], documentCount := s.documentCount + 1 }
    return .document stream document.id
  | t, _ => unexpected t

/-- The redirections after a command. -/
def redirectsFrom (r : ListReader) : Nat → Read (List Redirect)
  | 0 => return []
  | fuel + 1 => do
    match ← token r .command with
    | .redirect stream mark =>
      let first ← redirect r stream mark
      return first :: (← redirectsFrom r fuel)
    | t =>
      push t
      return []

/-! ## Simple commands -/

/-- Names of commands that no function may have. -/
def specialNames : List String :=
  [".", ":", "break", "continue", "eval", "exec", "exit", "export", "local", "readonly", "return",
    "set", "shift", "times", "trap", "unset"]

/-- The words, assignments and redirections of a simple command. -/
structure SimpleParts where
  assignments : List Word := []
  words : List Word := []
  redirects : List Redirect := []

/-- The function of which the name has been read. -/
def functionCommand (r : ListReader) (body : Expectation → Read Command) (name : Word) :
    Read Command := do
  match ← token r with
  | .mark ")" =>
    match name.bare? with
    | some text =>
      if isName text.toList && !specialNames.contains text then
        let line := (← get).line
        return .function line text (← body .nextCommand)
      else fail "Bad function name"
    | none => fail "Bad function name"
  | t => expecting t (.mark ")")

/-- The rest of a simple command. -/
def simpleFrom (r : ListReader) (body : Expectation → Read Command) (line : Nat) :
    Nat → SimpleParts → Read Command
  | 0, p => return .simple line p.assignments p.words p.redirects
  | fuel + 1, p => do
    match ← token r { aliases := p.words.isEmpty } with
    | .word word =>
      if p.words.isEmpty && word.isAssignment then
        simpleFrom r body line fuel { p with assignments := p.assignments ++ [word] }
      else simpleFrom r body line fuel { p with words := p.words ++ [word] }
    | .redirect stream mark =>
      let redirect ← redirect r stream mark
      simpleFrom r body line fuel { p with redirects := p.redirects ++ [redirect] }
    | .mark "(" =>
      match p.assignments, p.words, p.redirects with
      | [], [name], [] => functionCommand r body name
      | _, _, _ =>
        push (.mark "(")
        return .simple line p.assignments p.words p.redirects
    | t =>
      push t
      return .simple line p.assignments p.words p.redirects

/-! ## Compound commands -/

/-- A list of commands that may not be left out. Where the source ends, what has to follow the list
is missed before the list itself. -/
def commandList (r : ListReader) : Read Command := do
  match ← r.body with
  | some c => return c
  | none =>
    match ← token r with
    | .nothing =>
      push .nothing
      return default
    | t => unexpected t

/-- Takes the token that has to come next. -/
def expect (r : ListReader) (e : Expectation) (expected : Token)
    (isExpected : Token → Bool) : Read Unit := do
  let t ← token r e
  if isExpected t then return else expecting t expected

/-- Takes the keyword that has to come next. -/
def expectKeyword (r : ListReader) (e : Expectation) (text : String) : Read Unit :=
  expect r e (.keyword text) (·.isKeyword text)

/-- The rest of a condition, after its keyword. -/
def conditionalFrom (r : ListReader) : Nat → Read Command
  | 0 => fail "end of file unexpected"
  | fuel + 1 => do
    let test ← commandList r
    expectKeyword r {} "then"
    let yes ← commandList r
    let t ← token r
    if t.isKeyword "elif" then return .conditional test yes (some (← conditionalFrom r fuel))
    else if t.isKeyword "else" then return .conditional test yes (some (← commandList r))
    else
      push t
      return .conditional test yes none

/-- The words up to the end of a line or a semicolon. -/
def wordsFrom (r : ListReader) : Nat → Read (List Word)
  | 0 => return []
  | fuel + 1 => do
    match ← token r with
    | .word word => return word :: (← wordsFrom r fuel)
    | .newline =>
      push .newline
      return []
    | .mark ";" => return []
    | t => unexpected t

/-- A command for each word, after its keyword. -/
def eachCommand (r : ListReader) (line : Nat) : Read Command := do
  let name? := match ← token r with
    | .word word => word.bare?.filter fun text => isName text.toList
    | _ => none
  match name? with
  | none => fail "Bad for loop variable"
  | some name =>
    let t ← token r .nextCommand
    let words ←
      if t.isKeyword "in" then wordsFrom r (← size)
      else
        if !t.isMark ";" then push t
        pure [[.quoteMark, .value "@" .plain false [] true, .quoteMark]]
    expectKeyword r .nextCommand "do"
    return .each line name words (← commandList r)

/-- The patterns of a case, of which the first token is given. -/
def patternsFrom (r : ListReader) : Nat → Token → Read (List Word)
  | 0, _ => return []
  | fuel + 1, t => do
    let word : Word := match t with
      | .word word => word
      | .keyword text => text.toList.map fun c => .char c false
      | _ => []
    let t ← token r
    if t.isMark "|" then return word :: (← patternsFrom r fuel (← token r))
    else if t.isMark ")" then return [word]
    else expecting t (.mark ")")

/-- The cases of a choice. -/
def casesFrom (r : ListReader) :
    Nat → Read (List (List Word × Option Command))
  | 0 => return []
  | fuel + 1 => do
    let e : Expectation := { newlines := true, keywords := true }
    let t ← token r e
    if t.isKeyword "esac" then return []
    else
      let t ← if t.isMark "(" then token r else pure t
      let patterns ← patternsFrom r (← size) t
      let body ← r.optional
      let t ← token r e
      if t.isKeyword "esac" then return [(patterns, body)]
      else if t.isMark ";;" then return (patterns, body) :: (← casesFrom r fuel)
      else expecting t (.mark ";;")

/-- A loop, after its keyword. -/
def loopCommand (r : ListReader) (isUntil : Bool) : Read Command := do
  let test ← commandList r
  expectKeyword r {} "do"
  let body ← commandList r
  expectKeyword r {} "done"
  return .loop isUntil test body

/-- A compound command, of which the first token is given, or nothing if it begins none. -/
def compound? (r : ListReader) (line : Nat) (t : Token) : Read (Option Command) := do
  match t with
  | .keyword "if" =>
    let c ← conditionalFrom r (← size)
    expectKeyword r {} "fi"
    return some c
  | .keyword "while" => return some (← loopCommand r false)
  | .keyword "until" => return some (← loopCommand r true)
  | .keyword "for" =>
    let c ← eachCommand r line
    expectKeyword r {} "done"
    return some c
  | .keyword "case" =>
    match ← token r with
    | .word word =>
      expectKeyword r .nextCommand "in"
      return some (.choice line word (← casesFrom r (← size)))
    | t => expecting t (.word [])
  | .keyword "\x7b" =>
    let c ← commandList r
    expectKeyword r {} "\x7d"
    return some c
  | .mark "(" =>
    let c ← commandList r
    expect r {} (.mark ")") (·.isMark ")")
    return some (.subshell line c [])
  | _ => return none

/-- A command; the number bounds how many functions are defined in one another. -/
def command (r : ListReader) : Nat → Expectation → Read Command
  | 0, _ => fail "end of file unexpected"
  | fuel + 1, e => do
    let line := (← get).line
    let t ← token r e
    match t with
    | .word _ =>
      push t
      simpleFrom r (command r fuel) (← get).line (← size) {}
    | .redirect .. =>
      push t
      simpleFrom r (command r fuel) (← get).line (← size) {}
    | t =>
      match ← compound? r line t with
      | none => unexpected t
      | some c =>
        let redirects ← redirectsFrom r (← size)
        match t, c, redirects with
        | .mark _, .subshell line body _, redirects => return .subshell line body redirects
        | _, c, [] => return c
        | _, c, redirects => return .redirected line c redirects

/-! ## Lists -/

/-- The stages of a pipeline after the first. -/
def stagesFrom (r : ListReader) : Nat → Read (List Command)
  | 0 => return []
  | fuel + 1 => do
    let t ← token r
    if t.isMark "|" then
      let c ← command r (← size) .nextCommand
      return c :: (← stagesFrom r fuel)
    else
      push t
      return []

/-- A pipeline. -/
def pipelineCommand (r : ListReader) (e : Expectation) : Read Command := do
  let t ← token r e
  let isNegated := t.isKeyword "!"
  if !isNegated then push t
  let first ← command r (← size) (if isNegated then .command else {})
  let more ← stagesFrom r (← size)
  let c := if more.isEmpty then first else .pipeline false (first :: more)
  return if isNegated then .negation c else c

/-- Pipelines after a first one, each run if the one before it succeeds, or if it does not. -/
def andOrFrom (r : ListReader) : Nat → Command → Read Command
  | 0, c => return c
  | fuel + 1, c => do
    let t ← token r
    if t.isMark "&&" then
      andOrFrom r fuel (.conjunction c (← pipelineCommand r .nextCommand))
    else if t.isMark "||" then
      andOrFrom r fuel (.alternative c (← pipelineCommand r .nextCommand))
    else
      push t
      return c

/-- The command as one that is not waited for. -/
def inBackground (line : Nat) : Command → Command
  | .pipeline _ stages => .pipeline true stages
  | .redirected line body redirects => .background line body redirects
  | c => .background line c []

/-- What ends a list of commands. -/
inductive ListKind
  /-- The end of a line. -/
  | line
  /-- A keyword or mark that ends lists; a command has to come first. -/
  | body
  /-- A keyword or mark that ends lists. -/
  | optional
  deriving DecidableEq, Repr

/-- The rest of a list, after the commands that have been read. -/
def listFrom (r : ListReader) (kind : ListKind) : Nat → Option Command → Read (Option Command)
  | 0, done => return done
  | fuel + 1, done => do
    let w : WordSetting := { enclosed := r.enclosed, commands := r.optional }
    let t ← token r (if kind = .line then .command else .nextCommand)
    let ends := t.endsList && kind != .line && (done.isSome || kind = .optional)
    match t with
    | .newline =>
      readDocuments w
      return done
    | .nothing =>
      readDocuments w
      push t
      return done
    | t =>
      push t
      if ends then return done
      else
        let c ← andOrFrom r (← size) (← pipelineCommand r {})
        let t ← token r
        let line := (← get).line
        let c := if t.isMark "&" then inBackground line c else c
        let done := some (done.elim c fun first => .sequence first c)
        match t with
        | .nothing =>
          readDocuments w
          push t
          return done
        | .newline =>
          push t
          listFrom r kind fuel done
        | t =>
          if t.isMark "&" || t.isMark ";" then listFrom r kind fuel done
          else if kind = .line then unexpected t
          else
            push t
            return done

/-- A list of commands, with commands nested so deeply at most. -/
def list : Nat → ListKind → Read (Option Command)
  | 0, _ => fail "end of file unexpected"
  | depth + 1, kind => do
    let r : ListReader :=
      { body := list depth .body
        optional := list depth .optional
        enclosed := enclosed depth }
    listFrom r kind (← size) none
where
  /-- A list that may be left out, with the parenthesis that closes it. -/
  enclosed (depth : Nat) : Read (Option Command) := do
    let c ← list depth .optional
    match (← get).pushed with
    | some (.mark ")") =>
      modify fun s => { s with pushed := none }
      return c
    | some t => expecting t (.mark ")")
    | none => expecting .nothing (.mark ")")

/-- A text that is read as a document is. -/
def wholeDocument : Read Word := do
  let size ← size
  let w : WordSetting :=
    { enclosed := list.enclosed (size + 1), commands := list (size + 1) .optional
      inDocument := true }
  parts w size .document []

/-- What a line of a script is. -/
inductive Line
  /-- A command, or a line that says nothing. -/
  | command (c : Option Command)
  | ended

/-- The next command of a script. Each level of nesting takes a character, so the length of the
script bounds them. -/
def nextLine : Read Line := do
  modify fun s => { s with pushed := none, pending := [] }
  let c ← list ((← get).rest.length + 2) .line
  match c, (← get).pushed with
  | none, some .nothing => return .ended
  | c, _ => return .command c

end Read

end Gridface.Shell
