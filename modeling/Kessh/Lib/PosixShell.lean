set_option autoImplicit false

-- How a POSIX shell reads a command line of bytes: token recognition with its quoting
-- rules, then one simple command with its redirections, and quote removal. A line that is
-- not one simple command, or that has an expansion or a here-document, is not read at all.
namespace PosixShell

abbrev Bytes := List UInt8

abbrev Word := List (UInt8 × Bool)

inductive Token where
  | word (word : Word)
  | ioNumber (digits : Word)
  | operator (bytes : Bytes)
deriving DecidableEq, Repr

-- Where the reader is: between tokens, in an operator, in a word outside quotes or in quotes,
-- after a backslash, or in a comment. None stands for a backslash between tokens.
inductive Mode where
  | blank
  | operator (bytes : Bytes)
  | word (word : Word)
  | single (word : Word)
  | double (word : Word)
  | escape (word : Option Word)
  | doubleEscape (word : Word)
  | comment
deriving DecidableEq, Repr

def newline : UInt8 := 0x0A
def quote : UInt8 := 0x27
def doubleQuote : UInt8 := 0x22
def backslash : UInt8 := 0x5C
def less : UInt8 := 0x3C
def greater : UInt8 := 0x3E
def ampersand : UInt8 := 0x26
def bar : UInt8 := 0x7C

def isBlank (byte : UInt8) : Bool := byte == 0x20 || byte == 0x09

def isDigit (byte : UInt8) : Bool := 0x30 ≤ byte.toNat && byte.toNat ≤ 0x39

-- '$' and '`' start an expansion, also in double quotes.
def isDollar (byte : UInt8) : Bool := byte == 0x24 || byte == 0x60

-- < << <<- <& <> > >> >& >| & && | || ; ;; ( )
def operators : List Bytes :=
  [[less], [less, less], [less, less, 0x2D], [less, ampersand], [less, greater], [greater], [greater, greater],
    [greater, ampersand], [greater, bar], [ampersand], [ampersand, ampersand], [bar], [bar, bar], [0x3B], [0x3B, 0x3B],
    [0x28], [0x29]]

def isOperator (bytes : Bytes) : Bool := operators.contains bytes

-- A byte outside quotes that goes on with a word, or starts one.
def inWord (word : Word) (byte : UInt8) : Option (List Token × Mode) :=
  if byte == quote then some ([], .single word)
  else if byte == doubleQuote then some ([], .double word)
  else if byte == backslash then some ([], .escape (some word))
  else if isDollar byte then none
  else some ([], .word (word ++ [(byte, false)]))

def start (byte : UInt8) : Option (List Token × Mode) :=
  if isBlank byte then some ([], .blank)
  else if byte == newline then some ([.operator [newline]], .blank)
  else if byte == 0x23 then some ([], .comment)
  else if byte == backslash then some ([], .escape none)
  else if isOperator [byte] then some ([], .operator [byte])
  else inWord [] byte

-- Digits right before '<' or '>' are the number of a file descriptor.
def ended (word : Word) (byte : UInt8) : Token :=
  if (byte == less || byte == greater) && word.all (fun part => !part.2 && isDigit part.1) && !word.isEmpty then
    .ioNumber word
  else .word word

def next : Mode → UInt8 → Option (List Token × Mode)
  | .blank, byte => start byte
  | .operator bytes, byte =>
      if isOperator (bytes ++ [byte]) then some ([], .operator (bytes ++ [byte]))
      else (start byte).map fun following => (.operator bytes :: following.1, following.2)
  | .word word, byte =>
      if isBlank byte then some ([.word word], .blank)
      else if byte == newline then some ([.word word, .operator [newline]], .blank)
      else if isOperator [byte] then some ([ended word byte], .operator [byte])
      else inWord word byte
  | .single word, byte =>
      if byte == quote then some ([], .word word) else some ([], .single (word ++ [(byte, true)]))
  | .double word, byte =>
      if byte == doubleQuote then some ([], .word word)
      else if byte == backslash then some ([], .doubleEscape word)
      else if isDollar byte then none
      else some ([], .double (word ++ [(byte, true)]))
  | .escape word, byte =>
      if byte == newline then some ([], (word.map Mode.word).getD .blank)
      else some ([], .word (word.getD [] ++ [(byte, true)]))
  | .doubleEscape word, byte =>
      if byte == newline then some ([], .double word)
      else if isDollar byte || byte == doubleQuote || byte == backslash then some ([], .double (word ++ [(byte, true)]))
      else some ([], .double (word ++ [(backslash, true), (byte, true)]))
  | .comment, byte => if byte == newline then some ([.operator [newline]], .blank) else some ([], .comment)

-- Quotes have to be closed at the end.
def finish : Mode → Option (List Token)
  | .blank => some []
  | .operator bytes => some [.operator bytes]
  | .word word => some [.word word]
  | .comment => some []
  | _ => none

def run : Mode → Bytes → Option (List Token × Mode)
  | mode, [] => some ([], mode)
  | mode, byte :: rest =>
      (next mode byte).bind fun first => (run first.2 rest).map fun later => (first.1 ++ later.1, later.2)

def tokens (line : Bytes) : Option (List Token) :=
  (run .blank line).bind fun read => (finish read.2).map (read.1 ++ ·)

structure Redirection where
  descriptor : Option Bytes
  operator : Bytes
  target : Bytes
deriving DecidableEq, Repr

structure Command where
  words : List Bytes
  redirections : List Redirection
deriving DecidableEq, Repr

-- Here-documents are left out: their text is on other lines.
def redirects (operator : Bytes) : Bool :=
  [[less], [less, ampersand], [less, greater], [greater], [greater, greater], [greater, ampersand],
    [greater, bar]].contains operator

-- '*', '?' and '[' outside quotes, or a '~' in front.
def expands (word : Word) : Bool :=
  word.any (fun part => !part.2 && (part.1 == 0x2A || part.1 == 0x3F || part.1 == 0x5B)) ||
    word.head?.any fun part => !part.2 && part.1 == 0x7E

def reserved : List String :=
  ["!", "\x7b", "\x7d", "case", "do", "done", "elif", "else", "esac", "fi", "for", "if", "in", "then", "until", "while"]

-- The first word: no assignment, and no reserved word.
def isName (word : Word) : Bool :=
  !word.any (fun part => !part.2 && part.1 == 0x3D) &&
    !(reserved.map fun text => text.toList.map fun c => (UInt8.ofNat c.toNat, false)).contains word

def text (word : Word) : Option Bytes := if expands word then none else some (word.map Prod.fst)

def Command.redirect (redirection : Redirection) (command : Command) : Command :=
  { command with redirections := redirection :: command.redirections }

def simple : List Token → Option Command
  | [] => some { words := [], redirections := [] }
  | .word word :: rest =>
      (text word).bind fun text => (simple rest).map fun command => { command with words := text :: command.words }
  | .operator operator :: .word target :: rest =>
      if redirects operator then
        (text target).bind fun target => (simple rest).map (Command.redirect ⟨none, operator, target⟩)
      else none
  | .ioNumber digits :: .operator operator :: .word target :: rest =>
      if redirects operator then
        (text target).bind fun target =>
          (simple rest).map (Command.redirect ⟨some (digits.map Prod.fst), operator, target⟩)
      else none
  | _ => none

def firstWord : List Token → Option Word
  | [] => none
  | .word word :: _ => some word
  | .operator _ :: .word _ :: rest => firstWord rest
  | .ioNumber _ :: .operator _ :: .word _ :: rest => firstWord rest
  | _ => none

-- The one simple command of a line, if that is what the line is.
def readCommand (line : Bytes) : Option Command :=
  (tokens line).bind fun tokens => if (firstWord tokens).any isName then simple tokens else none

theorem run_append (mode : Mode) (left right : Bytes) :
    run mode (left ++ right) =
      (run mode left).bind fun first => (run first.2 right).map fun later => (first.1 ++ later.1, later.2) := by
  induction left generalizing mode with
  | nil => simp [run]
  | cons byte rest ih =>
      simp only [List.cons_append, run]
      cases next mode byte with
      | none => rfl
      | some first =>
          simp only [Option.bind_some, ih]
          cases run first.2 rest with
          | none => rfl
          | some middle => cases later : run middle.2 right <;> simp [later]

theorem run_join (mode middle last : Mode) (left right : Bytes) (first later : List Token)
    (here : run mode left = some (first, middle)) (there : run middle right = some (later, last)) :
    run mode (left ++ right) = some (first ++ later, last) := by
  simp [run_append, here, there]

theorem tokens_run (line : Bytes) (read last : List Token) (mode : Mode) (whole : run .blank line = some (read, mode))
    (closed : finish mode = some last) : tokens line = some (read ++ last) := by
  simp [tokens, whole, closed]

def quoted (value : Bytes) : Bytes :=
  [quote] ++ value.flatMap (fun byte => if byte = quote then [quote, backslash, quote, quote] else [byte]) ++ [quote]

def literal (value : Bytes) : Word := value.map (·, true)

theorem run_quoted_rest (word : Word) (value : Bytes) :
    run (.single word)
        (value.flatMap (fun byte => if byte = quote then [quote, backslash, quote, quote] else [byte]) ++ [quote]) =
      some ([], .word (word ++ literal value)) := by
  induction value generalizing word with
  | nil => simp [run, next, literal]
  | cons byte rest ih =>
      have step : run (.single word) (if byte = quote then [quote, backslash, quote, quote] else [byte]) =
          some ([], .single (word ++ [(byte, true)])) := by
        by_cases same : byte = quote
        · rw [if_pos same, same]
          rfl
        · rw [if_neg same]
          simp [run, next, same]
      rw [List.flatMap_cons, List.append_assoc, run_join _ _ _ _ _ _ _ step (ih _)]
      simp [literal]

/-- A quoted value is read as one word, the value, all of it quoted. -/
theorem run_quoted (value : Bytes) : run .blank (quoted value) = some ([], .word (literal value)) := by
  have opening : run .blank [quote] = some ([], .single []) := rfl
  rw [quoted, List.append_assoc]
  exact run_join _ _ _ _ _ _ _ opening (run_quoted_rest [] value)

theorem text_literal (value : Bytes) : text (literal value) = some value := by
  have none : expands (literal value) = false := by
    cases value <;> simp [expands, literal]
  have removed : (literal value).map Prod.fst = value := by
    rw [literal, List.map_map]
    exact List.map_id value
  simp [text, none, removed]

theorem simple_words (words : List Word) (texts : List Bytes) (rest : List Token) (command : Command)
    (read : words.mapM text = some texts) (later : simple rest = some command) :
    simple (words.map .word ++ rest) = some { command with words := texts ++ command.words } := by
  induction words generalizing texts with
  | nil =>
      obtain rfl : [] = texts := by simpa using read
      exact later
  | cons word more ih =>
      simp only [List.mapM_cons, Option.bind_eq_bind, Option.bind_eq_some_iff, Option.pure_def, Option.some.injEq] at read
      obtain ⟨first, here, following, there, rfl⟩ := read
      simp [simple, here, ih following there]

/-- A line of plain words, a quoted value and more words or redirections reads as one simple
command, in which the value is a word. -/
theorem read_quoted (before after value : Bytes) (name : Word) (words : List Word) (texts : List Bytes)
    (rest last : List Token) (mode : Mode) (redirections : List Redirection)
    (opening : run .blank before = some ((name :: words).map .word, .blank)) (named : isName name = true)
    (read : (name :: words).mapM text = some texts)
    (following : run (.word (literal value)) after = some (.word (literal value) :: rest, mode))
    (closing : finish mode = some last)
    (redirected : simple (rest ++ last) = some { words := [], redirections }) :
    readCommand (before ++ (quoted value ++ after)) = some { words := texts ++ [value], redirections } := by
  have middle := run_join _ _ _ _ _ _ _ (run_quoted value) following
  have whole := run_join _ _ _ _ _ _ _ opening middle
  have tail : simple (.word (literal value) :: (rest ++ last)) = some { words := [value], redirections } := by
    simp [simple, text_literal, redirected]
  have command := simple_words (name :: words) texts _ _ read tail
  have line := tokens_run _ _ last mode whole closing
  simp only [List.nil_append, List.append_assoc, List.cons_append] at line
  simp only [readCommand, line, Option.bind_some, List.map_cons, List.cons_append, firstWord, Option.any_some, named,
    if_true]
  exact command

-- Tilde expansion: a '~' outside quotes, alone or in front of a '/' outside quotes, is the home
-- directory. What follows it otherwise names a user, and is not read.
def textAt (home : Bytes) : Word → Option Bytes
  | [(0x7E, false)] => some home
  | (0x7E, false) :: (0x2F, false) :: rest => (text ((0x2F, false) :: rest)).map (home ++ ·)
  | word => text word

example : textAt [0x2F, 0x75] [(0x7E, false), (0x2F, false), (0x61, true)] = some [0x2F, 0x75, 0x2F, 0x61] := rfl

-- One simple command, the words of which are expanded like this.
def simpleWith (expand : Word → Option Bytes) : List Token → Option Command
  | [] => some { words := [], redirections := [] }
  | .word word :: rest =>
      (expand word).bind fun text =>
        (simpleWith expand rest).map fun command => { command with words := text :: command.words }
  | .operator operator :: .word target :: rest =>
      if redirects operator then
        (expand target).bind fun target => (simpleWith expand rest).map (Command.redirect ⟨none, operator, target⟩)
      else none
  | .ioNumber digits :: .operator operator :: .word target :: rest =>
      if redirects operator then
        (expand target).bind fun target =>
          (simpleWith expand rest).map (Command.redirect ⟨some (digits.map Prod.fst), operator, target⟩)
      else none
  | _ => none

def readCommandAt (home line : Bytes) : Option Command :=
  (tokens line).bind fun tokens => if (firstWord tokens).any isName then simpleWith (textAt home) tokens else none

theorem textAt_text (home : Bytes) (word : Word) (value : Bytes) (read : text word = some value) :
    textAt home word = some value := by
  unfold textAt
  split
  · cases read
  · rename_i rest
    have tilde : text ((0x7E, false) :: (0x2F, false) :: rest) = none := if_pos (by simp [expands])
    cases tilde.symm.trans read
  · exact read

theorem simple_with (expand : Word → Option Bytes) (same : ∀ word value, text word = some value → expand word = some value)
    (tokens : List Token) (command : Command) (read : simple tokens = some command) :
    simpleWith expand tokens = some command := by
  fun_induction simple tokens generalizing command with
  | case1 => exact read
  | case2 word rest ih =>
      obtain ⟨value, here, later⟩ := Option.bind_eq_some_iff.mp read
      obtain ⟨following, there, rfl⟩ := Option.map_eq_some_iff.mp later
      simp [simpleWith, same word value here, ih following there]
  | case3 operator target rest writes ih =>
      obtain ⟨value, here, later⟩ := Option.bind_eq_some_iff.mp read
      obtain ⟨following, there, rfl⟩ := Option.map_eq_some_iff.mp later
      simp [simpleWith, writes, same target value here, ih following there]
  | case4 operator target rest other => cases read
  | case5 digits operator target rest writes ih =>
      obtain ⟨value, here, later⟩ := Option.bind_eq_some_iff.mp read
      obtain ⟨following, there, rfl⟩ := Option.map_eq_some_iff.mp later
      simp [simpleWith, writes, same target value here, ih following there]
  | case6 digits operator target rest other => cases read
  | case7 => cases read

/-- A line that is read without a home directory is read the same with any. -/
theorem readCommand_at (home line : Bytes) (command : Command) (read : readCommand line = some command) :
    readCommandAt home line = some command := by
  unfold readCommand at read
  obtain ⟨tokens, lexed, read⟩ := Option.bind_eq_some_iff.mp read
  obtain ⟨named, read⟩ := Option.ite_none_right_eq_some.mp read
  simp only [readCommandAt, lexed, Option.bind_some, named, if_true]
  exact simple_with (textAt home) (textAt_text home) tokens command read

end PosixShell
