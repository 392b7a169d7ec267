import TextMacros.Display.Literal.Lexeme

/-!
# TextMacros.Display.Literal.Reader

Whether a text writes a literal.

Literals are numbers, strings, constants, and tuples, sets and dictionaries of literals; they are a
part of the expressions, which are read as a whole, with names, operators, comparisons and calls.
A text that is no expression is read a second time, strictly: then the first place that a known
mistake explains is named.  Main statement: `check_of_lexFault`, by which a fault in the lexemes goes
before all others.
-/

namespace TextMacros.Display.Literal

/-! ## expressions -/

/-- What an expression is. -/
inductive Shape where
  | name
  | literal
  | constant (word : Text)
  | ellipsis
  | fields
  | member
  | call
  | operation
  | comparison
  | conditional
  | assignment
  | tuple
  | dictionary
  | set
  deriving DecidableEq, Repr

/-- What an expression is called. -/
def Shape.called : Shape → Text
  | name => .ofString "name"
  | literal => .ofString "literal"
  | constant word => word
  | ellipsis => .ofString "ellipsis"
  | fields => .ofString "f-string expression"
  | member => .ofString "attribute"
  | call => .ofString "function call"
  | operation => .ofString "expression"
  | comparison => .ofString "comparison"
  | conditional => .ofString "conditional expression"
  | assignment => .ofString "named expression"
  | tuple => .ofString "tuple"
  | dictionary => .ofString "dict literal"
  | set => .ofString "set display"

/-- Why an expression has no value. -/
inductive Trouble where
  /-- It is no literal. -/
  | noLiteral
  /-- A value of the kind stands where it cannot. -/
  | unhashable (kind : String)
  deriving DecidableEq, Repr

/-- What a number is. -/
structure NumberSort where
  /-- Whether it is imaginary. -/
  imaginary : Bool
  /-- Whether it has a sign. -/
  signed : Bool
  deriving DecidableEq, Repr

/-- An expression, as far as it matters. -/
structure Expression where
  /-- What it is. -/
  shape : Shape
  /-- Why it has no value, if it has none. -/
  trouble? : Option Trouble
  /-- What number it is, if it is one. -/
  number? : Option NumberSort
  /-- The kind of values in it that cannot stand in sets, if there are some. -/
  unhashable? : Option String

/-- An expression that has a value. -/
def Expression.ofValue (shape : Shape) : Expression := ⟨shape, none, none, none⟩

/-- An expression that is no literal. -/
def Expression.other (shape : Shape) : Expression := ⟨shape, some .noLiteral, none, none⟩

/-- The trouble that a value has where it is to stand in a set. -/
def Expression.keyTrouble? (e : Expression) : Option Trouble :=
  e.trouble?.or (e.unhashable?.map .unhashable)

/-- A tuple. -/
def Expression.ofTuple (items : List Expression) : Expression :=
  ⟨.tuple, items.findSome? (·.trouble?), none, items.findSome? (·.unhashable?)⟩

/-! ## faults -/

/-- Why a text is no expression. -/
inductive Fault where
  /-- It is no row of lexemes. -/
  | lexeme (fault : LexFault)
  /-- A bracket is left open. -/
  | neverClosed (opener : Char)
  /-- Something stands behind a backslash. -/
  | behindBackslash
  /-- Nothing better can be said. -/
  | invalid
  /-- Two expressions stand side by side. -/
  | noComma
  /-- A condition stands alone. -/
  | noElse
  /-- A function is not called in brackets. -/
  | noCall (name : Text)
  /-- Something else than a name is given a value. -/
  | assigned (shape : Shape)
  /-- A name is followed by a `=`. -/
  | equalsName
  /-- Something else than a name is followed by a `=`. -/
  | equals (shape : Shape)
  /-- An expression with a star stands alone. -/
  | starred
  /-- An expression with two stars stands alone. -/
  | doubleStarred
  /-- A star stands alone. -/
  | star
  /-- A key has no value. -/
  | noValue
  /-- A key has no colon. -/
  | noColon
  /-- A value has a star. -/
  | starredValue
  /-- Strings of bytes stand beside others. -/
  | mixedStrings
  /-- An argument is no name and followed by a `=`. -/
  | equalsArgument
  deriving DecidableEq, Repr

/-- The text of a fault. -/
def Fault.message : Fault → Text
  | lexeme fault => fault.message
  | neverClosed opener => ['\'', opener] ++ .ofString "' was never closed"
  | behindBackslash => .ofString "unexpected character after line continuation character"
  | invalid => .ofString "invalid syntax"
  | noComma => .ofString "invalid syntax. Perhaps you forgot a comma?"
  | noElse => .ofString "expected 'else' after 'if' expression"
  | noCall name =>
    .ofString "Missing parentheses in call to '" ++ name ++ .ofString "'. Did you mean " ++ name ++
      .ofString "(...)?"
  | assigned shape =>
    .ofString "cannot use assignment expressions with " ++ shape.called
  | equalsName =>
    .ofString "invalid syntax. Maybe you meant '==' or ':=' instead of '='?"
  | equals shape =>
    .ofString "cannot assign to " ++ shape.called ++
      .ofString " here. Maybe you meant '==' instead of '='?"
  | starred => .ofString "cannot use starred expression here"
  | doubleStarred => .ofString "cannot use double starred expression here"
  | star => .ofString "Invalid star expression"
  | noValue => .ofString "expression expected after dictionary key and ':'"
  | noColon => .ofString "':' expected after dictionary key"
  | starredValue => .ofString "cannot use a starred expression in a dictionary value"
  | mixedStrings => .ofString "cannot mix bytes and nonbytes literals"
  | equalsArgument =>
    .ofString "expression cannot contain assignment, perhaps you meant \"==\"?"

/-! ## reading lexemes -/

/-- Reads something from lexemes, or nothing, or meets a fault that ends all reading. -/
abbrev Reading (α : Type) := StateT (List Lexeme) (OptionT (Except Fault)) α

/-- Meets a fault. -/
def raise {α : Type} (fault : Fault) : Reading α := fun _ => OptionT.mk (.error fault)

/-- What a token is that nobody can come past. -/
def faultOf? : Token → Option Fault
  | .unclosed opener => some (.neverClosed opener)
  | .backslash => some .behindBackslash
  | _ => none

/-- Reads a token. -/
def next : Reading Token := do
  match ← get with
  | [] => failure
  | lexeme :: rest =>
    if let some fault := faultOf? lexeme.token then raise fault
    set rest
    return lexeme.token

/-- Reads the end of all. -/
def atEnd : Reading Unit := do
  if let lexeme :: _ := ← get then
    if let some fault := faultOf? lexeme.token then raise fault
    failure

/-- Reads a token that has a property. -/
def tokenThat (p : Token → Bool) : Reading Unit := do
  unless p (← next) do failure

/-- Reads a mark. -/
def mark (m : String) : Reading Unit := tokenThat (· = .mark (.ofString m))

/-- Reads a given word. -/
def word (w : String) : Reading Unit := tokenThat (· = .word (.ofString w))

/-- Reads something if it is there. -/
def optional {α : Type} (r : Reading α) : Reading (Option α) := (some <$> r) <|> pure none

/-- Reads something if it is there, and says whether it was. -/
def accepts {α : Type} (r : Reading α) : Reading Bool := return (← optional r).isSome

/-- Says whether something is there, and leaves it. -/
def sees {α : Type} (r : Reading α) : Reading Bool := do
  let start ← get
  let seen ← accepts r
  set start
  return seen

/-- Reads something from other lexemes, and goes on where it was. -/
def readAt {α : Type} (start : List Lexeme) (r : Reading α) : Reading (Option α) := do
  let here ← get
  set start
  let read? ← optional r
  set here
  return read?

/-- Reads something as often as it is there, up to a number of times. -/
def upTo {α : Type} (r : Reading α) : Nat → Reading (List α)
  | 0 => return []
  | count + 1 => do
    match ← optional r with
    | some a => return a :: (← upTo r count)
    | none => return []

/-- Reads something as often as it is there. -/
def many {α : Type} (r : Reading α) : Reading (List α) := do upTo r (← get).length

/-- Reads items with a mark between two. -/
def separated {α : Type} (separator : String) (r : Reading α) : Reading (List α) := do
  let first ← r
  return first :: (← many do mark separator; r)

/-! ## names -/

/-- The words that are no names. -/
def keywords : List Text :=
  ["False", "None", "True", "and", "as", "assert", "async", "await", "break", "class", "continue",
    "def", "del", "elif", "else", "except", "finally", "for", "from", "global", "if", "import",
    "in", "is", "lambda", "nonlocal", "not", "or", "pass", "raise", "return", "try", "while",
    "with", "yield"].map Text.ofString

/-- The words that are constants. -/
def constants : List Text := ["False", "None", "True"].map Text.ofString

/-- The names that are not taken for names where two expressions stand side by side. -/
def softKeywords : List Text := ["_", "case", "match"].map Text.ofString

/-- The names of functions that are wont to be called without brackets. -/
def bareFunctions : List Text := ["exec", "print"].map Text.ofString

/-- Reads a name. -/
def name : Reading Text := do
  match ← next with
  | .word t => if keywords.contains t then failure else return t
  | _ => failure

/-! ## operands -/

/-- What is read in brackets, by whether it is read strictly. -/
structure Inner where
  /-- Expressions. -/
  expression : Bool → Reading Expression
  /-- Expressions without comparisons and conditions. -/
  operation : Bool → Reading Expression
  /-- Expressions that are read strictly but for what stands before an `if` in them. -/
  looseExpression : Reading Expression
  /-- Tuples, with what stands behind them left. -/
  tuple : Reading Unit

/-- Names the mistake by which an expression is followed by a `=` or a `:=`, given where it starts
and the expression that is read, if one is. -/
def raiseAssigned (inner : Inner) (start : List Lexeme) (read? : Option Expression) :
    Reading Unit := do
  if let some e := read? then
    if ← sees (do mark ":="; inner.expression true) then raise (.assigned e.shape)
  let equalsOnce : Reading Unit := do
    mark "="
    let _ ← inner.operation true
    if ← sees (mark "=" <|> mark ":=") then failure
  if (← readAt start (do let _ ← name; equalsOnce)).isSome then raise .equalsName
  let equated? ← readAt start do
    if ← sees (tokenThat fun t => constants.any fun c => t = .word c) then failure
    if ← sees inner.tuple then failure
    let e ← inner.operation true
    equalsOnce
    return e
  if let some e := equated? then raise (.equals e.shape)

/-- Reads an expression that may be given a name. -/
def named (inner : Inner) (strict : Bool) : Reading Expression := do
  let start ← get
  if ← accepts (do let _ ← name; mark ":="; let _ ← inner.expression strict) then
    return .other .assignment
  let read? ← optional (inner.expression strict)
  if strict then raiseAssigned inner start read?
  match read? with
  | none => failure
  | some e => if ← sees (mark ":=") then failure else return e

/-- Reads an item of a tuple or a set, and says whether it has a star. -/
def item (inner : Inner) (strict : Bool) : Reading (Expression × Bool) := do
  if ← accepts (do mark "*"; inner.operation strict) then return (.other .operation, true)
  return (← named inner strict, false)

/-- Reads items, and perhaps a comma behind them. -/
def items (inner : Inner) (strict : Bool) : Reading (List Expression) := do
  let read ← separated "," (item inner strict)
  let _ ← optional (mark ",")
  return read.map (·.1)

/-- Names the mistake of a star behind an opening bracket. -/
def raiseStar (inner : Inner) : Reading Unit := do
  if ← accepts (mark "*") then
    unless ← accepts (inner.expression true) do raise .star
    if ← accepts (mark ")") then raise .starred

/-- Reads what stands behind a round bracket, and the bracket that closes it. -/
def round (inner : Inner) (strict : Bool) : Reading Expression := do
  let start ← get
  let inBrackets : Reading Expression := do
    if ← accepts (mark ")") then return .ofTuple []
    let (first, hasStar) ← item inner strict
    if ← accepts (mark ",") then
      let rest ← optional (items inner strict)
      mark ")"
      return .ofTuple (first :: rest.getD [])
    if hasStar then failure
    mark ")"
    return first
  match ← optional inBrackets with
  | some e => return e
  | none =>
    if strict then
      let _ ← readAt start (raiseStar inner)
      if (← readAt start (do mark "**"; let _ ← inner.expression true; mark ")")).isSome then
        raise .doubleStarred
    failure

/-- Reads a key and its value. -/
def pair (inner : Inner) (strict : Bool) : Reading (Expression × Expression) := do
  if ← accepts (do mark "**"; inner.operation strict) then
    return (.other .operation, .other .operation)
  let key ← inner.expression strict
  mark ":"
  return (key, ← inner.expression strict)

/-- Names the mistake of a key without a colon or without a value. -/
def raiseKey (inner : Inner) (needsColon : Bool) : Reading Unit := do
  if ← accepts (inner.expression true) then
    unless ← accepts (mark ":") do
      if needsColon then raise .noColon
      failure
    if ← sees (do mark "*"; inner.operation true) then raise .starredValue
    if ← sees (mark "\x7d" <|> mark ",") then raise .noValue

/-- A dictionary. -/
def ofPairs (pairs : List (Expression × Expression)) : Expression :=
  ⟨.dictionary, pairs.findSome? fun p => p.1.keyTrouble?.or p.2.trouble?, none, some "dict"⟩

/-- Reads what stands behind a curly bracket, and the bracket that closes it. -/
def curly (inner : Inner) (strict : Bool) : Reading Expression := do
  let start ← get
  let dictionary : Reading Expression := do
    let pairs? ← optional do
      let pairs ← separated "," (pair inner strict)
      let _ ← optional (mark ",")
      return pairs
    mark "\x7d"
    return ofPairs (pairs?.getD [])
  if let some e := ← optional dictionary then return e
  if strict then
    let _ ← readAt start do
      let _ ← separated "," (pair inner true)
      mark ","
      raiseKey inner true
    let _ ← readAt start (raiseKey inner false)
  let set : Reading Expression := do
    let members ← items inner strict
    mark "\x7d"
    return ⟨.set, members.findSome? (·.keyTrouble?), none, some "set"⟩
  if let some e := ← optional set then return e
  if strict then
    let _ ← readAt start (raiseStar inner)
  failure

/-- Reads the strings behind one, whose sort is given. -/
def strings (bytes fields : Bool) : Reading Expression := do
  let others ← many do
    match ← next with
    | .string bytes fields => return (bytes, fields)
    | _ => failure
  if others.any (·.1 != bytes) then raise .mixedStrings
  if fields || others.any (·.2) then return .other .fields
  return .ofValue .literal

/-- Reads an operand without what may stand behind it. -/
def atom (inner : Inner) (strict : Bool) : Reading Expression := do
  match ← next with
  | .word t =>
    if constants.contains t then return .ofValue (.constant t)
    if keywords.contains t then failure
    return .other .name
  | .number imaginary => return ⟨.literal, none, some ⟨imaginary, false⟩, none⟩
  | .string bytes fields => strings bytes fields
  | .mark m =>
    if m = .ofString "..." then return .ofValue .ellipsis
    if m = ['('] then round inner strict
    else if m = ['{'] then curly inner strict
    else failure
  | _ => failure

/-- Reads an argument of a call. -/
def argument (inner : Inner) (strict : Bool) : Reading Unit := do
  if ← accepts (mark "*") then
    unless ← accepts (inner.expression strict) do raise .star
  else if ← accepts (mark "**") then
    let _ ← inner.expression strict
  else if ← accepts (do let _ ← name; mark "=") then
    let _ ← inner.expression strict
  else
    let _ ← inner.expression strict
    if ← sees (mark "=") then
      if strict then raise .equalsArgument
      failure

/-- Names the mistakes in what stands in curly brackets behind an operand. -/
def raiseCurly (inner : Inner) : Reading Unit := do
  mark "\x7b"
  if ← accepts (mark "*") then
    unless ← accepts (inner.expression true) do raise .star
  else
    let _ ← separated "," (item inner true)

/-- Reads what makes a part or a call of an operand. -/
def trailer (inner : Inner) (strict : Bool) : Reading Shape := do
  if strict then
    let _ ← sees (raiseCurly inner)
  (do mark "."; let _ ← name; return .member) <|> do
    mark "("
    if let some _ := ← optional (separated "," (argument inner strict)) then
      let _ ← optional (mark ",")
    mark ")"
    return .call

/-- Reads an operand. -/
def operand (inner : Inner) (strict : Bool) : Reading Expression := do
  let waits ← accepts (word "await")
  let e ← atom inner strict
  match (← many (trailer inner strict)).getLast? with
  | some shape => return .other shape
  | none => return if waits then .other .operation else e

/-! ## operations -/

/-- An operand behind a sign. -/
def Expression.behindSign (e : Expression) : Expression :=
  match e.number? with
  | some ⟨imaginary, false⟩ => ⟨.operation, none, some ⟨imaginary, true⟩, none⟩
  | _ => .other .operation

/-- Reads an operand with what stands before it. -/
def signed (inner : Inner) (strict : Bool) : Reading Expression := do
  let signs ← many do
    if ← accepts (mark "~") then return false
    mark "+" <|> mark "-"
    return true
  let e ← operand inner strict
  match signs with
  | [] => return e
  | [true] => return e.behindSign
  | _ => return .other .operation

/-- The operators between two operands. -/
def operators : List Text :=
  ["|", "^", "&", "<<", ">>", "+", "-", "*", "/", "//", "%", "@", "**"].map Text.ofString

/-- Reads an operator, and says whether it adds or takes away. -/
def operator : Reading Bool := do
  match ← next with
  | .mark m => if operators.contains m then return m = ['+'] || m = ['-'] else failure
  | _ => failure

/-- An operation. -/
def ofOperands (first : Expression) (others : List (Bool × Expression)) : Expression :=
  match others, first.number? with
  | [], _ => first
  | [(true, ⟨_, _, some ⟨true, false⟩, _⟩)], some ⟨false, _⟩ => .ofValue .operation
  | _, _ => .other .operation

/-- Reads operands with operators between them. -/
def operation (inner : Inner) (strict : Bool) : Reading Expression := do
  let first ← signed inner strict
  let others ← many do return (← operator, ← signed inner strict)
  return ofOperands first others

/-- Reads what compares two operations. -/
def comparator : Reading Unit :=
  tokenThat (fun t => ["==", "!=", "<=", "<", ">=", ">"].any fun m => t = .mark (.ofString m)) <|>
  word "in" <|> (do word "not"; word "in") <|> (do word "is"; let _ ← optional (word "not"))

/-- Reads a comparison, or an operation. -/
def comparison (inner : Inner) (strict : Bool) : Reading Expression := do
  let e ← operation inner strict
  let others ← many do comparator; operation inner strict
  if others.isEmpty then return e
  return .other .comparison

/-- Reads a comparison, perhaps denied. -/
def denied (inner : Inner) (strict : Bool) : Reading Expression := do
  let denials ← many (word "not")
  let e ← comparison inner strict
  if denials.isEmpty then return e
  return .other .operation

/-- Reads comparisons that are bound together. -/
def disjunction (inner : Inner) (strict : Bool) : Reading Expression := do
  let e ← denied inner strict
  let others ← many do word "and" <|> word "or"; denied inner strict
  if others.isEmpty then return e
  return .other .operation

/-! ## expressions -/

/-- Reads the condition behind an expression, and the expression for when it fails. -/
def condition (inner : Inner) (strict : Bool) : Reading Unit := do
  word "if"
  let _ ← disjunction inner strict
  word "else"
  let _ ← inner.expression strict

/-- The level behind the last lexeme before others, given a row that they end. -/
def levelBefore (start rest : List Lexeme) : Nat :=
  ((start.take (start.length - rest.length)).getLast?.map Lexeme.level).getD 0

/-- The word with which lexemes start, if it may be a name. -/
def firstName? (start : List Lexeme) : Option Text :=
  match start with
  | ⟨.word t, _⟩ :: _ => if keywords.contains t then none else some t
  | _ => none

/-- Whether lexemes start with a string. -/
def startsString : List Lexeme → Bool
  | ⟨.string _ _, _⟩ :: _ => true
  | _ => false

/-- Whether what stands behind an expression is not to be taken for another, given where the first
starts: where that is a name with a string behind it, or is like a keyword. -/
def isApart (start : List Lexeme) : Bool :=
  (firstName? start).any softKeywords.contains ||
    ((firstName? start).isSome && startsString start.tail)

/-- Names the mistake by which two expressions stand side by side in brackets, given where the
first starts. -/
def raiseAdjacent (inner : Inner) (start : List Lexeme) : Reading Unit := do
  let here ← get
  let adjacent? ← readAt here do
    let _ ← disjunction inner false
    let _ ← optional (condition inner false)
    return levelBefore start (← get)
  let isBare := (firstName? start).any bareFunctions.contains && start.length = here.length + 1
  if adjacent?.any (· != 0) && !isBare then raise .noComma

/-- Names the mistake by which a function is called without brackets, given where its name starts.
What stands behind the name is read strictly if it was not read before. -/
def raiseBare (inner : Inner) (start : List Lexeme) : Reading Unit := do
  let named? ← readAt start do
    let t ← name
    if ← sees (mark "(") then failure
    let strict := isApart start
    if ← accepts (mark "*") then let _ ← inner.operation strict
    else let _ ← if strict then inner.expression true else inner.looseExpression
    let _ ← many do
      mark ","
      if ← accepts (mark "*") then inner.operation true else inner.expression true
    return t
  if let some t := named?.filter bareFunctions.contains then raise (.noCall t)

/-- Names the mistakes that an expression shows, given where it starts and what was read of it. -/
def raiseExpression (inner : Inner) (start : List Lexeme) (read? : Option Expression) :
    Reading Unit := do
  if read?.isSome then
    unless isApart start do raiseAdjacent inner start
    if ← sees (do
        word "if"
        let _ ← disjunction inner true
        if ← sees (word "else" <|> mark ":") then failure) then
      raise .noElse
  raiseBare inner start

/-- Reads an expression, given how what stands before an `if` in it is read. -/
def expressionBy (first : Reading Expression) (inner : Inner) (strict : Bool) :
    Reading Expression := do
  let start ← get
  let read? ← optional first
  if strict then raiseExpression inner start read?
  match read? with
  | none => failure
  | some e => if ← accepts (condition inner strict) then return .other .conditional else return e

/-- Reads an expression. -/
def expression (inner : Inner) (strict : Bool) : Reading Expression :=
  expressionBy (disjunction inner strict) inner strict

/-- Reads a tuple, strictly. -/
def tuple (inner : Inner) : Reading Unit := do
  mark "("
  let e ← round inner true
  unless e.shape = .tuple do failure

/-- What is read in brackets down to a depth. -/
def inner : Nat → Inner
  | 0 => ⟨fun _ => failure, fun _ => failure, failure, failure⟩
  | depth + 1 =>
    let deeper := inner depth
    ⟨expression deeper, operation deeper, expressionBy (disjunction deeper false) deeper true,
      tuple deeper⟩

/-- Reads one or more expressions, and the end. -/
def whole (depth : Nat) (strict : Bool) : Reading Expression := do
  let read ← separated "," ((inner depth).expression strict)
  let hasComma ← accepts (mark ",")
  let _ ← many (tokenThat (· = .lineEnd))
  atEnd
  match read, hasComma with
  | [e], false => return e
  | _, _ => return .ofTuple read

/-! ## checking -/

/-- Why a text writes no value. -/
inductive Refusal where
  /-- It is no expression. -/
  | fault (fault : Fault)
  /-- It is an expression without a value. -/
  | trouble (trouble : Trouble)
  deriving DecidableEq, Repr

/-- Checks that lexemes write a value. -/
def checkLexemes (tokens : List Lexeme) : Except Refusal Unit :=
  let read (strict : Bool) : Except Fault (Option Expression) :=
    ((whole (tokens.length + 1) strict).run' tokens).run
  match read false with
  | .error fault => .error (.fault fault)
  | .ok (some e) => match e.trouble? with
    | some trouble => .error (.trouble trouble)
    | none => .ok ()
  | .ok none => match read true with
    | .error fault => .error (.fault fault)
    | .ok _ => .error (.fault .invalid)

/-- Checks that a text writes a value. -/
def check (t : Text) : Except Refusal Unit :=
  match lexemes t with
  | .error fault => .error (.fault (.lexeme fault))
  | .ok tokens => checkLexemes tokens

theorem check_of_lexFault {t : Text} {fault : LexFault} (h : lexemes t = .error fault) :
    check t = .error (.fault (.lexeme fault)) := by
  simp [check, h]

end TextMacros.Display.Literal
