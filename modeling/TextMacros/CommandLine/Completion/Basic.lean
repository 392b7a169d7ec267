import TextMacros.CommandLine.Command

/-!
# TextMacros.CommandLine.Completion.Basic

What may complete a command line.

The words before the last are read as far as they go: they say which command is meant, and which
options are given.  The last word, which is not complete, is then the name of an option, the value
of an option, a text, or the name of a command.  Main statement: `isPrefix_of_mem_names`, by which a
name completes the word that stands before it.
-/

namespace TextMacros.CommandLine.Completion

/-! ## completions -/

/-- What a completion is. -/
inductive Kind where
  /-- A word. -/
  | plain
  /-- The path of a file, which is to be completed further. -/
  | file
  deriving DecidableEq, Repr

/-- A completion. -/
structure Item where
  /-- What it is. -/
  kind : Kind
  /-- What stands in the place of the last word. -/
  value : Text
  /-- What is said of it. -/
  help? : Option Text
  deriving DecidableEq, Repr

/-- The names that a word may become, with what is said of them. -/
def names (word : Text) (known : List (Text × Option Text)) : List Item :=
  (known.filter fun p => word.isPrefixOf p.1).map fun p => ⟨.plain, p.1, p.2⟩

theorem isPrefix_of_mem_names {word : Text} {known : List (Text × Option Text)} {item : Item}
    (h : item ∈ names word known) : word <+: item.value := by
  simp only [names, List.mem_map, List.mem_filter, List.isPrefixOf_iff_prefix] at h
  obtain ⟨p, ⟨_, hp⟩, rfl⟩ := h
  exact hp

/-! ## where the last word stands -/

/-- Where the last word stands. -/
inductive Context where
  /-- Behind options of the program. -/
  | program (given : Arguments ProgramOption)
  /-- Behind the name of a command and arguments of it, of which one may be faulty. -/
  | command (c : Command) (given : Arguments CommandOption) (faulty : Bool)

/-- Where a word stands behind others. -/
def Context.of (words : List Text) : Context :=
  let given := (scan programOptions false words).1
  match given.others with
  | [] => .program given
  | name :: rest => match Command.ofName? name with
    | none => .program given
    | some c =>
      let (given, fault?) := scan c.options true rest
      .command c given fault?.isSome

/-- The names of those options that may still be given, with what is said of them; an option that
`counts` each time may be given again. -/
def optionNames {κ : Type} [DecidableEq κ] (options : List (OptionSpec κ)) (counts : κ → Bool)
    (given : Arguments κ) : List (Text × Option Text) :=
  (options.filter fun o => counts o.key || !given.gives o.key).flatMap fun o =>
    (o.names ++ o.offNames).map fun name => (name, o.help?)

/-- The names of the commands in the order of the alphabet, with what is said of them. -/
def commandNames : List (Text × Option Text) :=
  [Command.check, Command.decompose, Command.resolve].map fun c => (c.name, some c.shortHelp)

/-- The names that may stand somewhere: those of commands, and those of options if a word has
begun. -/
def Context.names (context : Context) (word : Text) : List Item :=
  let options (known : List (Text × Option Text)) : List Item :=
    if word.isEmpty then [] else Completion.names word known
  match context with
  | program given =>
    Completion.names word commandNames ++
      options (optionNames programOptions (fun _ => false) given)
  | command c given _ => options (optionNames c.options (· = .define) given)

/-- What may complete the value of an option that is named before it, if the option takes one. -/
def Context.values? (context : Context) (before word : Text) : Option (List Item) :=
  match context with
  | program _ => none
  | command c _ _ =>
    (c.options.find? fun o => o.takesValue && o.names.contains before).map fun o =>
      if o.key = .file then [⟨.file, word, none⟩] else []

/-- Whether a text of a command may stand somewhere. -/
def Context.takesText : Context → Bool
  | program _ => false
  | command .resolve _ _ => true
  | command _ given faulty => faulty || given.others.isEmpty

/-! ## completing -/

/-- Whether a word may be the beginning of the name of an option. -/
def startsOption (word : Text) : Bool := word.head? = some '-'

/-- The words before the last and the last; where that holds a `=`, the name before the `=` is a
word of its own. -/
def cutValue (words : List Text) (word : Text) : List Text × Text :=
  if word = ['='] then (words, [])
  else match Text.splitAt '=' word with
    | some (name, value) => if startsOption word then (words ++ [name], value) else (words, word)
    | none => (words, word)

/-- What may complete a word that stands behind others. -/
def items (words : List Text) (word : Text) : List Item :=
  let context := Context.of words
  let (words, word) := cutValue words word
  if !words.contains ['-', '-'] && startsOption word then context.names word
  else match words.getLast?.bind (context.values? · word) with
    | some values => values
    | none => if context.takesText then [] else context.names word

end TextMacros.CommandLine.Completion
