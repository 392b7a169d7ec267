import TextMacros.CommandLine.Completion.Basic
import TextMacros.Text.Numeral
import TextMacros.Text.Words

/-!
# TextMacros.CommandLine.Completion.Shell

How shells ask for completions.

A shell asks by a variable of the environment: for the script that it is to run at its start, or
for the completions of a line, which stands in variables of its own.  Main statement:
`shown_of_noHelp`, by which what is shown of a completion without help does not hang on whether its
help is missing or empty.
-/

namespace TextMacros.CommandLine.Completion

/-! ## shells -/

/-- The shells that know how to ask. -/
inductive Shell where
  | bash
  | fish
  | zsh
  deriving DecidableEq, Repr

/-- The name of a shell. -/
def Shell.name : Shell → Text
  | bash => .ofString "bash"
  | fish => .ofString "fish"
  | zsh => .ofString "zsh"

/-- The shell of a name. -/
def Shell.ofName? (name : Text) : Option Shell :=
  [bash, fish, zsh].find? fun shell => shell.name = name

/-- The variable by which a shell asks. -/
def askingVariable : Text := .ofString "_MACROSUB_COMPLETE"

/-- The variable with the words of the line. -/
def wordsVariable : Text := .ofString "COMP_WORDS"

/-- The variable with the place of the last word, or with the last word itself. -/
def placeVariable : Text := .ofString "COMP_CWORD"

/-! ## scripts -/

/-- The function of a script that completes. -/
def functionName : Text := '_' :: programName ++ .ofString "_completion"

/-- The lines of a script, each in pieces. -/
def scriptText (lines : List (List Text)) : Text := lines.flatMap fun line => line.flatten ++ ['\n']

/-- The script of `bash`. -/
def bashScript : Text :=
  let t (s : String) : Text := .ofString s
  scriptText
    [[functionName, t "() \x7b"],
      [t "    local IFS=$'\\n'"],
      [t "    local response"],
      [],
      [t "    response=$(env COMP_WORDS=\"$\x7bCOMP_WORDS[*]\x7d\" COMP_CWORD=$COMP_CWORD ",
        askingVariable, t "=bash_complete $1)"],
      [],
      [t "    for completion in $response; do"],
      [t "        IFS=',' read type value <<< \"$completion\""],
      [],
      [t "        if [[ $type == 'dir' ]]; then"],
      [t "            COMPREPLY=()"],
      [t "            compopt -o dirnames"],
      [t "        elif [[ $type == 'file' ]]; then"],
      [t "            COMPREPLY=()"],
      [t "            compopt -o default"],
      [t "        elif [[ $type == 'plain' ]]; then"],
      [t "            COMPREPLY+=($value)"],
      [t "        fi"],
      [t "    done"],
      [],
      [t "    return 0"],
      [t "\x7d"],
      [],
      [functionName, t "_setup() \x7b"],
      [t "    complete -o nosort -F ", functionName, [' '], programName],
      [t "\x7d"],
      [],
      [functionName, t "_setup;"]]

/-- The script of `zsh`. -/
def zshScript : Text :=
  let t (s : String) : Text := .ofString s
  scriptText
    [[t "#compdef ", programName],
      [],
      [functionName, t "() \x7b"],
      [t "    local -a completions"],
      [t "    local -a completions_with_descriptions"],
      [t "    local -a response"],
      [t "    (( ! $+commands[", programName, t "] )) && return 1"],
      [],
      [t "    response=(\"$\x7b(@f)$(env COMP_WORDS=\"$\x7bwords[*]\x7d\" ",
        t "COMP_CWORD=$((CURRENT-1)) ", askingVariable, t "=zsh_complete ", programName,
        t ")\x7d\")"],
      [],
      [t "    for type key descr in $\x7bresponse\x7d; do"],
      [t "        if [[ \"$type\" == \"plain\" ]]; then"],
      [t "            if [[ \"$descr\" == \"_\" ]]; then"],
      [t "                completions+=(\"$key\")"],
      [t "            else"],
      [t "                completions_with_descriptions+=(\"$key\":\"$descr\")"],
      [t "            fi"],
      [t "        elif [[ \"$type\" == \"dir\" ]]; then"],
      [t "            _path_files -/"],
      [t "        elif [[ \"$type\" == \"file\" ]]; then"],
      [t "            _path_files -f"],
      [t "        fi"],
      [t "    done"],
      [],
      [t "    if [ -n \"$completions_with_descriptions\" ]; then"],
      [t "        _describe -V unsorted completions_with_descriptions -U"],
      [t "    fi"],
      [],
      [t "    if [ -n \"$completions\" ]; then"],
      [t "        compadd -U -V unsorted -a completions"],
      [t "    fi"],
      [t "\x7d"],
      [],
      [t "if [[ $zsh_eval_context[-1] == loadautofunc ]]; then"],
      [t "    # autoload from fpath, call function directly"],
      [t "    ", functionName, t " \"$@\""],
      [t "else"],
      [t "    # eval/source/. command, register function for later"],
      [t "    compdef ", functionName, [' '], programName],
      [t "fi"]]

/-- The script of `fish`. -/
def fishScript : Text :=
  let t (s : String) : Text := .ofString s
  scriptText
    [[t "function ", functionName, t ";"],
      [t "    set -l response (env ", askingVariable, t "=fish_complete ",
        t "COMP_WORDS=(commandline -cp) COMP_CWORD=(commandline -t) ", programName, t ");"],
      [],
      [t "    for completion in $response;"],
      [t "        set -l metadata (string split \",\" $completion);"],
      [],
      [t "        if test $metadata[1] = \"dir\";"],
      [t "            __fish_complete_directories $metadata[2];"],
      [t "        else if test $metadata[1] = \"file\";"],
      [t "            __fish_complete_path $metadata[2];"],
      [t "        else if test $metadata[1] = \"plain\";"],
      [t "            echo $metadata[2];"],
      [t "        end;"],
      [t "    end;"],
      [t "end;"],
      [],
      [t "complete --no-files --command ", programName, t " --arguments \"(", functionName,
        t ")\";"]]

/-- The script that a shell is to run. -/
def Shell.script : Shell → Text
  | bash => bashScript
  | fish => fishScript
  | zsh => zshScript

/-! ## lines -/

/-- Why a line cannot be completed. -/
inductive Fault where
  /-- A variable is missing. -/
  | unset (name : Text)
  /-- The place of the last word is no number. -/
  | place (fault : Text.NumeralFault)
  /-- There is no last word where one is said to be. -/
  | noWord
  deriving DecidableEq, Repr

/-- The text of a fault. -/
def Fault.message : Fault → Text
  | unset name => name.quoted
  | place fault => fault.message
  | noWord => .ofString "list index out of range"

/-- The value of a variable, given its name. -/
def valueOf (process : Dictionary Text) (name : Text) : Except Fault Text :=
  match process.get? name with
  | some value => .ok value
  | none => .error (.unset name)

/-- The word at a place, which counts from the end if it is negative. -/
def wordAt (words : List Text) (place : Int) : Text :=
  if place + words.length < 0 then [] else words.getD (Text.startIndex words.length place) []

/-- The words of a line before the last, without the name of the program, and the last, whose
place is given. -/
def readPlaced (process : Dictionary Text) : Except Fault (List Text × Text) := do
  let words := Text.words (← valueOf process wordsVariable)
  match Text.readInteger (← valueOf process placeVariable) with
  | .error fault => .error (.place fault)
  | .ok place =>
    .ok ((words.take (Text.startIndex words.length place)).tail, wordAt words place)

/-- The words of a line before the last, without the name of the program, and the last, which is
given and may stand among the words too. -/
def readGiven (process : Dictionary Text) : Except Fault (List Text × Text) := do
  let words := (Text.words (← valueOf process wordsVariable)).tail
  let last ← valueOf process placeVariable
  if last.isEmpty then .ok (words, [])
  else match Text.words last with
    | [] => .error .noWord
    | word :: _ =>
      if word ≠ [] ∧ words.getLast? = some word then .ok (words.dropLast, word)
      else .ok (words, word)

/-- The words of a line before the last, and the last. -/
def Shell.read : Shell → Dictionary Text → Except Fault (List Text × Text)
  | fish => readGiven
  | bash | zsh => readPlaced

/-! ## answers -/

/-- The name of a kind of completions. -/
def Kind.name : Kind → Text
  | plain => .ofString "plain"
  | file => .ofString "file"

/-- A completion as a shell reads it. -/
def Shell.shown (shell : Shell) (item : Item) : Text :=
  let help := item.help?.getD []
  match shell with
  | bash => item.kind.name ++ ',' :: item.value
  | fish =>
    item.kind.name ++ ',' :: item.value ++ (if help.isEmpty then [] else '\t' :: help)
  | zsh =>
    let help := if help.isEmpty then ['_'] else help
    let value := if help = ['_'] then item.value
      else item.value.flatMap fun c => if c = ':' then ['\\', ':'] else [c]
    item.kind.name ++ '\n' :: value ++ '\n' :: help

theorem shown_of_noHelp (shell : Shell) (kind : Kind) (value : Text) :
    shell.shown ⟨kind, value, none⟩ = shell.shown ⟨kind, value, some []⟩ := by
  cases shell <;> rfl

/-- What a shell asks for, as the asking variable says: its script, or completions.  There may be
nothing that it could ask for by what is written. -/
def answer (process : Dictionary Text) (written : Text) : Except Fault (Option Text) :=
  match Text.splitAt '_' written with
  | none => .ok none
  | some (name, instruction) => match Shell.ofName? name with
    | none => .ok none
    | some shell =>
      if instruction = .ofString "source" then .ok (some (shell.script ++ ['\n']))
      else if instruction = .ofString "complete" then do
        let (words, word) ← shell.read process
        .ok (some (Text.joined ['\n'] ((items words word).map shell.shown) ++ ['\n']))
      else .ok none

/-- What is written in the asking variable, if a shell asks. -/
def asked? (process : Dictionary Text) : Option Text :=
  (process.get? askingVariable).filter (!·.isEmpty)

end TextMacros.CommandLine.Completion
