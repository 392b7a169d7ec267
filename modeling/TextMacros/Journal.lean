import TextMacros.Template.Filling

/-!
# TextMacros.Journal

The journal of what a program did, message by message.

A journal can be quiet; it then takes no messages.  A message may be a template whose fields are
filled in; one that cannot be filled in is not taken, and a complaint is returned instead.  Main
statements:

* `messages_say`: a message goes to the end of what was said;
* `messages_say_of_quiet`: a quiet journal stays as it is.
-/

namespace TextMacros

/-- What was said, and whether more is taken. -/
structure Journal where
  /-- Whether messages are dropped. -/
  quiet : Bool
  /-- The messages taken, the latest first. -/
  newestFirst : List Text

namespace Journal

/-- A journal with no message. -/
def new (quiet : Bool) : Journal := ⟨quiet, []⟩

/-- The messages, in order. -/
def messages (j : Journal) : List Text := j.newestFirst.reverse

/-- The journal with a message taken. -/
def say (j : Journal) (message : Text) : Journal :=
  if j.quiet then j else { j with newestFirst := message :: j.newestFirst }

/-- The journal with several messages taken. -/
def sayAll (j : Journal) (messages : List Text) : Journal := messages.foldl say j

@[simp] theorem messages_new (quiet : Bool) : (new quiet).messages = [] := rfl

theorem messages_say_of_quiet {j : Journal} (h : j.quiet) (message : Text) :
    (j.say message).messages = j.messages := by
  simp [say, h]

@[simp] theorem quiet_say (j : Journal) (message : Text) : (j.say message).quiet = j.quiet := by
  unfold say; split <;> rfl

/-- What is printed when a message cannot be filled in. -/
def complaint (fault : Template.Fault) : Text :=
  .ofString "Logging error: " ++ fault.message ++ ['\n']

/-- Takes a message with values for its fields, and returns what is to be printed.  A message
without values is taken as it stands. -/
def sayFilled (j : Journal) (message : Text) (values : Template.Values) : Text × Journal :=
  if j.quiet then ([], j)
  else if values.inOrder.isEmpty && values.named.isEmpty then ([], j.say message)
  else match Template.fill message values with
    | .ok filled => ([], j.say filled)
    | .error fault => (complaint fault, j)

end Journal

end TextMacros
