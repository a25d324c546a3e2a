import AudioScope.Journal

namespace AudioScope

/-!
# Outcomes of commands

A command that has been carried out leaves an exit code, a chain of messages if
it failed, and the journal of everything that happened.
-/

/-- How a command ended. -/
structure Outcome where
  /-- What went wrong, from the general to the particular; nothing if all went well. -/
  chain : List String
  journal : Journal
  deriving Repr, DecidableEq

namespace Outcome

/-- The exit code: zero if nothing went wrong. -/
def exitCode (outcome : Outcome) : Nat :=
  if outcome.chain.isEmpty then 0 else 1

/-- The texts that went to standard output, in order. -/
def printed (outcome : Outcome) : List String :=
  outcome.journal.filterMap Event.printed?

/-- The lines of the causes of a failure, numbered if there are several. -/
def causeLines : List String → List String
  | [cause] => ["    " ++ cause]
  | causes => causes.zipIdx.map fun (cause, index) => s!"    {index}: {cause}"

/-- What a failed command has to say on standard error. -/
def complaint? (outcome : Outcome) : Option String :=
  match outcome.chain with
  | [] => none
  | message :: [] => some ("Error: " ++ message ++ "\n")
  | message :: causes =>
      some ("\n".intercalate
        (["Error: " ++ message, "", "Caused by:"] ++ causeLines causes) ++ "\n")

end Outcome

end AudioScope
