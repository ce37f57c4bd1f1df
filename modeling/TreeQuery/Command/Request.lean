import TreeQuery.Text.Basic

/-!
# Command lines

The arguments of a call ask for help, for the version, for the compiled form of a selector, or for
the elements that a selector finds in a document.
-/

namespace TreeQuery.Command

/-- What a call asks for. -/
inductive Request where
  | help
  | version
  | explain (selector : Text)
  | query (selector path : Text)
deriving DecidableEq, Repr

/-- Why the arguments of a call ask for nothing. -/
inductive UsageError where
  | missingSelector
  | notOneSelector
  | notSelectorAndPath
deriving DecidableEq, Repr

/-- The displayed error. -/
def UsageError.message : UsageError → String
  | missingSelector => "missing selector"
  | notOneSelector => "--explain takes exactly one selector"
  | notSelectorAndPath => "expected <SELECTOR> <TREE.json>"

/-- What the arguments after the program's name ask for.  Arguments after a request for help or for
the version do not count. -/
def Request.ofArguments : List Text → Except UsageError Request
  | [] => .error .missingSelector
  | first :: more =>
    if first = "--help".toList ∨ first = "-h".toList then .ok .help
    else if first = "--version".toList ∨ first = "-V".toList then .ok .version
    else if first = "--explain".toList then
      match more with
      | [selector] => .ok (.explain selector)
      | _ => .error .notOneSelector
    else
      match more with
      | [path] => .ok (.query first path)
      | _ => .error .notSelectorAndPath

end TreeQuery.Command
