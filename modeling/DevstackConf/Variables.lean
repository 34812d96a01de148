import DevstackConf.Catalog
import DevstackConf.Scalar

/-!
# Shell variables and their references

A variable's value may refer to other variables as `$NAME` or `${NAME}`, where a name is a run
of ASCII letters, digits and underscores. `references` scans a text from left to right: a `$`
followed by a name character, or by `{` and a name character, yields the longest run of name
characters there; any other `$` yields nothing. A reference never swallows a later `$`.

`Variables.order` stores each variable's text in a catalog, depending on the other input
variables its text refers to, so that the catalog lists every variable after those it uses.
-/

namespace DevstackConf

/-- Whether a character may occur in a variable name: an ASCII letter, digit or underscore. -/
def isNameChar (c : Char) : Bool := c.isAlphanum || c == '_'

/-- The variable names referred to in a text, in order; see the module note. -/
def references : List Char → List String
  | [] => []
  | '$' :: '{' :: c :: rest =>
    if isNameChar c then
      String.ofList (c :: rest.takeWhile isNameChar) :: references (rest.dropWhile isNameChar)
    else references ('{' :: c :: rest)
  | '$' :: c :: rest =>
    if isNameChar c then
      String.ofList (c :: rest.takeWhile isNameChar) :: references (rest.dropWhile isNameChar)
    else references (c :: rest)
  | _ :: rest => references rest
termination_by cs => cs.length
decreasing_by
  all_goals simp only [List.length_cons]
  all_goals have := (List.dropWhile_suffix (l := rest) isNameChar).length_le
  all_goals omega

namespace Variables

/-- The input variables that `text` refers to, other than `name` itself, ascending and once each. -/
def dependencies (known : List String) (name text : String) : List String :=
  let refs := (references text.toList).filter fun r => r != name && known.contains r
  (Std.ExtTreeSet.ofList refs compare).toList

/-- Stores the variables in input order, each as its text, depending on the other input
variables it refers to. Fails on a repeated name or a reference cycle, naming the variable
being stored. -/
def order (vars : List (String × Scalar)) : Except GraphError (Catalog String) :=
  let texts := vars.map fun (n, v) => (n, v.display)
  let known := texts.map (·.1)
  texts.foldlM (fun cat (n, t) => cat.insert n t (dependencies known n t)) Catalog.empty

end Variables

end DevstackConf
