import DevstackConf.Catalog
import DevstackConf.Dict
import DevstackConf.Scalar

/-!
# Plugins and their requirements

Requested plugins are enabled in an order in which every plugin comes after the requested
plugins it requires. What each plugin requires is recorded in a `Requirements` map, usually
gathered from the plugins' settings files; a later record for a name replaces an earlier one.

A plugin's source is the text of its value when that value is true; a false value (such as
`false`, `0` or an empty string) gives no source, and such a plugin is listed but not enabled.
-/

namespace DevstackConf

/-- The plugins each plugin requires. -/
structure Requirements where
  /-- The required plugins of each plugin that has any. -/
  map : Std.ExtTreeMap String NameSet compare := ∅

namespace Requirements

/-- No requirements at all. -/
def empty : Requirements := {}

/-- Records what `n` requires, replacing any earlier record for `n`. -/
def insert (r : Requirements) (n : String) (requires : NameSet) : Requirements :=
  ⟨r.map.insert n requires⟩

/-- What `n` requires, if anything was recorded. -/
def get? (r : Requirements) (n : String) : Option NameSet := r.map[n]?

/-- Every record, names ascending, each with its requirements ascending. -/
def entries (r : Requirements) : List (String × List String) :=
  r.map.toList.map fun (n, s) => (n, s.toList)

/-- The number of plugins with a record. -/
def size (r : Requirements) : Nat := r.map.size

end Requirements

namespace Plugins

/-- Each plugin's source: the text of a true value, nothing for a false one. -/
def sources (plugins : Dict Scalar) : Dict (Option String) :=
  plugins.map fun v => if v.truthy then some v.display else none

/-- The requested plugins that `n` requires, other than itself, ascending. -/
def dependencies (reqs : Requirements) (requested : List String) (n : String) : List String :=
  ((reqs.get? n).getD ∅).toList.filter fun r => r != n && requested.contains r

/-- Stores the requested plugins in order with their sources, each depending on the requested
plugins it requires. Fails on a repeated name or a requirement cycle. -/
def order (reqs : Requirements) (plugins : List (String × Option String)) :
    Except GraphError (Catalog (Option String)) :=
  let requested := plugins.map (·.1)
  plugins.foldlM (fun cat (n, src) => cat.insert n src (dependencies reqs requested n))
    Catalog.empty

end Plugins

end DevstackConf
