import PluginSandbox.Pattern.Glob
import PluginSandbox.Pattern.Host
import PluginSandbox.Pattern.Port
import PluginSandbox.Policy.Basic

/-!
# The glob policy

Grants cover a request by pattern: hosts and ports for connections, globs for
files, variables, commands and keys. A request for any host or any port needs
`*` in the rule, and a path with a `..` segment is never covered.

Globs are read once and kept by their text. The policy is written over an
arbitrary way to try a glob with a state, so that the same text serves the
cache and the cacheless meaning.

## Main definitions

* `GlobCache`: the globs read so far.
* `GlobTrial`: a way to try a glob on a text.
* `globDecide`: the decision for a request.
* `Policy.glob`: the policy with the cache.
* `covers`: the decision without a cache.
-/

namespace PluginSandbox

open Text

/-- The globs read so far, by their text; malformed ones are kept as such. -/
structure GlobCache where
  entries : List (String × Option (List Glob.Token)) := []

namespace GlobCache

/-- The number of globs read so far. -/
def size (cache : GlobCache) : Nat := cache.entries.length

/-- The glob tried on a text, and the cache with it. -/
def test (pattern text : String) (cache : GlobCache) : Bool × GlobCache :=
  match cache.entries.lookup pattern with
  | some glob => (glob.any fun ts => Glob.accepts ts text.toList, cache)
  | none =>
    let glob := Glob.read pattern.toList
    (glob.any fun ts => Glob.accepts ts text.toList, ⟨(pattern, glob) :: cache.entries⟩)

end GlobCache

/-- A way to try a glob on a text, with a state. -/
abbrev GlobTrial (σ : Type) := (pattern text : String) → σ → Bool × σ

/-- A path has a `..` segment. -/
def climbs (path : String) : Bool := (path.toList.splitOn '/').any fun part => part = ['.', '.']

/-- A rule covers a connection. -/
def NetworkRule.covers (rule : NetworkRule) (target : Endpoint) : Bool :=
  (if target.isAnyHost then rule.hosts.any fun h => h == Endpoint.anyHost
    else rule.hosts.any fun h => hostMatches h target.host) &&
    rule.ports.any fun p => portMatches p target.port

/-- The patterns of a rule for one access. -/
def FileRule.patterns (rule : FileRule) : FileAccess → List String
  | .read => rule.read
  | .write => rule.write

/-- A command pattern that stands for every command, segments or not. -/
def isAnyCommand (pattern : String) : Bool := pattern == "*" || pattern == "**"

/-- The decision for a request, with globs tried in the order of the rules. -/
def globDecide {σ : Type} (trial : GlobTrial σ) (request : Request) (grants : Grants) (s : σ) :
    Bool × σ :=
  match request with
  | .network target => ((rulesOf grants.network).any fun rule => rule.covers target, s)
  | .file path access =>
    if climbs path then (false, s)
    else anyWith (fun rule => anyWith (fun p => trial p path) (rule.patterns access))
      (rulesOf grants.files) s
  | .environment name => anyWith (fun p => trial p name) (rulesOf grants.environment) s
  | .command line =>
    anyWith (fun p s => if isAnyCommand p then (true, s) else trial p line s)
      (rulesOf grants.commands) s
  | .key key access =>
    anyWith (fun rule s =>
        if rule.access.permits access then anyWith (fun p => trial p key) rule.keys s
        else (false, s))
      (rulesOf grants.keys) s

/-- The policy that keeps the globs it has read. -/
def Policy.glob : Policy GlobCache := ⟨globDecide GlobCache.test⟩

/-- Some member of a file rule matches. -/
def FileRule.covers (rule : FileRule) (path : String) (access : FileAccess) : Bool :=
  (rule.patterns access).any fun p => globMatches p path

/-- The rule covers the use of a key. -/
def KeyRule.covers (rule : KeyRule) (key : String) (access : KeyAccess) : Bool :=
  rule.access.permits access && rule.keys.any fun p => globMatches p key

/-- Grants cover a request. -/
def Grants.covers (grants : Grants) : Request → Bool
  | .network target => (rulesOf grants.network).any fun rule => rule.covers target
  | .file path access =>
    !climbs path && (rulesOf grants.files).any fun rule => rule.covers path access
  | .environment name => (rulesOf grants.environment).any fun p => globMatches p name
  | .command line =>
    (rulesOf grants.commands).any fun p => isAnyCommand p || globMatches p line
  | .key key access => (rulesOf grants.keys).any fun rule => rule.covers key access

/-- The policy that reads every glob anew. -/
def Policy.uncached : Policy Unit := .ofPredicate fun request grants => grants.covers request

end PluginSandbox
