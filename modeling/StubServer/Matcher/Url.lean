import StubServer.Regex.Cache
import StubServer.Rule.Basic
import StubServer.Text.Split

/-!
# URL patterns

What the URL pattern of a rule asks of the path of a request. But for plain equality, a pattern
stands for a regular expression for the whole path.

## Main definitions

* `UrlMatcher`: a compiled URL pattern; `UrlMatcher.accepts` decides on a path.
* `UrlMatcher.source?`: the regular expression of a pattern, before it is made to match whole
  paths.
* `UrlMatcher.compile`: compiles a pattern.
-/

namespace StubServer

/-- A compiled URL pattern. -/
inductive UrlMatcher where
  /-- The path is the given one. -/
  | equals (path : String)
  /-- The path matches a regular expression. -/
  | pattern (regex : Regex)
  /-- No path is accepted, since the pattern is no regular expression. -/
  | never
  deriving DecidableEq, Inhabited

namespace UrlMatcher

/-- The regular expression of a template: placeholders in braces stand for one or more characters
other than a slash, and all else for itself. A brace that is never closed stands for itself. Inside
a placeholder the text goes on unread up to its end. -/
def templateSource : (inside : Bool) → List Char → List Char
  | _, [] => []
  | true, c :: rest => templateSource (c ≠ '\x7d') rest
  | false, c :: rest =>
    if c = '\x7b' ∧ '\x7d' ∈ rest then "[^/]+".toList ++ templateSource true rest
    else Regex.literal [c] ++ templateSource false rest

/-- The regular expression that a pattern stands for, if it stands for one. -/
def source? (kind : UrlMatch) (pattern : String) : Option String :=
  match kind with
  | .equals => none
  | .contains => some (".*" ++ .ofList (Regex.literal pattern.toList) ++ ".*")
  | .regex => some pattern
  | .pathTemplate => some (.ofList (templateSource false pattern.toList))

/-- A URL without its query. -/
def withoutQuery (url : String) : String :=
  .ofList (cut '?' url.toList).1

/-- Compiles a URL pattern. -/
def compile [Regex.SizeLimit] (kind : UrlMatch) (pattern : String) (cache : Regex.Cache) :
    UrlMatcher × Regex.Cache :=
  match source? kind pattern with
  | none => (.equals (withoutQuery pattern), cache)
  | some source =>
    match cache.getFull source with
    | (some regex, cache) => (.pattern regex, cache)
    | (none, cache) => (.never, cache)

/-- Whether a path is accepted. -/
def accepts : UrlMatcher → String → Bool
  | .equals expected, path => path == expected
  | .pattern regex, path => regex.isMatch path
  | .never, _ => false

end UrlMatcher

end StubServer
