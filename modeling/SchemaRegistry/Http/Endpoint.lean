import SchemaRegistry.Http.Query
/-!
# Endpoints

The interface of a node has three places: all subjects, a subject, and the versions of a subject.
`Endpoint.ofPath?` finds the place that a path names. Paths are compared as they are written, and
only then is the segment of the subject decoded, so that an encoded slash belongs to the subject's
name. What a request does at a place is decided by its method; `Action` lists what can be done.
-/

set_option autoImplicit false

namespace SchemaRegistry

/-- A place of the interface, with the segment that names a subject as it is written. -/
inductive Endpoint where
  | subjects
  | subject (segment : List Char)
  | versions (segment : List Char)
  deriving DecidableEq

/-- What a request does. -/
inductive Action where
  | list
  | lookup
  | delete
  | register
  deriving DecidableEq

namespace Endpoint

/-- The place that a path names. The segment of a subject must not be empty where it comes last. -/
def ofPath? (path : List Char) : Option Endpoint :=
  match Text.splitAt (· == '/') path with
  | [[], first] => if first = "subjects".toList then some .subjects else none
  | [[], first, segment] =>
    if first = "subjects".toList ∧ segment ≠ [] then some (.subject segment) else none
  | [[], first, segment, last] =>
    if first = "subjects".toList ∧ last = "versions".toList then some (.versions segment) else none
  | _ => none

/-- What a method does at a place. -/
def action? : Endpoint → String → Option Action
  | subjects, method => if method = "GET" ∨ method = "HEAD" then some .list else none
  | subject _, method =>
    if method = "POST" then some .lookup
    else if method = "DELETE" then some .delete
    else none
  | versions _, method => if method = "POST" then some .register else none

/-- The methods that do something at a place. -/
def allowed : Endpoint → String
  | subjects => "GET,HEAD"
  | subject _ => "POST,DELETE"
  | versions _ => "POST"

/-- The subject's name as it is written, if the place is that of a subject. -/
def segment? : Endpoint → Option (List Char)
  | subjects => none
  | subject segment | versions segment => some segment

end Endpoint

/-- The parameters of an action. -/
def Action.parameters : Action → List (String × Query.Kind)
  | .list => [("subjectPrefix", .text), ("deleted", .switch)]
  | .lookup => [("normalize", .switch), ("deleted", .switch)]
  | .delete => [("permanent", .switch)]
  | .register => [("normalize", .switch)]

/-! ## Targets -/

/-- What a request asks for, split into path and query. -/
structure Target where
  path : List Char
  query : Option (List Char)
  deriving DecidableEq

namespace Target

/-- The characters that may stand in front of `://` in a whole address. -/
def isSchemeCharacter (c : Char) : Bool :=
  c.isAlphanum || ['+', '-', '.', '~'].contains c

/-- The rest of an address behind its host, or the text itself if it is not a whole address. -/
def dropAuthority (cs : List Char) : List Char :=
  let scheme := cs.takeWhile (· ≠ ':')
  match cs.dropWhile (· ≠ ':') with
  | ':' :: '/' :: '/' :: rest =>
    if scheme.all isSchemeCharacter then
      match rest.dropWhile fun c => c != '/' && c != '?' && c != '#' with
      | '/' :: rest => '/' :: rest
      | rest => '/' :: rest
    else cs
  | _ => cs

/-- The target of a request. A fragment is not part of it. -/
def ofText (target : String) : Target :=
  let cs := (dropAuthority target.toList).takeWhile (· ≠ '#')
  { path := cs.takeWhile (· ≠ '?')
    query := match cs.dropWhile (· ≠ '?') with
      | _ :: query => some query
      | [] => none }

end Target

end SchemaRegistry
