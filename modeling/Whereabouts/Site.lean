import Whereabouts.Board
import Whereabouts.Settings
import Whereabouts.Page.Source
import Whereabouts.Text.Find
/-!
# The site

The pages as a server gives them out. They are made on request from the board as it is, and nobody
may keep them. Only reading is allowed; a request for the head of a page is answered like one for
the page, without a body.
-/
namespace Whereabouts.Site

open Whereabouts.Calendar Whereabouts.Text

structure Response where
  status : Nat
  contentType : Option String
  cacheControl : Option String
  /-- The methods that the place knows, if the method was none of them. -/
  allow : Option String
  body : String
deriving DecidableEq

namespace Response

/-- A response without a body. -/
def bare (status : Nat) : Response := ⟨status, none, none, none, ""⟩

def page (html : String) : Response :=
  { bare 200 with
    contentType := some "text/html; charset=utf-8", cacheControl := some "no-cache", body := html }

def notFound : Response := bare 404

def notAllowed : Response := { bare 405 with allow := some "GET,HEAD" }

def failed (message : String) : Response :=
  { bare 500 with contentType := some "text/plain; charset=utf-8", body := message }

end Response

/-- What there is to see. -/
inductive View where
  | status
  | absence
deriving DecidableEq

def isSchemeChar (c : Char) : Bool :=
  c.isAlphanum || c == '+' || c == '-' || c == '.' || c == '~'

/-- What follows the scheme of a full address. -/
def afterScheme? (target : List Char) : Option (List Char) :=
  afterPrefix? "://".toList (target.dropWhile isSchemeChar)

/-- The path in what a request asks for. A full address names a host before the path, and an empty
path after a host is that of the whole site; a query or a fragment after the path does not
matter. -/
def pathOf (target : List Char) : List Char :=
  let path (text : List Char) : List Char := text.takeWhile fun c => c ≠ '?' && c ≠ '#'
  match afterScheme? target with
  | none => path target
  | some address =>
    match path (address.dropWhile fun c => c ≠ '/' && c ≠ '?' && c ≠ '#') with
    | [] => ['/']
    | path => path

def View.ofPath? (target : String) : Option View :=
  let path := pathOf target.toList
  if path = "/".toList then some .status
  else if path = "/absence".toList then some .absence
  else none

example : pathOf "http://board.test:8080/absence?x=1".toList = "/absence".toList := by decide
example : pathOf "http://board.test?q=/absence".toList = "/".toList := by decide

def View.render (view : View) (template : String) (board : Board) (context : Page.Context) :
    String :=
  match view with
  | .status => Page.statusPage template board context .live
  | .absence => Page.absencePage template board context

variable {m : Type → Type} [Monad m] [Disk m]

def View.get (view : View) (settings : Settings) (board : Board) (now : Instant) : m Response := do
  match ← (Page.readTemplate settings.template).run with
  | .ok template => return .page (view.render template board (settings.context now))
  | .error failure => return .failed failure.message

/-- The answer to a request. -/
def respond (settings : Settings) (board : Board) (now : Instant) (method path : String) :
    m Response :=
  do
  match View.ofPath? path with
  | none => return .notFound
  | some view =>
    if method = "GET" then view.get settings board now
    else if method = "HEAD" then
      let response ← view.get settings board now
      return { response with body := "" }
    else return .notAllowed

end Whereabouts.Site
