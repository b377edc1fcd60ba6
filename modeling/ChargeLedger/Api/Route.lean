import ChargeLedger.Api.Url

/-!
# Routes

The routes of the ledger's HTTP interface, found from a method and a decoded path. A path is
split at `/`; a route's fixed segments must match exactly and its named segments (regime,
bill run, invoice, licence) match any segment, an empty one too, except that the last
segment of a path is never empty. No route answers a method it was not made for.

When no route matches a path that ends in `/`, the request is redirected to the path without
that `/` if the rest leads along some route of the method to its end or to the end of one of
its named segments. The redirect is given even when the rest is not itself a route.
-/

set_option autoImplicit false

namespace ChargeLedger

namespace Api

/-- A route with the path segments it names. -/
inductive Route where
  | health
  | listRegimes
  | createBillRun (regime : String)
  | getBillRun (regime billRun : String)
  | billRunStatus (regime billRun : String)
  | generate (regime billRun : String)
  | approve (regime billRun : String)
  | send (regime billRun : String)
  | deleteBillRun (regime billRun : String)
  | addTransaction (regime billRun : String)
  | getInvoice (regime billRun invoice : String)
  | deleteInvoice (regime billRun invoice : String)
  | rebill (regime billRun invoice : String)
  | deleteLicence (regime billRun licence : String)
  deriving DecidableEq, Repr

namespace Route

def find : String → List String → Option Route
  | "GET", ["", "health"] => some .health
  | "GET", ["", "admin", "regimes"] => some .listRegimes
  | "POST", ["", "v3", r, "bill-runs"] => some (.createBillRun r)
  | "GET", ["", "v3", r, "bill-runs", b] => some (.getBillRun r b)
  | "DELETE", ["", "v3", r, "bill-runs", b] => some (.deleteBillRun r b)
  | "GET", ["", "v3", r, "bill-runs", b, "status"] => some (.billRunStatus r b)
  | "PATCH", ["", "v3", r, "bill-runs", b, "generate"] => some (.generate r b)
  | "PATCH", ["", "v3", r, "bill-runs", b, "approve"] => some (.approve r b)
  | "PATCH", ["", "v3", r, "bill-runs", b, "send"] => some (.send r b)
  | "POST", ["", "v3", r, "bill-runs", b, "transactions"] => some (.addTransaction r b)
  | "GET", ["", "v3", r, "bill-runs", b, "invoices", i] => some (.getInvoice r b i)
  | "DELETE", ["", "v3", r, "bill-runs", b, "invoices", i] => some (.deleteInvoice r b i)
  | "PATCH", ["", "v3", r, "bill-runs", b, "invoices", i, "rebill"] => some (.rebill r b i)
  | "DELETE", ["", "v3", r, "bill-runs", b, "licences", l] => some (.deleteLicence r b l)
  | _, _ => none

end Route

/-- Where a request goes: a route, a redirect to a path, or nowhere. -/
inductive Destination where
  | route (r : Route)
  | redirect (path : String)
  | nowhere
  deriving DecidableEq, Repr

/-- A segment of a route's path: fixed text, or a name that any segment fills. -/
inductive Segment where
  | fixed (text : String)
  | named
  deriving DecidableEq, Repr

def Segment.fits (s : String) : Segment → Bool
  | .fixed t => s == t
  | .named => true

namespace Route

def patterns : List (String × List Segment) :=
  let billRun : List Segment := [.fixed "", .fixed "v3", .named, .fixed "bill-runs", .named]
  [ ("GET", [.fixed "", .fixed "metrics"]),
    ("GET", [.fixed "", .fixed "health"]),
    ("GET", [.fixed "", .fixed "admin", .fixed "regimes"]),
    ("POST", [.fixed "", .fixed "v3", .named, .fixed "bill-runs"]),
    ("GET", billRun),
    ("DELETE", billRun),
    ("GET", billRun ++ [.fixed "status"]),
    ("PATCH", billRun ++ [.fixed "generate"]),
    ("PATCH", billRun ++ [.fixed "approve"]),
    ("PATCH", billRun ++ [.fixed "send"]),
    ("POST", billRun ++ [.fixed "transactions"]),
    ("GET", billRun ++ [.fixed "invoices", .named]),
    ("DELETE", billRun ++ [.fixed "invoices", .named]),
    ("PATCH", billRun ++ [.fixed "invoices", .named, .fixed "rebill"]),
    ("DELETE", billRun ++ [.fixed "licences", .named]) ]

def leadsAlong (segments : List String) (pattern : List Segment) : Bool :=
  segments.length ≤ pattern.length &&
    (segments.zip pattern).all (fun p => Segment.fits p.1 p.2) &&
    (segments.length == pattern.length || pattern[segments.length - 1]? == some .named)

def leadsOn (method : String) (segments : List String) : Bool :=
  patterns.any fun p => p.1 == method && leadsAlong segments p.2

end Route

def destination (method path : String) : Destination :=
  let segments := path.splitOn "/"
  let found := if segments.getLast? == some "" then none else Route.find method segments
  match found with
  | some r => .route r
  | none =>
    if path != "/" && path.endsWith "/" && Route.leadsOn method segments.dropLast then
      .redirect (String.ofList path.toList.dropLast)
    else .nowhere

end Api

end ChargeLedger
