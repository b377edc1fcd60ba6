import ChargeLedger.Api.Route
import ChargeLedger.Api.Slug
import ChargeLedger.Ledger.Views
import ChargeLedger.Ledger.Recording
import ChargeLedger.Ledger.Generation
import ChargeLedger.Ledger.Sending
import ChargeLedger.Ledger.Rebilling
import ChargeLedger.Ledger.Deletion
import ChargeLedger.Ledger.Payload.Read
import ChargeLedger.Text.Quoted

/-!
# The HTTP interface

A request is routed by its method and decoded path. A route under `/v3/<regime>` first finds
the regime by the slug of that segment; then it reads the identifiers in its path (trimmed,
in any form an identifier may be written in), the bill run's first; then its body; then it
runs the operation.

A body is read as the first JSON value of the text. A key that names no field of the request
is refused with its name; any other fault of the body is reported as a body that is no JSON.

A fault answers with the status of its kind and `{"error": {"type", "message", "details"}}`;
for a status of 500 or more the message is `internal server error` and there are no details.
An unknown route answers 404 with the text `404 page not found`.
-/

set_option autoImplicit false

namespace ChargeLedger

namespace Api

/-- A request to the interface. -/
structure Request where
  method : String
  /-- The decoded path. -/
  path : String
  /-- The query with its `?`, or empty. -/
  query : String := ""
  /-- The fragment with its `#` as a URL shows it, or empty. -/
  fragment : String := ""
  body : String := ""
  /-- The header fields as sent: names and values. -/
  headers : List (String × String) := []
  deriving Inhabited

def Request.header (r : Request) (name : String) : String :=
  ((r.headers.filter fun h => h.1.toLower == name.toLower).getLast?.map Prod.snd).getD ""

def Request.actor (r : Request) : String := Space.trim (r.header "X-Authorised-System")

def isMethod (m : String) : Bool :=
  !m.isEmpty && m.toList.all fun c => c.isAlphanum || "!#$%&'*+-.^_`|~".toList.contains c

/-- The body of a response. -/
inductive Body where
  | empty
  | json (j : Json)
  | text (t : String)
  deriving Inhabited

/-- A response, with the work it leaves behind. -/
structure Response where
  status : Nat
  body : Body := .empty
  task : Option Task := none
  deriving Inhabited

def faultResponse (f : Fault) : Response :=
  let status := f.kind.httpStatus
  let base := [("type", Json.str f.kind.word)]
  let payload :=
    if status ≥ 500 then base ++ [("message", Json.str "internal server error")]
    else
      base ++ [("message", Json.str f.message)] ++
        match f.details with
        | [] => []
        | ds => [("details", .obj ds)]
  { status, body := .json (.obj [("error", .obj payload)]) }

def jsonResponse (status : Nat) (j : Json) : Response := { status, body := .json j }

def regimeOf (raw : String) : Op Regime := do
  let key := Case.lowerText (Slug.make raw)
  Op.require (!key.isEmpty) (.unknownRegime raw)
  match (← get).regimeBySlug key with
  | some r => pure r
  | none => throw (.unknownRegime raw)

def idOf (field raw : String) : Op Uuid := do
  let t := Space.trim raw
  match Uuid.parse? t with
  | some u => pure u
  | none => throw (.invalidId field t)

def billRunRef (regime : Regime) (raw : String) : Op BillRunRef := do
  pure ⟨regime.id, regime.slug, ← idOf "billRunId" raw⟩

def shownField (key : String) : String :=
  let q := (Quoted.quote key).toList
  String.ofList ((q.dropWhile (· == '"')).reverse.dropWhile (· == '"')).reverse

def bodyFault : Json.ReadFault → Fault
  | .unknownField k => .unknownField (shownField k)
  | _ => .malformedBody

def readBody {α : Type} (read : Json → Except Json.ReadFault α) (body : String) : Op α :=
  match Json.parseFirst body with
  | none => throw .malformedBody
  | some j =>
    match read j with
    | .ok a => pure a
    | .error e => throw (bodyFault e)

/-- The body of a request to create a bill run. -/
structure CreateBody where
  region : String := ""
  ruleset : String := ""

open Json in
def CreateBody.ofJson (j : Json) : Except ReadFault CreateBody :=
  readRecord "server.createBillRunRequest" "createBillRunRequest"
    [ textField "region" "string" fun v b => { b with region := v },
      textField "ruleset" "string" fun v b => { b with ruleset := v } ] {} j

def serveRegime (env : Env) (req : Request) (regime : Regime) : Route → Op Response
  | .createBillRun _ => do
    let body ← readBody CreateBody.ofJson req.body
    let b ← BillRun.create env.now regime.id regime.slug req.actor body.region body.ruleset
    pure (jsonResponse 201 (.obj [("billRun", .obj [("id", Json.uuid b.id),
      ("region", .str b.region.name), ("status", .str b.status.name)])]))
  | .getBillRun _ raw => do
    let b ← Op.billRunOf (← billRunRef regime raw)
    pure (jsonResponse 200 (.obj [("billRun", (← get).billRunView b)]))
  | .billRunStatus _ raw => do
    let st ← BillRun.statusOf (← billRunRef regime raw)
    pure (jsonResponse 200 (.obj [("status", .str st.name)]))
  | .generate _ raw => do
    let b ← BillRun.generate env (← billRunRef regime raw)
    pure (jsonResponse 200 (.obj [("billRun", b.toJson)]))
  | .approve _ raw => do
    BillRun.approve env.now (← billRunRef regime raw)
    pure { status := 204 }
  | .send _ raw => do
    let task ← BillRun.send env.now (← billRunRef regime raw)
    pure { status := 202, task := some task }
  | .deleteBillRun _ raw => do
    BillRun.delete env.now (← billRunRef regime raw)
    pure { status := 204 }
  | .addTransaction _ raw => do
    let ref ← billRunRef regime raw
    let payload ← readBody Payload.ofJson req.body
    let t ← record env ref req.actor payload
    pure (jsonResponse 201 (.obj [("transaction", .obj [("id", Json.uuid t.id),
      ("clientId", Json.optStr t.clientId)])]))
  | .getInvoice _ raw inv => do
    let ref ← billRunRef regime raw
    let id ← idOf "invoiceId" inv
    let b ← Op.billRunOf ref
    match (← get).invoiceOn? b.id id with
    | some i => pure (jsonResponse 200 (.obj [("invoice", (← get).invoiceView i)]))
    | none => throw (.invoiceNotFound id)
  | .deleteInvoice _ raw inv => do
    let ref ← billRunRef regime raw
    let task ← Deletion.deleteInvoice ref (← idOf "invoiceId" inv)
    pure { status := 202, task := some task }
  | .rebill _ raw inv => do
    let ref ← billRunRef regime raw
    let (cancel, again, task) ← Rebill.rebill env.now ref (← idOf "invoiceId" inv) req.actor
    let shown (i : Invoice) : Json := .obj [("id", Json.uuid i.id), ("rebilledType", .str i.kind.letter)]
    pure { status := 202, body := .json (.obj [("invoices", .arr [shown cancel, shown again])]),
           task := some task }
  | .deleteLicence _ raw lic => do
    let ref ← billRunRef regime raw
    let task ← Deletion.deleteLicence ref (← idOf "licenceId" lic)
    pure { status := 202, task := some task }
  | _ => pure { status := 404, body := .text "404 page not found" }

def Route.regime? : Route → Option String
  | .createBillRun r | .getBillRun r _ | .billRunStatus r _ | .generate r _ | .approve r _
  | .send r _ | .deleteBillRun r _ | .addTransaction r _ | .getInvoice r _ _
  | .deleteInvoice r _ _ | .rebill r _ _ | .deleteLicence r _ _ => some r
  | .health | .listRegimes => none

def serveRoute (env : Env) (req : Request) (r : Route) : Op Response := do
  match r.regime? with
  | some raw => serveRegime env req (← regimeOf raw) r
  | none =>
    match r with
    | .listRegimes =>
      pure (jsonResponse 200 (.obj [("data", .arr ((← get).regimesBySlug.map Regime.toJson))]))
    | _ => pure (jsonResponse 200 (.obj [("status", .str "ok")]))

def redirectText (url : String) : String :=
  let escaped := String.join (url.toList.map fun c =>
    match c with
    | '&' => "&amp;"
    | '<' => "&lt;"
    | '>' => "&gt;"
    | '"' => "&#34;"
    | '\'' => "&#39;"
    | c => c.toString)
  "<a href=\"" ++ escaped ++ "\">Moved Permanently</a>.\n\n"

/-- Handles a request against a store, on the host `host`: the response and the store after
it. -/
def handle (env : Env) (host : String) (req : Request) (s : Store) : Response × Store :=
  match destination req.method req.path with
  | .nowhere => ({ status := 404, body := .text "404 page not found" }, s)
  | .redirect moved =>
    let target := Url.forwardedPath (req.header "X-Forwarded-Prefix") moved
    let slash := if target.startsWith "/" then "" else "/"
    let url := host ++ slash ++ Url.escapePath target ++ req.query ++ req.fragment
    if req.method == "GET" then ({ status := 301, body := .text (redirectText url) }, s)
    else ({ status := 307 }, s)
  | .route r =>
    match serveRoute env req r s with
    | .ok resp s' => (resp, s')
    | .error f s' => (faultResponse f, s')

end Api

end ChargeLedger
