import ChargeLedger.Script.Step
import ChargeLedger.Api.Server
import ChargeLedger.Ledger.Seed
import ChargeLedger.Ledger.Work
import ChargeLedger.Ledger.Recovery

/-!
# Running a script

A script runs against a ledger seeded at the clock's first reading. Each step gives a result:

* a request gives its status and its body (`body` when it is JSON, `body_text` otherwise); the
  work it leaves runs straight after it, and the files that work delivered and the failures
  it met are added as `uploads` and `notifications` when there are any;
* a command gives what it did: the clock's reading, whether a row was changed, every table,
  a transaction file, and so on.

The clock stands still unless a command moves it. A step that cannot be run gives a
`bad_step` error and changes nothing.
-/

set_option autoImplicit false

namespace ChargeLedger

namespace Script

/-- A ledger being driven by a script. -/
structure Session where
  store : Store
  clock : Instant
  thresholds : ThresholdTable := ThresholdTable.builtIn
  rules : RulesLink := RulesLink.offline
  /-- The host requests are sent to, as redirects name it. -/
  host : String := ""
  uploadRefusal : Option String := none
  bindings : List (String × String) := []

namespace Session

def start (clock : Instant) (thresholds : ThresholdTable) (rules : RulesLink) (host : String) :
    Session :=
  { store := Store.seeded clock, clock, thresholds, rules, host }

def env (s : Session) : Env :=
  { now := s.clock, thresholds := s.thresholds, rules := s.rules, uploadRefusal := s.uploadRefusal }

end Session

def badStep (reason : String) : Json := .obj [("error", .str "bad_step"), ("message", .str reason)]

def idProblem (raw : String) : String :=
  let n := (Utf8.octets raw).length
  if n == 45 then "invalid urn prefix: " ++ Quoted.quote (Utf8.toText ((Utf8.octets raw).take 9))
  else if n == 32 || n == 36 || n == 38 then "invalid UUID format"
  else "invalid UUID length: " ++ toString n

def idOf (raw : String) : Except String Uuid :=
  match Uuid.parse? raw with
  | some u => .ok u
  | none => .error (idProblem raw)

def linesOf (content : String) : List String :=
  match (content.splitOn "\n").reverse with
  | "" :: rest => rest.reverse
  | all => all.reverse

def Upload.toJson (u : Upload) : Json :=
  .obj [("key", .str u.key), ("lines", .arr ((linesOf u.content).map .str))]

def Notice.toJson (n : Notice) : Json :=
  match n.fault.toJson with
  | .obj fs => .obj ([("task", .str n.task)] ++ fs ++
      [("tags", .obj (n.tags.map fun t => (t.1, Json.str t.2)))])
  | other => other

def allReadable (s : Store) : Bool :=
  s.billRuns.all BillRun.readable && s.invoices.all Invoice.readable &&
    s.licences.all Licence.readable && s.transactions.all Transaction.readable &&
    s.counters.all Counter.readable

def stateOf (s : Store) : Json :=
  if !allReadable s then Fault.unreadableTime.toJson else
  let counterView (c : Counter) : Json :=
    .obj [("regime", .str ((s.regimes.find? (·.id == c.regimeId)).map (·.slug) |>.getD "")),
      ("region", .str c.region.name), ("billRunNumber", Tally.wordJson c.billRunNumber),
      ("transactionNumber", Tally.wordJson c.transactionNumber),
      ("fileNumber", Tally.wordJson c.fileNumber)]
  let slugOf (c : Counter) : String := ((s.regimes.find? (·.id == c.regimeId)).map (·.slug)).getD ""
  let changed := Store.sortBy (fun a b => (compare (slugOf a) (slugOf b)).then
      (compare a.region.name b.region.name)) (s.counters.filter fun c => !c.isFresh)
  .obj [("bill_runs", .arr (s.billRuns.map BillRun.toJson)),
    ("invoices", .arr (s.invoices.map Invoice.toJson)),
    ("licences", .arr (s.licences.map Licence.toJson)),
    ("transactions", .arr (s.transactions.map Transaction.toJson)),
    ("counters", .arr (changed.map counterView))]

def counterOf (s : Store) (regime region : String) : Option Counter :=
  match s.regimeBySlug regime, Region.ofName? region with
  | some r, some g => s.counter? r.id g
  | _, _ => none

def mapCounter (s : Store) (c : Counter) (f : Counter → Counter) : Store :=
  { s with counters := s.counters.map fun d => if d.id == c.id then f d else d }

def runCommand (s : Session) : Command → Json × Session
  | .clock set advance =>
    let start := match set with
      | some text => Instant.ofRfc3339 text
      | none => some s.clock
    match start with
    | none => (badStep "set must be RFC3339", s)
    | some t =>
      let now := t.addNanos (Instant.spanOfSeconds advance)
      (.obj [("now", .str now.rfc3339)], { s with clock := now })
  | .setStatus billRun status =>
    match idOf (substitute s.bindings billRun) with
    | .error e => (badStep e, s)
    | .ok id =>
      let (done, store) := s.store.guarded id Status.named fun b =>
        { b with status := Status.ofName status, updatedAt := s.clock }
      (.obj [("updated", .bool done)], { s with store })
  | .setFile billRun reference number =>
    match idOf (substitute s.bindings billRun) with
    | .error e => (badStep e, s)
    | .ok id =>
      let found := (s.store.billRun? id).isSome
      let store := s.store.mapBillRun id fun b =>
        { b with fileReference := reference, billRunNumber := number.map Int64.ofInt }
      (.obj [("updated", .bool found)], { s with store })
  | .state => (stateOf s.store, s)
  | .recover threshold batch =>
    match Recovery.recover s.clock threshold batch s.store with
    | .ok _ store => (.obj [("ok", .bool true)], { s with store })
    | .error f store => (f.toJson, { s with store })
  | .exportFile billRun fileDate =>
    match idOf (substitute s.bindings billRun), Instant.ofRfc3339 fileDate with
    | .error e, _ => (badStep e, s)
    | _, none => (badStep "file_date must be RFC3339", s)
    | .ok id, some date =>
      match s.store.billRun? id with
      | none => (.obj [("error", .str "not_found"), ("message", .str "no such bill run")], s)
      | some b =>
        if !b.readable then (Fault.unreadableTime.toJson, s) else
        let (content, rows) := TransactionFile.render s.store b date
        (.obj [("lines", .arr ((linesOf content).map .str)), ("body_rows", Json.nat rows),
          ("line_count", Json.nat (rows + 2))], s)
  | .setCounter regime region numbers =>
    match counterOf s.store regime region with
    | some c =>
      if numbers.billRunNumber.isNone && numbers.transactionNumber.isNone &&
          numbers.fileNumber.isNone then (.obj [("updated", Json.nat 0)], s)
      else
        let store := mapCounter s.store c fun d =>
          { d with
            billRunNumber := (numbers.billRunNumber.map Int64.ofInt).getD d.billRunNumber
            transactionNumber := (numbers.transactionNumber.map Int64.ofInt).getD d.transactionNumber
            fileNumber := (numbers.fileNumber.map Int64.ofInt).getD d.fileNumber }
        (.obj [("updated", Json.nat 1)], { s with store })
    | none => (.obj [("updated", Json.nat 0)], s)
  | .dropCounter regime region =>
    match counterOf s.store regime region with
    | some c =>
      (.obj [("deleted", Json.nat 1)],
        { s with store := { s.store with counters := s.store.counters.filter (·.id != c.id) } })
    | none => (.obj [("deleted", Json.nat 0)], s)
  | .refuseUploads message => (.obj [("ok", .bool true)], { s with uploadRefusal := message })

def deliver (s : Session) (req : Api.Request) : Json × Session :=
  let env := s.env
  let (resp, store) := Api.handle env s.host req s.store
  let shown := match resp.body with
    | .json j => [("body", j)]
    | .text t => [("body_text", Json.str t)]
    | .empty => []
  let (store, uploads, notices) := match resp.task with
    | some task =>
      let (after, ups, notice) := task.perform env store
      (after, ups, notice.toList)
    | none => (store, [], [])
  let extra :=
    (if uploads.isEmpty then [] else [("uploads", Json.arr (uploads.map Upload.toJson))]) ++
    (if notices.isEmpty then [] else [("notifications", Json.arr (notices.map Notice.toJson))])
  (.obj ([("status", Json.nat resp.status)] ++ shown ++ extra), { s with store })

def runRequest (s : Session) (method target body : String) (headers : List (String × String)) :
    Json × Session :=
  let method := if method.isEmpty then "GET" else method
  let target := substitute s.bindings target
  if !Api.isMethod method then (badStep ("net/http: invalid method " ++ Quoted.quote method), s)
  else
    match Url.readTarget target with
    | .error e => (badStep (e.message s.host target), s)
    | .ok t =>
      deliver s { method, path := t.path, query := t.query,
                  fragment := Url.fragmentSuffix t.fragment,
                  body := substitute s.bindings body, headers }

def bind (bindings : List (String × String)) (name value : String) : List (String × String) :=
  if bindings.any (·.1 == name) then bindings.map fun b => if b.1 == name then (name, value) else b
  else bindings ++ [(name, value)]

def runStep (s : Session) (step : Step) : Json × Session :=
  let (result, s) := match step.action with
    | .request method target body headers => runRequest s method target body headers
    | .command c => runCommand s c
    | .unreadable reason => (badStep reason, s)
  let bindings := step.saves.foldl (fun acc save =>
    match lookup result (save.2.splitOn ".") with
    | some (.string v _) => bind acc save.1 v
    | _ => acc) s.bindings
  (result, { s with bindings })

/-- Runs the steps of a script in order; their results. -/
def run (s : Session) : List Step → List Json
  | [] => []
  | step :: rest =>
    let (result, s') := runStep s step
    result :: run s' rest

end Script

end ChargeLedger
