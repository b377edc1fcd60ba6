import ChargeLedger.Json.Value

/-!
# Script steps

A script drives a ledger step by step. A step is a request to the HTTP interface or a
maintenance command run straight against the store, and may save texts from its result under
names. A saved name written between braces in a later step's path, body or bill run is
replaced by the text saved under it; a name never saved stays as written.
-/

set_option autoImplicit false

namespace ChargeLedger

namespace Script

/-- New numbers for a counter; a number not given is left as it is. -/
structure CounterNumbers where
  billRunNumber : Option Int := none
  transactionNumber : Option Int := none
  fileNumber : Option Int := none
  deriving Repr, Inhabited

/-- A maintenance command. -/
inductive Command where
  /-- Sets the clock to a time, if one is given, then moves it on by some seconds. -/
  | clock (set : Option String) (advance : Int)
  /-- Stores a status word for a bill run in a named status. -/
  | setStatus (billRun : String) (status : String)
  /-- Stores a bill run's file reference and number as given. -/
  | setFile (billRun : String) (reference : Option String) (number : Option Int)
  /-- Shows every table. -/
  | state
  /-- Recovers stuck generations with a threshold in seconds and a batch size. -/
  | recover (threshold batch : Int)
  /-- Writes a bill run's transaction file for a file date. -/
  | exportFile (billRun : String) (fileDate : String)
  /-- Sets numbers of the counter of a regime in a region. -/
  | setCounter (regime region : String) (numbers : CounterNumbers)
  /-- Deletes the counter of a regime in a region. -/
  | dropCounter (regime region : String)
  /-- Makes the file store refuse every file with a message, or accept files again. -/
  | refuseUploads (message : Option String)
  deriving Repr, Inhabited

/-- What a step does. -/
inductive Action where
  /-- A request: method, path, body, and its header fields as sent. -/
  | request (method target body : String) (headers : List (String × String))
  | command (c : Command)
  /-- A step that could not be read, with the reason. -/
  | unreadable (reason : String)
  deriving Repr, Inhabited

/-- A step with the texts it saves: a name and the dotted path of the text in the result. -/
structure Step where
  action : Action
  saves : List (String × String) := []
  deriving Repr, Inhabited

def isNameChar (c : Char) : Bool := c.isAlphanum || c == '_'

def fillPieces (bindings : List (String × String)) : List Char → List String
  | [] => []
  | '\x7b' :: rest =>
    let name := rest.takeWhile isNameChar
    match _h : rest.drop name.length, name.isEmpty with
    | '\x7d' :: after, false =>
      let text := String.ofList name
      (bindings.lookup text).getD ("\x7b" ++ text ++ "\x7d") :: fillPieces bindings after
    | _, _ => "\x7b" :: fillPieces bindings rest
  | c :: rest => c.toString :: fillPieces bindings rest
termination_by cs => cs.length
decreasing_by
  all_goals simp_wf
  · have := congrArg List.length _h
    simp only [List.length_drop, List.length_cons] at this
    omega

def substitute (bindings : List (String × String)) (s : String) : String :=
  String.join (fillPieces bindings s.toList)

def lookup (j : Json) : List String → Option Json
  | [] => some j
  | part :: rest =>
    match j with
    | .obj _ => (j.field? part).bind fun v => lookup v rest
    | .arr xs =>
      if !part.isEmpty && part.all Char.isDigit then
        xs[part.foldl (fun n c => n * 10 + (c.toNat - '0'.toNat)) 0]?.bind fun v => lookup v rest
      else none
    | _ => none

end Script

end ChargeLedger
