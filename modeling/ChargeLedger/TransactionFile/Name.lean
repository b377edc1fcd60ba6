import ChargeLedger.Text.Case

/-!
# Naming transaction files

A transaction file is named `nal`, the region letter in lower case, `i`, and the file number in
at least five digits: `nalai50001`. It is stored as that name with `.dat` under
`<regime>/transaction/`, the path put in its shortest form.
-/

set_option autoImplicit false

namespace ChargeLedger.TransactionFile

def padded (w : Nat) (n : Int) : String :=
  let digits := toString n.natAbs
  let width := if n < 0 then w - 1 else w
  let body := String.ofList (List.replicate (width - digits.length) '0') ++ digits
  if n < 0 then "-" ++ body else body

def reference (region : String) (fileNumber : Int) : String :=
  "nal" ++ Case.lowerText region ++ "i" ++ padded 5 fileNumber

def fileName (reference : String) : String := reference ++ ".dat"

def cleanSegments : List String → List String → List String
  | [], acc => acc.reverse
  | seg :: rest, acc =>
    if seg == "" || seg == "." then cleanSegments rest acc
    else if seg == ".." then
      match acc with
      | a :: as => if a == ".." then cleanSegments rest (".." :: acc) else cleanSegments rest as
      | [] => cleanSegments rest [".."]
    else cleanSegments rest (seg :: acc)

def cleanPath (p : String) : String :=
  match cleanSegments (p.splitOn "/") [] with
  | [] => "."
  | segs => "/".intercalate segs

def storageKey (regime reference : String) : String :=
  cleanPath (regime ++ "/transaction/" ++ fileName reference)

example : reference "A" 50001 = "nalai50001" := by decide

end ChargeLedger.TransactionFile
