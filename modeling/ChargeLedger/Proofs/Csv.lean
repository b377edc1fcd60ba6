import Mathlib
import ChargeLedger.TransactionFile.Layout

/-!
# Reading comma-separated records

A reader of comma-separated text in the manner of RFC 4180: records end at a line feed or at a
carriage return and line feed; fields are separated by commas; a field is written bare, with no
quote, comma or line break in it, or between quotes, where a quote is written twice and commas
and line breaks stand for themselves. The reader is a machine that takes one character at a
time (`step`), so what a run reads follows from what each character does.

Every list of records that each hold a field reads back from the text `recordLine` writes for
them, whatever their fields hold: the writing is one to one.
-/

set_option autoImplicit false

namespace ChargeLedger.Csv

open TransactionFile

/-- Where the reader stands. -/
inductive Mode where
  /-- at the start of a record -/
  | lineStart
  /-- after a comma -/
  | fieldStart
  /-- inside a field written without quotes -/
  | bare
  /-- inside a field written between quotes -/
  | quoted
  /-- inside a quoted field just after a quote: the closing one, or the first of a doubled one -/
  | quote
  /-- after a carriage return that ends a record, before its line feed -/
  | cr
  deriving DecidableEq, Repr

/-- The reader: its mode, the characters of the field being read, the fields of the record
being read, and the records read. -/
structure State where
  mode : Mode
  field : List Char
  record : List String
  done : List (List String)
  deriving DecidableEq, Repr

def State.initial : State := ⟨.lineStart, [], [], []⟩

def State.close (st : State) (c : Char) : Option State :=
  let record := st.record ++ [String.ofList st.field]
  if c = ',' then some ⟨.fieldStart, [], record, st.done⟩
  else if c = '\n' then some ⟨.lineStart, [], [], st.done ++ [record]⟩
  else if c = '\r' then some ⟨.cr, [], record, st.done⟩
  else none

/-- The reader after one more character; `none` where the text breaks the format: a quote in a
bare field, a character after a closing quote, a carriage return with no line feed. -/
def step (st : State) (c : Char) : Option State :=
  match st.mode with
  | .quoted =>
    some (if c = '"' then { st with mode := .quote } else { st with field := st.field ++ [c] })
  | .quote =>
    if c = '"' then some { st with mode := .quoted, field := st.field ++ ['"'] } else st.close c
  | .cr => if c = '\n' then some ⟨.lineStart, [], [], st.done ++ [st.record]⟩ else none
  | .bare =>
    if c = '"' then none else (st.close c).or (some { st with field := st.field ++ [c] })
  | .lineStart | .fieldStart =>
    if c = '"' then some { st with mode := .quoted }
    else (st.close c).or (some { st with mode := .bare, field := st.field ++ [c] })

def finish (st : State) : Option (List (List String)) :=
  match st.mode with
  | .lineStart => some st.done
  | .quoted | .cr => none
  | .bare | .fieldStart | .quote => some (st.done ++ [st.record ++ [String.ofList st.field]])

def read (st : State) : List Char → Option (List (List String))
  | [] => finish st
  | c :: cs => (step st c).bind fun st' => read st' cs

def parse (s : String) : Option (List (List String)) := read .initial s.toList

example : parse "a,\"b \"\"c\"\"\",\"d,\ne\"\r\nf\n" = some [["a", "b \"c\"", "d,\ne"], ["f"]] := by
  decide

/-! ## One character at a time -/

theorem read_cons {s t : State} {c : Char} (h : step s c = some t) (cs : List Char) :
    read s (c :: cs) = read t cs := by
  rw [read, h, Option.bind_some]

theorem read_doubleQuotes (f field : List Char) (record : List String)
    (done : List (List String)) (rest : List Char) :
    read ⟨.quoted, field, record, done⟩ (doubleQuotes f ++ '"' :: rest) =
      read ⟨.quote, field ++ f, record, done⟩ rest := by
  induction f generalizing field with
  | nil =>
    rw [doubleQuotes, List.nil_append, List.append_nil]
    exact read_cons (by simp [step]) rest
  | cons c f ih =>
    by_cases hc : c = '"'
    · -- a doubled quote: the first closes for a moment, the second reopens with a quote read
      subst hc
      rw [doubleQuotes, if_pos rfl, List.cons_append, List.cons_append,
        read_cons (t := ⟨.quote, field, record, done⟩) (by simp [step]),
        read_cons (t := ⟨.quoted, field ++ ['"'], record, done⟩) (by simp [step]), ih]
      simp
    · rw [doubleQuotes, if_neg hc, List.cons_append,
        read_cons (t := ⟨.quoted, field ++ [c], record, done⟩) (by simp [step, hc]), ih]
      simp

theorem read_quoteField {m : Mode} (hm : m = .lineStart ∨ m = .fieldStart) (f : String)
    (record : List String) (done : List (List String)) (rest : List Char) :
    read ⟨m, [], record, done⟩ ((quoteField f).toList ++ rest) =
      read ⟨.quote, f.toList, record, done⟩ rest := by
  have hopen : step ⟨m, [], record, done⟩ '"' = some ⟨.quoted, [], record, done⟩ := by
    rcases hm with rfl | rfl <;> simp [step]
  rw [quoteField, String.toList_ofList, List.append_assoc, List.cons_append, read_cons hopen,
    List.singleton_append, read_doubleQuotes, List.nil_append]

theorem read_comma (field : List Char) (record : List String) (done : List (List String))
    (rest : List Char) :
    read ⟨.quote, field, record, done⟩ (',' :: rest) =
      read ⟨.fieldStart, [], record ++ [String.ofList field], done⟩ rest :=
  read_cons (by simp [step, State.close]) rest

theorem read_newline (field : List Char) (record : List String) (done : List (List String))
    (rest : List Char) :
    read ⟨.quote, field, record, done⟩ ('\n' :: rest) =
      read ⟨.lineStart, [], [], done ++ [record ++ [String.ofList field]]⟩ rest :=
  read_cons (by simp [step, State.close]) rest

/-! ## Records and files -/

theorem toList_recordLine_single (f : String) :
    (recordLine [f]).toList = (quoteField f).toList ++ ['\n'] := by
  simp [recordLine]

theorem toList_recordLine_cons_cons (f g : String) (fs : List String) :
    (recordLine (f :: g :: fs)).toList = (quoteField f).toList ++ ',' :: (recordLine (g :: fs)).toList := by
  simp [recordLine, String.intercalate_cons_cons, List.append_assoc]

theorem read_recordLine {m : Mode} (hm : m = .lineStart ∨ m = .fieldStart) (f : String)
    (fs record : List String) (done : List (List String)) (rest : List Char) :
    read ⟨m, [], record, done⟩ ((recordLine (f :: fs)).toList ++ rest) =
      read ⟨.lineStart, [], [], done ++ [record ++ f :: fs]⟩ rest := by
  -- the fields are read one after another; the record is carried to the last
  induction fs generalizing f m record with
  | nil =>
    rw [toList_recordLine_single, List.append_assoc, read_quoteField hm, List.singleton_append,
      read_newline, String.ofList_toList]
  | cons g fs ih =>
    rw [toList_recordLine_cons_cons, List.append_assoc, read_quoteField hm, List.cons_append,
      read_comma, String.ofList_toList, ih (.inr rfl)]
    simp

theorem read_records (recs : List (List String)) (hne : ∀ r ∈ recs, r ≠ [])
    (done : List (List String)) :
    read ⟨.lineStart, [], [], done⟩ (String.join (recs.map recordLine)).toList =
      some (done ++ recs) := by
  induction recs generalizing done with
  | nil => simp [read, finish]
  | cons r recs ih =>
    obtain ⟨f, fs, rfl⟩ := List.exists_cons_of_ne_nil (hne r (by simp))
    rw [List.map_cons, String.join_cons, String.toList_append,
      read_recordLine (.inl rfl), ih (fun r hr => hne r (by simp [hr]))]
    simp

theorem parse_join_recordLine {recs : List (List String)} (hne : ∀ r ∈ recs, r ≠ []) :
    parse (String.join (recs.map recordLine)) = some recs := by
  rw [parse, State.initial, read_records recs hne, List.nil_append]

/-- Records that each hold a field are written to different texts. -/
theorem join_recordLine_injective {a b : List (List String)} (ha : ∀ r ∈ a, r ≠ [])
    (hb : ∀ r ∈ b, r ≠ []) (h : String.join (a.map recordLine) = String.join (b.map recordLine)) :
    a = b := by
  have e := parse_join_recordLine ha
  rw [h, parse_join_recordLine hb] at e
  exact (Option.some.inj e).symm

end ChargeLedger.Csv
