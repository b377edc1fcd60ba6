import ChargeLedger.Ledger.Store
import ChargeLedger.Ledger.TallyJson

/-!
# The ledger's records as JSON

Each record is shown under the names clients know: identifiers as grouped text, times as RFC
3339 text in UTC, amounts as integers, missing values as `null`. A bill run and an invoice
show their tally's counters among their own fields.

A bill run's view adds its net total and a summary of each invoice with its licences; an
invoice's view adds its net total and each licence with its net total and transactions.
-/

set_option autoImplicit false

namespace ChargeLedger

namespace Json

def uuid (u : Uuid) : Json := .str u.text

def optUuid : Option Uuid → Json
  | some u => uuid u
  | none => .null

def instant (t : Instant) : Json := .str t.rfc3339

def optInstant : Option Instant → Json
  | some t => instant t
  | none => .null

def optWord : Option Int64 → Json
  | some v => Tally.wordJson v
  | none => .null

end Json

namespace Regime

def toJson (r : Regime) : Json :=
  .obj [("id", Json.uuid r.id), ("slug", .str r.slug), ("name", .str r.name),
    ("createdAt", Json.instant r.createdAt), ("updatedAt", Json.instant r.updatedAt)]

end Regime

namespace BillRun

def fields (b : BillRun) : List (String × Json) :=
  [("id", Json.uuid b.id), ("regimeId", Json.uuid b.regimeId), ("region", .str b.region.name),
    ("ruleset", .str b.ruleset.name), ("status", .str b.status.name),
    ("billRunNumber", Json.optWord b.billRunNumber), ("fileReference", Json.optStr b.fileReference),
    ("fileCreatedAt", Json.optInstant b.fileCreatedAt), ("createdBy", .str b.createdBy)] ++
    b.tally.counterFields ++ b.summary.fields ++
    [("createdAt", Json.instant b.createdAt), ("updatedAt", Json.instant b.updatedAt)]

def toJson (b : BillRun) : Json := .obj b.fields

end BillRun

namespace Invoice

def fields (i : Invoice) : List (String × Json) :=
  [("id", Json.uuid i.id), ("billRunId", Json.uuid i.billRunId),
    ("customerReference", .str i.customerReference), ("financialYear", Json.int i.financialYear),
    ("rebilledType", .str i.kind.letter), ("rebilledInvoiceId", Json.optUuid i.rebilledInvoiceId),
    ("transactionReference", Json.optStr i.transactionReference)] ++
    i.tally.counterFields ++ i.flags.fields ++
    [("createdAt", Json.instant i.createdAt), ("updatedAt", Json.instant i.updatedAt)]

def toJson (i : Invoice) : Json := .obj i.fields

end Invoice

namespace Licence

def fields (l : Licence) : List (String × Json) :=
  [("id", Json.uuid l.id), ("billRunId", Json.uuid l.billRunId), ("invoiceId", Json.uuid l.invoiceId),
    ("licenceNumber", .str l.licenceNumber)] ++ l.tally.counterFields ++
    [("createdAt", Json.instant l.createdAt), ("updatedAt", Json.instant l.updatedAt)]

def toJson (l : Licence) : Json := .obj l.fields

end Licence

namespace Transaction

def toJson (t : Transaction) : Json :=
  .obj <|
    [("id", Json.uuid t.id), ("regimeId", Json.uuid t.regimeId), ("billRunId", Json.uuid t.billRunId),
      ("invoiceId", Json.uuid t.invoiceId), ("licenceId", Json.uuid t.licenceId),
      ("clientId", Json.optStr t.clientId), ("customerReference", .str t.customerReference),
      ("region", .str t.region.name), ("ruleset", .str t.ruleset.name),
      ("chargeValue", Tally.wordJson t.chargeValue), ("chargeCredit", .bool t.chargeCredit),
      ("subjectToMinimumCharge", .bool t.subjectToMinimumCharge),
      ("minimumChargeAdjustment", .bool t.minimumChargeAdjustment),
      ("rebilledTransactionId", Json.optUuid t.rebilledTransactionId),
      ("chargeFinancialYear", Json.int t.chargeFinancialYear),
      ("chargePeriodStart", Json.instant (Instant.ofDate t.chargePeriodStart)),
      ("chargePeriodEnd", Json.instant (Instant.ofDate t.chargePeriodEnd)),
      ("areaCode", .str t.areaCode), ("lineDescription", .str t.lineDescription)] ++
    (List.range 15).map (fun k => ("lineAttr" ++ toString (k + 1), Json.str (t.lineAttr (k + 1)))) ++
    (List.range 20).map (fun k =>
      if k + 1 == 17 then ("regimeValue17", Json.bool t.compensation)
      else ("regimeValue" ++ toString (k + 1), Json.str (t.regimeText (k + 1)))) ++
    [("chargeCalculation", t.chargeCalculation.getD .null), ("createdBy", .str t.createdBy),
      ("createdAt", Json.instant t.createdAt), ("updatedAt", Json.instant t.updatedAt)]

end Transaction

namespace Store

def billRunView (s : Store) (b : BillRun) : Json :=
  .obj <| b.fields ++ [("netTotal", Tally.wordJson b.tally.net), ("invoices", .arr <|
    (s.invoicesOf b.id).map fun i =>
      .obj [("id", Json.uuid i.id), ("customerReference", .str i.customerReference),
        ("financialYear", Json.int i.financialYear), ("rebilledType", .str i.kind.letter),
        ("rebilledInvoiceId", Json.optUuid i.rebilledInvoiceId),
        ("transactionReference", Json.optStr i.transactionReference),
        ("deminimisInvoice", .bool i.flags.deminimis), ("zeroValueInvoice", .bool i.flags.zeroValue),
        ("minimumChargeInvoice", .bool i.flags.minimumCharge),
        ("netTotal", Tally.wordJson i.tally.net),
        ("licences", .arr <| (s.licencesOf i.id).map fun l =>
          .obj [("id", Json.uuid l.id), ("licenceNumber", .str l.licenceNumber),
            ("netTotal", Tally.wordJson l.tally.net)])])]

def invoiceView (s : Store) (i : Invoice) : Json :=
  .obj <| i.fields ++ [("netTotal", Tally.wordJson i.tally.net), ("licences", .arr <|
    (s.licencesOf i.id).map fun l =>
      .obj <| l.fields ++ [("netTotal", Tally.wordJson l.tally.net),
        ("transactions", .arr ((s.transactionsOfLicence l.id).map Transaction.toJson))])]

end Store

end ChargeLedger
