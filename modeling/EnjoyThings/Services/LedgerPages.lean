import EnjoyThings.ForStd.Paging
import EnjoyThings.Services.Gateway
import EnjoyThings.Services.PyStd

/-!
# The pages of a wallet's ledger

GET /v1/ledger/{wallet} from the gateway to the query: `NewLedger` of
`internal/gateway/handler`, the gateway's ledger client, `Server.GetEntries` of
`internal/ledgergrpc`, `Service.ListLedger` and `Database.ListLedgerEntries`. A cursor is
encoded and decoded anew at each of the three boundaries.

`encoding/json` and `encoding/base64` are library code and a parameter (`CursorLib`). The
services run in UTC, and a time is read as `time.Time.UnmarshalJSON` reads it: what
`time.Parse` accepts beyond that is left out. UUIDs are ordered as their canonical texts,
which is how Postgres orders their bytes.
-/

namespace EnjoyThings

open Except (refuseIf ofOption)

namespace Go

/-- `strings.CutPrefix`. -/
def cutPrefix (s start : String) : Option String :=
  if hasPrefix s start then some (String.ofList (s.toList.drop start.toList.length)) else none

/-- `strconv.Atoi`. -/
def atoi (s : String) : Option Int :=
  match s.toList with
  | '-' :: digits =>
    (readInt digits).bind fun n => if n ≤ 9223372036854775808 then some (-n) else none
  | '+' :: digits => (readInt digits).bind fun n => if n < 9223372036854775808 then some n else none
  | digits => (readInt digits).bind fun n => if n < 9223372036854775808 then some n else none
where
  readInt (digits : List Char) : Option Nat :=
    if digits ≠ [] ∧ digits.all Char.isDigit then
      some (digits.foldl (fun n c => 10 * n + (c.toNat - '0'.toNat)) 0)
    else none

example : atoi "50" = some 50 ∧ atoi "-1" = some (-1) ∧ atoi "5x" = none := by decide +kernel

end Go

/-! ## Cursors -/

/-- `repo.LedgerCursor` with `Valid`. The other ones are `none`. -/
structure LedgerCursor (U : Type) where
  createdAt : Time
  id : U

/-- The text of a JSON document with the fields `created_at` and `id`, in unpadded base64. -/
class CursorLib where
  encode : String → String → String
  decode : String → Option (String × String)
  decode_encode : ∀ createdAt id, decode (encode createdAt id) = some (createdAt, id)
  encode_ne : ∀ createdAt id, encode createdAt id ≠ ""

section

variable {U : Type} [UuidLib U] [CursorLib]

/-- `EncodeCursor` of the ledger server and `EncodeLedgerCursor` of the gateway's client.
    `encodeLedgerCursor` of the gateway's handler is only called with a valid cursor. -/
def encodeCursor : Option (LedgerCursor U) → String
  | none => ""
  | some cursor => CursorLib.encode (Go.formatRFC3339Nano cursor.createdAt) (text cursor.id)

/-- `DecodeCursor` and its two copies in the gateway. -/
def decodeCursor (U : Type) [UuidLib U] (raw : String) : Option (Option (LedgerCursor U)) :=
  if raw = "" then some none
  else do
    let (createdAt, id) ← CursorLib.decode raw
    let (createdAt, _) ← Go.parseRFC3339 createdAt
    let id ← parse id
    some (some { createdAt := createdAt, id := id })

end

/-! ## The query -/

/-- The columns an entry is ordered by. -/
def LedgerEntry.position {U : Type} (e : LedgerEntry U) : Time × U := (e.createdAt, e.id)

/-- The comparison of rows `(created_at, id) < (cursor_created_at, cursor_id)`. -/
def RowBefore {U : Type} [UuidLib U] (p q : Time × U) : Prop :=
  p.1 < q.1 ∨ p.1 = q.1 ∧ text p.2 < text q.2

instance {U : Type} [UuidLib U] : DecidableRel (RowBefore (U := U)) :=
  fun p q => inferInstanceAs (Decidable (p.1 < q.1 ∨ p.1 = q.1 ∧ text p.2 < text q.2))

namespace Database

variable {U : Type} [UuidLib U]

/-- `ListLedgerEntries` of `ledger.sql`. A timestamp is sent in microseconds. -/
def listLedgerEntriesQuery (db : Database U) (walletID : U) (cursor : Option (LedgerCursor U))
    (limit : Nat) : List (LedgerEntry U) :=
  (Paging.listing RowBefore LedgerEntry.position
    (db.ledgerEntries.filter fun e => e.walletID = walletID)
    (cursor.map fun cursor => (cursor.createdAt / 1000 * 1000, cursor.id))).take limit

/-- `Database.ListLedgerEntries`. -/
def listLedgerEntries (db : Database U) (walletID : U) (cursor : Option (LedgerCursor U))
    (limit : Int) : Except RepoErr (List (LedgerEntry U) × Option (LedgerCursor U)) := do
  refuseIf (limit < 1) (.domain .invalidAmount)
  let entries := db.listLedgerEntriesQuery walletID cursor (limit + 1).toNat
  if limit < entries.length then
    let entries := entries.take limit.toNat
    .ok (entries, entries.getLast?.map fun last => { createdAt := last.createdAt, id := last.id })
  else .ok (entries, none)

end Database

/-! ## The ledger service -/

section Service

variable {U : Type} [UuidLib U]

def defaultLedgerLimit : Int := 50

def maxLedgerLimit : Int := 100

/-- `Service.ListLedger`. -/
def WalletService.listLedger (db : Database U) (userID walletID : U)
    (cursor : Option (LedgerCursor U)) (limit : Int) :
    Except RepoErr (List (LedgerEntry U) × Option (LedgerCursor U)) := do
  let limit := if limit = 0 then defaultLedgerLimit else limit
  refuseIf (limit < 1 ∨ maxLedgerLimit < limit) (.domain .invalidAmount)
  let wallet ← WalletService.getWallet db userID walletID
  db.listLedgerEntries wallet.id cursor limit

/-- The message of an entry. -/
structure EntryMessage where
  id : String
  transferID : String
  direction : Direction
  amountCents : Int64
  balanceAfterCents : Int64
  createdAt : Time

structure GetEntriesResponse where
  walletID : String
  entries : List EntryMessage
  nextCursor : String

/-- `entryMessages`, for one entry. -/
def entryMessage (entry : LedgerEntry U) : EntryMessage :=
  { id := text entry.id, transferID := text entry.transferID, direction := entry.direction,
    amountCents := entry.amount, balanceAfterCents := entry.balanceAfter,
    createdAt := entry.createdAt }

/-- `userIDFromMetadata` of the ledger server. -/
def LedgerGrpc.userIDFromMetadata (U : Type) [UuidLib U] (md : Metadata) : Except Status U :=
  match md.get userIDMetadataKey with
  | [] => .error ⟨.invalidArgument, "x-user-id metadata is required"⟩
  | value :: _ =>
    if value = "" then .error ⟨.invalidArgument, "x-user-id metadata is required"⟩
    else parseUUID U value userIDMetadataKey

variable [CursorLib]

/-- `Server.GetEntries`. -/
def LedgerGrpc.getEntries (db : Database U) (md : Metadata) (walletID : String) (limit : Int)
    (cursor : String) : Except Status GetEntriesResponse := do
  let userID ← LedgerGrpc.userIDFromMetadata U md
  let walletID ← parseUUID U walletID "wallet_id"
  refuseIf (limit < 0 ∨ 100 < limit) ⟨.invalidArgument, "limit is invalid"⟩
  let cursor ← ofOption ⟨.invalidArgument, "cursor is invalid"⟩ (decodeCursor U cursor)
  let (entries, next) ← (WalletService.listLedger db userID walletID cursor limit).mapError
    LedgerGrpc.statusFromDomain
  .ok { walletID := text walletID, entries := entries.map entryMessage
        nextCursor := encodeCursor next }

end Service

/-! ## The gateway -/

/-- The caller an access token stands for; the role is not looked at here. -/
structure Principal (U : Type) where
  userID : U

namespace Gateway

variable {U : Type} [UuidLib U]

/-- `writeNotFound`. -/
def writeNotFound : HttpError := ⟨404, "not_found", "resource not found"⟩

/-- `writeGRPCError`. It names wallets, whatever was not found. -/
def writeGRPCError (status : Status) : HttpError :=
  match status.code with
  | .invalidArgument => invalidRequest status.message
  | .notFound => ⟨404, "wallet_not_found", "wallet not found"⟩
  | .failedPrecondition =>
    if status.message = "insufficient funds" then
      ⟨422, "insufficient_funds", "insufficient funds"⟩
    else ⟨422, "failed_precondition", status.message⟩
  | .alreadyExists | .internal | .unavailable =>
    ⟨500, "internal_error", "internal server error"⟩

/-- `ledgerEntryFromMessage`. An error of the client is no status, which `writeGRPCError` treats
    like an internal one. -/
def ledgerEntryFromMessage (walletID : String) (message : EntryMessage) :
    Except Status (LedgerEntry U) := do
  let walletID ← ofOption ⟨.internal, "ledger grpc wallet_id is invalid"⟩ (parse walletID)
  let id ← ofOption ⟨.internal, "ledger grpc id is invalid"⟩ (parse message.id)
  let transferID ← ofOption ⟨.internal, "ledger grpc transfer_id is invalid"⟩
    (parse message.transferID)
  .ok { id := id, walletID := walletID, transferID := transferID, direction := message.direction
        amount := message.amountCents, balanceAfter := message.balanceAfterCents
        createdAt := message.createdAt }

variable [CursorLib]

/-- `LedgerClient.ListLedger`, with the ledger service it calls. -/
def listLedger (db : Database U) (userID walletID : U) (cursor : Option (LedgerCursor U))
    (limit : Int) : Except Status (List (LedgerEntry U) × Option (LedgerCursor U)) := do
  let resp ← LedgerGrpc.getEntries db [(userIDMetadataKey, text userID)] (text walletID) limit
    (encodeCursor cursor)
  let next ← ofOption ⟨.internal, "cursor is invalid"⟩ (decodeCursor U resp.nextCursor)
  let entries ← resp.entries.mapM (ledgerEntryFromMessage resp.walletID)
  .ok (entries, next)

/-- The query of a request; a parameter that is missing is empty. -/
structure LedgerRequest where
  method : String
  path : String
  limit : String
  cursor : String

/-- `ledgerResponse`. -/
structure LedgerResponse (U : Type) where
  walletID : U
  entries : List (LedgerEntry U)
  nextCursor : Option String

def ledgerPath : String := "/v1/ledger/"

/-- The limit of a request, and 0 if it has none. -/
def ledgerLimit (raw : String) : Except HttpError Int :=
  if raw = "" then .ok 0
  else do
    let limit ← ofOption (invalidRequest "limit is invalid") (Go.atoi raw)
    refuseIf (limit < 1 ∨ 100 < limit) (invalidRequest "limit is invalid")
    .ok limit

/-- `NewLedger`: the page, or the error response. -/
def newLedger (db : Database U) (principal : Option (Principal U)) (r : LedgerRequest) :
    Except HttpError (LedgerResponse U) := do
  let principal ← ofOption ⟨401, "unauthorized", "authentication required"⟩ principal
  refuseIf (r.method ≠ "GET" ∨ ¬ Go.hasPrefix r.path ledgerPath) writeNotFound
  let walletID ← ofOption (invalidRequest "wallet id is invalid")
    (parse ((Go.cutPrefix r.path ledgerPath).getD r.path))
  let limit ← ledgerLimit r.limit
  let cursor ← ofOption ⟨400, "invalid_cursor", "cursor is invalid"⟩ (decodeCursor U r.cursor)
  let (entries, next) ← (listLedger db principal.userID walletID cursor limit).mapError
    writeGRPCError
  .ok { walletID := walletID, entries := entries
        nextCursor := next.map fun next => encodeCursor (some next) }

/-- A reader who follows the cursors: the entries of all pages, and whether the last one was
    reached. Each request finds the tables as they are then. -/
def readLedger (principal : Option (Principal U)) (r : LedgerRequest) :
    List (Database U) → Except HttpError (List (LedgerEntry U) × Bool)
  | [] => .ok ([], false)
  | db :: later => do
    let response ← newLedger db principal r
    match response.nextCursor with
    | none => .ok (response.entries, true)
    | some next =>
      let (rest, done) ← readLedger principal { r with cursor := next } later
      .ok (response.entries ++ rest, done)

end Gateway

end EnjoyThings
