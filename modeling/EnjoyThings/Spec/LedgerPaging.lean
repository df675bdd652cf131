import EnjoyThings.Services.LedgerPages
import EnjoyThings.Spec.SagaSystem
import EnjoyThings.Spec.Timestamps

/-!
# Reading a ledger to the end

Following `next_cursor` shows every entry that was there at the start exactly once and in
descending order, whatever is added in the meantime, and comes to an end once nothing is added
any more. The cursors survive the three encodings because a time of the years up to 9999 is
read back from its text, and a time in microseconds is sent to the database as it is.

## Key results

- `decodeCursor_encodeCursor`: a cursor is read back
- `Gateway.readLedger_eq`: a reader gets the pages of `Paging`
- `ledger_paging_complete`: what a reader sees
-/

namespace EnjoyThings

open Except (refuseIf ofOption bind_eq_ok refuseIf_eq_ok ofOption_eq_ok mapError_eq_ok)

/-! ## Cursors -/

section

variable {U : Type} [UuidLib U] [CursorLib] {cursor : Option (LedgerCursor U)}

/-- The years for which RFC 3339 has a text. -/
def LedgerCursor.Dated (cursor : LedgerCursor U) : Prop :=
  cursor.createdAt / 1000000000 < Stamp.lastSecond

theorem decodeCursor_encodeCursor (h : ∀ c ∈ cursor, c.Dated) :
    decodeCursor U (encodeCursor cursor) = some cursor := by
  cases cursor with
  | none => rfl
  | some c =>
    rw [decodeCursor, encodeCursor, if_neg (CursorLib.encode_ne _ _)]
    simp [CursorLib.decode_encode, Go.parseRFC3339_formatRFC3339Nano (h c rfl),
      UuidLib.parse_text]

end

/-! ## The order of the entries -/

instance {U : Type} [UuidLib U] : IsStrictTotalOrder (Time × U) RowBefore where
  trichotomous p q hpq hqp := by
    simp only [RowBefore, not_or, not_and] at hpq hqp
    have htime : p.1 = q.1 := Nat.le_antisymm (Nat.not_lt.mp hqp.1) (Nat.not_lt.mp hpq.1)
    refine Prod.ext htime (text_injective ?_)
    exact String.le_antisymm (String.not_lt.mp (hqp.2 htime.symm)) (String.not_lt.mp (hpq.2 htime))
  irrefl p h := by
    rcases h with h | ⟨-, h⟩
    · exact Nat.lt_irrefl _ h
    · exact String.lt_irrefl _ h
  trans p q r hpq hqr := by
    rcases hpq with hpq | ⟨hpq, htext⟩
    · rcases hqr with hqr | ⟨hqr, -⟩
      · exact .inl (Nat.lt_trans hpq hqr)
      · exact .inl (hqr ▸ hpq)
    · rcases hqr with hqr | ⟨hqr, htext'⟩
      · exact .inl (hpq ▸ hqr)
      · exact .inr ⟨hpq.trans hqr, String.lt_trans htext htext'⟩

/-! ## One page -/

section

variable {U : Type} [UuidLib U] {db : Database U} {userID walletID : U}
  {cursor : Option (LedgerCursor U)} {limit : Nat}

/-- The entries of a wallet. -/
def Database.entriesOn (db : Database U) (walletID : U) : List (LedgerEntry U) :=
  db.ledgerEntries.filter fun e => e.walletID = walletID

/-- Times in microseconds, up to the year 9999. -/
structure LedgerEntry.Timed (e : LedgerEntry U) : Prop where
  micros : e.createdAt / 1000 * 1000 = e.createdAt
  dated : e.createdAt / 1000000000 < Stamp.lastSecond

/-- The wallet is the user's, and the entries have times and IDs of their own. -/
structure Database.Readable (db : Database U) (userID walletID : U) : Prop where
  owned : ∃ wallet, db.wallet? walletID = some wallet ∧ wallet.userID = userID
  ids : (db.ledgerEntries.map (·.id)).Nodup
  timed : ∀ e ∈ db.ledgerEntries, e.Timed

/-- The position of a cursor, as the database gets it. -/
def LedgerCursor.position (cursor : LedgerCursor U) : Time × U :=
  (cursor.createdAt / 1000 * 1000, cursor.id)

/-- The cursor for the entries below a position. -/
def LedgerCursor.at (position : Time × U) : LedgerCursor U :=
  { createdAt := position.1, id := position.2 }

abbrev ledgerPage (limit : Nat) (db : Database U) (walletID : U)
    (cursor : Option (Time × U)) : List (LedgerEntry U) × Option (Time × U) :=
  Paging.page RowBefore LedgerEntry.position limit (db.entriesOn walletID) cursor

theorem Database.listLedgerEntries_eq (hlimit : 1 ≤ limit) :
    db.listLedgerEntries walletID cursor limit =
      .ok ((ledgerPage limit db walletID (cursor.map LedgerCursor.position)).1,
        (ledgerPage limit db walletID (cursor.map LedgerCursor.position)).2.map
          LedgerCursor.at) := by
  have hquery : db.listLedgerEntriesQuery walletID cursor (limit + 1 : Int).toNat =
      (Paging.listing RowBefore LedgerEntry.position (db.entriesOn walletID)
        (cursor.map LedgerCursor.position)).take (limit + 1) := rfl
  have hpos : ¬ ((limit : Int) < 1) := by omega
  simp only [Database.listLedgerEntries, refuseIf, if_neg hpos, hquery, ledgerPage, Paging.page,
    Int.toNat_natCast, Int.ofNat_lt]
  show (if _ then _ else _) = _
  split
  · simp [Option.map_map, LedgerEntry.position, LedgerCursor.at, Function.comp_def]
  · rfl

theorem mem_ledgerPage {position : Option (Time × U)} {e : LedgerEntry U}
    (h : e ∈ (ledgerPage limit db walletID position).1) :
    e ∈ db.ledgerEntries ∧ e.walletID = walletID := by
  have hmem := (Paging.mem_page (Prod.mk.eta (p := ledgerPage limit db walletID position)).symm e
    h).1
  simpa [Database.entriesOn] using hmem

/-- The next cursor is the position of an entry. -/
theorem ledgerPage_next {position : Option (Time × U)} {next : Time × U}
    (h : (ledgerPage limit db walletID position).2 = some next) :
    ∃ e ∈ db.ledgerEntries, e.position = next := by
  rw [ledgerPage, Paging.page_eq] at h
  split at h
  · obtain ⟨last, hlast, rfl⟩ := Option.map_eq_some_iff.mp h
    have hmem := List.mem_of_mem_take (List.mem_of_getLast? hlast)
    have hrow := (Paging.mem_listing.mp hmem).1
    exact ⟨last, List.mem_of_mem_filter hrow, rfl⟩
  · cases h

theorem Gateway.ledgerEntryFromMessage_eq {e : LedgerEntry U} (h : e.walletID = walletID) :
    Gateway.ledgerEntryFromMessage (text walletID) (entryMessage e) = .ok e := by
  subst h
  simp [Gateway.ledgerEntryFromMessage, entryMessage, ofOption, UuidLib.parse_text]

theorem Gateway.mapM_ledgerEntryFromMessage {entries : List (LedgerEntry U)}
    (h : ∀ e ∈ entries, e.walletID = walletID) :
    (entries.map entryMessage).mapM (Gateway.ledgerEntryFromMessage (text walletID)) =
      .ok entries := by
  induction entries with
  | nil => rfl
  | cons e entries ih =>
    rw [List.map_cons, List.mapM_cons,
      Gateway.ledgerEntryFromMessage_eq (h e List.mem_cons_self),
      ih fun e he => h e (List.mem_cons_of_mem _ he)]
    rfl

variable [CursorLib]

/-- The client of the gateway gets the page of the query. -/
theorem Gateway.listLedger_eq (hdb : db.Readable userID walletID) (hlimit : 1 ≤ limit)
    (hmax : limit ≤ 100) (hcursor : ∀ c ∈ cursor, c.Dated) (huser : text userID ≠ "") :
    Gateway.listLedger db userID walletID cursor limit =
      .ok ((ledgerPage limit db walletID (cursor.map LedgerCursor.position)).1,
        (ledgerPage limit db walletID (cursor.map LedgerCursor.position)).2.map
          LedgerCursor.at) := by
  obtain ⟨wallet, hwallet, howner⟩ := hdb.owned
  have hwalletID := (Database.wallet?_some hwallet).2
  have hget : WalletService.getWallet db userID walletID = .ok wallet := by
    simp [WalletService.getWallet, hwallet, howner, ofOption, refuseIf]
  have hmetadata : LedgerGrpc.userIDFromMetadata U [(userIDMetadataKey, text userID)] =
      .ok userID := by
    simp [LedgerGrpc.userIDFromMetadata, Metadata.get, huser, parseUUID, UuidLib.parse_text,
      ofOption]
  have hservice : WalletService.listLedger db userID walletID cursor limit =
      .ok ((ledgerPage limit db walletID (cursor.map LedgerCursor.position)).1,
        (ledgerPage limit db walletID (cursor.map LedgerCursor.position)).2.map
          LedgerCursor.at) := by
    have hzero : ¬ ((limit : Int) = 0) := by omega
    have hbounds : ¬ ((limit : Int) < 1 ∨ maxLedgerLimit < limit) := by
      simp only [maxLedgerLimit]
      omega
    simp only [WalletService.listLedger, if_neg hzero, refuseIf, if_neg hbounds, hget]
    rw [← Database.listLedgerEntries_eq hlimit, ← hwalletID]
    rfl
  have hserver : LedgerGrpc.getEntries db [(userIDMetadataKey, text userID)] (text walletID) limit
      (encodeCursor cursor) = .ok
        { walletID := text walletID
          entries := (ledgerPage limit db walletID
            (cursor.map LedgerCursor.position)).1.map entryMessage
          nextCursor := encodeCursor ((ledgerPage limit db walletID
            (cursor.map LedgerCursor.position)).2.map LedgerCursor.at) } := by
    have hbounds : ¬ ((limit : Int) < 0 ∨ 100 < (limit : Int)) := by omega
    simp only [LedgerGrpc.getEntries, bind_eq_ok, refuseIf_eq_ok, ofOption_eq_ok, mapError_eq_ok,
      parseUUID_eq_ok]
    exact ⟨userID, hmetadata, walletID, UuidLib.parse_text walletID, (), hbounds, cursor,
      decodeCursor_encodeCursor hcursor, _, hservice, rfl⟩
  -- the next cursor is the position of an entry, so it is read back
  have hnext : ∀ c ∈ (ledgerPage limit db walletID (cursor.map LedgerCursor.position)).2.map
      LedgerCursor.at, c.Dated := by
    intro c hc
    obtain ⟨next, hnext, rfl⟩ := Option.map_eq_some_iff.mp hc
    obtain ⟨e, he, rfl⟩ := ledgerPage_next hnext
    exact (hdb.timed e he).dated
  simp only [Gateway.listLedger, bind_eq_ok, ofOption_eq_ok]
  exact ⟨_, hserver, _, decodeCursor_encodeCursor hnext, _,
    Gateway.mapM_ledgerEntryFromMessage fun e he => (mem_ledgerPage he).2, rfl⟩

/-- The request for the entries of a wallet below a cursor. -/
def ledgerRequest (walletID : U) (limit : String) (cursor : Option (LedgerCursor U)) :
    Gateway.LedgerRequest :=
  { method := "GET", path := Gateway.ledgerPath ++ text walletID, limit := limit
    cursor := encodeCursor cursor }

omit [CursorLib] in
theorem Go.cutPrefix_append (start rest : String) :
    Go.cutPrefix (start ++ rest) start = some rest := by
  simp [Go.cutPrefix, Go.hasPrefix]

/-- The response to a request has the page of the query, and its next cursor. -/
theorem Gateway.newLedger_eq {principal : Principal U} {rawLimit : String}
    (hdb : db.Readable principal.userID walletID) (hraw : Go.atoi rawLimit = some (limit : Int))
    (hlimit : 1 ≤ limit) (hmax : limit ≤ 100) (hcursor : ∀ c ∈ cursor, c.Dated)
    (huser : text principal.userID ≠ "") :
    Gateway.newLedger db (some principal) (ledgerRequest walletID rawLimit cursor) =
      .ok { walletID := walletID
            entries := (ledgerPage limit db walletID (cursor.map LedgerCursor.position)).1
            nextCursor := (ledgerPage limit db walletID
              (cursor.map LedgerCursor.position)).2.map fun next =>
                encodeCursor (some (LedgerCursor.at next)) } := by
  have hempty : rawLimit ≠ "" := by
    rintro rfl
    cases hraw
  have hlimit' : Gateway.ledgerLimit rawLimit = .ok (limit : Int) := by
    simp only [Gateway.ledgerLimit, if_neg hempty, bind_eq_ok, ofOption_eq_ok, refuseIf_eq_ok]
    exact ⟨_, hraw, (), by omega, rfl⟩
  have hpath : parse (U := U) ((Go.cutPrefix (Gateway.ledgerPath ++ text walletID)
      Gateway.ledgerPath).getD (Gateway.ledgerPath ++ text walletID)) = some walletID := by
    rw [Go.cutPrefix_append]
    exact UuidLib.parse_text walletID
  simp only [Gateway.newLedger, ledgerRequest, bind_eq_ok, ofOption_eq_ok, mapError_eq_ok]
  refine ⟨principal, rfl, (), ?_, walletID, hpath, _, hlimit', cursor,
    decodeCursor_encodeCursor hcursor, _, Gateway.listLedger_eq hdb hlimit hmax hcursor huser, ?_⟩
  · simp [Go.hasPrefix]
  · simp [Option.map_map, Function.comp_def]

/-! ## All pages -/

/-- A reader gets the pages of the tables as they are at each request. -/
theorem Gateway.readLedger_eq {principal : Principal U} {rawLimit : String}
    {tables : List (Database U)} (hdb : ∀ db ∈ tables, db.Readable principal.userID walletID)
    (hraw : Go.atoi rawLimit = some (limit : Int)) (hlimit : 1 ≤ limit) (hmax : limit ≤ 100)
    (hcursor : ∀ c ∈ cursor, c.Dated) (huser : text principal.userID ≠ "") :
    Gateway.readLedger (some principal) (ledgerRequest walletID rawLimit cursor) tables =
      .ok (Paging.walk RowBefore LedgerEntry.position limit (cursor.map LedgerCursor.position)
        (tables.map fun db => db.entriesOn walletID)) := by
  induction tables generalizing cursor with
  | nil => rfl
  | cons db later ih =>
    have hreadable := hdb db List.mem_cons_self
    rw [Gateway.readLedger, Gateway.newLedger_eq hreadable hraw hlimit hmax hcursor huser,
      List.map_cons, Paging.walk]
    cases hpage : ledgerPage limit db walletID (cursor.map LedgerCursor.position) with
    | mk found next =>
      rw [show Paging.page RowBefore LedgerEntry.position limit (db.entriesOn walletID)
        (cursor.map LedgerCursor.position) = (found, next) from hpage]
      cases next with
      | none => rfl
      | some next =>
        -- the cursor of the next request is the position of an entry
        obtain ⟨e, he, rfl⟩ := ledgerPage_next (congrArg Prod.snd hpage)
        have htimed := hreadable.timed e he
        have hposition : LedgerCursor.position (LedgerCursor.at e.position) = e.position :=
          Prod.ext htimed.micros rfl
        have hdated : ∀ c ∈ some (LedgerCursor.at e.position), c.Dated := by
          intro c hc
          cases hc
          exact htimed.dated
        have hrest := ih (fun db hmem => hdb db (List.mem_cons_of_mem _ hmem)) hdated
        rw [Option.map_some, hposition] at hrest
        simp only [Except.ok_bind, Option.map_some]
        show (Gateway.readLedger (some principal)
          (ledgerRequest walletID rawLimit (some (LedgerCursor.at e.position))) later >>= _) = _
        rw [hrest]
        rfl

/-- Positions of entries that are in strictly descending order. -/
def Descending (entries : List (LedgerEntry U)) : Prop :=
  entries.Pairwise fun a b => RowBefore b.position a.position

omit [CursorLib] in
theorem Database.Readable.positions (h : db.Readable userID walletID) :
    ((db.entriesOn walletID).map LedgerEntry.position).Nodup := by
  have hids := h.ids.sublist (List.filter_sublist.map _ :
    ((db.entriesOn walletID).map (·.id)).Sublist _)
  refine List.Nodup.of_map Prod.snd ?_
  rw [List.map_map]
  exact hids

omit [CursorLib] in
theorem Descending.nodup {entries : List (LedgerEntry U)} (h : Descending entries) :
    entries.Nodup := by
  refine h.imp fun hbefore heq => ?_
  rw [heq] at hbefore
  exact irrefl_of RowBefore _ hbefore

end

/-- A user reads the ledger of a wallet with a limit from 1 to 100, following the cursors from
    the first page on. The first request finds `db₀`; entries are added in between. -/
theorem ledger_paging_complete {U : Type} [UuidLib U] [CursorLib] (principal : Principal U)
    (huser : text principal.userID ≠ "") (walletID : U) (rawLimit : String) (limit : Nat)
    (hraw : Go.atoi rawLimit = some (limit : Int)) (hlimit : 1 ≤ limit) (hmax : limit ≤ 100)
    (db₀ : Database U) (later : List (Database U))
    (hdb : ∀ db ∈ db₀ :: later, db.Readable principal.userID walletID)
    (hadded : ∀ db ∈ later, db₀.ledgerEntries ⊆ db.ledgerEntries) :
    (∃ entries done,
      Gateway.readLedger (some principal) (ledgerRequest walletID rawLimit none) (db₀ :: later) =
        .ok (entries, done) ∧
      Descending entries ∧
      (∀ e ∈ entries, e.walletID = walletID ∧ ∃ db ∈ db₀ :: later, e ∈ db.ledgerEntries) ∧
      (done = true → ∀ e ∈ db₀.ledgerEntries, e.walletID = walletID → entries.count e = 1)) ∧
    ∀ db : Database U, db.Readable principal.userID walletID → ∃ n entries,
      Gateway.readLedger (some principal) (ledgerRequest walletID rawLimit none)
        (db₀ :: later ++ List.replicate n db) = .ok (entries, true) := by
  have hnone : ∀ c ∈ (none : Option (LedgerCursor U)), c.Dated := fun c hc => by cases hc
  have hread := fun (tables : List (Database U))
      (h : ∀ db ∈ tables, db.Readable principal.userID walletID) =>
    Gateway.readLedger_eq h hraw hlimit hmax hnone huser
  have hkeys : ∀ rows ∈ (db₀ :: later).map fun db => db.entriesOn walletID,
      (rows.map LedgerEntry.position).Nodup := by
    intro rows hrows
    obtain ⟨db, hmem, rfl⟩ := List.mem_map.mp hrows
    exact (hdb db hmem).positions
  constructor
  · refine ⟨_, _, hread (db₀ :: later) hdb, Paging.walk_descending hkeys, ?_, ?_⟩
    · intro e he
      obtain ⟨⟨rows, hrows, hmem⟩, -⟩ := Paging.walk_below hkeys e he
      obtain ⟨db, hdbmem, rfl⟩ := List.mem_map.mp hrows
      obtain ⟨hentry, hwallet⟩ := List.mem_filter.mp hmem
      exact ⟨of_decide_eq_true hwallet, db, hdbmem, hentry⟩
    · intro hdone e he hwallet
      have hseen := Paging.walk_complete hlimit hkeys hdone (a := e) ?_ (fun k hk => by cases hk)
      · exact List.count_eq_one_of_mem (Descending.nodup (Paging.walk_descending hkeys)) hseen
      · -- the entry stays in the tables
        intro rows hrows
        obtain ⟨db, hmem, rfl⟩ := List.mem_map.mp hrows
        refine List.mem_filter.mpr ⟨?_, decide_eq_true hwallet⟩
        rcases List.mem_cons.mp hmem with rfl | hmem
        · exact he
        · exact hadded db hmem he
  · intro db hreadable
    obtain ⟨n, hn⟩ : ∃ n, (Paging.walk RowBefore LedgerEntry.position limit none
        (((db₀ :: later).map fun db => db.entriesOn walletID) ++
          List.replicate n (db.entriesOn walletID))).2 = true :=
      Paging.walk_ends hreadable.positions none _
    have hall : ∀ db' ∈ db₀ :: later ++ List.replicate n db,
        db'.Readable principal.userID walletID := by
      intro db' hmem
      rcases List.mem_append.mp hmem with hmem | hmem
      · exact hdb db' hmem
      · rw [List.eq_of_mem_replicate hmem]
        exact hreadable
    -- the pages are those of the walk over the tables' entries
    have hpages := hread _ hall
    rw [List.map_append, List.map_replicate] at hpages
    exact ⟨n, _, hpages.trans (congrArg Except.ok (Prod.ext rfl hn))⟩

namespace Sample

/-- Two texts as one, with a mark before each letter of the first. -/
def joinTexts (first second : List Char) : List Char :=
  first.flatMap (fun c => ['c', c]) ++ '.' :: second

def splitTexts : List Char → Option (List Char × List Char)
  | 'c' :: c :: rest => (splitTexts rest).map (Prod.map (c :: ·) (·))
  | '.' :: rest => some ([], rest)
  | _ => none

theorem splitTexts_joinTexts (first second : List Char) :
    splitTexts (joinTexts first second) = some (first, second) := by
  induction first with
  | nil => rfl
  | cons c first ih =>
    rw [joinTexts] at ih
    simp [joinTexts, splitTexts, ih]

/-- The cursor after the first page of `ledgerBefore`. -/
def ledgerCursor : String × String :=
  ("0001-01-01T00:00:00.000003Z", "00000000-0000-4000-8000-000000000011")

def ledgerCursorText : String :=
  "eyJjcmVhdGVkX2F0IjoiMDAwMS0wMS0wMVQwMDowMDowMC4wMDAwMDNaIiwiaWQiOiIwMDAwMDAwMC0wMDAwLTQwMDA" ++
    "tODAwMC0wMDAwMDAwMDAwMTEifQ"

/-- The cursor after the first page of `lateLedger`. -/
def lateCursor : String × String :=
  ("10000-01-01T00:00:00Z", "00000000-0000-4000-8000-000000000012")

def lateCursorText : String :=
  "eyJjcmVhdGVkX2F0IjoiMTAwMDAtMDEtMDFUMDA6MDA6MDBaIiwiaWQiOiIwMDAwMDAwMC0wMDAwLTQwMDAtODAwMC0" ++
    "wMDAwMDAwMDAwMTIifQ"

/-- These cursors in base64, and any others as their two texts. -/
instance cursorLib : CursorLib where
  encode createdAt id :=
    if (createdAt, id) = ledgerCursor then ledgerCursorText
    else if (createdAt, id) = lateCursor then lateCursorText
    else String.ofList (joinTexts createdAt.toList id.toList)
  decode raw :=
    if raw = ledgerCursorText then some ledgerCursor
    else if raw = lateCursorText then some lateCursor
    else (splitTexts raw.toList).map (Prod.map String.ofList String.ofList)
  decode_encode createdAt id := by
    have hlate : lateCursorText ≠ ledgerCursorText := by decide +kernel
    have hother : ∀ s : String, s.toList.head? = some 'e' →
        String.ofList (joinTexts createdAt.toList id.toList) ≠ s := by
      rintro _ hs rfl
      cases hlist : createdAt.toList <;> simp [joinTexts, hlist] at hs
    by_cases hfirst : (createdAt, id) = ledgerCursor
    · rw [if_pos hfirst, if_pos rfl, hfirst]
    · by_cases hsecond : (createdAt, id) = lateCursor
      · rw [if_neg hfirst, if_pos hsecond, if_neg hlate, if_pos rfl, hsecond]
      · rw [if_neg hfirst, if_neg hsecond, if_neg (hother ledgerCursorText (by decide +kernel)),
          if_neg (hother lateCursorText (by decide +kernel))]
        simp [splitTexts_joinTexts]
  encode_ne createdAt id h := by
    split_ifs at h
    · exact absurd h (by decide +kernel)
    · exact absurd h (by decide +kernel)
    · have hlist := congrArg String.toList h
      simp [joinTexts] at hlist

def ledgerEntry (n : Nat) (createdAt : Time) : LedgerEntry CanonicalUuid :=
  { id := id n, walletID := payerWallet, transferID := id (n + 100), direction := .debit
    amount := 1, balanceAfter := 0, createdAt := createdAt }

/-- Three entries of one wallet, two of them with the same time. -/
def ledgerBefore : Database CanonicalUuid :=
  { world.db with
    ledgerEntries := [ledgerEntry 11 3000, ledgerEntry 12 3000, ledgerEntry 13 2000] }

/-- One more after them. -/
def ledgerAfter : Database CanonicalUuid :=
  { ledgerBefore with ledgerEntries := ledgerEntry 14 2500000 :: ledgerBefore.ledgerEntries }

def reader : Principal CanonicalUuid := { userID := payer }

theorem ledgerBefore_readable : ledgerBefore.Readable payer payerWallet where
  owned := ⟨wallet payerWallet payer 1000, by decide +kernel, rfl⟩
  ids := by decide +kernel
  timed := by
    intro e he
    simp only [ledgerBefore, List.mem_cons, List.not_mem_nil, or_false] at he
    rcases he with rfl | rfl | rfl <;> exact ⟨by decide, by decide⟩

theorem ledgerAfter_readable : ledgerAfter.Readable payer payerWallet where
  owned := ⟨wallet payerWallet payer 1000, by decide +kernel, rfl⟩
  ids := by decide +kernel
  timed := by
    intro e he
    simp only [ledgerAfter, List.mem_cons] at he
    cases he with
    | inl he =>
      subst he
      exact ⟨by decide, by decide⟩
    | inr he => exact ledgerBefore_readable.timed e he

theorem ledgerBefore_read :
    (∃ entries done,
      Gateway.readLedger (some reader) (ledgerRequest payerWallet "2" none)
        [ledgerBefore, ledgerAfter] = .ok (entries, done) ∧
      Descending entries ∧
      (∀ e ∈ entries, e.walletID = payerWallet ∧
        ∃ db ∈ [ledgerBefore, ledgerAfter], e ∈ db.ledgerEntries) ∧
      (done = true → ∀ e ∈ ledgerBefore.ledgerEntries, e.walletID = payerWallet →
        entries.count e = 1)) ∧
    ∀ db : Database CanonicalUuid, db.Readable payer payerWallet → ∃ n entries,
      Gateway.readLedger (some reader) (ledgerRequest payerWallet "2" none)
        ([ledgerBefore, ledgerAfter] ++ List.replicate n db) = .ok (entries, true) := by
  refine ledger_paging_complete reader (by decide +kernel) payerWallet "2" 2 (by decide +kernel)
    (by decide) (by decide) ledgerBefore [ledgerAfter] ?_ ?_
  · intro db hdb
    simp only [List.mem_cons, List.not_mem_nil, or_false] at hdb
    rcases hdb with rfl | rfl
    · exact ledgerBefore_readable
    · exact ledgerAfter_readable
  · intro db hdb
    rw [List.mem_singleton.mp hdb]
    exact List.subset_cons_self _ _

/-- Entries of the year 10000, whose cursors cannot be read. -/
def lateLedger : Database CanonicalUuid :=
  { world.db with
    ledgerEntries := [ledgerEntry 11 (Stamp.lastSecond * 1000000000),
      ledgerEntry 12 (Stamp.lastSecond * 1000000000)] }

/-- The first page ends in an error, as there is a second one. -/
theorem lateLedger_unreadable :
    (lateLedger.ledgerEntries.map (·.id)).Nodup ∧
    (Gateway.readLedger (some reader) (ledgerRequest payerWallet "1" none)
      (List.replicate 3 lateLedger)).isOk = false := by
  decide +kernel

end Sample

end EnjoyThings
