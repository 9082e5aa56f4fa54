import PowerTelemetry.Control.Reading
import PowerTelemetry.Store.Server
/-!
# The control window

A `WindowSource` names the tables in which the control window lies: what the
inverter, the battery and the house meter said during the last half hour.
`readWindow` asks a database server for the newest readings, in which a value
that is null counts as zero.
-/

namespace PowerTelemetry.Control

open PowerTelemetry.Sql (Statement quotedName)
open PowerTelemetry.Store (Handle Record Server)

/-- `PgWindowSource`: where the readings of an inverter and its battery lie. -/
structure WindowSource where
  inverterTable : String
  batteryTable : String
  energyTable : String
  inverter : String
  battery : String
  deriving DecidableEq, Repr, Inhabited

namespace WindowSource

/-- The start of the query, up to the tables. -/
def selection : String :=
  "
        SELECT
            h.inserted_on::timestamptz AS ts,
            ((q.eco_20_1_pv1inputwatts + q.eco_20_1_pv2inputwatts) / 10)::bigint AS solargen,
            abs(least(q.eco_20_1_batinputwatts::float8 / 10, 0))::float8 AS batinput,
            abs(greatest(q.eco_20_1_batinputwatts::float8 / 10, 0))::float8 AS batout,
            (q.eco_20_1_genewatt / 10)::bigint AS housein,
            abs(q.eco_20_1_gridconswatts::float8 / 10)::float8 AS gridwatts,
            (q.eco_20_1_invdemandwatts / 10)::bigint AS requested,
            q.eco_20_1_bmsreqchgamp::bigint AS batreqfill,
            h.powercurr::bigint AS powercurr,
            h.powerout::bigint AS powerout,
            b.eco_bms_bmsstatus_actsoc::bigint AS batfill
        FROM "

/-- The rest of the query, from behind the tables. -/
def condition : String :=
  " b
        WHERE q.serial_number = upper($1)
          AND b.serial_number = upper($2)
          AND h.inserted_on >= NOW() - '30 minute'::INTERVAL
          AND q.timestamp >= NOW() - '30 minute'::INTERVAL
          AND b.timestamp >= NOW() - '30 minute'::INTERVAL
          AND to_char(to_timestamp(q.eco_20_1_utctime), 'YYYYMMDD HH24MI') = "
    ++ "to_char(h.inserted_on, 'YYYYMMDD HH24MI')
          AND to_char(b.timestamp, 'YYYYMMDD HH24MI') = to_char(h.inserted_on, 'YYYYMMDD HH24MI')
        ORDER BY h.inserted_on DESC, q.timestamp DESC
        LIMIT $3
        "

/-- `window_sql`: the query for so many of the newest readings. -/
def statement (source : WindowSource) (size : Nat) : Statement :=
  ⟨String.ofList (selection.toList ++ quotedName source.inverterTable ++ " q, ".toList
      ++ quotedName source.energyTable ++ " h, ".toList ++ quotedName source.batteryTable
      ++ condition.toList),
    [.text (some source.inverter), .text (some source.battery),
      .integer (some (Int64.ofNat size))]⟩

end WindowSource

/-! ## Readings in records -/

/-- The reading in a record. -/
def Reading.ofRecord (r : Record) : Except DatabaseError Reading := do
  return {
    timestamp := ← r.instant "ts"
    solarGeneration := (← r.wholeNumber "solargen").toInt
    batteryInput := ← r.number "batinput"
    batteryOutput := ← r.number "batout"
    houseInput := (← r.wholeNumber "housein").toInt
    gridWatts := ← r.number "gridwatts"
    requested := (← r.wholeNumber "requested").toInt
    batteryFillRequest := (← r.wholeNumber "batreqfill").toInt
    currentPower := (← r.wholeNumber "powercurr").toInt
    outgoingPower := (← r.wholeNumber "powerout").toInt
    batteryFill := (← r.wholeNumber "batfill").toInt }

/-- `PgWindowSource::read_window`: the newest readings, so many at most, read through
a handle. -/
def readWindow {σ : Type} (server : Server σ) (handle : Handle) (source : WindowSource)
    (size : Nat) (s : σ) : Except StoreError (List Reading) × σ :=
  let (answer, s) := server.perform handle (source.statement size) s
  ((answer.bind (·.mapM Reading.ofRecord)).mapError StoreError.classify, s)

end PowerTelemetry.Control
