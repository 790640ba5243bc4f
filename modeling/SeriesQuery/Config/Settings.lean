import SeriesQuery.Datasource
import SeriesQuery.Store.Arango
import SeriesQuery.Toml.Reader

/-!
# Settings of the service

A configuration has four sections, and every setting that can have a default has one. Variables of
the environment go over what a file says.
-/

namespace SeriesQuery

/-- Where the service listens. -/
structure ServerSettings where
  host : String
  port : Nat

/-- The kinds of store. -/
inductive Backend where
  | arango
  | memory
  deriving DecidableEq

/-- Where documents are. -/
structure StoreSettings where
  backend : Backend
  /-- How a server is reached. -/
  server : ArangoSettings
  /-- File with the documents of a store in memory. -/
  fixtures : Option String

/-- What is logged. -/
structure LoggingSettings where
  level : String
  format : String

/-- The settings of the service. -/
structure Settings where
  server : ServerSettings
  store : StoreSettings
  logging : LoggingSettings
  datasource : Datasource

/-- The kind of store with a name. -/
def Backend.ofName? : String → Option Backend
  | "arango" => some arango
  | "memory" => some memory
  | _ => none

/-- The address that the service listens at. -/
def ServerSettings.address (s : ServerSettings) : String := s.host ++ ":" ++ toString s.port

namespace Settings

/-- The settings that hold where nothing is configured. -/
def default : Settings where
  server := ⟨"0.0.0.0", 8082⟩
  store := ⟨.arango, ArangoSettings.default, none⟩
  logging := ⟨"info", "pretty"⟩
  datasource := Datasource.default

/-- Decodes where the service listens. -/
def decodeServer : Decoder ServerSettings :=
  Decode.record default.server
    [Decode.field .defaulted "host" Decode.text fun s v => { s with host := v },
      Decode.field .defaulted "port" (Decode.natBelow UInt16.size) fun s v => { s with port := v }]

/-- A setting of how a server is reached. -/
def arangoField {α : Type} (presence : Decode.Presence) (name : String) (decode : Decoder α)
    (put : ArangoSettings → α → ArangoSettings) : Decode.Field StoreSettings :=
  Decode.field presence name decode fun s v => { s with server := put s.server v }

/-- Decodes where documents are. -/
def decodeStore : Decoder StoreSettings :=
  Decode.record default.store
    [Decode.field .defaulted "backend" (Decode.variant Backend.ofName?)
        fun s v => { s with backend := v },
      arangoField .defaulted "url" Decode.text fun s v => { s with url := v },
      arangoField .defaulted "database" Decode.text fun s v => { s with database := v },
      arangoField .defaulted "username" Decode.text fun s v => { s with username := v },
      arangoField .optional "password" (Decode.orNull Decode.text)
        fun s v => { s with password := v },
      arangoField .defaulted "request_timeout_ms" (Decode.natBelow UInt64.size)
        fun s v => { s with timeout := v },
      arangoField .defaulted "batch_size" (Decode.natBelow UInt32.size)
        fun s v => { s with batchSize := v },
      Decode.field .optional "fixtures" (Decode.orNull Decode.text)
        fun s v => { s with fixtures := v }]

/-- Decodes what is logged. -/
def decodeLogging : Decoder LoggingSettings :=
  Decode.record default.logging
    [Decode.field .defaulted "level" Decode.text fun s v => { s with level := v },
      Decode.field .defaulted "format" Decode.text fun s v => { s with format := v }]

/-- Decodes settings. -/
def decode : Decoder Settings :=
  Decode.record default
    [Decode.field .defaulted "server" decodeServer fun s v => { s with server := v },
      Decode.field .defaulted "store" decodeStore fun s v => { s with store := v },
      Decode.field .defaulted "logging" decodeLogging fun s v => { s with logging := v },
      Decode.field .defaulted "datasource" Datasource.decode fun s v => { s with datasource := v }]

/-- The settings of a configuration file. -/
def parse? (text : String) : Option Settings :=
  (Toml.parse? text).bind fun d => (decode (Toml.rules text) d).toOption

/-- Settings with the variables of an environment over them. -/
def override (environment? : String → Option String) (s : Settings) : Settings :=
  let server : ServerSettings :=
    { host := (environment? "BRIDGE_HOST").getD s.server.host
      port := ((environment? "BRIDGE_PORT").bind fun p =>
        Text.parseBelow? UInt16.size p.toList).getD s.server.port }
  let arango : ArangoSettings :=
    { s.store.server with
      url := (environment? "BRIDGE_STORE_URL").getD s.store.server.url
      database := (environment? "BRIDGE_STORE_DATABASE").getD s.store.server.database
      username := (environment? "BRIDGE_STORE_USERNAME").getD s.store.server.username
      password := (environment? "BRIDGE_STORE_PASSWORD").or s.store.server.password }
  let logging : LoggingSettings :=
    { level := (environment? "BRIDGE_LOG_LEVEL").getD s.logging.level
      format := (environment? "BRIDGE_LOG_FORMAT").getD s.logging.format }
  { s with server, logging, store := { s.store with server := arango } }

end Settings

end SeriesQuery
