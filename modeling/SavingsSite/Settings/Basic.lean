import SavingsSite.Content.Shapes

set_option autoImplicit false

/-! The settings of the site: eight keys, of which only the address of the chain is required. -/

namespace SavingsSite

open Schema

inductive Network where
  | testnet
  | futurenet
  | mainnet
  deriving DecidableEq, Repr

inductive Stage where
  | development
  | staging
  | production
  deriving DecidableEq, Repr

def Network.all : List Network := [testnet, futurenet, mainnet]

def Network.name : Network → String
  | testnet => "testnet"
  | futurenet => "futurenet"
  | mainnet => "mainnet"

def Network.ofName? (name : String) : Option Network := all.find? (·.name = name)

def Stage.all : List Stage := [development, staging, production]

def Stage.name : Stage → String
  | development => "development"
  | staging => "staging"
  | production => "production"

def Stage.ofName? (name : String) : Option Stage := all.find? (·.name = name)

structure Settings where
  rpcUrl : String
  network : Network := .testnet
  contractId : Option String := none
  stage : Stage := .development
  debug : Bool := false
  host : String := "0.0.0.0"
  port : Int := 3001
  origins : String := "http://localhost:3000"
  deriving DecidableEq, Repr

namespace Settings

def kind : RecordKind where
  title := "Settings"
  root := "BaseSettings"
  fields :=
    .field "STELLAR_RPC_URL" (.text (.matching .webAddress)) none
      (.field "STELLAR_NETWORK" (.oneOf (Network.all.map Network.name))
          (some (Json.ofString Network.testnet.name))
        (.field "CONTRACT_ID" (.nullable (.text (.matching .contract))) (some .null)
          (.field "ENVIRONMENT" (.oneOf (Stage.all.map Stage.name))
              (some (Json.ofString Stage.development.name))
            (.field "DEBUG" .flag (some (.flag false))
              (.field "API_HOST" (.text .any) (some (Json.ofString "0.0.0.0"))
                (.field "API_PORT" (.integer (some 1) (some 65535)) (some (.whole 3001))
                  (.field "CORS_ORIGINS" (.text .any)
                    (some (Json.ofString "http://localhost:3000")) .done)))))))
  frozen := true

def keys : List String := kind.fields.names

def toJson (s : Settings) : Json :=
  Json.ofFields [
    ("STELLAR_RPC_URL", Json.ofString s.rpcUrl),
    ("STELLAR_NETWORK", Json.ofString s.network.name),
    ("CONTRACT_ID", Json.ofOption Json.ofString s.contractId),
    ("ENVIRONMENT", Json.ofString s.stage.name),
    ("DEBUG", .flag s.debug),
    ("API_HOST", Json.ofString s.host),
    ("API_PORT", .whole s.port),
    ("CORS_ORIGINS", Json.ofString s.origins)]

def ofRecord? (record : Json) : Option Settings := do
  let .text (.sound rpcUrl) ← record.field? "STELLAR_RPC_URL" | none
  let .text (.sound networkName) ← record.field? "STELLAR_NETWORK" | none
  let network ← Network.ofName? networkName
  let contractId ←
    match record.field? "CONTRACT_ID" with
    | some (.text (.sound id)) => some (some id)
    | some .null => some none
    | _ => none
  let .text (.sound stageName) ← record.field? "ENVIRONMENT" | none
  let stage ← Stage.ofName? stageName
  let .flag debug ← record.field? "DEBUG" | none
  let .text (.sound host) ← record.field? "API_HOST" | none
  let .whole port ← record.field? "API_PORT" | none
  let .text (.sound origins) ← record.field? "CORS_ORIGINS" | none
  some { rpcUrl, network, contractId, stage, debug, host, port, origins }

/-- The settings in the values given for the keys, or every issue in the order of the keys. -/
def ofFields (given : Json.Fields) : Except (List Issue) Settings :=
  (kind.ofData (.record given)).map fun record => (ofRecord? record).getD { rpcUrl := "" }

/-- The parts of a text between commas, without blanks around them and without blank parts. -/
def originList (text : String) : List String :=
  (((Text.splitOn ',' text.toList).map (Text.trim Text.isBlank)).filter
    (!List.isEmpty ·)).map String.ofList

def allowedOrigins (s : Settings) : List String := originList s.origins

def isDevelopment (s : Settings) : Bool := s.stage = .development

def isProduction (s : Settings) : Bool := s.stage = .production

end Settings

end SavingsSite
