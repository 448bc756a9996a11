set_option autoImplicit false

/-! Records of the log. -/

namespace SavingsSite

inductive LogLevel where
  | debug
  | info
  | error
  deriving DecidableEq, Repr

def LogLevel.name : LogLevel → String
  | debug => "DEBUG"
  | info => "INFO"
  | error => "ERROR"

def LogLevel.rank : LogLevel → Nat
  | debug => 10
  | info => 20
  | error => 40

structure LogRecord where
  logger : String
  level : LogLevel
  message : String
  deriving DecidableEq, Repr

def keptAt (level : LogLevel) (records : List LogRecord) : List LogRecord :=
  records.filter fun record => level.rank ≤ record.level.rank

def logLayout : String := "%(asctime)s - %(name)s - %(levelname)s - %(message)s"

end SavingsSite
