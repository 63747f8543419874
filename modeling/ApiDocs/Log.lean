namespace ApiDocs

/-! Records of what happens, shown from some weight on. -/

inductive Level where
  | debug
  | info
  | warning
  deriving DecidableEq, Repr

namespace Level

def word : Level → String
  | debug => "DEBUG"
  | info => "INFO"
  | warning => "WARNING"

/-- How much a level weighs: a log that is kept short drops the light ones. -/
def weight : Level → Nat
  | debug => 10
  | info => 20
  | warning => 30

end Level

structure LogRecord where
  level : Level
  source : String
  message : String
  deriving DecidableEq, Repr

namespace LogRecord

def line (entry : LogRecord) : String :=
  s!"{entry.level.word} {entry.source}: {entry.message}"

def atLeast (level : Level) (log : List LogRecord) : List LogRecord :=
  log.filter fun entry => level.weight ≤ entry.level.weight

end LogRecord

end ApiDocs
