import ChatNotify.Text.Digits

namespace ChatNotify

/-- How much is logged. Every level lets through what the levels before it do. -/
inductive LogLevel where
  | off
  | error
  | warn
  | info
  | debug
  | trace
  deriving Repr, DecidableEq

namespace LogLevel

/-- The levels, in their order. -/
def all : List LogLevel := [.off, .error, .warn, .info, .debug, .trace]

/-- The place of a level in the order. -/
def rank : LogLevel → Nat
  | .off => 0
  | .error => 1
  | .warn => 2
  | .info => 3
  | .debug => 4
  | .trace => 5

/-- The name of a level. -/
def text : LogLevel → String
  | .off => "off"
  | .error => "error"
  | .warn => "warn"
  | .info => "info"
  | .debug => "debug"
  | .trace => "trace"

/-- Of two levels, the one that lets through more. -/
def mostOf (a b : LogLevel) : LogLevel :=
  if a.rank ≤ b.rank then b else a

/-- The level of that name, in either case. -/
def ofName? (name : String) : Option LogLevel :=
  all.find? fun level => level.text = name.map Char.toLower

/-- The level of that name or rank. No text at all stands for errors. -/
def ofText? (text : String) : Option LogLevel :=
  ((Text.count? text.toList).bind (all[·]?)).or
    (if text.isEmpty then some .error else ofName? text)

theorem all_getElem?_rank (level : LogLevel) : all[level.rank]? = some level := by
  cases level <;> rfl

theorem ofName?_text (level : LogLevel) : ofName? level.text = some level := by
  cases level <;> decide +kernel

end LogLevel

end ChatNotify
