import DaprHosting.Layer.Basic
import DaprHosting.Layer.Decode

/-!
# The layer of logging options
-/

namespace DaprHosting

/-- Options of logging. -/
structure LoggingLayer where
  format : Option Log.Format := none
  level : Option Log.Level := none
deriving DecidableEq

namespace LoggingLayer

open Layer

/-- Each option is that of `top` where it has one, else that of `base`. -/
def overlay (base top : LoggingLayer) : LoggingLayer where
  format := Layer.overlay base.format top.format
  level := Layer.overlay base.level top.level

/-- The options in a file. -/
def fields : List (FileOption LoggingLayer) :=
  [.of "log-format" (choice .logFormat) fun l a => { l with format := some a },
   .of "log-level" (choice .logLevel) fun l a => { l with level := some a }]

/-- Text and `info`, unless something else is said. -/
def resolve (l : LoggingLayer) : Log.Logger where
  format := l.format.getD .text
  level := l.level.getD .info

end LoggingLayer

end DaprHosting
