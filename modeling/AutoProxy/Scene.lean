import AutoProxy.Network.Http
import AutoProxy.Problem
import AutoProxy.Timestamp

/-! What a run meets and leaves: files, the network, the clock, and a log. -/
namespace AutoProxy

inductive Level where
  | info
  | warning
  | error
  deriving DecidableEq

/-- The part of the program that an entry is about. -/
inductive Origin where
  | feed
  | rules
  | service
  | command
  deriving DecidableEq

structure Entry where
  level : Level
  origin : Origin
  text : Text
  deriving DecidableEq

/-- Replies are still to come; log, clients and asked addresses are in the order they came. Whatever
makes the requests of a run does not change. -/
structure Scene where
  now : Timestamp
  files : FileTree
  replies : List Reply
  log : List Entry
  clients : List Client
  asked : List Text
  http : Http := .scripted

/-- A run that changes the scene and may end with a problem; what it did before stays done. -/
abbrev Run := ExceptT Problem (StateM Scene)

namespace Run

def log (level : Level) (origin : Origin) (text : Text) : Run Unit :=
  modify fun s => { s with log := s.log ++ [⟨level, origin, text⟩] }

def liftFault {ε α : Type} (f : ε → Problem) : Except ε α → Run α
  | .ok x => pure x
  | .error e => throw (f e)

end Run

end AutoProxy
