/-!
# RecordFilter.Server.Shutdown

Signals that stop a server. A signal has any number of handles; once it has been given through one of
them, all of them see it for ever.
-/

namespace RecordFilter
namespace Shutdown

/-- Signals are numbered; `handles` says which signal each handle belongs to. -/
structure Signals where
  triggered : List Bool
  handles : List Nat
deriving DecidableEq, Repr

namespace Signals

/-- One signal with one handle. -/
def start : Signals := ⟨[false], [0]⟩

def signalOf (signals : Signals) (handle : Nat) : Nat :=
  signals.handles[handle]?.getD signals.triggered.length

def isTriggered (signals : Signals) (handle : Nat) : Bool :=
  signals.triggered[signals.signalOf handle]?.getD false

/-- Another handle of the same signal. -/
def clone (signals : Signals) (handle : Nat) : Signals :=
  { signals with handles := signals.handles ++ [signals.signalOf handle] }

/-- A signal of its own with its first handle. -/
def new (signals : Signals) : Signals :=
  ⟨signals.triggered ++ [false], signals.handles ++ [signals.triggered.length]⟩

def trigger (signals : Signals) (handle : Nat) : Signals :=
  { signals with triggered := signals.triggered.set (signals.signalOf handle) true }

/-- What every handle sees. -/
def states (signals : Signals) : List Bool :=
  (List.range signals.handles.length).map signals.isTriggered

end Signals
end Shutdown
end RecordFilter
