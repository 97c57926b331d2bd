import SqlWire.Session.Network

/-! # A network without hosts

On this network every host refuses at once, so there are no lines, and time passes only where
somebody waits.
-/

namespace SqlWire

/-- A network on which no host can be reached. -/
structure Unreachable where
  clock : Duration
  /-- How many sessions have been asked for. -/
  sessions : Nat
deriving Repr, DecidableEq

namespace Unreachable

def start : Unreachable := ⟨.zero, 0⟩

def refusal : IoError := ⟨"Connection refused (os error 111)"⟩

instance : Network Unreachable where
  now w := w.clock
  wait time w := { w with clock := ⟨w.clock.nanos + time.nanos⟩ }
  freshId w := (w.sessions + 1, { w with sessions := w.sessions + 1 })
  shuffle hosts w := (hosts, w)
  dial _ _ _ w := (.refused refusal, w)
  write _ _ w := (.error refusal, w)
  incoming _ _ := ⟨[], true⟩
  advance _ _ now w := { w with clock := now }
  hangUp _ w := w

end Unreachable

end SqlWire
