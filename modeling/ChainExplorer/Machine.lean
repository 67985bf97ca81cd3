/-!
# Machines

The pool, the clients over it, the workers and the inquiries are machines: each says what can happen
to it and what it then asks for, and none of them waits. Whoever runs one hands it the events,
carries out what it asks for, and gives it the time. What a machine does by itself, and what it does
at a deadline, are events like any other, which it merely names.
-/

namespace ChainExplorer

/-- A machine with states of type `σ`, events of type `ε` and outputs of type `ο`. -/
structure Machine (σ ε ο : Type) where
  /-- The state after an event and what it puts out; nothing where the event cannot happen. -/
  step? : σ → ε → Option (σ × List ο)
  /-- Something that the machine can do by itself. -/
  ready? : σ → Option ε
  /-- The machine's next deadline and what happens then. -/
  due? : σ → Option (Nat × ε)
  /-- The state at a later time. -/
  atTime : σ → Nat → σ

end ChainExplorer
