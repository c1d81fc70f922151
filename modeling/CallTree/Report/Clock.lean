/-!
# Clocks

A clock is read in seconds. Reading it may change its state, and nothing says that a later reading
is larger.
-/

namespace CallTree

/-- A clock with states of type `τ` and readings of type `κ`. -/
structure Clock (κ τ : Type) where
  now : τ → κ × τ

/-- A clock with readings made in advance. It stays at the last of them, and without any at
`zero`. -/
def Clock.prepared {κ : Type} (zero : κ) : Clock κ (List κ) where
  now
    | [] => (zero, [])
    | [x] => (x, [x])
    | x :: y :: rest => (x, y :: rest)

end CallTree
